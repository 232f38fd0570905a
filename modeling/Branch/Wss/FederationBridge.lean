import Branch.Lib.Trace
import Branch.Relay.System
import Branch.Wss.Forwarder
import Branch.Wss.PathMigration

/-!
The bridge to another relay: the forwarder with its client, the read loop of the client, the
two directions of the connection, and the handler at the other end of it. A frame that is
written gets the next number, and what is written in answer to it carries this number.
-/

namespace Branch.Wss

open Branch.Lib
open Branch.Relay (Bytes Delivery Err ForwarderRef Hub PeerID RouteID SessionID Time)

def maxFederationResponses : Nat := 4

structure EnvelopeText where
  raw : Bytes
  frame : TypedFrame
  decoded : decodeTypedFrame raw = .ok frame
  type_eq : frameType frame = some .envelope

theorem EnvelopeText.unmarshal (envelope : EnvelopeText) :
    Json.unmarshal envelope.raw = some envelope.frame := by
  obtain ⟨_, _, hread⟩ := bind_eq_ok.mp envelope.decoded
  cases hobject : Json.unmarshal envelope.raw with
  | none =>
    rw [hobject] at hread
    cases hread
  | some object =>
    rw [hobject] at hread
    rw [Except.ok.inj hread]

def EnvelopeText.deliveryID (envelope : EnvelopeText) : Option String :=
  asString (envelope.frame.get? "delivery_id")

/-- How the local hub calls the forwarder, the peer that it forwards to, whether the client
attached in the live role, and what the other relay knows of the attachment. -/
structure BridgeConfig where
  forwarder : ForwarderRef
  peerID : PeerID
  live : Bool
  attached : Attached

section Frames

variable (sessionID : SessionID)

def lookupFrame (peerID : PeerID) : TypedFrame :=
  Fields.ofList [("type", .string "LOOKUP"), ("session_id", .string sessionID),
    ("peer_id", .string peerID), ("sequence", jsonNat 1)]

def rendezvousFrame (routeID : RouteID) (peerID : PeerID) : TypedFrame :=
  Fields.ofList [("type", .string "RENDEZVOUS"), ("session_id", .string sessionID),
    ("route_id", .string routeID), ("peer_id", .string peerID), ("sequence", jsonNat 2)]

def forwardedFrame (frame : TypedFrame) (routeID : RouteID) (senderPeerID : PeerID) :
    TypedFrame :=
  let frame := ((frame.insert "session_id" (.string sessionID)).insert "route_id"
    (.string routeID)).insert "ack_requested" (.bool true)
  if senderPeerID = "" then frame else frame.insert "sender_peer_id" (.string senderPeerID)

end Frames

def senderPeerIDFromFrame (payload : Bytes) : PeerID :=
  ((Json.unmarshal payload).bind fun object => asString (object.get? "sender_peer_id")).getD ""

/-- An acknowledgement of this type that is not durable. -/
def isAck (ackType : String) (frame : TypedFrame) : Bool :=
  match frame.get? "durable" with
  | some (.bool durable) =>
    frameType frame = some .ack && asString (frame.get? "ack_type") = some ackType && !durable
  | _ => false

/-- A response that the read loop handed on, with the number of the frame that it answers. -/
structure BridgeResponse where
  frame : TypedFrame
  answers : Option Nat

/-- The loop is `closing` while it is about to close the forwarder itself. -/
inductive ReadLoop where
  | reading | closing | ended
  deriving DecidableEq

structure BridgeClient where
  routeID : RouteID
  responses : BoundedQueue BridgeResponse := .empty maxFederationResponses
  loop : ReadLoop := .reading

/-- What a call to `Forward` does next. -/
inductive ForwardStage where
  | dial | lookup | lookupAck | rendezvous | envelope
  | response (number : Nat)
  deriving DecidableEq

structure ForwardCall where
  routeID : RouteID
  envelope : EnvelopeText
  senderPeerID : PeerID
  stage : ForwardStage

/-- A call that returned without an error, with the number of its frame and that of the frame
which was answered by the response that it took. -/
structure ForwardReturn where
  envelope : EnvelopeText
  number : Nat
  answers : Option Nat

/-- `written` counts the frames written so far. A call is there while it holds the lock of the
forwarder. `accepted` has the deliveries that the hub of the other relay accepted. -/
structure Bridge where
  closed : Bool := false
  client : Option BridgeClient := none
  call : Option ForwardCall := none
  written : Nat := 0
  outbound : List (Nat × Bytes) := []
  inbound : List (Option Nat × Bytes) := []
  sequences : SequenceTracker := {}
  remoteOpen : Bool := true
  accepted : List (Nat × Delivery) := []
  returned : List ForwardReturn := []

/-- How a write ends: a write that fails may still have got through. -/
inductive WriteResult where
  | sent | failed (delivered : Bool)
  deriving DecidableEq

/-- What the parties and the network do. The hubs are those of the relays at that moment; the
rest of the other relay answers as its environment says. -/
inductive BridgeEvent where
  | forward (routeID : RouteID) (envelope : EnvelopeText) (senderPeerID : PeerID)
  | dialed (attached : Bool)
  | write (result : WriteResult)
  | readLookupAck
  | respond
  | giveUp
  | close
  | read (hub : Hub)
  | readFails
  | loopCloses
  | remoteRead (hub : Hub) (now : Time) (onward : Option Err) (env : Environment)
  | remotePush (envelope : EnvelopeText) (senderPeerID : PeerID)
  | remoteCloses

namespace BridgeClient

/-- A response is handed on, unless there are too many already. -/
def handOn (client : BridgeClient) (response : BridgeResponse) : BridgeClient :=
  match client.responses.push? response with
  | some responses => { client with responses }
  | none => { client with loop := .ended }

def deliver (config : BridgeConfig) (hub : Hub) (client : BridgeClient) (raw : Bytes) :
    BridgeClient :=
  let o := hub.deliverFromFederated none client.routeID raw (senderPeerIDFromFrame raw)
  match o.value with
  | .enqueued _ _ => client
  | .failed _ =>
    { client with loop := if config.forwarder ∈ o.closers then .closing else .ended }

/-- One turn of `startReadLoop`. -/
def take (config : BridgeConfig) (hub : Hub) (client : BridgeClient) (answers : Option Nat)
    (raw : Bytes) : BridgeClient :=
  match decodeTypedFrame raw with
  | .error _ => { client with loop := .ended }
  | .ok frame =>
    match frameType frame with
    | some .ack => client.handOn ⟨frame, answers⟩
    | some .error => client.handOn ⟨frame, answers⟩
    | some .envelope => client.deliver config hub raw
    | _ => { client with loop := .ended }

end BridgeClient

namespace ForwardCall

def nextFrame (config : BridgeConfig) (call : ForwardCall) : Option TypedFrame :=
  let sessionID := config.attached.sessionID
  match call.stage with
  | .lookup => some (lookupFrame sessionID config.peerID)
  | .rendezvous => some (rendezvousFrame sessionID call.routeID config.peerID)
  | .envelope =>
    some (forwardedFrame sessionID call.envelope.frame call.routeID call.senderPeerID)
  | _ => none

end ForwardCall

/-- `SendDelivery` of a session. A send that goes on to another relay ends as that one says. -/
def sendDelivery (hub : Hub) (source : SessionID) (now : Time) (onward : Option Err)
    (routeID : RouteID) (payload : Bytes) (delivery : Delivery) : Option Err :=
  match Relay.sendEntryError hub.config.toConfig (some delivery) none payload with
  | some err => some err
  | none =>
    match (hub.forwardLocked none source routeID payload now (some delivery)).value with
    | .failed err => some err
    | .enqueued _ _ _ => none
    | .forwarding _ => onward.map normalizeFederationError

/-- The delivery of a frame, where the hub takes it or had taken the identical one. -/
def acceptedDelivery (env : Environment) (attached : Attached) (raw : Bytes) : Option Delivery :=
  match decodeTypedFrame raw with
  | .error _ => none
  | .ok frame =>
    if otherSession attached frame ∨ frameType frame ≠ some .envelope then none
    else
      match assertString (frame.get? "route_id"), deliveryFromFrame frame with
      | .ok routeID, .ok delivery =>
        let sent := env.sendDelivery routeID raw delivery
        if sent ≠ none ∧ sent ≠ some .duplicateDelivery then none else some delivery
      | _, _ => none

/-- What a turn of the handler writes to the attachment itself. -/
def Turn.answers (turn : Turn) (sessionID : SessionID) (writeFails : Bool) : List TypedFrame :=
  match turn with
  | .written frames => (frames.filter fun w => w.sessionID = sessionID).map Written.frame
  | .error frame _ => if writeFails then [] else [frame]
  | .crashed => []

def Turn.closes : Turn → Bool
  | .written _ => false
  | .error _ closes => closes
  | .crashed => true

namespace Bridge

variable (config : BridgeConfig)

def closeLocked (s : Bridge) : Bridge := { s with closed := true, client := none }

def fails (s : Bridge) : Bridge := { s.closeLocked with call := none }

def startForward (s : Bridge) (routeID : RouteID) (envelope : EnvelopeText)
    (senderPeerID : PeerID) : Bridge :=
  if s.closed then s
  else
    match s.client with
    | none => { s with call := some ⟨routeID, envelope, senderPeerID, .dial⟩ }
    | some client =>
      if client.routeID ≠ routeID then s.closeLocked
      else { s with call := some ⟨routeID, envelope, senderPeerID, .envelope⟩ }

def dialed (s : Bridge) (call : ForwardCall) (attached : Bool) : Bridge :=
  match call.stage with
  | .dial => if attached then { s with call := some { call with stage := .lookup } } else s.fails
  | _ => s

def put (s : Bridge) (frame : TypedFrame) : Bridge :=
  { s with
    outbound := s.outbound ++ [(s.written, Json.marshal frame)]
    written := s.written + 1 }

/-- What a call does once it has written the frame of this number. -/
def wrote (s : Bridge) (call : ForwardCall) (number : Nat) : Bridge :=
  match call.stage with
  | .lookup =>
    { s with
      call := some { call with stage := if config.live then .lookupAck else .rendezvous } }
  | .rendezvous =>
    { s with
      client := some { routeID := call.routeID }
      call := some { call with stage := .envelope } }
  | .envelope => { s with call := some { call with stage := .response number } }
  | _ => s

def write (s : Bridge) (call : ForwardCall) (result : WriteResult) : Bridge :=
  match call.nextFrame config with
  | none => s
  | some frame =>
    match result with
    | .failed delivered => (if delivered then s.put frame else s).fails
    | .sent => (s.put frame).wrote config call s.written

def readLookupAck (s : Bridge) (call : ForwardCall) : Bridge :=
  match call.stage, s.inbound with
  | .lookupAck, (_, raw) :: inbound =>
    match decodeTypedFrame raw with
    | .error _ => { s with inbound }.fails
    | .ok frame =>
      if isAck "relay.accepted" frame then
        { s with inbound, call := some { call with stage := .rendezvous } }
      else { s with inbound }.fails
  | _, _ => s

def respond (s : Bridge) (call : ForwardCall) (client : BridgeClient) : Bridge :=
  match call.stage with
  | .response number =>
    match client.responses.pop? with
    | none => s
    | some (response, responses) =>
      if isAck "relay.forwarded" response.frame then
        { s with
          client := some { client with responses }
          call := none
          returned := s.returned ++ [⟨call.envelope, number, response.answers⟩] }
      else s.fails
  | _ => s

def read (s : Bridge) (client : BridgeClient) (hub : Hub) : Bridge :=
  match client.loop, s.inbound with
  | .reading, (answers, raw) :: inbound =>
    { s with inbound, client := some (client.take config hub answers raw) }
  | _, _ => s

def readFails (s : Bridge) (client : BridgeClient) : Bridge :=
  if client.loop = .reading then { s with client := some { client with loop := .ended } } else s

/-- The frames that the handler at the other end has not read are lost once it is closed. -/
def remoteRead (s : Bridge) (hub : Hub) (now : Time) (onward : Option Err) (env : Environment) :
    Bridge :=
  match s.outbound with
  | [] => s
  | (number, raw) :: outbound =>
    if ¬ s.remoteOpen then { s with outbound }
    else
      let env :=
        { env with sendDelivery := sendDelivery hub config.attached.sessionID now onward }
      let (sequences, turn) := readTurn env config.attached s.sequences raw
      let answers := turn.answers config.attached.sessionID env.writeFails
      { s with
        outbound, sequences
        inbound := s.inbound ++ answers.map fun frame => (some number, Json.marshal frame)
        remoteOpen := !turn.closes
        accepted := s.accepted ++
          (acceptedDelivery env config.attached raw).toList.map fun delivery =>
            (number, delivery) }

/-- The writer at the other end hands out an envelope of its hub. -/
def remotePush (s : Bridge) (envelope : EnvelopeText) (senderPeerID : PeerID) : Bridge :=
  match deliveryPayload ⟨"", senderPeerID, envelope.raw⟩ with
  | .error _ => { s with remoteOpen := false }
  | .ok payload =>
    if s.remoteOpen then { s with inbound := s.inbound ++ [(none, payload)] } else s

/-- One step of one party. A call has the lock of the forwarder for itself. -/
def step (s : Bridge) : BridgeEvent → Bridge
  | .forward routeID envelope senderPeerID =>
    match s.call with
    | none => s.startForward routeID envelope senderPeerID
    | some _ => s
  | .dialed attached =>
    match s.call with
    | none => s
    | some call => s.dialed call attached
  | .write result =>
    match s.call with
    | none => s
    | some call => s.write config call result
  | .readLookupAck =>
    match s.call with
    | none => s
    | some call => s.readLookupAck call
  | .respond =>
    match s.call, s.client with
    | some call, some client => s.respond call client
    | _, _ => s
  | .giveUp =>
    match s.call with
    | none => s
    | some _ => s.fails
  | .close =>
    match s.call with
    | none => s.closeLocked
    | some _ => s
  | .read hub =>
    match s.client with
    | none => s
    | some client => s.read config client hub
  | .readFails =>
    match s.client with
    | none => s
    | some client => s.readFails client
  | .loopCloses =>
    match s.call, s.client with
    | none, some client => if client.loop = .closing then s.closeLocked else s
    | _, _ => s
  | .remoteRead hub now onward env => s.remoteRead config hub now onward env
  | .remotePush envelope senderPeerID => s.remotePush envelope senderPeerID
  | .remoteCloses => { s with remoteOpen := false }

def run (events : List BridgeEvent) : Bridge := Trace.run (step config) {} events

end Bridge

section Sample

def sampleEnvelope : EnvelopeText where
  raw := SubmittedEnvelope.onOldRoute.raw
  frame := SubmittedEnvelope.onOldRoute.frame
  decoded := SubmittedEnvelope.onOldRoute.decoded
  type_eq := SubmittedEnvelope.onOldRoute.type_eq

def sampleBridge : BridgeConfig where
  forwarder := 0
  peerID := SequenceLog.zeroID
  live := false
  attached := SequenceLog.discoveryAttachment

end Sample

end Branch.Wss
