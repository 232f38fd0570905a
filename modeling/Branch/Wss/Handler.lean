import Branch.Protocol.BootstrapBeacon
import Branch.Protocol.IdentityContact
import Branch.Wss.TypedFrame

/-!
The handler of an attachment: the handshake, and what it does with one frame after the other.
A type assertion without a check is a step that may panic.
-/

namespace Branch.Wss

open Branch.Lib
open Branch.Protocol (RelayFrameType)
open Branch.Relay (SessionID RouteID PeerID Bytes Time Delivery)

def maxIdentityHaveRecords : Nat := 4
def relayProofDomain : String := "BRANCH relay attachment v0\n"

def contactDiscoveryWindow : Int := 60000000000

inductive Fault
  | panic
  | failed (err : HandlerErr)
  deriving DecidableEq, Repr

/-- `value.(string)` -/
def assertString : Option Json → Except Fault String
  | some (.string s) => .ok s
  | _ => .error .panic

/-- `value, ok := value.(string)` -/
def asString : Option Json → Option String
  | some (.string s) => some s
  | _ => none

def asObject : Option Json → Option TypedFrame
  | some (.object members) => some (Fields.ofList members)
  | _ => none

def asArray : Option Json → Option (List Json)
  | some (.array items) => some items
  | _ => none

def fail {α : Type} (err : HandlerErr) : Except Fault α := .error (.failed err)

def relayError : Option Relay.Err → Except Fault Unit
  | none => .ok ()
  | some err => fail (.relay err)

def decodeBase64 (value : String) (size : Nat) : Except HandlerErr Bytes :=
  match Base64.decode value with
  | none => .error .invalidFrame
  | some data => if data.length ≠ size then .error .invalidFrame else .ok data

def frameType (frame : TypedFrame) : Option RelayFrameType :=
  (asString (frame.get? "type")).bind RelayFrameType.ofName

theorem Reads.frameType {raw : Protocol.RawFrame} {frame : TypedFrame} {t : RelayFrameType}
    (h : Reads raw frame) (htype : Protocol.readFrameType raw = .ok t) :
    frameType frame = some t := by
  obtain ⟨value, hvalue, htype⟩ := bind_eq_ok.mp htype
  rw [Wss.frameType, h.string hvalue]
  split at htype
  · rename_i t' hname
    obtain rfl := Except.ok.inj htype
    exact hname
  · cases htype

def mapRelayError : HandlerErr → String
  | .authenticationFailed => "authentication_failed"
  | .frameReplayed => "frame_replayed"
  | .relay .deliveryConflict => "frame_replayed"
  | .relay .peerUnavailable => "peer_unavailable"
  | .relay .frameTooLarge => "frame_too_large"
  | .relay .quotaExceeded => "quota_exceeded"
  | .relay .backpressure => "rate_limited"
  | .relay .routeExists => "route_unavailable"
  | .relay .noRoute => "peer_unavailable"
  | .relay .sessionClosed => "peer_unavailable"
  | .relay .sessionNotFound => "peer_unavailable"
  | _ => "frame_malformed"

def isFatal : HandlerErr → Bool
  | .relay .peerUnavailable => false
  | .relay .noRoute => false
  | .relay .routeExists => false
  | .frameReplayed => false
  | .relay .deliveryConflict => false
  | _ => true

section Frames

def jsonNat (n : Nat) : Json := .number (Decimal.ofNat n)

def ackFrame (sessionID deliveryID ackType : String) : TypedFrame :=
  Fields.ofList [("type", .string "ACK"), ("session_id", .string sessionID),
    ("delivery_id", .string deliveryID), ("ack_type", .string ackType), ("durable", .bool false)]

def errorFrame (code : String) : TypedFrame :=
  Fields.ofList [("type", .string "ERROR"), ("code", .string code),
    ("retryable", .bool (code = "peer_unavailable" || code = "route_unavailable" ||
      code = "timeout")),
    ("detail", .string "transient relay failure")]

def identityHaveFrame (sessionID branchID : String) (sequence : Nat) (records : List String) :
    TypedFrame :=
  Fields.ofList [("type", .string "IDENTITY_HAVE"), ("session_id", .string sessionID),
    ("branch_id", .string branchID), ("sequence", jsonNat sequence),
    ("records", .array (records.map .string))]

/-- A value that is not there is written as `null`. -/
def contactProbeFrame (targetID : SessionID) (frame : TypedFrame) (requester : PeerID)
    (issued expires : Nat) : TypedFrame :=
  Fields.ofList [("type", .string "CONTACT_PROBE"), ("session_id", .string targetID),
    ("request_id", (frame.get? "request_id").getD .null),
    ("branch_id", (frame.get? "branch_id").getD .null),
    ("requester_peer_id", .string requester),
    ("requester_hpke_public_key", (frame.get? "requester_hpke_public_key").getD .null),
    ("issued_at", jsonNat issued), ("expires_at", jsonNat expires)]

structure Written where
  sessionID : SessionID
  frame : TypedFrame

end Frames

section Sequences

/-- `last` is the sequence that was accepted last, once `set`. -/
structure SequenceTracker where
  set : Bool := false
  last : Nat := 0
  deriving DecidableEq, Repr

def tracksSequence : RelayFrameType → Bool
  | .presence | .heartbeat | .lookup | .identityWant | .identityHave | .rendezvous => true
  | _ => false

def SequenceTracker.accept (tracker : SequenceTracker) (frame : TypedFrame) :
    Except HandlerErr SequenceTracker :=
  if (frameType frame).any tracksSequence then
    match numericField (frame.get? "sequence") with
    | none => .error .invalidFrame
    | some value =>
      if tracker.set ∧ value ≤ tracker.last then .error .frameReplayed
      else .ok { set := true, last := value }
  else .ok tracker

end Sequences

section Delivery

def deliveryFromFrame (frame : TypedFrame) : Except HandlerErr Delivery :=
  match numericField (frame.get? "stream_id") with
  | none => .error .invalidFrame
  | some streamID =>
    match asString (frame.get? "delivery_id") with
    | none => .error .invalidFrame
    | some deliveryID =>
      if deliveryID = "" then .error .invalidFrame
      else .ok { streamID := UInt64.ofNat streamID, id := deliveryID
                 digest := Sha256.sum256 (Json.marshal frame) }

/-- What the writer of an attachment makes of a frame of the hub. -/
def deliveryPayload (frame : Relay.Frame) : Except HandlerErr Bytes :=
  if frame.senderPeerID = "" then .ok frame.payload
  else
    match Json.unmarshal frame.payload with
    | none => .error .invalidFrame
    | some object =>
      if asString (object.get? "type") ≠ some "ENVELOPE" then .ok frame.payload
      else .ok (Json.marshal (object.insert "sender_peer_id" (.string frame.senderPeerID)))

end Delivery

structure Attached where
  sessionID : SessionID
  authenticatedPeerID : PeerID
  federationAttachment : Bool
  contactDiscoveryEnabled : Bool

structure ContactTarget where
  sessionID : SessionID
  peerID : PeerID

/-- What the rest of the relay answers while one frame is handled. -/
structure Environment where
  now : Time
  writeFails : Bool
  random : Nat → Option Bytes
  reserve : String → String → Option ContactTarget
  announcePresence : PeerID → Option Relay.Err
  heartbeat : Option Relay.Err
  lookup : PeerID → Bool
  lookupLocal : PeerID → Bool
  lookupFederatedPeer : PeerID → Bool
  rendezvous : RouteID → PeerID → Option Relay.Err
  announceFederatedPeer : PeerID → Option Relay.Err
  rendezvousAgain : RouteID → PeerID → Option Relay.Err
  sendDelivery : RouteID → Bytes → Delivery → Option Relay.Err
  reserveRequest : PeerID → String → Bool
  identityContacts : Bool
  identityRecords : String → Nat → List String
  acceptRecord : String → String → Bool

section Dispatch

variable (env : Environment) (attached : Attached)

def writeFrame (frame : TypedFrame) : Except Fault (List Written) :=
  if env.writeFails then fail .io else .ok [⟨attached.sessionID, frame⟩]

def handleContactAnnounce (frame : TypedFrame) : Except Fault (List Written) :=
  if attached.federationAttachment ∨ ¬ attached.contactDiscoveryEnabled then fail .invalidFrame
  else
    match decodeBase64 attached.authenticatedPeerID 32 with
    | .error _ => fail .authenticationFailed
    | .ok key =>
      match Protocol.branchIDFromPublicKey key with
      | none => fail .authenticationFailed
      | some _ =>
        match frame.get? "discoverable" with
        | some (.bool _) => .ok []
        | _ => fail .invalidFrame

/-- Whether a lookup between these times, in milliseconds, is out of date. -/
def lookupReplayed (now : Time) (issued expires : Nat) : Bool :=
  let issuedAt : Time := issued * 1000000
  let expiresAt : Time := expires * 1000000
  expiresAt ≤ issuedAt || contactDiscoveryWindow < expiresAt - issuedAt || expiresAt ≤ now ||
    now + contactDiscoveryWindow < issuedAt

def handleContactLookup (frame : TypedFrame) : Except Fault (List Written) :=
  if attached.federationAttachment ∨ ¬ attached.contactDiscoveryEnabled then fail .invalidFrame
  else
    match numericField (frame.get? "issued_at") with
    | none => fail .invalidFrame
    | some issued =>
      match numericField (frame.get? "expires_at") with
      | none => fail .invalidFrame
      | some expires =>
        if lookupReplayed env.now issued expires then fail .frameReplayed
        else do
          let requestID ← assertString (frame.get? "request_id")
          let branchID ← assertString (frame.get? "branch_id")
          match env.reserve requestID branchID with
          | none => return []
          | some target =>
            if env.writeFails then return []
            else return [⟨target.sessionID, contactProbeFrame target.sessionID frame
              attached.authenticatedPeerID issued expires⟩]

def handlePresence (frame : TypedFrame) : Except Fault (List Written) := do
  let peerID ← assertString (frame.get? "peer_id")
  if peerID ≠ attached.authenticatedPeerID then fail .authenticationFailed
  else
    relayError (env.announcePresence attached.authenticatedPeerID)
    return []

def handleHeartbeat : Except Fault (List Written) := do
  relayError env.heartbeat
  return []

def writeFederationLookupAck : Except Fault (List Written) :=
  match env.random 16 with
  | none => fail .io
  | some ackToken =>
    writeFrame env attached (ackFrame attached.sessionID (Base64.encode ackToken) "relay.accepted")

def handleLookup (frame : TypedFrame) : Except Fault (List Written) := do
  let peerID ← assertString (frame.get? "peer_id")
  if (if attached.federationAttachment then env.lookupLocal else env.lookup) peerID then
    if attached.federationAttachment then writeFederationLookupAck env attached else return []
  else if ¬ attached.federationAttachment ∧ env.lookupFederatedPeer peerID then return []
  else fail (.relay .peerUnavailable)

/-- A want of the federation names its relay and is taken once; it is answered from here. -/
def acceptedHopLimit (frame : TypedFrame) (hopLimit : Nat) : Except Fault Nat :=
  if attached.federationAttachment then
    if asString (frame.get? "origin_relay_key") ≠ some attached.authenticatedPeerID then
      fail .authenticationFailed
    else
      match asString (frame.get? "request_id") with
      | none => fail .invalidFrame
      | some requestID =>
        if 1 < hopLimit then fail .invalidFrame
        else if ¬ env.reserveRequest attached.authenticatedPeerID requestID then
          fail .frameReplayed
        else .ok 0
  else if (frame.get? "request_id").isSome then fail .invalidFrame
  else .ok hopLimit

def handleIdentityWant (frame : TypedFrame) : Except Fault (List Written) := do
  let branchID ← assertString (frame.get? "branch_id")
  match numericField (frame.get? "sequence") with
  | none => fail .invalidFrame
  | some sequence =>
    match numericField (frame.get? "hop_limit") with
    | none => fail .invalidFrame
    | some hopLimit =>
      let hopLimit ← acceptedHopLimit env attached frame hopLimit
      let records := env.identityRecords branchID hopLimit
      let sessionID ← assertString (frame.get? "session_id")
      writeFrame env attached (identityHaveFrame sessionID branchID sequence records)

def identityRecordStringsFromFrame (frame : TypedFrame) : Except HandlerErr (List String) :=
  match asArray (frame.get? "records") with
  | none => .error .invalidFrame
  | some raw =>
    if maxIdentityHaveRecords < raw.length then .error .invalidFrame
    else raw.mapM fun item =>
      match asString (some item) with
      | none => .error .invalidFrame
      | some record => if record = "" then .error .invalidFrame else .ok record

def handleIdentityHave (frame : TypedFrame) : Except Fault (List Written) :=
  if ¬ env.identityContacts then .ok []
  else do
    let branchID ← assertString (frame.get? "branch_id")
    match identityRecordStringsFromFrame frame with
    | .error err => fail err
    | .ok records =>
      if records.all fun record => env.acceptRecord record branchID then return []
      else fail .invalidFrame

def handleRendezvous (frame : TypedFrame) : Except Fault (List Written) := do
  let routeID ← assertString (frame.get? "route_id")
  let peerID ← assertString (frame.get? "peer_id")
  if (frame.get? "route_hints").isSome then fail .invalidFrame
  else if attached.federationAttachment then
    if ¬ env.lookupLocal peerID then fail (.relay .peerUnavailable)
    else
      relayError (env.rendezvous routeID peerID)
      return []
  else
    match env.rendezvous routeID peerID with
    | none => return []
    | some .peerUnavailable =>
      match env.announceFederatedPeer peerID with
      | some _ => fail (.relay .peerUnavailable)
      | none =>
        relayError (env.rendezvousAgain routeID peerID)
        return []
    | some err => fail (.relay err)

def handleEnvelope (raw : Bytes) (frame : TypedFrame) : Except Fault (List Written) := do
  let routeID ← assertString (frame.get? "route_id")
  match deliveryFromFrame frame with
  | .error err => fail err
  | .ok delivery =>
    let sent := env.sendDelivery routeID raw delivery
    if sent ≠ none ∧ sent ≠ some .duplicateDelivery then
      relayError sent
      return []
    else
      match frame.get? "ack_requested" with
      | some (.bool true) =>
        let deliveryID ← assertString (frame.get? "delivery_id")
        writeFrame env attached (ackFrame attached.sessionID deliveryID "relay.forwarded")
      | _ => return []

/-- The branches of `handleFrame`. -/
def dispatch (raw : Bytes) (frame : TypedFrame) : Except Fault (List Written) :=
  match frameType frame with
  | some .contactAnnounce => handleContactAnnounce attached frame
  | some .contactLookup => handleContactLookup env attached frame
  | some .contactProbe => fail .invalidFrame
  | some .presence => handlePresence env attached frame
  | some .heartbeat => handleHeartbeat env
  | some .lookup => handleLookup env attached frame
  | some .identityWant => handleIdentityWant env attached frame
  | some .identityHave => handleIdentityHave env frame
  | some .rendezvous => handleRendezvous env attached frame
  | some .envelope => handleEnvelope env attached raw frame
  | _ => .ok []

def otherSession (frame : TypedFrame) : Bool :=
  (asString (frame.get? "session_id")).any fun sid => sid ≠ attached.sessionID

def handleFrame (sequences : SequenceTracker) (raw : Bytes) :
    SequenceTracker × Except Fault (List Written) :=
  match decodeTypedFrame raw with
  | .error err => (sequences, fail err)
  | .ok frame =>
    if otherSession attached frame then (sequences, fail .invalidFrame)
    else
      match sequences.accept frame with
      | .error err => (sequences, fail err)
      | .ok sequences => (sequences, dispatch env attached raw frame)

/-- What comes of one frame: frames are written, or an error frame, behind which the
attachment is closed or not; or the process goes down. -/
inductive Turn
  | written (frames : List Written)
  | error (frame : TypedFrame) (closes : Bool)
  | crashed

/-- One turn of `readLoop`. -/
def readTurn (sequences : SequenceTracker) (raw : Bytes) : SequenceTracker × Turn :=
  match handleFrame env attached sequences raw with
  | (sequences, .ok frames) => (sequences, .written frames)
  | (sequences, .error (.failed err)) =>
    (sequences, .error (errorFrame (mapRelayError err)) (env.writeFails || isFatal err))
  | (sequences, .error .panic) => (sequences, .crashed)

end Dispatch

section Handshake

/-- What does not depend on the frames: the signature check, the parser of URLs, and the
clock in seconds. -/
structure HandshakeEnvironment where
  verify : Bytes → Bytes → Bytes → Bool
  urlParse : String → Option Protocol.ParsedURL
  nowUnix : Int

structure HelloFrame where
  clientNonce : Bytes
  selectedOffer : TypedFrame
  federationPublicKey : Bytes

variable (env : HandshakeEnvironment)

/-- The key of a relay with a valid beacon that takes part in the federation. -/
def federationKey (beaconWrapper : String) : Except Fault Bytes :=
  match Protocol.validateBranchTextBootstrapBeacon env.urlParse env.verify env.nowUnix
      (Utf8.bytes beaconWrapper) { nowUnix := env.nowUnix } with
  | .error _ => fail .authenticationFailed
  | .ok beacon =>
    if Protocol.relayFederationLiveRole ∉ beacon.payload.relayCapabilities then
      fail .authenticationFailed
    else .ok beacon.envelope.sender.publicKey

def expectedFederationKey (frame : TypedFrame) : Except Fault Bytes :=
  if asString (frame.get? "requested_role") = some Protocol.relayFederationLiveRole then
    match asString (frame.get? "relay_beacon") with
    | none => fail .invalidFrame
    | some beaconWrapper => federationKey env beaconWrapper
  else .ok []

def decodeHello (raw : Bytes) : Except Fault HelloFrame :=
  match decodeTypedFrame raw with
  | .error err => fail err
  | .ok frame =>
    if frameType frame ≠ some .hello then fail .invalidFrame
    else do
      let nonce ← assertString (frame.get? "client_nonce")
      match decodeBase64 nonce 32 with
      | .error err => fail err
      | .ok clientNonce =>
        match asArray (frame.get? "offers") with
        | some (offer :: _) =>
          match asObject (some offer) with
          | none => fail .invalidFrame
          | some selectedOffer =>
            let federationPublicKey ← expectedFederationKey env frame
            return { clientNonce, selectedOffer, federationPublicKey }
        | _ => fail .invalidFrame

def challengeTranscriptHash (helloRaw : Bytes) (selected : TypedFrame)
    (clientNonce relayNonce relayPublicKey : Bytes) : Bytes :=
  (Sha256.sum256 (helloRaw ++ Json.marshal selected ++ clientNonce ++ relayNonce ++
    relayPublicKey)).toList

def proofInput (transcriptHash : Bytes) : Bytes := Utf8.bytes relayProofDomain ++ transcriptHash

def checkEcho (frame : TypedFrame) (key : String) (expected : Bytes) : Except Fault Unit := do
  let value ← assertString (frame.get? key)
  match decodeBase64 value expected.length with
  | .error _ => fail .authenticationFailed
  | .ok actual => if actual ≠ expected then fail .authenticationFailed else return ()

def authBytes (frame : TypedFrame) (key : String) (size : Nat) : Except Fault Bytes := do
  let value ← assertString (frame.get? key)
  match decodeBase64 value size with
  | .error _ => fail .authenticationFailed
  | .ok data => return data

def validateAuth (raw clientNonce relayNonce transcriptHash expectedFederationPublicKey : Bytes) :
    Except Fault PeerID :=
  match decodeTypedFrame raw with
  | .error err => fail err
  | .ok frame =>
    if frameType frame ≠ some .auth then fail .authenticationFailed
    else do
      checkEcho frame "client_nonce" clientNonce
      checkEcho frame "relay_nonce" relayNonce
      checkEcho frame "transcript_hash" transcriptHash
      let clientPublicKey ← authBytes frame "client_public_key" 32
      let clientProof ← authBytes frame "client_proof" 64
      if ¬ env.verify clientPublicKey (proofInput transcriptHash) clientProof then
        fail .authenticationFailed
      else if 0 < expectedFederationPublicKey.length ∧
          clientPublicKey ≠ expectedFederationPublicKey then
        fail .authenticationFailed
      else return Base64.encode clientPublicKey

def challengeBytes (challenge : TypedFrame) (key : String) (size : Nat) : Except Fault Bytes := do
  let value ← assertString (challenge.get? key)
  match decodeBase64 value size with
  | .error err => fail err
  | .ok data => return data

def verifyFederationChallenge (helloRaw : Bytes) (challenge : TypedFrame)
    (expectedRelayPublicKey : Bytes) (expectedProfile : String) : Except Fault Unit :=
  if expectedRelayPublicKey.length ≠ 32 ∨ expectedProfile = "" then fail .invalidFrame
  else
    match asObject (challenge.get? "selected") with
    | none => fail .invalidFrame
    | some selected => do
      let clientNonce ← challengeBytes challenge "client_nonce" 32
      let relayNonce ← challengeBytes challenge "relay_nonce" 32
      let relayPublicKey ← challengeBytes challenge "relay_public_key" 32
      if relayPublicKey ≠ expectedRelayPublicKey then fail .invalidFrame
      else if asString (selected.get? "profile_multihash") ≠ some expectedProfile then
        fail .invalidFrame
      else
        let transcriptHash := challengeTranscriptHash helloRaw selected clientNonce relayNonce
          relayPublicKey
        if asString (challenge.get? "transcript_hash") ≠ some (Base64.encode transcriptHash) then
          fail .invalidFrame
        else
          let proof ← challengeBytes challenge "relay_proof" 64
          if ¬ env.verify relayPublicKey (proofInput transcriptHash) proof then fail .invalidFrame
          else return ()

/-- The part of `attach` that reads the challenge, up to the hash that the client signs. -/
def readChallenge (helloRaw challengeRaw expectedRelayPublicKey : Bytes)
    (expectedProfile : String) : Except Fault Bytes :=
  match decodeTypedFrame challengeRaw with
  | .error err => fail err
  | .ok challenge => do
    verifyFederationChallenge env helloRaw challenge expectedRelayPublicKey expectedProfile
    challengeBytes challenge "transcript_hash" 32

end Handshake

end Branch.Wss
