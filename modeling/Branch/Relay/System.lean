import Branch.Lib.Trace
import Branch.Relay.Forward
import Branch.Wss.Forwarder
import Mathlib.Tactic.Simps.Basic

/-!
A hub with the calls in progress around it. Every event is one critical section
of one call, so a list of events is an interleaving of any number of calls. The
history, the route serials and the clock only record what happened; no
operation reads them.
-/

namespace Branch.Relay

open Branch.Lib
open Branch.Wss

/-- Where a `Send` or `SendDelivery` call stands. `serial` tells apart the routes
that were bound under one id one after the other. -/
inductive SendStage
  | entered
  | forwarding (pending : PendingForward) (serial : Nat)
  | answered (pending : PendingForward) (serial : Nat) (err : Option Err)
  | sent (source : SessionRef)
  | failed (err : Err)
  deriving DecidableEq

namespace SendStage

/-- The federated send that a call has under way, with the serial of its route. -/
def ticket : SendStage → Option (PendingForward × Nat)
  | .forwarding pending serial => some (pending, serial)
  | .answered pending serial _ => some (pending, serial)
  | _ => none

def chargedTo : SendStage → Option SessionRef
  | .forwarding pending _ => some pending.sourceRef
  | .answered pending _ _ => some pending.sourceRef
  | .sent source => some source
  | _ => none

theorem ticket_eq_none_of_chargedTo {stage : SendStage} (h : stage.chargedTo = none) :
    stage.ticket = none := by
  cases stage with
  | entered => rfl
  | forwarding pending serial => cases h
  | answered pending serial err => cases h
  | sent ref => rfl
  | failed err => rfl

end SendStage

/-- One send call. `payload` is the copy made when the call was entered. -/
structure SendCall where
  source : SessionID
  routeID : RouteID
  delivery : Option Delivery
  now : Time
  payload : Bytes
  stage : SendStage
  deriving DecidableEq

/-- Where a `Receive` call stands. -/
inductive ReceiveStage
  | checked
  | waiting (state : SessionRef)
  | took (frame : Frame)
  | returned (frame : Frame)
  | failed (err : Err)
  deriving DecidableEq

/-- One receive call on the session handle `handle`. -/
structure ReceiveCall where
  handle : SessionRef
  sessionID : SessionID
  stage : ReceiveStage
  deriving DecidableEq

inductive SelectArm
  | ctxDone (err : Err)
  | done
  | inbox
  deriving DecidableEq

inductive Origin
  | send (call : Nat)
  | federated
  deriving DecidableEq

inductive HistoryEntry
  | enqueued (destination : SessionRef) (frame : Frame) (origin : Origin)
  | delivered (source : SessionRef) (key : DeliveryKey) (digest : Digest)
  | taken (handle : SessionRef) (call : Nat) (frame : Frame)
  deriving DecidableEq

def HistoryEntry.session : HistoryEntry → SessionRef
  | .enqueued destination _ _ => destination
  | .delivered source _ _ => source
  | .taken handle _ _ => handle

/-- `closing` lists the forwarders that finished operations have yet to close. -/
structure System where
  hub : Hub
  clock : Time
  buffers : Table Nat Bytes
  handles : List SessionID
  forwarders : List ForwarderObject
  closing : List ForwarderRef
  sends : List SendCall
  receives : List ReceiveCall
  history : List HistoryEntry
  routeSerials : Table RouteID Nat
  bound : Nat

/-- A call number or a forwarder is its position in the system's list. The
`now` of an event is the clock reading that the caller passes. -/
inductive Event
  | write (buffer : Nat) (bytes : Bytes)
  | newForwarder (object : ForwarderObject)
  | closeForwarder (forwarder : ForwarderRef)
  | tick (now : Time)
  | attach (id : SessionID)
  | pair (routeID : RouteID) (left right : SessionID)
  | announceFederatedPresence (peerID : PeerID) (forwarder : Option ForwarderRef) (now : Time)
  | announcePresence (id : SessionID) (peerID : PeerID) (now : Time)
  | heartbeat (id : SessionID) (now : Time)
  | lookup (peerID : PeerID) (now : Time)
  | lookupLocal (peerID : PeerID) (now : Time)
  | rendezvous (source : SessionID) (routeID : RouteID) (peerID : PeerID) (now : Time)
  | sweepExpired (now : Time)
  | closeSession (id : SessionID)
  | closeHub
  | deliverFromFederated (ctxErr : Option Err) (routeID : RouteID) (payload : Bytes)
      (senderPeerID : PeerID)
  | send (source : SessionID) (routeID : RouteID) (buffer : Nat)
      (delivery : Option Delivery) (now : Time) (ctxErr : Option Err)
  | sendLocked (call : Nat) (ctxErr : Option Err)
  | forwardReturns (call : Nat) (reply : ForwardReply)
  | sendCompleted (call : Nat)
  | receive (handle : SessionRef)
  | receiveLookup (call : Nat)
  | receiveSelect (call : Nat) (arm : SelectArm)
  | receiveReturns (call : Nat)
  deriving DecidableEq

/-- The checks that a send makes before it copies the payload and takes the
lock. A plain `Send` has no delivery. -/
def sendEntryError (config : Config) (delivery : Option Delivery)
    (ctxErr : Option Err) (payload : Bytes) : Option Err :=
  match delivery.bind fun d => validateID d.id with
  | some err => some err
  | none =>
    match ctxErr with
    | some err => some err
    | none => if config.maxFrameBytes < payload.length then some .frameTooLarge else none

namespace System

def start (config : ValidConfig) : System where
  hub := Hub.start config
  clock := 0
  buffers := Table.empty
  handles := []
  forwarders := []
  closing := []
  sends := []
  receives := []
  history := []
  routeSerials := Table.empty
  bound := 0

/-- A clock reading moves the clock forward. -/
@[simps]
def observe (w : System) (now : Time) : System := { w with clock := max w.clock now }

/-- Install an operation's hub. The forwarders that it gave up are still to be
closed, since their `Close` calls come after the lock is released. -/
@[simps]
def settle {α : Type} (w : System) (o : Outcome α) : System :=
  { w with hub := o.hub, closing := o.closers ++ w.closing }

/-- `settle` for the operations that bind a route: a new binding gets a fresh
serial. -/
def settleBinding (w : System) (routeID : RouteID) (o : Outcome (Option Err)) : System :=
  if (w.hub.routes.get? routeID).isNone ∧ (o.hub.routes.get? routeID).isSome then
    { w.settle o with
      routeSerials := w.routeSerials.insert routeID w.bound
      bound := w.bound + 1 }
  else w.settle o

@[simps]
def setSend (w : System) (call : Nat) (stage : SendStage) : System :=
  { w with sends := w.sends.modify call fun c => { c with stage := stage } }

theorem getElem?_setSend {w : System} {call : Nat} {c : SendCall}
    (h : w.sends[call]? = some c) (stage : SendStage) :
    (w.setSend call stage).sends[call]? = some { c with stage := stage } := by
  rw [setSend_sends, List.getElem?_modify, h]
  simp

@[simps]
def setReceive (w : System) (call : Nat) (stage : ReceiveStage) : System :=
  { w with receives := w.receives.modify call fun c => { c with stage := stage } }

@[simps]
def record (w : System) (entries : List HistoryEntry) : System :=
  { w with history := w.history ++ entries }

@[simp] theorem settleBinding_hub (w : System) (routeID : RouteID)
    (o : Outcome (Option Err)) : (w.settleBinding routeID o).hub = o.hub := by
  unfold settleBinding
  split <;> rfl

@[simp] theorem settleBinding_sends (w : System) (routeID : RouteID)
    (o : Outcome (Option Err)) : (w.settleBinding routeID o).sends = w.sends := by
  unfold settleBinding
  split <;> rfl

@[simp] theorem settleBinding_receives (w : System) (routeID : RouteID)
    (o : Outcome (Option Err)) : (w.settleBinding routeID o).receives = w.receives := by
  unfold settleBinding
  split <;> rfl

@[simp] theorem settleBinding_history (w : System) (routeID : RouteID)
    (o : Outcome (Option Err)) : (w.settleBinding routeID o).history = w.history := by
  unfold settleBinding
  split <;> rfl

@[simp] theorem settleBinding_handles (w : System) (routeID : RouteID)
    (o : Outcome (Option Err)) : (w.settleBinding routeID o).handles = w.handles := by
  unfold settleBinding
  split <;> rfl

@[simp] theorem settleBinding_buffers (w : System) (routeID : RouteID)
    (o : Outcome (Option Err)) : (w.settleBinding routeID o).buffers = w.buffers := by
  unfold settleBinding
  split <;> rfl

@[simp] theorem settleBinding_forwarders (w : System) (routeID : RouteID)
    (o : Outcome (Option Err)) :
    (w.settleBinding routeID o).forwarders = w.forwarders := by
  unfold settleBinding
  split <;> rfl

@[simp] theorem settleBinding_closing (w : System) (routeID : RouteID)
    (o : Outcome (Option Err)) :
    (w.settleBinding routeID o).closing = o.closers ++ w.closing := by
  unfold settleBinding
  split <;> rfl

@[simp] theorem settleBinding_clock (w : System) (routeID : RouteID)
    (o : Outcome (Option Err)) : (w.settleBinding routeID o).clock = w.clock := by
  unfold settleBinding
  split <;> rfl

/-- The history entry of a forwarded delivery; a plain send leaves none. -/
def deliveredEntry (source : SessionRef) (senderPeerID : PeerID)
    (delivery : Option Delivery) : List HistoryEntry :=
  match delivery with
  | none => []
  | some d => [.delivered source (d.key senderPeerID) d.digest]

theorem deliveredEntry_session {source : SessionRef} {senderPeerID : PeerID}
    {delivery : Option Delivery} {entry : HistoryEntry}
    (h : entry ∈ deliveredEntry source senderPeerID delivery) : entry.session = source := by
  cases delivery with
  | none => cases h
  | some d =>
    obtain rfl := List.mem_singleton.mp h
    rfl

/-- One `Close` call of `closeForwarders`. -/
def closeForwarder (w : System) (forwarder : ForwarderRef) : System :=
  if forwarder ∈ w.closing then
    { w with
      forwarders := w.forwarders.modify forwarder ForwarderObject.close
      closing := w.closing.erase forwarder }
  else w

def attach (w : System) (id : SessionID) : System :=
  let o := w.hub.attach id
  match o.value with
  | .error _ => w.settle o
  | .ok _ => { w.settle o with handles := w.handles ++ [id] }

def send (w : System) (source : SessionID) (routeID : RouteID) (buffer : Nat)
    (delivery : Option Delivery) (now : Time) (ctxErr : Option Err) : System :=
  let payload := (w.buffers.get? buffer).getD []
  let stage : SendStage :=
    match sendEntryError w.hub.config.toConfig delivery ctxErr payload with
    | some err => .failed err
    | none => .entered
  { w with sends := w.sends ++ [⟨source, routeID, delivery, now, payload, stage⟩] }

def sendLocked (w : System) (call : Nat) (ctxErr : Option Err) : System :=
  match w.sends[call]? with
  | none => w
  | some c =>
    match c.stage with
    | .entered =>
      let o := w.hub.forwardLocked ctxErr c.source c.routeID c.payload c.now c.delivery
      match o.value with
      | .failed err => (w.settle o).setSend call (.failed err)
      | .enqueued source destination frame =>
        ((w.settle o).setSend call (.sent source)).record
          (.enqueued destination frame (.send call) ::
            deliveredEntry source frame.senderPeerID c.delivery)
      | .forwarding pending =>
        (w.settle o).setSend call
          (.forwarding pending ((w.routeSerials.get? c.routeID).getD 0))
    | _ => w

theorem sendLocked_eq_self {w : System} {call : Nat} {ctxErr : Option Err}
    (h : ∀ c, w.sends[call]? = some c → c.stage ≠ .entered) :
    w.sendLocked call ctxErr = w := by
  unfold sendLocked
  split
  · rfl
  · rename_i c hc
    split
    · rename_i hstage
      exact absurd hstage (h c hc)
    · rfl

theorem sendLocked_forwarding {w : System} {call : Nat} {c : SendCall}
    {ctxErr : Option Err} {pending : PendingForward} (hc : w.sends[call]? = some c)
    (hstage : c.stage = .entered)
    (h : (w.hub.forwardLocked ctxErr c.source c.routeID c.payload c.now c.delivery).value =
      .forwarding pending) :
    w.sendLocked call ctxErr =
      (w.settle (w.hub.forwardLocked ctxErr c.source c.routeID c.payload c.now
        c.delivery)).setSend call
          (.forwarding pending ((w.routeSerials.get? c.routeID).getD 0)) := by
  simp only [sendLocked, hc, hstage, h]

/-- The forwarder's own `Forward`, under the forwarder's lock. -/
def forwardReturns (w : System) (call : Nat) (reply : ForwardReply) : System :=
  match w.sends[call]? with
  | none => w
  | some c =>
    match c.stage with
    | .forwarding pending serial =>
      match w.forwarders[pending.forwarder]? with
      | none => w
      | some object =>
        let result := object.forward pending.routeID reply
        { w with forwarders := w.forwarders.set pending.forwarder result.1 }.setSend call
          (.answered pending serial result.2)
    | _ => w

theorem forwardReturns_eq_self {w : System} {call : Nat} {reply : ForwardReply}
    (h : ∀ c pending serial, w.sends[call]? = some c →
      c.stage ≠ .forwarding pending serial) : w.forwardReturns call reply = w := by
  unfold forwardReturns
  split
  · rfl
  · rename_i c hc
    split
    · rename_i pending serial hstage
      exact absurd hstage (h c pending serial hc)
    · rfl

def sendCompleted (w : System) (call : Nat) : System :=
  match w.sends[call]? with
  | none => w
  | some c =>
    match c.stage with
    | .answered pending _ err =>
      let o := w.hub.forwardCompleted pending err
      match err with
      | some err => (w.settle o).setSend call (.failed err)
      | none =>
        ((w.settle o).setSend call (.sent pending.sourceRef)).record
          (deliveredEntry pending.sourceRef pending.senderPeerID pending.delivery)
    | _ => w

theorem sendCompleted_eq_self {w : System} {call : Nat}
    (h : ∀ c pending serial err, w.sends[call]? = some c →
      c.stage ≠ .answered pending serial err) : w.sendCompleted call = w := by
  unfold sendCompleted
  split
  · rfl
  · rename_i c hc
    split
    · rename_i pending serial err hstage
      exact absurd hstage (h c pending serial err hc)
    · rfl

def deliverFromFederated (w : System) (ctxErr : Option Err) (routeID : RouteID)
    (payload : Bytes) (senderPeerID : PeerID) : System :=
  let o := w.hub.deliverFromFederated ctxErr routeID payload senderPeerID
  match o.value with
  | .failed _ => w.settle o
  | .enqueued destination frame =>
    (w.settle o).record [.enqueued destination frame .federated]

def receive (w : System) (handle : SessionRef) : System :=
  match w.handles[handle]? with
  | none => w
  | some id =>
    let stage : ReceiveStage :=
      if w.hub.isClosed handle then .failed .sessionClosed else .checked
    { w with receives := w.receives ++ [⟨handle, id, stage⟩] }

def receiveLookup (w : System) (call : Nat) : System :=
  match w.receives[call]? with
  | none => w
  | some c =>
    match c.stage with
    | .checked =>
      match w.hub.sessionState c.sessionID with
      | .error err => w.setReceive call (.failed err)
      | .ok state => w.setReceive call (.waiting state.ref)
    | _ => w

/-- An arm that is not ready leaves the call waiting. -/
def receiveSelect (w : System) (call : Nat) (arm : SelectArm) : System :=
  match w.receives[call]? with
  | none => w
  | some c =>
    match c.stage with
    | .waiting state =>
      match arm with
      | .ctxDone err => w.setReceive call (.failed err)
      | .done =>
        if w.hub.isClosed c.handle then w.setReceive call (.failed .sessionClosed) else w
      | .inbox =>
        match w.hub.takeFrame c.sessionID state with
        | none => w
        | some (frame, hub) =>
          ({ w with hub := hub }.setReceive call (.took frame)).record
            [.taken c.handle call frame]
    | _ => w

def receiveReturns (w : System) (call : Nat) : System :=
  match w.receives[call]? with
  | none => w
  | some c =>
    match c.stage with
    | .took frame =>
      if w.hub.isClosed c.handle then w.setReceive call (.failed .sessionClosed)
      else w.setReceive call (.returned frame)
    | _ => w

def step (w : System) : Event → System
  | .write buffer bytes => { w with buffers := w.buffers.insert buffer bytes }
  | .newForwarder object => { w with forwarders := w.forwarders ++ [object] }
  | .closeForwarder forwarder => w.closeForwarder forwarder
  | .tick now => w.observe now
  | .attach id => w.attach id
  | .pair routeID left right => w.settleBinding routeID (w.hub.pair routeID left right)
  | .announceFederatedPresence peerID forwarder now =>
    (w.settle (w.hub.announceFederatedPresence peerID forwarder now)).observe now
  | .announcePresence id peerID now =>
    (w.settle (w.hub.announcePresence id peerID now)).observe now
  | .heartbeat id now => (w.settle (w.hub.heartbeat id now)).observe now
  | .lookup peerID now => (w.settle (w.hub.lookup peerID now)).observe now
  | .lookupLocal peerID now => (w.settle (w.hub.lookupLocal peerID now)).observe now
  | .rendezvous source routeID peerID now =>
    (w.settleBinding routeID (w.hub.rendezvous source routeID peerID now)).observe now
  | .sweepExpired now => (w.settle (w.hub.sweepExpired now)).observe now
  | .closeSession id => w.settle (w.hub.detach id)
  | .closeHub => w.settle w.hub.close
  | .deliverFromFederated ctxErr routeID payload senderPeerID =>
    w.deliverFromFederated ctxErr routeID payload senderPeerID
  | .send source routeID buffer delivery now ctxErr =>
    (w.send source routeID buffer delivery now ctxErr).observe now
  | .sendLocked call ctxErr => w.sendLocked call ctxErr
  | .forwardReturns call reply => w.forwardReturns call reply
  | .sendCompleted call => w.sendCompleted call
  | .receive handle => w.receive handle
  | .receiveLookup call => w.receiveLookup call
  | .receiveSelect call arm => w.receiveSelect call arm
  | .receiveReturns call => w.receiveReturns call

def after (config : ValidConfig) (events : List Event) : System :=
  Trace.run step (start config) events

end System

end Branch.Relay
