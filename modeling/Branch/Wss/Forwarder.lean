import Branch.Relay.Config

/-!
The relay-to-relay bridge behind a federated presence entry: one WSS client
that is dialled at the first forward and bound to that forward's route.
-/

namespace Branch.Wss

open Branch.Relay

/-- `federatedWSSForwarder`. The route is that of the live client, if there is
one. -/
structure FederatedWSSForwarder where
  closed : Bool
  client : Option RouteID
  deriving DecidableEq

/-- What the network did to one `Forward` call: the result of dialling, probing
and binding the remote relay, where that is attempted, and the result of the
envelope exchange. -/
structure ForwardReply where
  dial : Option Err
  envelope : Option Err
  deriving DecidableEq

def normalizeFederationError : Err → Err
  | .peerUnavailable | .noRoute | .sessionClosed | .sessionNotFound
  | .canceled | .deadlineExceeded => .peerUnavailable
  | .frameTooLarge => .frameTooLarge
  | .quotaExceeded => .quotaExceeded
  | .backpressure => .backpressure
  | _ => .peerUnavailable

namespace FederatedWSSForwarder

def fresh : FederatedWSSForwarder := ⟨false, none⟩

def closeLocked (forwarder : FederatedWSSForwarder) : FederatedWSSForwarder :=
  if forwarder.closed then forwarder else ⟨true, none⟩

def liveClientLocked (forwarder : FederatedWSSForwarder) (routeID : RouteID)
    (dial : Option Err) : Except Err FederatedWSSForwarder :=
  match forwarder.client with
  | some bound => if bound ≠ routeID then .error .routeExists else .ok forwarder
  | none =>
    match dial with
    | some err => .error err
    | none => .ok { forwarder with client := some routeID }

/-- Every failure closes the bridge, whichever route it is found on. -/
def forward (forwarder : FederatedWSSForwarder) (routeID : RouteID)
    (reply : ForwardReply) : FederatedWSSForwarder × Option Err :=
  if forwarder.closed then (forwarder, some .peerUnavailable)
  else
    match forwarder.liveClientLocked routeID reply.dial with
    | .error _ => (forwarder.closeLocked, some .peerUnavailable)
    | .ok live =>
      match reply.envelope with
      | some err => (live.closeLocked, some (normalizeFederationError err))
      | none => (live, none)

@[simp] theorem closeLocked_closed (forwarder : FederatedWSSForwarder) :
    forwarder.closeLocked.closed = true := by
  unfold closeLocked
  split
  · assumption
  · rfl

theorem liveClientLocked_closed {forwarder live : FederatedWSSForwarder}
    {routeID : RouteID} {dial : Option Err}
    (h : forwarder.liveClientLocked routeID dial = .ok live) :
    live.closed = forwarder.closed := by
  unfold liveClientLocked at h
  split at h
  · split at h
    · cases h
    · cases h
      rfl
  · split at h
    · cases h
    · cases h
      rfl

theorem forward_closed_iff (forwarder : FederatedWSSForwarder) (routeID : RouteID)
    (reply : ForwardReply) :
    (forwarder.forward routeID reply).1.closed = true ↔
      (forwarder.forward routeID reply).2 ≠ none := by
  unfold forward
  split
  · rename_i hclosed
    simp [hclosed]
  · rename_i hopen
    cases hlive : forwarder.liveClientLocked routeID reply.dial with
    | error err => simp
    | ok live =>
      cases reply.envelope with
      | some err => simp
      | none => simpa [liveClientLocked_closed hlive] using hopen

theorem forward_closed_of_closed {forwarder : FederatedWSSForwarder}
    (h : forwarder.closed = true) (routeID : RouteID) (reply : ForwardReply) :
    forwarder.forward routeID reply = (forwarder, some .peerUnavailable) := by
  rw [forward, if_pos h]

end FederatedWSSForwarder

/-- The object behind a `FederatedForwarder` interface value: a WSS bridge, or
an implementation without a `Close` method. -/
inductive ForwarderObject
  | wss (bridge : FederatedWSSForwarder)
  | plain
  deriving DecidableEq

namespace ForwarderObject

def forward (object : ForwarderObject) (routeID : RouteID) (reply : ForwardReply) :
    ForwarderObject × Option Err :=
  match object with
  | .wss bridge =>
    let result := bridge.forward routeID reply
    (.wss result.1, result.2)
  | .plain => (.plain, reply.envelope)

/-- `closeForwarders` on one forwarder. -/
def close : ForwarderObject → ForwarderObject
  | .wss bridge => .wss bridge.closeLocked
  | .plain => .plain

def isClosed : ForwarderObject → Bool
  | .wss bridge => bridge.closed
  | .plain => false

/-- Whether the object has a `Close` method. -/
def closable : ForwarderObject → Bool
  | .wss _ => true
  | .plain => false

/-- Whether a forward on the route gets through: a bridge must be open and not
bound to another route, and the remote relay must answer without an error. -/
def accepts (object : ForwarderObject) (routeID : RouteID) (reply : ForwardReply) : Bool :=
  match object with
  | .wss bridge =>
    !bridge.closed &&
      (match bridge.client with
        | some bound => bound == routeID
        | none => reply.dial.isNone) &&
      reply.envelope.isNone
  | .plain => reply.envelope.isNone

/-- `accepts` when the remote relay makes no trouble. -/
def serves (object : ForwarderObject) (routeID : RouteID) : Bool :=
  object.accepts routeID ⟨none, none⟩

theorem forward_error_iff (object : ForwarderObject) (routeID : RouteID)
    (reply : ForwardReply) :
    (object.forward routeID reply).2 = none ↔ object.accepts routeID reply = true := by
  rcases reply with ⟨dial, envelope⟩
  cases object with
  | plain => cases envelope <;> simp [forward, accepts]
  | wss bridge =>
    rcases bridge with ⟨closed, client⟩
    cases closed with
    | true => simp [forward, accepts, FederatedWSSForwarder.forward]
    | false =>
      cases client with
      | none =>
        cases dial <;> cases envelope <;>
          simp [forward, accepts, FederatedWSSForwarder.forward,
            FederatedWSSForwarder.liveClientLocked]
      | some bound =>
        by_cases hbound : bound = routeID
        · cases envelope <;>
            simp [forward, accepts, FederatedWSSForwarder.forward,
              FederatedWSSForwarder.liveClientLocked, hbound]
        · simp [forward, accepts, FederatedWSSForwarder.forward,
            FederatedWSSForwarder.liveClientLocked, hbound]

theorem forward_accepted (object : ForwarderObject) (routeID : RouteID) :
    (object.forward routeID ⟨none, none⟩).2 =
      if object.serves routeID then none else some .peerUnavailable := by
  cases hserves : object.serves routeID with
  | true => exact (forward_error_iff object routeID ⟨none, none⟩).mpr hserves
  | false =>
    cases object with
    | plain => cases hserves
    | wss bridge =>
      have herror := mt (forward_error_iff (.wss bridge) routeID ⟨none, none⟩).mp
        (Bool.eq_false_iff.mp hserves)
      simp only [forward, FederatedWSSForwarder.forward] at herror ⊢
      split at herror
      · rename_i hclosed
        simp [hclosed]
      · rename_i hopen
        simp only [hopen]
        split at herror
        · rename_i hlive
          simp [hlive]
        · exact absurd rfl herror

theorem accepts_eq_false {object : ForwarderObject} (hopen : object.isClosed = false)
    {routeID : RouteID} {reply : ForwardReply}
    (h : (object.forward routeID reply).1.isClosed = true) :
    object.accepts routeID reply = false := by
  apply Bool.eq_false_iff.mpr
  intro haccepts
  have hnone := (forward_error_iff object routeID reply).mpr haccepts
  cases object with
  | plain => cases h
  | wss bridge =>
    exact (FederatedWSSForwarder.forward_closed_iff bridge routeID reply).mp h hnone

@[simp] theorem close_closable (object : ForwarderObject) :
    object.close.closable = object.closable := by
  cases object <;> rfl

@[simp] theorem forward_closable (object : ForwarderObject) (routeID : RouteID)
    (reply : ForwardReply) :
    (object.forward routeID reply).1.closable = object.closable := by
  cases object <;> rfl

theorem isClosed_close {object : ForwarderObject} (h : object.closable = true) :
    object.close.isClosed = true := by
  cases object with
  | wss bridge => exact FederatedWSSForwarder.closeLocked_closed bridge
  | plain => cases h

theorem isClosed_forward_of_isClosed {object : ForwarderObject}
    (h : object.isClosed = true) (routeID : RouteID) (reply : ForwardReply) :
    (object.forward routeID reply).1.isClosed = true := by
  cases object with
  | wss bridge =>
    simp only [forward, isClosed] at h ⊢
    rw [FederatedWSSForwarder.forward_closed_of_closed h]
    exact h
  | plain => cases h

end ForwarderObject

end Branch.Wss
