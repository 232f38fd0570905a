import Branch.Relay.Config

/-!
The hub's tables and the operations that run under its lock, except for
forwarding.
-/

namespace Branch.Relay

open Branch.Lib

abbrev DeliveryWindow := ReplayWindow DeliveryKey Digest

structure SessionState where
  ref : SessionRef
  inbox : BoundedQueue Frame
  frames : UInt64
  bytes : UInt64
  peerID : PeerID
  deliveries : DeliveryWindow

/-- One end of a route. The empty `sessionID` and `peerID` stand for "none", as
in the source. -/
structure RouteEndpoint where
  sessionID : SessionID
  forwarder : Option ForwarderRef
  peerID : PeerID
  deriving DecidableEq

structure RouteState where
  left : RouteEndpoint
  right : RouteEndpoint
  deriving DecidableEq

structure PresenceState where
  sessionID : SessionID
  expiresAt : Time
  deriving DecidableEq

structure FederatedPresenceState where
  forwarder : Option ForwarderRef
  expiresAt : Time
  deriving DecidableEq

structure Stats where
  forwardedFrames : UInt64
  forwardedBytes : UInt64
  droppedFrames : UInt64
  deriving DecidableEq

/-- The tables of one relay process. `refs` counts the session objects allocated
so far, and `done` lists those whose done channel is closed. -/
structure Hub where
  config : ValidConfig
  closed : Bool
  sessions : Table SessionID SessionState
  routes : Table RouteID RouteState
  presence : Table PeerID PresenceState
  federatedPresence : Table PeerID FederatedPresenceState
  stats : Stats
  refs : Nat
  done : List SessionRef

/-- What an operation leaves behind: the hub, the forwarders that it closes
after releasing the lock, and the value that it returns. -/
structure Outcome (α : Type) where
  hub : Hub
  closers : List ForwarderRef
  value : α

namespace RouteState

def peer (route : RouteState) (id : SessionID) : Option RouteEndpoint :=
  if id = route.left.sessionID then some route.right
  else if id = route.right.sessionID then some route.left
  else none

def containsSession (route : RouteState) (id : SessionID) : Bool :=
  route.left.sessionID == id || route.right.sessionID == id

def federatedForwarders (route : RouteState) : List ForwarderRef :=
  route.left.forwarder.toList ++ route.right.forwarder.toList

def localPeerOfFederated (route : RouteState) : Option SessionID :=
  if route.left.forwarder.isSome ∧ route.right.sessionID ≠ "" then
    some route.right.sessionID
  else if route.right.forwarder.isSome ∧ route.left.sessionID ≠ "" then
    some route.left.sessionID
  else none

theorem containsSession_iff {route : RouteState} {id : SessionID} :
    route.containsSession id = true ↔
      route.left.sessionID = id ∨ route.right.sessionID = id := by
  simp [containsSession]

theorem mem_federatedForwarders {route : RouteState} {f : ForwarderRef} :
    f ∈ route.federatedForwarders ↔
      route.left.forwarder = some f ∨ route.right.forwarder = some f := by
  simp [federatedForwarders]

end RouteState

def newDeliveryWindow (capacity : Int) : DeliveryWindow :=
  ReplayWindow.empty capacity.toNat

namespace Hub

def start (config : ValidConfig) : Hub where
  config := config
  closed := false
  sessions := Table.empty
  routes := Table.empty
  presence := Table.empty
  federatedPresence := Table.empty
  stats := ⟨0, 0, 0⟩
  refs := 0
  done := []

/-- `NewHub`. -/
def new (config : Config) : Except Err Hub :=
  let config :=
    if config.maxReplayEntriesPerSession = 0 then
      { config with
        maxReplayEntriesPerSession := defaultConfig.maxReplayEntriesPerSession }
    else config
  match h : validateConfig config with
  | some err => .error err
  | none => .ok (start ⟨config, h⟩)

def returns {α : Type} (hub : Hub) (value : α) : Outcome α := ⟨hub, [], value⟩

def isClosed (hub : Hub) (ref : SessionRef) : Bool := hub.done.contains ref

def attach (hub : Hub) (id : SessionID) : Outcome (Except Err SessionRef) :=
  match validateID id with
  | some err => hub.returns (.error err)
  | none =>
    if hub.closed then hub.returns (.error .closed)
    else if (hub.sessions.get? id).isSome then hub.returns (.error .sessionExists)
    else if hub.config.maxSessions ≤ hub.sessions.size then
      hub.returns (.error .sessionLimit)
    else
      let state : SessionState :=
        { ref := hub.refs
          inbox := BoundedQueue.empty hub.config.maxQueueDepth.toNat
          frames := 0
          bytes := 0
          peerID := ""
          deliveries := newDeliveryWindow hub.config.maxReplayEntriesPerSession }
      { hub := { hub with sessions := hub.sessions.insert id state, refs := hub.refs + 1 }
        closers := []
        value := .ok hub.refs }

def pair (hub : Hub) (routeID : RouteID) (left right : SessionID) :
    Outcome (Option Err) :=
  match validateID routeID with
  | some err => hub.returns (some err)
  | none =>
    if left = right then hub.returns (some .invalidID)
    else if hub.closed then hub.returns (some .closed)
    else if (hub.routes.get? routeID).isSome then hub.returns (some .routeExists)
    else
      match hub.sessions.get? left with
      | none => hub.returns (some .sessionNotFound)
      | some leftState =>
        match hub.sessions.get? right with
        | none => hub.returns (some .sessionNotFound)
        | some rightState =>
          let route : RouteState :=
            { left := ⟨left, none, leftState.peerID⟩
              right := ⟨right, none, rightState.peerID⟩ }
          { hub := { hub with routes := hub.routes.insert routeID route }
            closers := []
            value := none }

def announceFederatedPresence (hub : Hub) (peerID : PeerID)
    (forwarder : Option ForwarderRef) (now : Time) : Outcome (Option Err) :=
  match validateID peerID with
  | some err => hub.returns (some err)
  | none =>
    if forwarder.isNone then hub.returns (some .invalidConfig)
    else if hub.closed then hub.returns (some .closed)
    else
      { hub :=
          { hub with
            federatedPresence := hub.federatedPresence.insert peerID
              ⟨forwarder, now + hub.config.presenceTTL⟩ }
        closers := []
        value := none }

def announcePresence (hub : Hub) (id : SessionID) (peerID : PeerID) (now : Time) :
    Outcome (Option Err) :=
  match validateID peerID with
  | some err => hub.returns (some err)
  | none =>
    if hub.closed then hub.returns (some .closed)
    else
      match hub.sessions.get? id with
      | none => hub.returns (some .sessionClosed)
      | some state =>
        if hub.isClosed state.ref then hub.returns (some .sessionClosed)
        else
          let presence :=
            if state.peerID ≠ "" ∧ state.peerID ≠ peerID then
              hub.presence.erase state.peerID
            else hub.presence
          { hub :=
              { hub with
                sessions := hub.sessions.insert id { state with peerID := peerID }
                presence := presence.insert peerID
                  ⟨id, now + hub.config.presenceTTL⟩ }
            closers := []
            value := none }

def heartbeat (hub : Hub) (id : SessionID) (now : Time) : Outcome (Option Err) :=
  if hub.closed then hub.returns (some .closed)
  else
    match hub.sessions.get? id with
    | none => hub.returns (some .sessionClosed)
    | some state =>
      if hub.isClosed state.ref then hub.returns (some .sessionClosed)
      else if state.peerID = "" then hub.returns (some .peerUnavailable)
      else
        { hub :=
            { hub with
              presence := hub.presence.insert state.peerID
                ⟨id, now + hub.config.presenceTTL⟩ }
          closers := []
          value := none }

/-- A miss on an expired or orphaned entry also drops the entry. -/
def lookupLocalLocked (hub : Hub) (peerID : PeerID) (now : Time) :
    Hub × Option Presence :=
  match hub.presence.get? peerID with
  | none => (hub, none)
  | some state =>
    let dropped := { hub with presence := hub.presence.erase peerID }
    if ¬now < state.expiresAt then (dropped, none)
    else
      match hub.sessions.get? state.sessionID with
      | none => (dropped, none)
      | some session =>
        if hub.isClosed session.ref then (dropped, none)
        else (hub, some ⟨peerID, state.sessionID, state.expiresAt, false⟩)

/-- An expired entry is deleted here without closing its forwarder. -/
def lookupFederatedLocked (hub : Hub) (peerID : PeerID) (now : Time) :
    Hub × Option FederatedPresenceState :=
  match hub.federatedPresence.get? peerID with
  | none => (hub, none)
  | some state =>
    let dropped :=
      { hub with federatedPresence := hub.federatedPresence.erase peerID }
    if ¬now < state.expiresAt then (dropped, none)
    else if state.forwarder.isNone then (dropped, none)
    else (hub, some state)

def lookupLocked (hub : Hub) (peerID : PeerID) (now : Time) :
    Hub × Option Presence :=
  match hub.lookupLocalLocked peerID now with
  | (hub, some presence) => (hub, some presence)
  | (hub, none) =>
    match hub.lookupFederatedLocked peerID now with
    | (hub, none) => (hub, none)
    | (hub, some state) => (hub, some ⟨peerID, "", state.expiresAt, true⟩)

def lookup (hub : Hub) (peerID : PeerID) (now : Time) : Outcome (Option Presence) :=
  let found := hub.lookupLocked peerID now
  ⟨found.1, [], found.2⟩

def lookupLocal (hub : Hub) (peerID : PeerID) (now : Time) :
    Outcome (Option Presence) :=
  let found := hub.lookupLocalLocked peerID now
  ⟨found.1, [], found.2⟩

/-- Go reads the fields of a nil session here when `id` is unknown; the caller
has looked it up before. -/
def routeEndpointForSessionLocked (hub : Hub) (id : SessionID) : RouteEndpoint :=
  match hub.sessions.get? id with
  | none => ⟨id, none, ""⟩
  | some state => ⟨id, none, state.peerID⟩

def bindRoute (hub : Hub) (source : SessionID) (routeID : RouteID)
    (right : RouteEndpoint) : Outcome (Option Err) :=
  let route : RouteState :=
    { left := hub.routeEndpointForSessionLocked source
      right := right }
  { hub := { hub with routes := hub.routes.insert routeID route }
    closers := []
    value := none }

def rendezvous (hub : Hub) (source : SessionID) (routeID : RouteID)
    (peerID : PeerID) (now : Time) : Outcome (Option Err) :=
  match validateID routeID with
  | some err => hub.returns (some err)
  | none =>
  match validateID peerID with
  | some err => hub.returns (some err)
  | none =>
    if hub.closed then hub.returns (some .closed)
    else if (hub.sessions.get? source).isNone then hub.returns (some .sessionClosed)
    else
      match hub.routes.get? routeID with
      | some existing =>
        -- The repeat of an exact binding succeeds without a look at its liveness.
        if existing.left.sessionID = source ∧ existing.right.peerID = peerID then
          hub.returns none
        else hub.returns (some .routeExists)
      | none =>
        match hub.lookupLocalLocked peerID now with
        | (hub, some localPresence) =>
          hub.bindRoute source routeID ⟨localPresence.sessionID, none, peerID⟩
        | (hub, none) =>
          match hub.lookupFederatedLocked peerID now with
          | (hub, none) => hub.returns (some .peerUnavailable)
          | (hub, some federatedPresence) =>
            hub.bindRoute source routeID ⟨"", federatedPresence.forwarder, peerID⟩

def endpointLiveLocked (hub : Hub) (endpoint : RouteEndpoint) (now : Time) : Bool :=
  if endpoint.sessionID ≠ "" then
    match hub.sessions.get? endpoint.sessionID with
    | none => false
    | some state =>
      if hub.isClosed state.ref then false
      else if endpoint.peerID = "" then true
      else
        match hub.presence.get? endpoint.peerID with
        | none => false
        | some presence =>
          if presence.sessionID ≠ endpoint.sessionID ∨ ¬now < presence.expiresAt then
            false
          else state.peerID == endpoint.peerID
  else if endpoint.forwarder.isNone ∨ endpoint.peerID = "" then false
  else
    -- Only the peer's entry is looked up: its forwarder may be another one.
    match hub.federatedPresence.get? endpoint.peerID with
    | none => false
    | some presence => presence.forwarder.isSome && decide (now < presence.expiresAt)

def routeLiveLocked (hub : Hub) (route : RouteState) (now : Time) : Bool :=
  hub.endpointLiveLocked route.left now && hub.endpointLiveLocked route.right now

def presenceStale (hub : Hub) (state : PresenceState) (now : Time) : Bool :=
  match hub.sessions.get? state.sessionID with
  | none => true
  | some session => hub.isClosed session.ref || !decide (now < state.expiresAt)

def federatedPresenceStale (state : FederatedPresenceState) (now : Time) : Bool :=
  state.forwarder.isNone || !decide (now < state.expiresAt)

def sweepPresence (hub : Hub) (now : Time) : Hub :=
  { hub with
    presence := hub.presence.filter fun _ state => !hub.presenceStale state now
    federatedPresence :=
      hub.federatedPresence.filter fun _ state => !federatedPresenceStale state now }

/-- The routes are judged against the presence tables as the first two passes
leave them. -/
def sweepExpired (hub : Hub) (now : Time) : Outcome Nat :=
  let swept := hub.sweepPresence now
  let staleFederated :=
    hub.federatedPresence.toList.filter fun e => federatedPresenceStale e.2 now
  let deadRoutes := hub.routes.toList.filter fun e => !swept.routeLiveLocked e.2 now
  { hub :=
      { swept with
        routes := hub.routes.filter fun _ route => swept.routeLiveLocked route now }
    closers :=
      (staleFederated.flatMap fun e => e.2.forwarder.toList) ++
        deadRoutes.flatMap fun e => e.2.federatedForwarders
    value := (hub.presence.size - swept.presence.size) +
      (hub.federatedPresence.size - swept.federatedPresence.size) }

/-- `Session.Close`. -/
def detach (hub : Hub) (id : SessionID) : Outcome Unit :=
  match hub.sessions.get? id with
  | none => hub.returns ()
  | some state =>
    { hub :=
        { hub with
          done := state.ref :: hub.done
          presence :=
            if state.peerID ≠ "" then hub.presence.erase state.peerID
            else hub.presence
          sessions := hub.sessions.erase id
          routes := hub.routes.filter fun _ route => !route.containsSession id }
      closers :=
        (hub.routes.toList.filter fun e => e.2.containsSession id).flatMap
          fun e => e.2.federatedForwarders
      value := () }

def federatedForwardersLocked (hub : Hub) : List ForwarderRef :=
  (hub.routes.toList.flatMap fun e => e.2.federatedForwarders) ++
    hub.federatedPresence.toList.flatMap fun e => e.2.forwarder.toList

/-- `Hub.Close`. -/
def close (hub : Hub) : Outcome Unit :=
  if hub.closed then hub.returns ()
  else
    { hub :=
        { hub with
          closed := true
          done := (hub.sessions.toList.map fun e => e.2.ref) ++ hub.done
          sessions := Table.empty
          routes := Table.empty
          presence := Table.empty
          federatedPresence := Table.empty }
      closers := hub.federatedForwardersLocked
      value := () }

/-- `Hub.sessionState`, the table lookup of a receive call. -/
def sessionState (hub : Hub) (id : SessionID) : Except Err SessionState :=
  if hub.closed then .error .closed
  else
    match hub.sessions.get? id with
    | none => .error .sessionClosed
    | some state => if hub.isClosed state.ref then .error .sessionClosed else .ok state

theorem lookupLocalLocked_eq_some {hub hub' : Hub} {peerID : PeerID} {now : Time}
    {presence : Presence}
    (h : hub.lookupLocalLocked peerID now = (hub', some presence)) :
    hub' = hub ∧ ∃ state session, hub.presence.get? peerID = some state ∧
      now < state.expiresAt ∧ hub.sessions.get? state.sessionID = some session ∧
      hub.isClosed session.ref = false ∧
      presence = ⟨peerID, state.sessionID, state.expiresAt, false⟩ := by
  unfold lookupLocalLocked at h
  split at h
  · cases h
  · rename_i state hstate
    simp only at h
    split at h
    · cases h
    · rename_i hlive
      split at h
      · cases h
      · rename_i session hsession
        split at h
        · cases h
        · rename_i hopen
          cases h
          exact ⟨rfl, state, session, hstate, not_not.mp hlive, hsession,
            Bool.eq_false_iff.mpr hopen, rfl⟩

theorem lookupLocalLocked_eq_none {hub hub' : Hub} {peerID : PeerID} {now : Time}
    (h : hub.lookupLocalLocked peerID now = (hub', none)) :
    (hub' = hub ∧ hub.presence.get? peerID = none) ∨
      (hub' = { hub with presence := hub.presence.erase peerID } ∧
        ∃ state, hub.presence.get? peerID = some state ∧
          hub.presenceStale state now = true) := by
  unfold lookupLocalLocked at h
  split at h
  · rename_i hnone
    cases h
    exact .inl ⟨rfl, hnone⟩
  · rename_i state hstate
    simp only at h
    split at h
    · rename_i hdead
      cases h
      refine .inr ⟨rfl, state, hstate, ?_⟩
      unfold presenceStale
      split
      · rfl
      · simp [hdead]
    · split at h
      · rename_i hsession
        cases h
        exact .inr ⟨rfl, state, hstate, by simp [presenceStale, hsession]⟩
      · rename_i session hsession
        split at h
        · rename_i hclosed
          cases h
          exact .inr ⟨rfl, state, hstate, by simp [presenceStale, hsession, hclosed]⟩
        · cases h

theorem lookupFederatedLocked_eq_some {hub hub' : Hub} {peerID : PeerID} {now : Time}
    {state : FederatedPresenceState}
    (h : hub.lookupFederatedLocked peerID now = (hub', some state)) :
    hub' = hub ∧ hub.federatedPresence.get? peerID = some state ∧
      now < state.expiresAt ∧ state.forwarder.isSome := by
  unfold lookupFederatedLocked at h
  split at h
  · cases h
  · rename_i state' hstate
    simp only at h
    split at h
    · cases h
    · rename_i hlive
      split at h
      · cases h
      · rename_i hforwarder
        cases h
        exact ⟨rfl, hstate, not_not.mp hlive, by
          simpa [Option.isSome_iff_ne_none] using hforwarder⟩

theorem lookupFederatedLocked_eq_none {hub hub' : Hub} {peerID : PeerID} {now : Time}
    (h : hub.lookupFederatedLocked peerID now = (hub', none)) :
    (hub' = hub ∧ hub.federatedPresence.get? peerID = none) ∨
      (hub' = { hub with federatedPresence := hub.federatedPresence.erase peerID } ∧
        ∃ state, hub.federatedPresence.get? peerID = some state ∧
          federatedPresenceStale state now = true) := by
  unfold lookupFederatedLocked at h
  split at h
  · rename_i hnone
    cases h
    exact .inl ⟨rfl, hnone⟩
  · rename_i state hstate
    simp only at h
    split at h
    · rename_i hdead
      cases h
      exact .inr ⟨rfl, state, hstate, by simp [federatedPresenceStale, hdead]⟩
    · split at h
      · rename_i hforwarder
        cases h
        refine .inr ⟨rfl, state, hstate, ?_⟩
        unfold federatedPresenceStale
        rw [hforwarder, Bool.true_or]
      · cases h

theorem endpointLiveLocked_local_iff {hub : Hub} {endpoint : RouteEndpoint} {now : Time}
    (hlocal : endpoint.sessionID ≠ "") :
    hub.endpointLiveLocked endpoint now = true ↔
      ∃ state, hub.sessions.get? endpoint.sessionID = some state ∧
        hub.isClosed state.ref = false ∧
        (endpoint.peerID = "" ∨
          ∃ entry, hub.presence.get? endpoint.peerID = some entry ∧
            entry.sessionID = endpoint.sessionID ∧ now < entry.expiresAt ∧
            state.peerID = endpoint.peerID) := by
  unfold endpointLiveLocked
  rw [if_pos hlocal]
  cases hub.sessions.get? endpoint.sessionID with
  | none => simp
  | some state =>
    cases hclosed : hub.isClosed state.ref with
    | true => simp [hclosed]
    | false =>
      by_cases hpeer : endpoint.peerID = ""
      · simp [hclosed, hpeer]
      · cases hub.presence.get? endpoint.peerID with
        | none => simp [hclosed, hpeer]
        | some entry =>
          by_cases hsession : entry.sessionID = endpoint.sessionID
          · by_cases hnow : now < entry.expiresAt
            · simp [hclosed, hpeer, hsession, hnow]
            · simp [hclosed, hpeer, hsession, hnow]
          · simp [hclosed, hpeer, hsession]

theorem endpointLiveLocked_federated_iff {hub : Hub} {endpoint : RouteEndpoint}
    {now : Time} (hremote : endpoint.sessionID = "") :
    hub.endpointLiveLocked endpoint now = true ↔
      endpoint.forwarder.isSome ∧ endpoint.peerID ≠ "" ∧
        ∃ entry, hub.federatedPresence.get? endpoint.peerID = some entry ∧
          entry.forwarder.isSome ∧ now < entry.expiresAt := by
  unfold endpointLiveLocked
  rw [if_neg (not_not.mpr hremote)]
  cases endpoint.forwarder with
  | none => simp
  | some f =>
    by_cases hpeer : endpoint.peerID = ""
    · simp [hpeer]
    · cases hub.federatedPresence.get? endpoint.peerID with
      | none => simp [hpeer]
      | some entry => simp [hpeer]

inductive Rendezvous (hub : Hub) (source : SessionID) (routeID : RouteID)
    (peerID : PeerID) (now : Time) : Outcome (Option Err) → Prop
  | refused (err : Err) : Rendezvous hub source routeID peerID now (hub.returns (some err))
  | repeated {route : RouteState} (hsource : (hub.sessions.get? source).isSome)
      (hroute : hub.routes.get? routeID = some route)
      (hleft : route.left.sessionID = source) (hright : route.right.peerID = peerID) :
      Rendezvous hub source routeID peerID now (hub.returns none)
  | missed {hub₁ hub₂ : Hub} (hrouteID : validateID routeID = none)
      (hpeer : validateID peerID = none) (hsource : (hub.sessions.get? source).isSome)
      (hnew : hub.routes.get? routeID = none)
      (hlocal : hub.lookupLocalLocked peerID now = (hub₁, none))
      (hfederated : hub₁.lookupFederatedLocked peerID now = (hub₂, none)) :
      Rendezvous hub source routeID peerID now (hub₂.returns (some .peerUnavailable))
  | boundLocal {presence : Presence} (hopen : hub.closed = false)
      (hpeer : validateID peerID = none) (hsource : (hub.sessions.get? source).isSome)
      (hnew : hub.routes.get? routeID = none)
      (hlocal : hub.lookupLocalLocked peerID now = (hub, some presence)) :
      Rendezvous hub source routeID peerID now
        (hub.bindRoute source routeID ⟨presence.sessionID, none, peerID⟩)
  | boundFederated {hub' : Hub} {presence : FederatedPresenceState}
      (hopen : hub.closed = false)
      (hpeer : validateID peerID = none) (hsource : (hub.sessions.get? source).isSome)
      (hnew : hub.routes.get? routeID = none)
      (hlocal : hub.lookupLocalLocked peerID now = (hub', none))
      (hfederated : hub'.lookupFederatedLocked peerID now = (hub', some presence)) :
      Rendezvous hub source routeID peerID now
        (hub'.bindRoute source routeID ⟨"", presence.forwarder, peerID⟩)

theorem rendezvous_spec (hub : Hub) (source : SessionID) (routeID : RouteID)
    (peerID : PeerID) (now : Time) :
    Rendezvous hub source routeID peerID now
      (hub.rendezvous source routeID peerID now) := by
  unfold rendezvous
  split
  · exact .refused _
  · rename_i hrouteID
    split
    · exact .refused _
    · rename_i hpeer
      split
      · exact .refused _
      · rename_i hopen
        split
        · exact .refused _
        · rename_i hsource
          have hopen : hub.closed = false := by simpa using hopen
          have hsource : (hub.sessions.get? source).isSome := by
            simpa [Option.isSome_iff_ne_none] using hsource
          split
          · rename_i existing hexisting
            split
            · rename_i hsame
              exact .repeated hsource hexisting hsame.1 hsame.2
            · exact .refused _
          · rename_i hnew
            split
            · rename_i hub' presence hlocal
              obtain rfl := (lookupLocalLocked_eq_some hlocal).1
              exact .boundLocal hopen hpeer hsource hnew hlocal
            · rename_i hub₁ hlocal
              split
              · rename_i hub₂ hfederated
                exact .missed hrouteID hpeer hsource hnew hlocal hfederated
              · rename_i hub₂ presence hfederated
                obtain rfl := (lookupFederatedLocked_eq_some hfederated).1
                exact .boundFederated hopen hpeer hsource hnew hlocal hfederated

end Hub

end Branch.Relay
