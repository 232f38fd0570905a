import Branch.Relay.Sessions

/-!
When a route that a rendezvous reports as bound carries the next send.
-/

namespace Branch.Relay

open Branch.Lib
open Branch.Wss

namespace Hub

/-- The requester's end of a route that it binds now would be live. -/
def requesterLive (hub : Hub) (source : SessionID) (now : Time) : Prop :=
  hub.endpointLiveLocked (hub.routeEndpointForSessionLocked source) now = true

theorem peer_left (route : RouteState) : route.peer route.left.sessionID = some route.right := by
  simp [RouteState.peer]

section Forward

variable {hub : Hub} {source : SessionID} {routeID : RouteID} {payload : Bytes}
  {now : Time} {delivery : Option Delivery} {state : SessionState} {route : RouteState}

theorem forwardLocked_dead (hi : hub.Invariant)
    (hstate : hub.sessions.get? source = some state)
    (hroute : hub.routes.get? routeID = some route) (hleft : route.left.sessionID = source)
    (hdead : hub.routeLiveLocked route now = false) :
    (hub.forwardLocked none source routeID payload now delivery).value =
      .failed .peerUnavailable := by
  have hopen := hi.open_of_session hstate
  have hnotDone := (hi.session _ _ hstate).not_done
  subst hleft
  simp [forwardLocked, hopen, hstate, hnotDone, hroute, peer_left, hdead]

section Live

variable (hi : hub.Invariant) (hstate : hub.sessions.get? source = some state)
  (hroute : hub.routes.get? routeID = some route) (hleft : route.left.sessionID = source)
  (hlive : hub.routeLiveLocked route now = true) (hreplay : state.replayed delivery = none)
  (hquota : state.overQuota hub.config.toConfig payload.length = false)

include hi hstate hroute hleft hlive hreplay hquota

theorem admits_left : hub.Admits source routeID payload now delivery state route.right where
  opened := hi.open_of_session hstate
  session := hstate
  attached := (hi.session _ _ hstate).not_done
  route := ⟨route, hroute, hleft ▸ peer_left route, hlive⟩
  fresh := hreplay
  quota := hquota

theorem forwardLocked_local (hforwarder : route.right.forwarder = none) :
    (hub.forwardLocked none source routeID payload now delivery).value =
        .failed .backpressure ∨
      ∃ s d frame, (hub.forwardLocked none source routeID payload now delivery).value =
        .enqueued s d frame := by
  have hadmits := admits_left hi hstate hroute hleft hlive hreplay hquota
  obtain ⟨hne, _, hattached⟩ : route.right.sessionID ≠ "" ∧ route.right.forwarder = none ∧
      (hub.sessions.get? route.right.sessionID).isSome := by
    rcases (hi.route _ _ hroute).right with h | h
    · exact h
    · rw [hforwarder] at h
      exact absurd h.2 (by simp)
  obtain ⟨destination, hdestination⟩ := Option.isSome_iff_exists.mp hattached
  have hopen := (hi.session _ _ hdestination).not_done
  cases hpush : destination.inbox.push? ⟨routeID, state.peerID, payload⟩ with
  | none =>
    left
    rw [hadmits.full hne hdestination hopen hpush]
    rfl
  | some inbox =>
    right
    rw [hadmits.enqueued hne hdestination hopen hpush]
    exact ⟨_, _, _, rfl⟩

theorem forwardLocked_federated {f : ForwarderRef}
    (hforwarder : route.right.forwarder = some f) :
    (hub.forwardLocked none source routeID payload now delivery).value =
      .forwarding ⟨source, state.ref, routeID, f, payload, state.peerID, delivery⟩ := by
  have hadmits := admits_left hi hstate hroute hleft hlive hreplay hquota
  have hempty : route.right.sessionID = "" := by
    rcases (hi.route _ _ hroute).right with h | h
    · rw [hforwarder] at h
      exact absurd h.2.1 (by simp)
    · exact h.1
  rw [hadmits.forwarding hempty hforwarder]
  rfl

end Live

end Forward

/-- The requester's end of a new binding is judged alike before and after the
lookup that drops an expired entry. -/
theorem endpointLiveLocked_dropped {hub : Hub} {peerID : PeerID} {now : Time}
    (hstale : ∀ entry, hub.presence.get? peerID = some entry → ¬now < entry.expiresAt)
    (endpoint : RouteEndpoint) :
    endpointLiveLocked { hub with presence := hub.presence.erase peerID } endpoint now =
      hub.endpointLiveLocked endpoint now := by
  apply Bool.eq_iff_iff.mpr
  by_cases hlocal : endpoint.sessionID = ""
  · rw [endpointLiveLocked_federated_iff hlocal, endpointLiveLocked_federated_iff hlocal]
  · rw [endpointLiveLocked_local_iff hlocal, endpointLiveLocked_local_iff hlocal]
    apply exists_congr
    intro state
    refine and_congr Iff.rfl (and_congr Iff.rfl (or_congr Iff.rfl ?_))
    apply exists_congr
    intro entry
    constructor
    · rintro ⟨hentry, hrest⟩
      exact ⟨(Table.get?_eq_some_of_get?_erase hentry).2, hrest⟩
    · rintro ⟨hentry, hsession, hnow, hpeer⟩
      refine ⟨?_, hsession, hnow, hpeer⟩
      rw [Table.get?_erase_of_ne, hentry]
      rintro rfl
      exact hstale entry hentry hnow

end Hub

namespace System

def Serves (w : System) (forwarder : Option ForwarderRef) (routeID : RouteID) : Prop :=
  ∀ f object, forwarder = some f → w.forwarders[f]? = some object →
    object.serves routeID = true

/-- The state in which a rendezvous binds a usable route: an existing binding is
live at both ends, a new one at the requester's end, and the forwarder behind a
federated peer serves the route. -/
def RendezvousGuard (w : System) (source : SessionID) (routeID : RouteID)
    (peerID : PeerID) (now : Time) : Prop :=
  match w.hub.routes.get? routeID with
  | some route =>
    w.hub.routeLiveLocked route now = true ∧ w.Serves route.right.forwarder routeID
  | none =>
    w.hub.requesterLive source now ∧
      ((w.hub.lookupLocal peerID now).value = none →
        ∀ entry, w.hub.federatedPresence.get? peerID = some entry →
          w.Serves entry.forwarder routeID)

/-- The source's quota has room for the payload and its replay window does not
hold the delivery. -/
structure SendAvailable (w : System) (source : SessionID) (buffer : Nat)
    (delivery : Delivery) : Prop where
  id : validateID delivery.id = none
  size : (((w.buffers.get? buffer).getD []).length : Int) ≤ w.hub.config.maxFrameBytes
  quota : ∀ state, w.hub.sessions.get? source = some state →
    state.overQuota w.hub.config.toConfig ((w.buffers.get? buffer).getD []).length = false
  fresh : ∀ state, w.hub.sessions.get? source = some state →
    state.replayed (some delivery) = none

theorem SendAvailable.of_check {w : System} {source : SessionID} {buffer : Nat}
    {delivery : Delivery} (hid : validateID delivery.id = none)
    (hsize : (((w.buffers.get? buffer).getD []).length : Int) ≤ w.hub.config.maxFrameBytes)
    (hstate : (w.hub.sessions.get? source).all (fun state =>
      !state.overQuota w.hub.config.toConfig ((w.buffers.get? buffer).getD []).length &&
        (state.replayed (some delivery)).isNone) = true) :
    SendAvailable w source buffer delivery := by
  refine ⟨hid, hsize, ?_, ?_⟩
  · intro state h
    rw [h] at hstate
    simpa using (Bool.and_eq_true_iff.mp hstate).1
  · intro state h
    rw [h] at hstate
    simpa using (Bool.and_eq_true_iff.mp hstate).2

/-- A rendezvous followed at once by a delivery on its route, with a remote relay
that accepts the frame. -/
def sendAfterRendezvous (w : System) (source : SessionID) (routeID : RouteID)
    (peerID : PeerID) (now : Time) (buffer : Nat) (delivery : Delivery) : System :=
  Trace.run step w
    [.rendezvous source routeID peerID now,
      .send source routeID buffer (some delivery) now none,
      .sendLocked w.sends.length none,
      .forwardReturns w.sends.length ⟨none, none⟩,
      .sendCompleted w.sends.length]

def FailsUnrouted (w : System) (call : Nat) : Prop :=
  ∃ c, w.sends[call]? = some c ∧
    (c.stage = .failed .peerUnavailable ∨ c.stage = .failed .noRoute)

theorem serves_some_iff {w : System} {f : ForwarderRef} {routeID : RouteID} :
    w.Serves (some f) routeID ↔
      ∀ object, w.forwarders[f]? = some object → object.serves routeID = true := by
  constructor
  · intro h object hobject
    exact h f object rfl hobject
  · rintro h _ object ⟨⟩ hobject
    exact h object hobject

section ImmediateSend

variable {w : System} {call : Nat} {c : SendCall}

def finish (w : System) (call : Nat) : System :=
  Trace.run step w
    [.sendLocked call none, .forwardReturns call ⟨none, none⟩, .sendCompleted call]

theorem finish_of_failed (hc : w.sends[call]? = some c) (hstage : c.stage = .entered)
    {err : Err}
    (h : (w.hub.forwardLocked none c.source c.routeID c.payload c.now c.delivery).value =
      .failed err) :
    (w.finish call).sends[call]? = some { c with stage := .failed err } := by
  have hlocked : (w.sendLocked call none).sends[call]? =
      some { c with stage := .failed err } := by
    simp only [sendLocked, hc, hstage, h]
    exact getElem?_setSend hc _
  simp [finish, step, forwardReturns, sendCompleted, hlocked]

theorem finish_of_enqueued (hc : w.sends[call]? = some c) (hstage : c.stage = .entered)
    {source destination : SessionRef} {frame : Frame}
    (h : (w.hub.forwardLocked none c.source c.routeID c.payload c.now c.delivery).value =
      .enqueued source destination frame) :
    (w.finish call).sends[call]? = some { c with stage := .sent source } := by
  have hlocked : (w.sendLocked call none).sends[call]? =
      some { c with stage := .sent source } := by
    simp only [sendLocked, hc, hstage, h]
    exact getElem?_setSend hc _
  simp [finish, step, forwardReturns, sendCompleted, hlocked]

theorem finish_of_forwarding (hc : w.sends[call]? = some c) (hstage : c.stage = .entered)
    {pending : PendingForward}
    (h : (w.hub.forwardLocked none c.source c.routeID c.payload c.now c.delivery).value =
      .forwarding pending) {object : ForwarderObject}
    (hobject : w.forwarders[pending.forwarder]? = some object) :
    (w.finish call).sends[call]? =
      some { c with
        stage :=
          if object.serves pending.routeID then .sent pending.sourceRef
          else .failed .peerUnavailable } := by
  have hlocked := sendLocked_forwarding hc hstage h
  generalize (w.routeSerials.get? c.routeID).getD 0 = serial at hlocked
  have hforwarding : (w.sendLocked call none).sends[call]? =
      some { c with stage := .forwarding pending serial } := by
    rw [hlocked]
    exact getElem?_setSend hc _
  have hforwarders : (w.sendLocked call none).forwarders[pending.forwarder]? =
      some object := by
    rw [hlocked]
    exact hobject
  have hanswered : ((w.sendLocked call none).forwardReturns call ⟨none, none⟩).sends[call]? =
      some { c with
        stage := .answered pending serial
          (if object.serves pending.routeID then none else some .peerUnavailable) } := by
    rw [forwardReturns, hforwarding]
    simp only [hforwarders, ForwarderObject.forward_accepted]
    exact getElem?_setSend hforwarding _
  change (((w.sendLocked call none).forwardReturns call ⟨none, none⟩).sendCompleted
    call).sends[call]? = _
  generalize (w.sendLocked call none).forwardReturns call ⟨none, none⟩ = w' at hanswered ⊢
  rw [sendCompleted, hanswered]
  cases object.serves pending.routeID with
  | true => exact getElem?_setSend hanswered _
  | false => exact getElem?_setSend hanswered _

theorem finish_of_dangling (hc : w.sends[call]? = some c) (hstage : c.stage = .entered)
    {pending : PendingForward}
    (h : (w.hub.forwardLocked none c.source c.routeID c.payload c.now c.delivery).value =
      .forwarding pending) (hobject : w.forwarders[pending.forwarder]? = none) :
    ∃ serial, (w.finish call).sends[call]? =
      some { c with stage := .forwarding pending serial } := by
  have hlocked := sendLocked_forwarding hc hstage h
  generalize (w.routeSerials.get? c.routeID).getD 0 = serial at hlocked
  have hforwarding : (w.sendLocked call none).sends[call]? =
      some { c with stage := .forwarding pending serial } := by
    rw [hlocked]
    exact getElem?_setSend hc _
  have hforwarders : (w.sendLocked call none).forwarders[pending.forwarder]? = none := by
    rw [hlocked]
    exact hobject
  refine ⟨serial, ?_⟩
  simp [finish, step, forwardReturns, sendCompleted, hforwarding, hforwarders]

end ImmediateSend

section Rendezvous

variable {w : System} {source : SessionID} {routeID : RouteID} {peerID : PeerID} {now : Time}

structure Bound (w : System) (source : SessionID) (routeID : RouteID) (peerID : PeerID)
    (now : Time) (hub : Hub) (route : RouteState) : Prop where
  config : hub.config = w.hub.config
  sessions : hub.sessions = w.hub.sessions
  filed : hub.routes.get? routeID = some route
  left : route.left.sessionID = source
  usable : hub.routeLiveLocked route now = true ∧ w.Serves route.right.forwarder routeID ↔
    w.RendezvousGuard source routeID peerID now

theorem bound_local (hi : w.Invariant) {presence : Presence}
    (hnew : w.hub.routes.get? routeID = none)
    (hlocal : w.hub.lookupLocalLocked peerID now = (w.hub, some presence))
    (hsource : (w.hub.sessions.get? source).isSome) :
    ∃ route, Bound w source routeID peerID now
      (w.hub.bindRoute source routeID ⟨presence.sessionID, none, peerID⟩).hub route := by
  rcases Hub.lookupLocalLocked_eq_some hlocal with
    ⟨_, entry, session, hentry, hnow, hsession, hopen, rfl⟩
  obtain ⟨state, hstate⟩ := Option.isSome_iff_exists.mp hsource
  refine ⟨_, rfl, rfl, Table.get?_insert_self _ _ _, ?_, ?_⟩
  · simp [Hub.routeEndpointForSessionLocked, hstate]
  · have hright : w.hub.endpointLiveLocked ⟨entry.sessionID, none, peerID⟩ now = true := by
      rw [Hub.endpointLiveLocked_local_iff (hi.hub.session _ _ hsession).id_ne]
      obtain ⟨_, owner, howner, hpeerID⟩ := hi.hub.presence peerID entry hentry
      rw [hsession] at howner
      cases howner
      exact ⟨session, hsession, hopen, .inr ⟨entry, hentry, rfl, hnow, hpeerID⟩⟩
    have hvalue : (w.hub.lookupLocal peerID now).value ≠ none := by
      simp [Hub.lookupLocal, hlocal]
    unfold RendezvousGuard
    rw [hnew]
    constructor
    · rintro ⟨hlive, _⟩
      exact ⟨(Bool.and_eq_true_iff.mp hlive).1, fun h => absurd h hvalue⟩
    · rintro ⟨hleft, _⟩
      refine ⟨Bool.and_eq_true_iff.mpr ⟨hleft, hright⟩, ?_⟩
      rintro f object ⟨⟩

theorem bound_federated (hi : w.Invariant) {hub : Hub} {presence : FederatedPresenceState}
    (hpeer : validateID peerID = none) (hnew : w.hub.routes.get? routeID = none)
    (hlocal : w.hub.lookupLocalLocked peerID now = (hub, none))
    (hfederated : hub.lookupFederatedLocked peerID now = (hub, some presence))
    (hsource : (w.hub.sessions.get? source).isSome) :
    ∃ route, Bound w source routeID peerID now
      (hub.bindRoute source routeID ⟨"", presence.forwarder, peerID⟩).hub route := by
  rcases Hub.lookupFederatedLocked_eq_some hfederated with ⟨_, hentry, hnow, hforwarder⟩
  obtain ⟨state, hstate⟩ := Option.isSome_iff_exists.mp hsource
  have hne : peerID ≠ "" := by
    rintro rfl
    simp [validateID] at hpeer
  have hvalue : (w.hub.lookupLocal peerID now).value = none := by
    simp [Hub.lookupLocal, hlocal]
  -- The local lookup may drop one expired presence entry, and nothing else.
  have hdropped : hub.config = w.hub.config ∧ hub.sessions = w.hub.sessions ∧
      hub.federatedPresence = w.hub.federatedPresence ∧
      ∀ endpoint, hub.endpointLiveLocked endpoint now =
        w.hub.endpointLiveLocked endpoint now := by
    rcases Hub.lookupLocalLocked_eq_none hlocal with ⟨rfl, _⟩ | ⟨rfl, entry, hget, hstale⟩
    · exact ⟨rfl, rfl, rfl, fun _ => rfl⟩
    · refine ⟨rfl, rfl, rfl, Hub.endpointLiveLocked_dropped ?_⟩
      intro entry' hget'
      rw [hget] at hget'
      cases hget'
      exact (hi.hub.presenceStale_iff hget now).mp hstale
  rcases hdropped with ⟨hconfig, hsessions, hfederatedPresence, hlive⟩
  refine ⟨_, hconfig, hsessions, Table.get?_insert_self _ _ _, ?_, ?_⟩
  · simp [Hub.routeEndpointForSessionLocked, hsessions, hstate]
  · have hright : hub.endpointLiveLocked ⟨"", presence.forwarder, peerID⟩ now = true := by
      rw [Hub.endpointLiveLocked_federated_iff rfl]
      exact ⟨hforwarder, hne, presence, hentry, hforwarder, hnow⟩
    have hleft : hub.endpointLiveLocked (hub.routeEndpointForSessionLocked source) now =
        w.hub.endpointLiveLocked (w.hub.routeEndpointForSessionLocked source) now := by
      rw [hlive]
      simp [Hub.routeEndpointForSessionLocked, hsessions]
    unfold RendezvousGuard
    rw [hnew]
    constructor
    · rintro ⟨hroute, hserves⟩
      refine ⟨?_, ?_⟩
      · rw [Hub.requesterLive, ← hleft]
        exact (Bool.and_eq_true_iff.mp hroute).1
      · intro _ entry hget
        rw [← hfederatedPresence, hentry] at hget
        cases hget
        exact hserves
    · rintro ⟨hrequester, hserves⟩
      rw [Hub.requesterLive, ← hleft] at hrequester
      exact ⟨Bool.and_eq_true_iff.mpr ⟨hrequester, hright⟩,
        hserves hvalue presence (hfederatedPresence ▸ hentry)⟩

theorem rendezvous_bound (hi : w.Invariant)
    (hok : (w.hub.rendezvous source routeID peerID now).value = none) :
    ∃ route, Bound w source routeID peerID now
      (w.hub.rendezvous source routeID peerID now).hub route := by
  have hspec := Hub.rendezvous_spec w.hub source routeID peerID now
  generalize w.hub.rendezvous source routeID peerID now = o at hspec hok ⊢
  cases hspec with
  | refused err => cases hok
  | missed => cases hok
  | @repeated route hsource hroute hleft hright =>
    refine ⟨route, rfl, rfl, hroute, hleft, ?_⟩
    simp only [RendezvousGuard, hroute]
    exact Iff.rfl
  | boundLocal _ _ hsource hnew hlocal => exact bound_local hi hnew hlocal hsource
  | boundFederated _ hpeer hsource hnew hlocal hfederated =>
    exact bound_federated hi hpeer hnew hlocal hfederated hsource

end Rendezvous

/-- A send that finds its route filed with its own session at the left end fails
for want of a route or peer exactly when the route is dead or its forwarder does
not serve it. -/
theorem failsUnrouted_finish_iff {w : System} (hi : w.hub.Invariant) {call : Nat}
    {c : SendCall} (hc : w.sends[call]? = some c) (hstage : c.stage = .entered)
    {state : SessionState} {route : RouteState}
    (hstate : w.hub.sessions.get? c.source = some state)
    (hroute : w.hub.routes.get? c.routeID = some route)
    (hleft : route.left.sessionID = c.source)
    (hreplay : state.replayed c.delivery = none)
    (hquota : state.overQuota w.hub.config.toConfig c.payload.length = false) :
    FailsUnrouted (w.finish call) call ↔
      ¬(w.hub.routeLiveLocked route c.now = true ∧
        w.Serves route.right.forwarder c.routeID) := by
  cases hlive : w.hub.routeLiveLocked route c.now with
  | false =>
    have hvalue : (w.hub.forwardLocked none c.source c.routeID c.payload c.now
        c.delivery).value = .failed .peerUnavailable :=
      Hub.forwardLocked_dead hi hstate hroute hleft hlive
    have hfinal := finish_of_failed hc hstage hvalue
    simp [FailsUnrouted, hfinal]
  | true =>
    cases hforwarder : route.right.forwarder with
    | none =>
      have hserves : w.Serves none c.routeID := by
        rintro f object ⟨⟩
      rcases Hub.forwardLocked_local hi hstate hroute hleft hlive hreplay hquota hforwarder
        with hvalue | ⟨s, d, frame, hvalue⟩
      · have hfinal := finish_of_failed hc hstage hvalue
        simp [FailsUnrouted, hfinal, hserves]
      · have hfinal := finish_of_enqueued hc hstage hvalue
        simp [FailsUnrouted, hfinal, hserves]
    | some f =>
      have hvalue := Hub.forwardLocked_federated hi hstate hroute hleft hlive hreplay hquota
        hforwarder
      rw [serves_some_iff]
      cases hobject : w.forwarders[f]? with
      | none =>
        obtain ⟨serial, hfinal⟩ := finish_of_dangling hc hstage hvalue hobject
        simp [FailsUnrouted, hfinal]
      | some object =>
        have hfinal := finish_of_forwarding hc hstage hvalue hobject
        cases hserves : object.serves c.routeID with
        | true => simp [FailsUnrouted, hfinal, hserves]
        | false => simp [FailsUnrouted, hfinal, hserves]

/-- After a successful rendezvous in any reachable state, the requester's next
delivery is routed exactly when the guard held. -/
theorem rendezvous_usable_iff (config : ValidConfig) (events : List Event)
    (source : SessionID) (routeID : RouteID) (peerID : PeerID) (now : Time) (buffer : Nat)
    (delivery : Delivery)
    (hok : ((after config events).hub.rendezvous source routeID peerID now).value = none)
    (havailable : SendAvailable (after config events) source buffer delivery) :
    ¬FailsUnrouted (sendAfterRendezvous (after config events) source routeID peerID now
        buffer delivery) (after config events).sends.length ↔
      RendezvousGuard (after config events) source routeID peerID now := by
  have hi := after_invariant config events
  generalize after config events = w at hi hok havailable ⊢
  obtain ⟨route, hbound⟩ := rendezvous_bound hi hok
  have hhub := hi.hub.rendezvous source routeID peerID now
  generalize hbinding : w.hub.rendezvous source routeID peerID now = o at hbound hhub hok
  -- The state in which the send takes the lock, and its call.
  let payload := (w.buffers.get? buffer).getD []
  let c : SendCall := ⟨source, routeID, some delivery, now, payload, .entered⟩
  let w' := ((w.settleBinding routeID o).observe now).step
    (.send source routeID buffer (some delivery) now none)
  have hhub' : w'.hub = o.hub := by simp [w', step, send]
  have hforwarders : w'.forwarders = w.forwarders := by simp [w', step, send]
  have hc : w'.sends[w.sends.length]? = some c := by
    have hentry : sendEntryError o.hub.config.toConfig (some delivery) none payload = none := by
      have hsize := havailable.size
      simp [sendEntryError, havailable.id, hbound.config, payload, hsize]
    simp [w', step, send, c, payload, hentry]
  have hrun : sendAfterRendezvous w source routeID peerID now buffer delivery =
      w'.finish w.sends.length := by
    simp [sendAfterRendezvous, finish, w', step, hbinding]
  obtain ⟨state, hstate⟩ : ∃ state, o.hub.sessions.get? source = some state := by
    have hattached := (hhub.route _ _ hbound.filed).left_attached
    rw [hbound.left] at hattached
    exact Option.isSome_iff_exists.mp hattached
  have hold : w.hub.sessions.get? source = some state := hbound.sessions ▸ hstate
  rw [hrun, failsUnrouted_finish_iff (hhub' ▸ hhub) hc rfl (hhub' ▸ hstate)
    (hhub' ▸ hbound.filed) hbound.left (havailable.fresh state hold)
    (by rw [hhub', hbound.config]; exact havailable.quota state hold), not_not, hhub',
    ← hbound.usable]
  simp only [Serves, hforwarders]
  exact Iff.rfl

section Runs

def sampleDelivery : Delivery := ⟨1, "d", Vector.replicate 32 0⟩

theorem fresh_rendezvous_usable :
    ¬FailsUnrouted (sendAfterRendezvous (after defaultValidConfig
      [.attach "a", .attach "b", .announcePresence "b" "p" 0]) "a" "r" "p" 0 0
        sampleDelivery) 0 :=
  (rendezvous_usable_iff defaultValidConfig
    [.attach "a", .attach "b", .announcePresence "b" "p" 0] "a" "r" "p" 0 0 sampleDelivery
    (by decide) (.of_check (by decide) (by decide) (by decide))).mpr
      ⟨by unfold Hub.requesterLive; decide, fun h => absurd h (by decide)⟩

/-- The repeat of a rendezvous succeeds although its target has announced another
peer id since. -/
theorem repeated_rendezvous_unusable :
    ¬∀ (config : ValidConfig) (events : List Event) (source : SessionID)
      (routeID : RouteID) (peerID : PeerID) (now : Time) (buffer : Nat)
      (delivery : Delivery),
      ((after config events).hub.rendezvous source routeID peerID now).value = none →
      SendAvailable (after config events) source buffer delivery →
      ¬FailsUnrouted (sendAfterRendezvous (after config events) source routeID peerID now
        buffer delivery) (after config events).sends.length := by
  intro h
  refine h defaultValidConfig
    [.attach "a", .attach "b", .announcePresence "b" "p" 0, .rendezvous "a" "r" "p" 0,
      .announcePresence "b" "q" 1] "a" "r" "p" 1 0 sampleDelivery (by decide)
    (.of_check (by decide) (by decide) (by decide)) ?_
  exact ⟨⟨"a", "r", some sampleDelivery, 1, [], .failed .peerUnavailable⟩, by decide,
    .inl rfl⟩

end Runs

end System

end Branch.Relay
