import Branch.Relay.Sessions

/-!
What one step does to the route table, and the clean-up after a failed forward.
-/

namespace Branch.Relay

open Branch.Lib
open Branch.Wss

namespace Hub

/-- Routes only disappear, and the forwarders of those that do are closed. -/
structure RoutesShrunk (hub : Hub) (closers : List ForwarderRef) (hub' : Hub) : Prop where
  kept : ∀ r route, hub'.routes.get? r = some route → hub.routes.get? r = some route
  dropped : ∀ r route, hub.routes.get? r = some route →
    hub'.routes.get? r = some route ∨ ∀ f ∈ route.federatedForwarders, f ∈ closers

theorem RoutesShrunk.of_eq {hub hub' : Hub} {closers : List ForwarderRef}
    (h : hub'.routes = hub.routes) : RoutesShrunk hub closers hub' := by
  refine ⟨?_, ?_⟩
  · intro r route hr
    rwa [h] at hr
  · intro r route hr
    left
    rwa [h]

theorem RoutesShrunk.of_erase {hub hub' : Hub} {closers : List ForwarderRef}
    {routeID : RouteID} {route : RouteState} (hroute : hub.routes.get? routeID = some route)
    (h : hub'.routes = hub.routes.erase routeID)
    (hclosers : ∀ f ∈ route.federatedForwarders, f ∈ closers) :
    RoutesShrunk hub closers hub' := by
  refine ⟨?_, ?_⟩
  · intro r route' hr
    rw [h] at hr
    exact (Table.get?_eq_some_of_get?_erase hr).2
  · intro r route' hr
    by_cases hid : r = routeID
    · right
      rw [hid, hroute] at hr
      cases hr
      exact hclosers
    · left
      rw [h, Table.get?_erase_of_ne _ hid, hr]

theorem RoutesShrunk.of_filter {hub hub' : Hub} {closers : List ForwarderRef}
    {p : RouteState → Bool} (h : hub'.routes = hub.routes.filter fun _ route => p route)
    (hclosers : ∀ r route, hub.routes.get? r = some route → p route = false →
      ∀ f ∈ route.federatedForwarders, f ∈ closers) :
    RoutesShrunk hub closers hub' := by
  refine ⟨?_, ?_⟩
  · intro r route hr
    rw [h] at hr
    exact (Table.get?_filter_eq_some.mp hr).1
  · intro r route hr
    cases hp : p route with
    | true =>
      left
      rw [h]
      exact Table.get?_filter_eq_some.mpr ⟨hr, hp⟩
    | false => exact .inr (hclosers r route hr hp)

theorem attach_routes (hub : Hub) (id : SessionID) :
    RoutesShrunk hub [] (hub.attach id).hub := by
  unfold attach
  repeat' split
  all_goals exact .of_eq rfl

theorem announceFederatedPresence_routes (hub : Hub) (peerID : PeerID)
    (forwarder : Option ForwarderRef) (now : Time) :
    RoutesShrunk hub [] (hub.announceFederatedPresence peerID forwarder now).hub := by
  unfold announceFederatedPresence
  repeat' split
  all_goals exact .of_eq rfl

theorem announcePresence_routes (hub : Hub) (id : SessionID) (peerID : PeerID)
    (now : Time) : RoutesShrunk hub [] (hub.announcePresence id peerID now).hub := by
  unfold announcePresence
  repeat' split
  all_goals exact .of_eq rfl

theorem heartbeat_routes (hub : Hub) (id : SessionID) (now : Time) :
    RoutesShrunk hub [] (hub.heartbeat id now).hub := by
  unfold heartbeat
  repeat' split
  all_goals exact .of_eq rfl

theorem lookupLocalLocked_routes (hub : Hub) (peerID : PeerID) (now : Time) :
    (hub.lookupLocalLocked peerID now).1.routes = hub.routes := by
  unfold lookupLocalLocked
  simp only
  repeat' split
  all_goals rfl

theorem lookupFederatedLocked_routes (hub : Hub) (peerID : PeerID) (now : Time) :
    (hub.lookupFederatedLocked peerID now).1.routes = hub.routes := by
  unfold lookupFederatedLocked
  simp only
  repeat' split
  all_goals rfl

theorem lookupLocked_routes (hub : Hub) (peerID : PeerID) (now : Time) :
    (hub.lookupLocked peerID now).1.routes = hub.routes := by
  have hlocal := hub.lookupLocalLocked_routes peerID now
  unfold lookupLocked
  split
  · rename_i h
    rwa [h] at hlocal
  · rename_i hub' h
    rw [h] at hlocal
    have hfederated := hub'.lookupFederatedLocked_routes peerID now
    split
    · rename_i h'
      rw [h'] at hfederated
      exact hfederated.trans hlocal
    · rename_i h'
      rw [h'] at hfederated
      exact hfederated.trans hlocal

theorem sweepExpired_routes (hub : Hub) (now : Time) :
    RoutesShrunk hub (hub.sweepExpired now).closers (hub.sweepExpired now).hub := by
  refine .of_filter (p := fun route => (hub.sweepPresence now).routeLiveLocked route now)
    rfl ?_
  intro r route hr hdead f hf
  apply List.mem_append_right
  apply List.mem_flatMap.mpr
  refine ⟨(r, route), List.mem_filter.mpr ⟨Table.mem_toList_iff.mpr hr, ?_⟩, hf⟩
  rw [hdead]
  rfl

theorem detach_routes (hub : Hub) (id : SessionID) :
    RoutesShrunk hub (hub.detach id).closers (hub.detach id).hub := by
  unfold detach
  split
  · exact .of_eq rfl
  · refine .of_filter (p := fun route => !route.containsSession id) rfl ?_
    intro r route hr hnames f hf
    apply List.mem_flatMap.mpr
    refine ⟨(r, route), List.mem_filter.mpr ⟨Table.mem_toList_iff.mpr hr, ?_⟩, hf⟩
    simpa using hnames

theorem close_routes (hub : Hub) :
    RoutesShrunk hub hub.close.closers hub.close.hub := by
  unfold close
  split
  · exact .of_eq rfl
  · refine ⟨?_, ?_⟩
    · intro r route hr
      simp at hr
    · intro r route hr
      right
      intro f hf
      apply List.mem_append_left
      exact List.mem_flatMap.mpr ⟨(r, route), Table.mem_toList_iff.mpr hr, hf⟩

theorem Invariant.target_attached {hub : Hub} (hi : hub.Invariant) {routeID : RouteID}
    {route : RouteState} {source : SessionID} {target : RouteEndpoint}
    (hroute : hub.routes.get? routeID = some route) (hpeer : route.peer source = some target)
    (hlocal : target.sessionID ≠ "") :
    ∃ destination, hub.sessions.get? target.sessionID = some destination ∧
      hub.isClosed destination.ref = false := by
  have hok := hi.route _ _ hroute
  have hattached : (hub.sessions.get? target.sessionID).isSome := by
    unfold RouteState.peer at hpeer
    split at hpeer
    · cases hpeer
      rcases hok.right with ⟨_, _, h⟩ | ⟨h, _⟩
      · exact h
      · exact absurd h hlocal
    · split at hpeer
      · cases hpeer
        exact hok.left_attached
      · cases hpeer
  obtain ⟨destination, hdestination⟩ := Option.isSome_iff_exists.mp hattached
  exact ⟨destination, hdestination, (hi.session _ _ hdestination).not_done⟩

theorem forwardLocked_routes {hub : Hub} (hi : hub.Invariant) (ctxErr : Option Err)
    (source : SessionID) (routeID : RouteID) (payload : Bytes) (now : Time)
    (delivery : Option Delivery) :
    RoutesShrunk hub (hub.forwardLocked ctxErr source routeID payload now delivery).closers
      (hub.forwardLocked ctxErr source routeID payload now delivery).hub := by
  have hspec := forwardLocked_spec hub ctxErr source routeID payload now delivery
  generalize hub.forwardLocked ctxErr source routeID payload now delivery = o at hspec ⊢
  cases hspec with
  | refused err => exact .of_eq rfl
  | dead hroute => exact .of_erase hroute rfl (fun _ h => h)
  | orphaned hroute hpeer hlocal hgone =>
    obtain ⟨destination, hdestination, hopen⟩ := hi.target_attached hroute hpeer hlocal
    rw [hgone destination hdestination] at hopen
    cases hopen
  | full => exact .of_eq rfl
  | enqueued => exact .of_eq rfl
  | forwarding => exact .of_eq rfl

theorem rollbackUsageLocked_routes (hub : Hub) (sessionID : SessionID)
    (expected : SessionRef) (payloadBytes : Nat) :
    (hub.rollbackUsageLocked sessionID expected payloadBytes).routes = hub.routes := by
  unfold rollbackUsageLocked
  repeat' split
  all_goals rfl

theorem rememberForwarded_routes (hub : Hub) (pending : PendingForward) :
    (hub.rememberForwarded pending).routes = hub.routes := by
  unfold rememberForwarded
  repeat' split
  all_goals rfl

theorem forwardCompleted_routes (hub : Hub) (pending : PendingForward)
    (err : Option Err) :
    RoutesShrunk hub (hub.forwardCompleted pending err).closers
      (hub.forwardCompleted pending err).hub := by
  cases err with
  | none => exact .of_eq (hub.rememberForwarded_routes pending)
  | some err =>
    have hrolled := hub.rollbackUsageLocked_routes pending.source pending.sourceRef
      pending.payload.length
    unfold forwardCompleted
    simp only
    split
    · split
      · exact .of_eq hrolled
      · rename_i failedRoute hroute
        rw [hrolled] at hroute
        exact .of_erase hroute (by simp only [hrolled]) (fun _ h => h)
    · exact .of_eq hrolled

theorem deliverFromFederated_routes (hub : Hub) (ctxErr : Option Err) (routeID : RouteID)
    (payload : Bytes) (senderPeerID : PeerID) :
    RoutesShrunk hub (hub.deliverFromFederated ctxErr routeID payload senderPeerID).closers
      (hub.deliverFromFederated ctxErr routeID payload senderPeerID).hub := by
  have hspec := deliverFromFederated_spec hub ctxErr routeID payload senderPeerID
  generalize hub.deliverFromFederated ctxErr routeID payload senderPeerID = o at hspec ⊢
  cases hspec with
  | refused err => exact .of_eq rfl
  | orphaned hroute => exact .of_erase hroute rfl (fun _ h => h)
  | full => exact .of_eq rfl
  | enqueued => exact .of_eq rfl

/-- The operations that bind a route file one new route or none. -/
inductive RouteBound (hub : Hub) (routeID : RouteID) (hub' : Hub) : Prop
  | unchanged (h : hub'.routes = hub.routes)
  | filed (route : RouteState) (hnew : hub.routes.get? routeID = none)
      (h : hub'.routes = hub.routes.insert routeID route)

theorem pair_routes (hub : Hub) (routeID : RouteID) (left right : SessionID) :
    RouteBound hub routeID (hub.pair routeID left right).hub := by
  unfold pair
  split
  · exact .unchanged rfl
  · split
    · exact .unchanged rfl
    · split
      · exact .unchanged rfl
      · split
        · exact .unchanged rfl
        · rename_i hfree
          split
          · exact .unchanged rfl
          · split
            · exact .unchanged rfl
            · exact .filed _ (Option.not_isSome_iff_eq_none.mp hfree) rfl

theorem rendezvous_routes (hub : Hub) (source : SessionID) (routeID : RouteID)
    (peerID : PeerID) (now : Time) :
    RouteBound hub routeID (hub.rendezvous source routeID peerID now).hub := by
  have hlookup := hub.lookupLocalLocked_routes peerID now
  have hspec := rendezvous_spec hub source routeID peerID now
  generalize hub.rendezvous source routeID peerID now = o at hspec ⊢
  cases hspec with
  | refused err => exact .unchanged rfl
  | repeated => exact .unchanged rfl
  | @missed hub₁ hub₂ _ _ _ _ hlocal hfederated =>
    have hlookup' := hub₁.lookupFederatedLocked_routes peerID now
    rw [hfederated] at hlookup'
    rw [hlocal] at hlookup
    exact .unchanged (hlookup'.trans hlookup)
  | boundLocal _ _ _ hnew => exact .filed _ hnew rfl
  | @boundFederated hub' presence _ _ _ hnew hlocal =>
    replace hlookup : hub'.routes = hub.routes := by rwa [hlocal] at hlookup
    exact .filed ⟨hub'.routeEndpointForSessionLocked source, ⟨"", presence.forwarder, peerID⟩⟩
      hnew (by simp only [bindRoute, hlookup])

end Hub

namespace System

/-- Everything a step can do to the route table and its serials. -/
inductive RoutesStep (w : System) : System → Prop
  | shrunk {w' : System} (closers : List ForwarderRef)
      (hhub : Hub.RoutesShrunk w.hub closers w'.hub)
      (hclosing : ∀ f ∈ closers, f ∈ w'.closing)
      (hserials : w'.routeSerials = w.routeSerials) (hbound : w'.bound = w.bound) :
      RoutesStep w w'
  | bound {w' : System} (routeID : RouteID) (route : RouteState)
      (hnew : w.hub.routes.get? routeID = none)
      (hroutes : w'.hub.routes = w.hub.routes.insert routeID route)
      (hserials : w'.routeSerials = w.routeSerials.insert routeID w.bound)
      (hbound : w'.bound = w.bound + 1) : RoutesStep w w'

theorem RoutesStep.same {w w' : System} (hroutes : w'.hub.routes = w.hub.routes)
    (hserials : w'.routeSerials = w.routeSerials) (hbound : w'.bound = w.bound) :
    RoutesStep w w' :=
  .shrunk [] (.of_eq hroutes) (fun _ h => absurd h List.not_mem_nil) hserials hbound

theorem RoutesStep.settled {α : Type} {w w' : System} {o : Outcome α}
    (hhub : Hub.RoutesShrunk w.hub o.closers o.hub) (hhub' : w'.hub = o.hub)
    (hclosing : w'.closing = o.closers ++ w.closing)
    (hserials : w'.routeSerials = w.routeSerials) (hbound : w'.bound = w.bound) :
    RoutesStep w w' := by
  refine .shrunk o.closers (hhub' ▸ hhub) ?_ hserials hbound
  intro f hf
  rw [hclosing]
  exact List.mem_append_left _ hf

theorem settleBinding_routes {w : System} {routeID : RouteID} {o : Outcome (Option Err)}
    (h : Hub.RouteBound w.hub routeID o.hub) :
    RoutesStep w (w.settleBinding routeID o) := by
  unfold settleBinding
  cases h with
  | unchanged h =>
    rw [if_neg]
    · exact .same h rfl rfl
    · rw [h]
      rintro ⟨hnone, hsome⟩
      rw [Option.isNone_iff_eq_none.mp hnone] at hsome
      cases hsome
  | filed route hnew h =>
    rw [if_pos ⟨by rw [hnew]; rfl, by rw [h]; simp⟩]
    exact .bound routeID route hnew h rfl rfl

theorem attach_routes (w : System) (id : SessionID) : RoutesStep w (w.attach id) := by
  have hhub := w.hub.attach_routes id
  unfold attach
  simp only
  split
  · exact .shrunk [] hhub (fun _ h => absurd h List.not_mem_nil) rfl rfl
  · exact .shrunk [] hhub (fun _ h => absurd h List.not_mem_nil) rfl rfl

theorem sendLocked_routes {w : System} (hi : w.hub.Invariant) (call : Nat)
    (ctxErr : Option Err) : RoutesStep w (w.sendLocked call ctxErr) := by
  unfold sendLocked
  split
  · exact .same rfl rfl rfl
  · rename_i c _
    split
    · have hhub :=
        Hub.forwardLocked_routes hi ctxErr c.source c.routeID c.payload c.now c.delivery
      simp only
      split
      · exact .settled hhub rfl rfl rfl rfl
      · exact .settled hhub rfl rfl rfl rfl
      · exact .settled hhub rfl rfl rfl rfl
    · exact .same rfl rfl rfl

theorem forwardReturns_routes (w : System) (call : Nat) (reply : ForwardReply) :
    RoutesStep w (w.forwardReturns call reply) := by
  unfold forwardReturns
  repeat' split
  all_goals exact .same rfl rfl rfl

theorem sendCompleted_routes (w : System) (call : Nat) :
    RoutesStep w (w.sendCompleted call) := by
  unfold sendCompleted
  split
  · exact .same rfl rfl rfl
  · split
    · rename_i pending serial err _
      have hhub := w.hub.forwardCompleted_routes pending err
      simp only
      split
      · exact .settled hhub rfl rfl rfl rfl
      · exact .settled hhub rfl rfl rfl rfl
    · exact .same rfl rfl rfl

theorem deliverFromFederated_routes (w : System) (ctxErr : Option Err)
    (routeID : RouteID) (payload : Bytes) (senderPeerID : PeerID) :
    RoutesStep w (w.deliverFromFederated ctxErr routeID payload senderPeerID) := by
  have hhub := w.hub.deliverFromFederated_routes ctxErr routeID payload senderPeerID
  unfold deliverFromFederated
  simp only
  split
  · exact .settled hhub rfl rfl rfl rfl
  · exact .settled hhub rfl rfl rfl rfl

theorem receiveSelect_routes (w : System) (call : Nat) (arm : SelectArm) :
    RoutesStep w (w.receiveSelect call arm) := by
  unfold receiveSelect
  split
  · exact .same rfl rfl rfl
  · split
    · split
      · exact .same rfl rfl rfl
      · split
        · exact .same rfl rfl rfl
        · exact .same rfl rfl rfl
      · split
        · exact .same rfl rfl rfl
        · rename_i frame hub htake
          rcases Hub.takeFrame_eq_some htake with ⟨state, inbox, _, _, _, _, rfl⟩
          exact .same rfl rfl rfl
    · exact .same rfl rfl rfl

theorem step_routes {w : System} (hi : w.hub.Invariant) (e : Event) :
    RoutesStep w (w.step e) := by
  cases e with
  | write buffer bytes => exact .same rfl rfl rfl
  | newForwarder object => exact .same rfl rfl rfl
  | closeForwarder forwarder =>
    simp only [step, closeForwarder]
    split
    · exact .same rfl rfl rfl
    · exact .same rfl rfl rfl
  | tick now => exact .same rfl rfl rfl
  | attach id => exact attach_routes w id
  | pair routeID left right => exact settleBinding_routes (w.hub.pair_routes routeID left right)
  | announceFederatedPresence peerID forwarder now =>
    exact .shrunk [] (w.hub.announceFederatedPresence_routes peerID forwarder now)
      (fun _ h => absurd h List.not_mem_nil) rfl rfl
  | announcePresence id peerID now =>
    exact .shrunk [] (w.hub.announcePresence_routes id peerID now)
      (fun _ h => absurd h List.not_mem_nil) rfl rfl
  | heartbeat id now =>
    exact .shrunk [] (w.hub.heartbeat_routes id now)
      (fun _ h => absurd h List.not_mem_nil) rfl rfl
  | lookup peerID now => exact .same (w.hub.lookupLocked_routes peerID now) rfl rfl
  | lookupLocal peerID now => exact .same (w.hub.lookupLocalLocked_routes peerID now) rfl rfl
  | rendezvous source routeID peerID now =>
    have hstep := settleBinding_routes (w.hub.rendezvous_routes source routeID peerID now)
    cases hstep with
    | shrunk closers hhub hclosing hserials hbound =>
      exact .shrunk closers hhub hclosing hserials hbound
    | bound routeID' route hnew hroutes hserials hbound =>
      exact .bound routeID' route hnew hroutes hserials hbound
  | sweepExpired now => exact .settled (w.hub.sweepExpired_routes now) rfl rfl rfl rfl
  | closeSession id => exact .settled (w.hub.detach_routes id) rfl rfl rfl rfl
  | closeHub => exact .settled w.hub.close_routes rfl rfl rfl rfl
  | deliverFromFederated ctxErr routeID payload senderPeerID =>
    exact deliverFromFederated_routes w ctxErr routeID payload senderPeerID
  | send source routeID buffer delivery now ctxErr => exact .same rfl rfl rfl
  | sendLocked call ctxErr => exact sendLocked_routes hi call ctxErr
  | forwardReturns call reply => exact forwardReturns_routes w call reply
  | sendCompleted call => exact sendCompleted_routes w call
  | receive handle =>
    simp only [step, receive]
    split
    · exact .same rfl rfl rfl
    · exact .same rfl rfl rfl
  | receiveLookup call =>
    simp only [step, receiveLookup]
    repeat' split
    all_goals exact .same rfl rfl rfl
  | receiveSelect call arm => exact receiveSelect_routes w call arm
  | receiveReturns call =>
    simp only [step, receiveReturns]
    repeat' split
    all_goals exact .same rfl rfl rfl

/-- A route that is filed before and after the event is one route with the same two ends. -/
def BindingsStand (w : System) (e : Event) : Prop :=
  ∀ r route route', w.hub.routes.get? r = some route →
    (w.step e).hub.routes.get? r = some route' → route' = route

/-- No event of a run gives a route id that is bound to other ends. -/
theorem bindings_stand (config : ValidConfig) (events : List Event) :
    Trace.Meets step BindingsStand (start config) events := by
  apply (Trace.meets_iff_prefixes _ _ _ _).mpr
  intro xs e ys _ r route route' hroute hroute'
  have hi : (Trace.run step (start config) xs).hub.Invariant := invariant_after config xs
  cases step_routes hi e with
  | shrunk closers hhub =>
    have hkept := hhub.kept r route' hroute'
    exact Option.some.inj (hkept.symm.trans hroute)
  | bound routeID filed hnew hroutes =>
    rw [hroutes] at hroute'
    rcases Table.get?_insert_eq_some hroute' with ⟨rfl, _⟩ | ⟨_, hkept⟩
    · rw [hnew] at hroute
      cases hroute
    · exact Option.some.inj (hkept.symm.trans hroute)

end System

end Branch.Relay
