import Branch.Relay.Routes

/-!
The clean-up after a failed forward, against the routes that were bound under the
same id while the forward was under way.
-/

namespace Branch.Relay

open Branch.Lib
open Branch.Wss

namespace System

/-- A forward refers to a route that has been bound already. As long as that very
route is filed, its forwarder is the forward's. -/
structure TicketOk (w : System) (pending : PendingForward) (serial : Nat) : Prop where
  bound : serial < w.bound
  forwarder : ∀ route, w.hub.routes.get? pending.routeID = some route →
    w.routeSerials.get? pending.routeID = some serial →
    route.federatedForwarders = [pending.forwarder]

/-- Every filed route has a serial, and serials are never given twice. -/
structure Serials (w : System) : Prop where
  fresh : ∀ r n, w.routeSerials.get? r = some n → n < w.bound
  filed : ∀ r route, w.hub.routes.get? r = some route → (w.routeSerials.get? r).isSome
  ticket : ∀ (call : Nat) c pending serial, w.sends[call]? = some c →
    c.stage.ticket = some (pending, serial) → TicketOk w pending serial

theorem serials_start (config : ValidConfig) : (start config).Serials := by
  refine ⟨?_, ?_, ?_⟩
  · intro r n h
    simp [start] at h
  · intro r route h
    simp [start, Hub.start] at h
  · intro call c pending serial h
    simp [start] at h

theorem fresh_step {w w' : System} (hs : w.Serials) (hstep : RoutesStep w w')
    (r : RouteID) (n : Nat) (h : w'.routeSerials.get? r = some n) : n < w'.bound := by
  cases hstep with
  | shrunk closers hhub hclosing hserials hbound =>
    rw [hserials] at h
    rw [hbound]
    exact hs.fresh r n h
  | bound routeID route hnew hroutes hserials hbound =>
    rw [hbound]
    rw [hserials, Table.get?_insert] at h
    split at h
    · cases h
      exact Nat.lt_succ_self _
    · exact Nat.lt_succ_of_lt (hs.fresh r n h)

theorem filed_step {w w' : System} (hs : w.Serials) (hstep : RoutesStep w w')
    (r : RouteID) (route : RouteState) (h : w'.hub.routes.get? r = some route) :
    (w'.routeSerials.get? r).isSome := by
  cases hstep with
  | shrunk closers hhub hclosing hserials hbound =>
    rw [hserials]
    exact hs.filed r route (hhub.kept r route h)
  | bound routeID route' hnew hroutes hserials hbound =>
    rw [hserials, Table.get?_insert]
    split
    · rfl
    · rename_i hne
      rw [hroutes, Table.get?_insert_of_ne _ _ hne] at h
      exact hs.filed r route h

theorem TicketOk.step {w w' : System} {pending : PendingForward} {serial : Nat}
    (h : TicketOk w pending serial) (hstep : RoutesStep w w') :
    TicketOk w' pending serial := by
  cases hstep with
  | shrunk closers hhub hclosing hserials hbound =>
    refine ⟨hbound ▸ h.bound, ?_⟩
    intro route hroute hserial
    rw [hserials] at hserial
    exact h.forwarder route (hhub.kept _ _ hroute) hserial
  | bound routeID route' hnew hroutes hserials hbound =>
    refine ⟨hbound ▸ Nat.lt_succ_of_lt h.bound, ?_⟩
    intro route hroute hserial
    rw [hserials, Table.get?_insert] at hserial
    split at hserial
    · cases hserial
      exact absurd h.bound (Nat.lt_irrefl _)
    · rename_i hne
      rw [hroutes, Table.get?_insert_of_ne _ _ hne] at hroute
      exact h.forwarder route hroute hserial

theorem federatedForwarders_of_peer {hub : Hub} {route : RouteState}
    (hok : Hub.RouteOk hub route) {source : SessionID} {target : RouteEndpoint}
    (hpeer : route.peer source = some target) {f : ForwarderRef}
    (hforwarder : target.forwarder = some f) : route.federatedForwarders = [f] := by
  have hright : route.right.forwarder = some f := by
    unfold RouteState.peer at hpeer
    split at hpeer
    · cases hpeer
      exact hforwarder
    · split at hpeer
      · cases hpeer
        rw [hok.left_local] at hforwarder
        cases hforwarder
      · cases hpeer
  simp [RouteState.federatedForwarders, hok.left_local, hright]

theorem ticketOk_new {w : System} (hi : w.hub.Invariant) (hs : w.Serials)
    {routeID : RouteID} {route : RouteState} {source : SessionID} {target : RouteEndpoint}
    {f : ForwarderRef} (hroute : w.hub.routes.get? routeID = some route)
    (hpeer : route.peer source = some target) (hforwarder : target.forwarder = some f)
    {pending : PendingForward} (hid : pending.routeID = routeID)
    (hf : pending.forwarder = f) :
    TicketOk w pending ((w.routeSerials.get? routeID).getD 0) := by
  obtain ⟨n, hn⟩ := Option.isSome_iff_exists.mp (hs.filed _ _ hroute)
  rw [hn]
  refine ⟨hs.fresh _ _ hn, ?_⟩
  intro route' hroute' _
  rw [hid, hroute] at hroute'
  cases hroute'
  rw [hf]
  exact federatedForwarders_of_peer (hi.route _ _ hroute) hpeer hforwarder

theorem ticket_step {w w' : System} (hi : w.Invariant) (hs : w.Serials)
    (hroutes : RoutesStep w w') {e : Event} (hstep : SessionsStep w e w') {call' : Nat} {c' : SendCall}
    {pending : PendingForward} {serial : Nat} (hc' : w'.sends[call']? = some c')
    (hticket : c'.stage.ticket = some (pending, serial)) : TicketOk w' pending serial := by
  have hold : ∀ {c : SendCall}, w.sends[call']? = some c →
      c.stage.ticket = some (pending, serial) → TicketOk w' pending serial :=
    fun hc ht => (hs.ticket call' _ pending serial hc ht).step hroutes
  -- A call that moves to a stage without a ticket is not the one looked at.
  have hmoved : ∀ {call : Nat} {stage : SendStage}, stage.ticket = none →
      (w.sends.modify call fun c => { c with stage := stage })[call']? = some c' →
      TicketOk w' pending serial := by
    intro call stage hnone h
    obtain ⟨c, hc, hcase⟩ := of_getElem?_modify h
    rcases hcase with ⟨_, rfl⟩ | ⟨_, rfl⟩
    · rw [hnone] at hticket
      cases hticket
    · exact hold hc hticket
  cases hstep with
  | kept hkept hhandles hhistory hreceives hsends =>
    cases hsends with
    | same hsends =>
      rw [hsends] at hc'
      exact hold hc' hticket
    | entered hsends hcharged =>
      rw [hsends] at hc'
      rcases Nat.lt_or_ge call' w.sends.length with hlt | hge
      · rw [List.getElem?_append_left hlt] at hc'
        exact hold hc' hticket
      · rw [List.getElem?_append_right hge] at hc'
        obtain rfl := List.mem_singleton.mp (List.mem_of_getElem? hc')
        rw [SendStage.ticket_eq_none_of_chargedTo hcharged] at hticket
        cases hticket
    | restaged hc _ hsame _ hsends =>
      rw [hsends] at hc'
      obtain ⟨c₁, hc₁, hcase⟩ := of_getElem?_modify hc'
      rcases hcase with ⟨rfl, rfl⟩ | ⟨_, rfl⟩
      · rw [hc] at hc₁
        cases hc₁
        exact hold hc (hsame _ hticket)
      · exact hold hc₁ hticket
  | attached => exact hold hc' hticket
  | sent => exact hmoved rfl hc'
  | forwarding hcall hstage hadmits hremote hforwarder =>
    obtain ⟨route, hroute, hpeer, _⟩ := hadmits.route
    obtain ⟨c₁, hc₁, hcase⟩ := of_getElem?_modify hc'
    rcases hcase with ⟨_, rfl⟩ | ⟨_, rfl⟩
    · cases hticket
      exact (ticketOk_new hi.hub hs hroute hpeer hforwarder rfl rfl).step hroutes
    · exact hold hc₁ hticket
  | completed => exact hmoved rfl hc'
  | rolledBack _ _ _ _ _ _ _ _ _ hsends =>
    rw [hsends] at hc'
    exact hmoved rfl hc'
  | delivered => exact hold hc' hticket
  | took => exact hold hc' hticket

theorem step_serials {w : System} (hi : w.Invariant) (hs : w.Serials) (e : Event) :
    (w.step e).Serials where
  fresh := fresh_step hs (step_routes hi.hub e)
  filed := filed_step hs (step_routes hi.hub e)
  ticket := fun _ _ _ _ hc ht => ticket_step hi hs (step_routes hi.hub e) (step_sessions w e) hc ht

/-- The clean-up of a failed forward leaves every route alone but the one it was
sent on, closes no forwarder but its own, and touches no presence entry. -/
def CleanupKept (w : System) (e : Event) : Prop :=
  ∀ call c pending serial err, e = .sendCompleted call → w.sends[call]? = some c →
    c.stage = .answered pending serial (some err) →
    (∀ r, (r = pending.routeID → w.routeSerials.get? r ≠ some serial) →
      (w.step e).hub.routes.get? r = w.hub.routes.get? r) ∧
    (∀ f ∈ (w.step e).closing, f ∈ w.closing ∨ f = pending.forwarder) ∧
    (w.step e).hub.presence = w.hub.presence ∧
    (w.step e).hub.federatedPresence = w.hub.federatedPresence

/-- When a forward fails with a route failure, the route filed under its id, if
there is one, is the one that it was sent on. -/
def CleanupGuard (w : System) (e : Event) : Prop :=
  ∀ call c pending serial err, e = .sendCompleted call → w.sends[call]? = some c →
    c.stage = .answered pending serial (some err) → isRouteFailure err = true →
    ∀ route, w.hub.routes.get? pending.routeID = some route →
      w.routeSerials.get? pending.routeID = some serial

section Completed

variable {w : System} {call : Nat} {c : SendCall} {pending : PendingForward} {serial : Nat}
  {err : Err}

theorem sendCompleted_failed (hc : w.sends[call]? = some c)
    (hstage : c.stage = .answered pending serial (some err)) :
    w.step (.sendCompleted call) =
      (w.settle (w.hub.forwardCompleted pending (some err))).setSend call (.failed err) := by
  simp only [step, sendCompleted, hc, hstage]

theorem rollbackUsageLocked_presence (hub : Hub) (sessionID : SessionID)
    (expected : SessionRef) (payloadBytes : Nat) :
    (hub.rollbackUsageLocked sessionID expected payloadBytes).presence = hub.presence ∧
      (hub.rollbackUsageLocked sessionID expected payloadBytes).federatedPresence =
        hub.federatedPresence := by
  unfold Hub.rollbackUsageLocked
  repeat' split
  all_goals exact ⟨rfl, rfl⟩

theorem forwardCompleted_presence (hub : Hub) (pending : PendingForward) (err : Err) :
    (hub.forwardCompleted pending (some err)).hub.presence = hub.presence ∧
      (hub.forwardCompleted pending (some err)).hub.federatedPresence =
        hub.federatedPresence := by
  have hrolled := rollbackUsageLocked_presence hub pending.source pending.sourceRef
    pending.payload.length
  unfold Hub.forwardCompleted
  simp only
  split
  · split
    · exact hrolled
    · exact hrolled
  · exact hrolled

inductive ForwardFailed (hub : Hub) (pending : PendingForward) (err : Err)
    (o : Outcome (Option Err)) : Prop
  | kept (h : isRouteFailure err = false ∨ hub.routes.get? pending.routeID = none)
      (hroutes : o.hub.routes = hub.routes) (hclosers : o.closers = [])
  | removed (route : RouteState) (hfailure : isRouteFailure err = true)
      (hroute : hub.routes.get? pending.routeID = some route)
      (hroutes : o.hub.routes = hub.routes.erase pending.routeID)
      (hclosers : o.closers = route.federatedForwarders)

theorem forwardCompleted_failed (hub : Hub) (pending : PendingForward) (err : Err) :
    ForwardFailed hub pending err (hub.forwardCompleted pending (some err)) := by
  have hrolled := hub.rollbackUsageLocked_routes pending.source pending.sourceRef
    pending.payload.length
  unfold Hub.forwardCompleted
  simp only
  split
  · rename_i hfailure
    split
    · rename_i hnone
      rw [hrolled] at hnone
      exact .kept (.inr hnone) hrolled rfl
    · rename_i route hroute
      rw [hrolled] at hroute
      exact .removed route hfailure hroute (by simp only [hrolled]) rfl
  · rename_i hfailure
    exact .kept (.inl (Bool.eq_false_iff.mpr hfailure)) hrolled rfl

end Completed

theorem cleanupKept_iff {w : System} (hs : w.Serials) (e : Event) :
    CleanupKept w e ↔ CleanupGuard w e := by
  constructor
  · rintro hkept call c pending serial err rfl hc hstage hfailure route hroute
    by_contra hserial
    have hsame := (hkept call c pending serial err rfl hc hstage).1 pending.routeID
      (fun _ => hserial)
    rw [sendCompleted_failed hc hstage] at hsame
    change (w.hub.forwardCompleted pending (some err)).hub.routes.get? pending.routeID = _
      at hsame
    cases forwardCompleted_failed w.hub pending err with
    | kept h =>
      rcases h with hother | hnone
      · rw [hfailure] at hother
        cases hother
      · rw [hroute] at hnone
        cases hnone
    | removed route' _ _ hroutes =>
      rw [hroutes, Table.get?_erase_self, hroute] at hsame
      cases hsame
  · rintro hguard call c pending serial err rfl hc hstage
    have hticket := hs.ticket call c pending serial hc (by rw [hstage]; rfl)
    rw [sendCompleted_failed hc hstage]
    refine ⟨?_, ?_, forwardCompleted_presence w.hub pending err⟩
    · intro r hother
      change (w.hub.forwardCompleted pending (some err)).hub.routes.get? r = _
      cases forwardCompleted_failed w.hub pending err with
      | kept _ hroutes => rw [hroutes]
      | removed route hfailure hroute hroutes =>
        -- The route filed under the id is the forward's own.
        have hserial := hguard call c pending serial err rfl hc hstage hfailure route hroute
        rw [hroutes, Table.get?_erase_of_ne]
        intro hid
        exact hother hid (hid ▸ hserial)
    · intro f hf
      rcases List.mem_append.mp hf with hf | hf
      · right
        cases forwardCompleted_failed w.hub pending err with
        | kept _ _ hclosers =>
          rw [hclosers] at hf
          cases hf
        | removed route hfailure hroute _ hclosers =>
          have hserial := hguard call c pending serial err rfl hc hstage hfailure route hroute
          rw [hclosers, hticket.forwarder route hroute hserial] at hf
          exact List.mem_singleton.mp hf
      · exact .inl hf

/-- In a run, every clean-up removes the route instance of its own forward only,
exactly when none of them finds another instance filed under the id. -/
theorem cleanup_kept_iff (config : ValidConfig) (events : List Event) :
    Trace.Meets step CleanupKept (start config) events ↔
      Trace.Meets step CleanupGuard (start config) events :=
  Trace.meets_congr (P := fun w => w.Invariant ∧ w.Serials)
    (fun _ e hi => ⟨step_invariant hi.1 e, step_serials hi.1 hi.2 e⟩)
    (fun _ e hi => cleanupKept_iff hi.2 e) ⟨invariant_start config, serials_start config⟩
    events

/-- The forward's own route expires, the id is bound to a local peer, and the
forward's failure then removes the new route. -/
theorem rebound_route_removed :
    ¬∀ (config : ValidConfig) (events : List Event),
      Trace.Meets step CleanupKept (start config) events := by
  intro h
  have hrun := h defaultValidConfig
    ([.newForwarder (.wss .fresh), .attach "a", .attach "b",
      .announceFederatedPresence "p" (some 0) 0, .rendezvous "a" "r" "p" 0,
      .send "a" "r" 0 none 0 none, .sendLocked 0 none, .sweepExpired 30000000000,
      .announcePresence "b" "q" 30000000000, .rendezvous "a" "r" "q" 30000000000,
      .forwardReturns 0 ⟨some .other, none⟩] ++ [.sendCompleted 0])
  have hlast := ((Trace.meets_snoc _ _ _ _ _).mp hrun).2
  have hkept := (hlast 0 ⟨"a", "r", none, 0, [], .answered ⟨"a", 0, "r", 0, [], "", none⟩ 0
    (some .peerUnavailable)⟩ ⟨"a", 0, "r", 0, [], "", none⟩ 0 .peerUnavailable rfl
    (by decide) rfl).1 "r" (by decide)
  exact absurd hkept (by decide)

end System

end Branch.Relay
