import Branch.Relay.Sessions

/-!
What holds of the hub's tables in every reachable state.
-/

namespace Branch.Relay

open Branch.Lib

namespace System

theorem step_config (w : System) (e : Event) :
    (w.step e).hub.config = w.hub.config := by
  have hstep := step_sessions w e
  generalize w.step e = w' at hstep ⊢
  cases hstep with
  | kept hhub => exact hhub.config
  | attached => rfl
  | sent => rfl
  | forwarding => rfl
  | completed => exact (rememberForwarded_frame w.hub _).1
  | rolledBack _ _ _ hconfig => exact hconfig
  | delivered => rfl
  | took => rfl

theorem after_config (config : ValidConfig) (events : List Event) :
    (after config events).hub.config = config :=
  Trace.invariant (P := fun w : System => w.hub.config = config)
    (fun w e h => (step_config w e).trans h) rfl events

end System

namespace Hub

theorem peer_isSome_iff {route : RouteState} {id : SessionID} :
    (route.peer id).isSome ↔ route.containsSession id = true := by
  unfold RouteState.peer RouteState.containsSession
  split
  · rename_i h
    simp [h]
  · rename_i hleft
    split
    · rename_i h
      simp [h]
    · rename_i hright
      simp [Ne.symm hleft, Ne.symm hright]

theorem target_of_peer {hub : Hub} {route : RouteState} (h : RouteOk hub route)
    {source : SessionID} {target : RouteEndpoint} (hpeer : route.peer source = some target) :
    (target.sessionID ≠ "" ∧ (hub.sessions.get? target.sessionID).isSome) ∨
      (target.sessionID = "" ∧ target.forwarder.isSome) := by
  unfold RouteState.peer at hpeer
  split at hpeer
  · cases hpeer
    rcases h.right with ⟨hne, _, hattached⟩ | hremote
    · exact .inl ⟨hne, hattached⟩
    · exact .inr hremote
  · split at hpeer
    · cases hpeer
      exact .inl ⟨h.left_ne, h.left_attached⟩
    · cases hpeer

theorem RouteOk.attached {hub : Hub} {route : RouteState} (h : RouteOk hub route)
    {endpoint : RouteEndpoint} (hend : endpoint = route.left ∨ endpoint = route.right)
    (hlocal : endpoint.sessionID ≠ "") :
    (hub.sessions.get? endpoint.sessionID).isSome := by
  rcases hend with rfl | rfl
  · exact h.left_attached
  · rcases h.right with ⟨_, _, hattached⟩ | ⟨hempty, _⟩
    · exact hattached
    · exact absurd hempty hlocal

theorem replay_size_le {hub : Hub} (hi : hub.Invariant) {id : SessionID}
    {state : SessionState} (h : hub.sessions.get? id = some state) :
    (state.deliveries.order.length : Int) ≤ hub.config.maxReplayEntriesPerSession ∧
      (state.deliveries.entries.size : Int) ≤ hub.config.maxReplayEntriesPerSession := by
  have hwindow := (hi.session id state h).window
  have hpos := (validateConfig_eq_none_iff.mp hub.config.valid).2.2.2.2.2.2
  have horder := state.deliveries.bounded
  have hentries := hwindow.covered.size_le
  rw [hwindow.capacity] at horder hentries
  omega

theorem inbox_length_le {hub : Hub} (hi : hub.Invariant) {id : SessionID}
    {state : SessionState} (h : hub.sessions.get? id = some state) :
    (state.inbox.items.length : Int) ≤ hub.config.maxQueueDepth := by
  have hcapacity := (hi.session id state h).inbox
  have hpos := (validateConfig_eq_none_iff.mp hub.config.valid).2.1
  have hbounded := state.inbox.bounded
  rw [hcapacity] at hbounded
  omega

end Hub

namespace System

/-- The tables of every reachable hub refer to each other soundly and stay within
the configured bounds. -/
theorem tables_consistent (config : ValidConfig) (events : List Event) :
    let hub := (after config events).hub
    (∀ peer entry, hub.presence.get? peer = some entry →
      ∃ state, hub.sessions.get? entry.sessionID = some state ∧ state.peerID = peer) ∧
    (∀ routeID route, hub.routes.get? routeID = some route →
      (route.left.sessionID ≠ "" ∨ route.right.sessionID ≠ "") ∧
      ∀ endpoint, (endpoint = route.left ∨ endpoint = route.right) →
        endpoint.sessionID ≠ "" →
        (hub.sessions.get? endpoint.sessionID).isSome ∧
          route.containsSession endpoint.sessionID = true ∧
          (route.peer endpoint.sessionID).isSome) ∧
    (hub.sessions.size : Int) ≤ config.maxSessions ∧
    (∀ id state, hub.sessions.get? id = some state →
      (state.inbox.items.length : Int) ≤ config.maxQueueDepth ∧
      (state.deliveries.order.length : Int) ≤ config.maxReplayEntriesPerSession ∧
      (state.deliveries.entries.size : Int) ≤ config.maxReplayEntriesPerSession) ∧
    (hub.closed = true →
      (∀ id, hub.sessions.get? id = none) ∧ (∀ routeID, hub.routes.get? routeID = none) ∧
      (∀ peer, hub.presence.get? peer = none) ∧
      ∀ peer, hub.federatedPresence.get? peer = none) := by
  have hi := invariant_after config events
  have hconfig := after_config config events
  refine ⟨?_, ?_, ?_, ?_, hi.closed_empty⟩
  · intro peer entry h
    exact (hi.presence peer entry h).2
  · intro routeID route h
    have hroute := hi.route routeID route h
    refine ⟨.inl hroute.left_ne, ?_⟩
    intro endpoint hend hlocal
    have howns : route.containsSession endpoint.sessionID = true := by
      rw [RouteState.containsSession_iff]
      rcases hend with rfl | rfl
      · exact .inl rfl
      · exact .inr rfl
    exact ⟨hroute.attached hend hlocal, howns, Hub.peer_isSome_iff.mpr howns⟩
  · have hlimit := hi.session_limit
    rwa [hconfig] at hlimit
  · intro id state h
    have hinbox := Hub.inbox_length_le hi h
    have hreplay := Hub.replay_size_le hi h
    rw [hconfig] at hinbox hreplay
    exact ⟨hinbox, hreplay⟩

end System

end Branch.Relay
