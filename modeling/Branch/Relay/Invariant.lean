import Branch.Relay.System

/-!
The invariant of the hub's tables and its preservation by every operation.
-/

namespace Branch.Relay

open Branch.Lib
open Branch.Wss

namespace Hub

structure WindowOk (config : ValidConfig) (window : DeliveryWindow) : Prop where
  capacity : window.capacity = config.maxReplayEntriesPerSession.toNat
  wf : window.Wf
  covered : window.Covered

structure SessionOk (hub : Hub) (id : SessionID) (state : SessionState) : Prop where
  id_ne : id ≠ ""
  ref_lt : state.ref < hub.refs
  not_done : hub.isClosed state.ref = false
  inbox : state.inbox.capacity = hub.config.maxQueueDepth.toNat
  window : WindowOk hub.config state.deliveries

/-- The left end of a route is the session that asked for it; the right end is a
session or a forwarder. -/
structure RouteOk (hub : Hub) (route : RouteState) : Prop where
  left_ne : route.left.sessionID ≠ ""
  left_local : route.left.forwarder = none
  left_attached : (hub.sessions.get? route.left.sessionID).isSome
  right : (route.right.sessionID ≠ "" ∧ route.right.forwarder = none ∧
      (hub.sessions.get? route.right.sessionID).isSome) ∨
    (route.right.sessionID = "" ∧ route.right.forwarder.isSome)

structure Invariant (hub : Hub) : Prop where
  session : ∀ id state, hub.sessions.get? id = some state → SessionOk hub id state
  ref_unique : ∀ id state id' state', hub.sessions.get? id = some state →
    hub.sessions.get? id' = some state' → state.ref = state'.ref → id = id'
  session_limit : (hub.sessions.size : Int) ≤ hub.config.maxSessions
  done_lt : ∀ ref ∈ hub.done, ref < hub.refs
  presence : ∀ peer entry, hub.presence.get? peer = some entry →
    peer ≠ "" ∧
      ∃ state, hub.sessions.get? entry.sessionID = some state ∧ state.peerID = peer
  federated : ∀ peer entry, hub.federatedPresence.get? peer = some entry →
    entry.forwarder.isSome
  route : ∀ id route, hub.routes.get? id = some route → RouteOk hub route
  closed_empty : hub.closed = true →
    (∀ id, hub.sessions.get? id = none) ∧ (∀ id, hub.routes.get? id = none) ∧
    (∀ peer, hub.presence.get? peer = none) ∧
    ∀ peer, hub.federatedPresence.get? peer = none

theorem replayCapacity_pos (config : ValidConfig) :
    0 < config.maxReplayEntriesPerSession.toNat := by
  have h := (validateConfig_eq_none_iff.mp config.valid).2.2.2.2.2.2
  omega

theorem WindowOk.new (config : ValidConfig) :
    WindowOk config (newDeliveryWindow config.maxReplayEntriesPerSession) where
  capacity := rfl
  wf := ReplayWindow.wf_empty (replayCapacity_pos config)
  covered := ReplayWindow.covered_empty _

theorem WindowOk.remember {config : ValidConfig} {window : DeliveryWindow}
    (h : WindowOk config window) (key : DeliveryKey) (digest : Digest) :
    WindowOk config (window.remember key digest) where
  capacity := by rw [ReplayWindow.remember_capacity, h.capacity]
  wf := h.wf.remember (h.capacity ▸ replayCapacity_pos config) key digest
  covered := h.covered.remember h.wf key digest

theorem WindowOk.rememberDelivery {config : ValidConfig} {state : SessionState}
    (h : WindowOk config state.deliveries) (senderPeerID : PeerID)
    (delivery : Option Delivery) :
    WindowOk config (state.rememberDelivery senderPeerID delivery).deliveries := by
  cases delivery with
  | none => exact h
  | some d => exact h.remember _ _

theorem invariant_start (config : ValidConfig) : (start config).Invariant where
  session := by
    intro id state h
    simp [start] at h
  ref_unique := by
    intro id state id' state' h
    simp [start] at h
  session_limit := by
    have h := (validateConfig_eq_none_iff.mp config.valid).1
    simp only [start, Table.size_empty]
    omega
  done_lt := by
    intro ref h
    simp [start] at h
  presence := by
    intro peer entry h
    simp [start] at h
  federated := by
    intro peer entry h
    simp [start] at h
  route := by
    intro id route h
    simp [start] at h
  closed_empty := by
    intro h
    cases h

variable {hub : Hub}

theorem Invariant.open_of_session (hi : hub.Invariant) {id : SessionID}
    {state : SessionState} (h : hub.sessions.get? id = some state) : hub.closed = false := by
  apply Bool.eq_false_iff.mpr
  intro hclosed
  rw [(hi.closed_empty hclosed).1] at h
  cases h

theorem Invariant.presenceStale_iff (hi : hub.Invariant) {peer : PeerID}
    {entry : PresenceState} (h : hub.presence.get? peer = some entry) (now : Time) :
    hub.presenceStale entry now = true ↔ ¬now < entry.expiresAt := by
  obtain ⟨_, state, hstate, _⟩ := hi.presence peer entry h
  simp [presenceStale, hstate, (hi.session _ _ hstate).not_done]

theorem Invariant.of_subtables {hub hub' : Hub} (hi : hub.Invariant)
    (hconfig : hub'.config = hub.config) (hrefs : hub'.refs = hub.refs)
    (hdone : hub'.done = hub.done) (hclosed : hub'.closed = hub.closed)
    (hsessions : hub'.sessions = hub.sessions)
    (hroutes : ∀ id route, hub'.routes.get? id = some route →
      hub.routes.get? id = some route)
    (hpresence : ∀ peer entry, hub'.presence.get? peer = some entry →
      hub.presence.get? peer = some entry)
    (hfederated : ∀ peer entry, hub'.federatedPresence.get? peer = some entry →
      hub.federatedPresence.get? peer = some entry) :
    hub'.Invariant := by
  refine ⟨?_, ?_, ?_, ?_, ?_, ?_, ?_, ?_⟩
  · intro id state h
    rw [hsessions] at h
    rcases hi.session id state h with ⟨hne, hlt, hopen, hinbox, hwindow⟩
    exact ⟨hne, hrefs ▸ hlt, by rw [isClosed, hdone]; exact hopen, hconfig ▸ hinbox,
      hconfig ▸ hwindow⟩
  · intro id state id' state' h h'
    rw [hsessions] at h h'
    exact hi.ref_unique id state id' state' h h'
  · rw [hsessions, hconfig]
    exact hi.session_limit
  · intro ref h
    rw [hdone] at h
    exact hrefs ▸ hi.done_lt ref h
  · intro peer entry h
    rw [hsessions]
    exact hi.presence peer entry (hpresence peer entry h)
  · intro peer entry h
    exact hi.federated peer entry (hfederated peer entry h)
  · intro id route h
    rcases hi.route id route (hroutes id route h) with ⟨hne, hlocal, hattached, hright⟩
    exact ⟨hne, hlocal, by rw [hsessions]; exact hattached, by rw [hsessions]; exact hright⟩
  · intro h
    rw [hclosed] at h
    rcases hi.closed_empty h with ⟨h1, h2, h3, h4⟩
    refine ⟨by rw [hsessions]; exact h1, ?_, ?_, ?_⟩
    · intro id
      exact Option.eq_none_iff_forall_not_mem.mpr fun route hmem => by
        have hold := hroutes id route hmem
        rw [h2 id] at hold
        cases hold
    · intro peer
      exact Option.eq_none_iff_forall_not_mem.mpr fun entry hmem => by
        have hold := hpresence peer entry hmem
        rw [h3 peer] at hold
        cases hold
    · intro peer
      exact Option.eq_none_iff_forall_not_mem.mpr fun entry hmem => by
        have hold := hfederated peer entry hmem
        rw [h4 peer] at hold
        cases hold

theorem Invariant.of_sessions (hi : hub.Invariant)
    {sessions : Table SessionID SessionState}
    (hsize : sessions.size = hub.sessions.size)
    (hattached : ∀ id, (sessions.get? id).isSome = (hub.sessions.get? id).isSome)
    (hsession : ∀ id state', sessions.get? id = some state' →
      ∃ state, hub.sessions.get? id = some state ∧ state'.ref = state.ref ∧
        state'.peerID = state.peerID ∧ state'.inbox.capacity = state.inbox.capacity ∧
        WindowOk hub.config state'.deliveries) :
    Invariant { hub with sessions := sessions } := by
  refine ⟨?_, ?_, ?_, hi.done_lt, ?_, hi.federated, ?_, ?_⟩
  · intro id state' h
    rcases hsession id state' h with ⟨state, hstate, href, _, hinbox, hwindow⟩
    rcases hi.session id state hstate with ⟨hne, hlt, hopen, hcapacity, _⟩
    exact ⟨hne, href ▸ hlt, href ▸ hopen, hinbox.trans hcapacity, hwindow⟩
  · intro id state id' state' h h' heq
    rcases hsession id state h with ⟨old, hold, href, _⟩
    rcases hsession id' state' h' with ⟨old', hold', href', _⟩
    exact hi.ref_unique id old id' old' hold hold' (by rw [← href, ← href', heq])
  · change (sessions.size : Int) ≤ _
    rw [hsize]
    exact hi.session_limit
  · intro peer entry h
    rcases hi.presence peer entry h with ⟨hne, state, hstate, hpeer⟩
    refine ⟨hne, ?_⟩
    have hsome : (sessions.get? entry.sessionID).isSome := by
      rw [hattached, hstate]
      rfl
    obtain ⟨state', hstate'⟩ := Option.isSome_iff_exists.mp hsome
    rcases hsession _ _ hstate' with ⟨old, hold, _, hpeer', _⟩
    rw [hstate] at hold
    cases hold
    exact ⟨state', hstate', hpeer'.trans hpeer⟩
  · intro id route h
    rcases hi.route id route h with ⟨hne, hlocal, hleft, hright⟩
    refine ⟨hne, hlocal, ?_, ?_⟩
    · change (sessions.get? _).isSome
      rw [hattached]
      exact hleft
    · change (_ ∧ _ ∧ (sessions.get? _).isSome = true) ∨ _
      rw [hattached]
      exact hright
  · intro h
    rcases hi.closed_empty h with ⟨h1, h2, h3, h4⟩
    refine ⟨?_, h2, h3, h4⟩
    intro id
    have hsome := hattached id
    rw [h1 id] at hsome
    exact Option.not_isSome_iff_eq_none.mp (by simp [hsome])

theorem Invariant.insert_session (hi : hub.Invariant) {id : SessionID}
    {state state' : SessionState} (hstate : hub.sessions.get? id = some state)
    (href : state'.ref = state.ref) (hpeer : state'.peerID = state.peerID)
    (hinbox : state'.inbox.capacity = state.inbox.capacity)
    (hwindow : WindowOk hub.config state'.deliveries) :
    Invariant { hub with sessions := hub.sessions.insert id state' } := by
  apply hi.of_sessions
  · exact Table.size_insert_of_get?_isSome _ (by simp [hstate])
  · intro id'
    rw [Table.get?_insert]
    split
    · rename_i h
      simp [h, hstate]
    · rfl
  · intro id' s hs
    rw [Table.get?_insert] at hs
    split at hs
    · rename_i h
      cases hs
      exact ⟨state, h ▸ hstate, href, hpeer, hinbox, hwindow⟩
    · exact ⟨s, hs, rfl, rfl, rfl, (hi.session id' s hs).window⟩

theorem Invariant.attach (hi : hub.Invariant) (id : SessionID) :
    (hub.attach id).hub.Invariant := by
  unfold Hub.attach
  split
  · exact hi
  · rename_i hid
    split
    · exact hi
    · rename_i hopen
      split
      · exact hi
      · rename_i hfree
        split
        · exact hi
        · rename_i hroom
          have hnone : hub.sessions.get? id = none := Option.not_isSome_iff_eq_none.mp hfree
          have hne : id ≠ "" := by
            rintro rfl
            simp [validateID] at hid
          -- An attached identifier differs from the new one.
          have hother : ∀ id' state, hub.sessions.get? id' = some state → id' ≠ id := by
            rintro id' state h rfl
            rw [hnone] at h
            cases h
          have hkeep : ∀ id', (hub.sessions.get? id').isSome → ∀ s,
              (hub.sessions.insert id s).get? id' = hub.sessions.get? id' := by
            intro id' h s
            obtain ⟨state, hstate⟩ := Option.isSome_iff_exists.mp h
            exact Table.get?_insert_of_ne _ _ (hother id' state hstate)
          refine ⟨?_, ?_, ?_, ?_, ?_, hi.federated, ?_, ?_⟩
          · intro id' state h
            simp only [Table.get?_insert] at h
            split at h
            · rename_i heq
              subst heq
              cases h
              refine ⟨hne, Nat.lt_succ_self _, ?_, rfl, WindowOk.new _⟩
              apply Bool.eq_false_iff.mpr
              intro hdone
              have hlt := hi.done_lt _ (List.contains_iff_mem.mp hdone)
              exact lt_irrefl _ hlt
            · rcases hi.session id' state h with ⟨h1, h2, h3, h4, h5⟩
              exact ⟨h1, Nat.lt_succ_of_lt h2, h3, h4, h5⟩
          · intro id₁ s₁ id₂ s₂ h₁ h₂ heq
            simp only [Table.get?_insert] at h₁ h₂
            split at h₁
            · rename_i e₁
              split at h₂
              · rename_i e₂
                rw [e₁, e₂]
              · cases h₁
                have hlt := (hi.session id₂ s₂ h₂).ref_lt
                rw [← heq] at hlt
                exact absurd hlt (lt_irrefl _)
            · split at h₂
              · cases h₂
                have hlt := (hi.session id₁ s₁ h₁).ref_lt
                rw [heq] at hlt
                exact absurd hlt (lt_irrefl _)
              · exact hi.ref_unique id₁ s₁ id₂ s₂ h₁ h₂ heq
          · simp only [Table.size_insert_of_get?_eq_none _ hnone]
            push_cast
            omega
          · intro ref h
            exact Nat.lt_succ_of_lt (hi.done_lt ref h)
          · intro peer entry h
            rcases hi.presence peer entry h with ⟨hp, state, hstate, hpeer⟩
            refine ⟨hp, state, ?_, hpeer⟩
            simp only
            rw [hkeep _ (by simp [hstate])]
            exact hstate
          · intro r route h
            rcases hi.route r route h with ⟨h1, h2, h3, h4⟩
            refine ⟨h1, h2, ?_, ?_⟩
            · simp only
              rw [hkeep _ h3]
              exact h3
            · simp only
              rcases h4 with ⟨h5, h6, h7⟩ | h8
              · exact .inl ⟨h5, h6, by rw [hkeep _ h7]; exact h7⟩
              · exact .inr h8
          · intro h
            exact absurd h hopen

theorem Invariant.insert_route (hi : hub.Invariant)
    (hopen : hub.closed = false) {routeID : RouteID} {route : RouteState}
    (hroute : RouteOk hub route) :
    Invariant { hub with routes := hub.routes.insert routeID route } := by
  refine ⟨fun id state h => ?_, hi.ref_unique, hi.session_limit, hi.done_lt, hi.presence,
    hi.federated, ?_, ?_⟩
  · rcases hi.session id state h with ⟨h1, h2, h3, h4, h5⟩
    exact ⟨h1, h2, h3, h4, h5⟩
  · intro id r h
    simp only [Table.get?_insert] at h
    split at h
    · cases h
      rcases hroute with ⟨h1, h2, h3, h4⟩
      exact ⟨h1, h2, h3, h4⟩
    · rcases hi.route id r h with ⟨h1, h2, h3, h4⟩
      exact ⟨h1, h2, h3, h4⟩
  · intro h
    rw [show hub.closed = true from h] at hopen
    cases hopen

theorem Invariant.pair (hi : hub.Invariant) (routeID : RouteID)
    (left right : SessionID) : (hub.pair routeID left right).hub.Invariant := by
  unfold Hub.pair
  split
  · exact hi
  · split
    · exact hi
    · split
      · exact hi
      · rename_i hopen
        split
        · exact hi
        · split
          · exact hi
          · rename_i leftState hleft
            split
            · exact hi
            · rename_i rightState hright
              apply hi.insert_route (by simpa using hopen)
              refine ⟨(hi.session _ _ hleft).id_ne, rfl, ?_, .inl ⟨?_, rfl, ?_⟩⟩
              · simp [hleft]
              · exact (hi.session _ _ hright).id_ne
              · simp [hright]

theorem Invariant.announceFederatedPresence (hi : hub.Invariant)
    (peerID : PeerID) (forwarder : Option ForwarderRef) (now : Time) :
    (hub.announceFederatedPresence peerID forwarder now).hub.Invariant := by
  unfold Hub.announceFederatedPresence
  split
  · exact hi
  · split
    · exact hi
    · rename_i hforwarder
      split
      · exact hi
      · rename_i hopen
        refine ⟨fun id state h => ?_, hi.ref_unique, hi.session_limit, hi.done_lt,
          hi.presence, ?_, fun id route h => ?_, fun h => absurd h hopen⟩
        · rcases hi.session id state h with ⟨h1, h2, h3, h4, h5⟩
          exact ⟨h1, h2, h3, h4, h5⟩
        · intro peer entry h
          simp only [Table.get?_insert] at h
          split at h
          · cases h
            simpa [Option.isSome_iff_ne_none] using hforwarder
          · exact hi.federated peer entry h
        · rcases hi.route id route h with ⟨h1, h2, h3, h4⟩
          exact ⟨h1, h2, h3, h4⟩

theorem Invariant.announcePresence (hi : hub.Invariant) (id : SessionID)
    (peerID : PeerID) (now : Time) :
    (hub.announcePresence id peerID now).hub.Invariant := by
  unfold Hub.announcePresence
  split
  · exact hi
  · rename_i hpeerID
    split
    · exact hi
    · rename_i hopen
      split
      · exact hi
      · rename_i state hstate
        split
        · exact hi
        · have hne : peerID ≠ "" := by
            rintro rfl
            simp [validateID] at hpeerID
          have hkept := hi.session id state hstate
          have hattached : ∀ id', (hub.sessions.get? id').isSome → ∀ s,
              ((hub.sessions.insert id s).get? id').isSome := by
            intro id' h s
            rw [Table.get?_insert]
            split
            · rfl
            · exact h
          refine ⟨?_, ?_, ?_, hi.done_lt, ?_, hi.federated, ?_, fun h => absurd h hopen⟩
          · intro id' s h
            simp only [Table.get?_insert] at h
            split at h
            · rename_i heq
              subst heq
              cases h
              exact ⟨hkept.1, hkept.2, hkept.3, hkept.4, hkept.5⟩
            · rcases hi.session id' s h with ⟨h1, h2, h3, h4, h5⟩
              exact ⟨h1, h2, h3, h4, h5⟩
          · intro id₁ s₁ id₂ s₂ h₁ h₂ heq
            simp only [Table.get?_insert] at h₁ h₂
            split at h₁
            · rename_i e₁
              split at h₂
              · rename_i e₂
                rw [e₁, e₂]
              · cases h₁
                rw [e₁]
                exact hi.ref_unique id state id₂ s₂ hstate h₂ heq
            · split at h₂
              · rename_i e₂
                cases h₂
                rw [e₂]
                exact hi.ref_unique id₁ s₁ id state h₁ hstate heq
              · exact hi.ref_unique id₁ s₁ id₂ s₂ h₁ h₂ heq
          · simp only
            rw [Table.size_insert_of_get?_isSome _ (by simp [hstate])]
            exact hi.session_limit
          · -- Entries of the announcing session are filed under its recorded peer id
            -- only, and that one has just been deleted or overwritten.
            intro peer entry h
            simp only [Table.get?_insert] at h ⊢
            split at h
            · rename_i heq
              cases h
              exact ⟨heq ▸ hne, { state with peerID := peerID }, by simp, heq.symm⟩
            · rename_i hpeer
              have hold : hub.presence.get? peer = some entry ∧
                  ¬(state.peerID ≠ "" ∧ state.peerID ≠ peerID ∧ peer = state.peerID) := by
                split at h
                · rename_i hmoved
                  rcases Table.get?_eq_some_of_get?_erase h with ⟨hne', hget⟩
                  exact ⟨hget, fun hc => hne' hc.2.2⟩
                · rename_i hmoved
                  exact ⟨h, fun hc => hmoved ⟨hc.1, hc.2.1⟩⟩
              rcases hi.presence peer entry hold.1 with ⟨hp, s, hs, hsp⟩
              refine ⟨hp, ?_⟩
              by_cases hid : entry.sessionID = id
              · rw [hid, hstate] at hs
                cases hs
                exfalso
                apply hold.2
                exact ⟨hsp ▸ hp, fun hc => hpeer (hsp ▸ hc), hsp.symm⟩
              · exact ⟨s, by rw [if_neg hid]; exact hs, hsp⟩
          · intro r route h
            rcases hi.route r route h with ⟨h1, h2, h3, h4⟩
            refine ⟨h1, h2, hattached _ h3 _, ?_⟩
            rcases h4 with ⟨h5, h6, h7⟩ | h8
            · exact .inl ⟨h5, h6, hattached _ h7 _⟩
            · exact .inr h8

theorem Invariant.heartbeat (hi : hub.Invariant) (id : SessionID)
    (now : Time) : (hub.heartbeat id now).hub.Invariant := by
  unfold Hub.heartbeat
  split
  · exact hi
  · rename_i hopen
    split
    · exact hi
    · rename_i state hstate
      split
      · exact hi
      · split
        · exact hi
        · rename_i hpeer
          refine ⟨fun id state h => ?_, hi.ref_unique, hi.session_limit, hi.done_lt, ?_,
            hi.federated, fun id route h => ?_, fun h => absurd h hopen⟩
          · rcases hi.session id state h with ⟨h1, h2, h3, h4, h5⟩
            exact ⟨h1, h2, h3, h4, h5⟩
          · intro peer entry h
            simp only [Table.get?_insert] at h
            split at h
            · rename_i heq
              cases h
              exact ⟨heq ▸ hpeer, state, hstate, heq.symm⟩
            · exact hi.presence peer entry h
          · rcases hi.route id route h with ⟨h1, h2, h3, h4⟩
            exact ⟨h1, h2, h3, h4⟩

theorem Invariant.lookupLocalLocked (hi : hub.Invariant) (peerID : PeerID)
    (now : Time) : (hub.lookupLocalLocked peerID now).1.Invariant := by
  have hdropped : Invariant { hub with presence := hub.presence.erase peerID } :=
    hi.of_subtables rfl rfl rfl rfl rfl (fun _ _ h => h)
      (fun _ _ h => (Table.get?_eq_some_of_get?_erase h).2) (fun _ _ h => h)
  unfold Hub.lookupLocalLocked
  split
  · exact hi
  · simp only
    split
    · exact hdropped
    · split
      · exact hdropped
      · split
        · exact hdropped
        · exact hi

theorem Invariant.lookupFederatedLocked (hi : hub.Invariant)
    (peerID : PeerID) (now : Time) : (hub.lookupFederatedLocked peerID now).1.Invariant := by
  have hdropped :
      Invariant { hub with federatedPresence := hub.federatedPresence.erase peerID } :=
    hi.of_subtables rfl rfl rfl rfl rfl (fun _ _ h => h) (fun _ _ h => h)
      (fun _ _ h => (Table.get?_eq_some_of_get?_erase h).2)
  unfold Hub.lookupFederatedLocked
  split
  · exact hi
  · simp only
    split
    · exact hdropped
    · split
      · exact hdropped
      · exact hi

theorem Invariant.lookup (hi : hub.Invariant) (peerID : PeerID) (now : Time) :
    (hub.lookup peerID now).hub.Invariant := by
  unfold Hub.lookup lookupLocked
  have hlocal := hi.lookupLocalLocked peerID now
  split
  · rename_i h
    simpa [h] using hlocal
  · rename_i hub' h
    rw [h] at hlocal
    have hfederated := hlocal.lookupFederatedLocked peerID now
    split
    · rename_i h'
      simpa [h'] using hfederated
    · rename_i h'
      simpa [h'] using hfederated

theorem Invariant.lookupLocal (hi : hub.Invariant) (peerID : PeerID)
    (now : Time) : (hub.lookupLocal peerID now).hub.Invariant :=
  hi.lookupLocalLocked peerID now

theorem Invariant.bindRoute (hi : hub.Invariant) (hopen : hub.closed = false)
    {source : SessionID} (hsource : (hub.sessions.get? source).isSome)
    (routeID : RouteID) {right : RouteEndpoint}
    (hright : (right.sessionID ≠ "" ∧ right.forwarder = none ∧
        (hub.sessions.get? right.sessionID).isSome) ∨
      (right.sessionID = "" ∧ right.forwarder.isSome)) :
    (hub.bindRoute source routeID right).hub.Invariant := by
  obtain ⟨state, hstate⟩ := Option.isSome_iff_exists.mp hsource
  have hleft : hub.routeEndpointForSessionLocked source = ⟨source, none, state.peerID⟩ := by
    simp [routeEndpointForSessionLocked, hstate]
  apply hi.insert_route hopen
  rw [hleft]
  exact ⟨(hi.session source state hstate).id_ne, rfl, hsource, hright⟩

theorem Invariant.rendezvous (hi : hub.Invariant) (source : SessionID)
    (routeID : RouteID) (peerID : PeerID) (now : Time) :
    (hub.rendezvous source routeID peerID now).hub.Invariant := by
  have hspec := rendezvous_spec hub source routeID peerID now
  generalize hub.rendezvous source routeID peerID now = o at hspec ⊢
  cases hspec with
  | refused err => exact hi
  | repeated => exact hi
  | missed _ _ _ _ hlocal hfederated =>
    have h₁ := hi.lookupLocalLocked peerID now
    rw [hlocal] at h₁
    have h₂ := h₁.lookupFederatedLocked peerID now
    rw [hfederated] at h₂
    exact h₂
  | boundLocal hopen _ hsource _ hlocal =>
    rcases lookupLocalLocked_eq_some hlocal with
      ⟨_, entry, session, _, _, hsession, _, rfl⟩
    apply hi.bindRoute hopen hsource
    exact .inl ⟨(hi.session _ _ hsession).id_ne, rfl, by simp [hsession]⟩
  | boundFederated hopen _ hsource _ hlocal hfederated =>
    have h₁ := hi.lookupLocalLocked peerID now
    rw [hlocal] at h₁
    have hforwarder := (lookupFederatedLocked_eq_some hfederated).2.2.2
    rcases lookupLocalLocked_eq_none hlocal with ⟨rfl, _⟩ | ⟨rfl, _⟩
    · exact h₁.bindRoute hopen hsource routeID (.inr ⟨rfl, hforwarder⟩)
    · exact h₁.bindRoute hopen hsource routeID (.inr ⟨rfl, hforwarder⟩)

theorem Invariant.sweepExpired (hi : hub.Invariant) (now : Time) :
    (hub.sweepExpired now).hub.Invariant :=
  hi.of_subtables rfl rfl rfl rfl rfl
    (fun _ _ h => (Table.get?_filter_eq_some.mp h).1)
    (fun _ _ h => (Table.get?_filter_eq_some.mp h).1)
    (fun _ _ h => (Table.get?_filter_eq_some.mp h).1)

/-- A peer's presence entry and its routes go with the session. -/
theorem Invariant.detach (hi : hub.Invariant) (id : SessionID) :
    (hub.detach id).hub.Invariant := by
  unfold Hub.detach
  split
  · exact hi
  · rename_i state hstate
    have hkeep : ∀ id' s, hub.sessions.get? id' = some s → id' ≠ id →
        (hub.sessions.erase id).get? id' = some s := by
      intro id' s h hne
      rw [Table.get?_erase_of_ne _ hne, h]
    refine ⟨?_, ?_, ?_, ?_, ?_, hi.federated, ?_, ?_⟩
    · intro id' s h
      rcases Table.get?_eq_some_of_get?_erase h with ⟨hne, hs⟩
      rcases hi.session id' s hs with ⟨h1, h2, h3, h4, h5⟩
      refine ⟨h1, h2, ?_, h4, h5⟩
      have href : s.ref ≠ state.ref := fun heq =>
        hne (hi.ref_unique id' s id state hs hstate heq)
      simpa [isClosed, href] using h3
    · intro id₁ s₁ id₂ s₂ h₁ h₂ heq
      exact hi.ref_unique id₁ s₁ id₂ s₂ (Table.get?_eq_some_of_get?_erase h₁).2
        (Table.get?_eq_some_of_get?_erase h₂).2 heq
    · have hle := hub.sessions.size_erase_le id
      have hlimit := hi.session_limit
      simp only
      omega
    · intro ref h
      rcases List.mem_cons.mp h with rfl | h
      · exact (hi.session id state hstate).ref_lt
      · exact hi.done_lt ref h
    · intro peer entry h
      have hold : hub.presence.get? peer = some entry ∧
          (state.peerID ≠ "" → peer ≠ state.peerID) := by
        simp only at h
        split at h
        · rcases Table.get?_eq_some_of_get?_erase h with ⟨hne, hget⟩
          exact ⟨hget, fun _ => hne⟩
        · rename_i hempty
          exact ⟨h, fun hc => absurd hc hempty⟩
      rcases hi.presence peer entry hold.1 with ⟨hp, s, hs, hsp⟩
      refine ⟨hp, s, hkeep _ s hs ?_, hsp⟩
      intro hid
      rw [hid, hstate] at hs
      cases hs
      exact hold.2 (hsp ▸ hp) hsp.symm
    · intro r route h
      rcases Table.get?_filter_eq_some.mp h with ⟨hroute, hothers⟩
      have hothers : route.left.sessionID ≠ id ∧ route.right.sessionID ≠ id := by
        simpa [RouteState.containsSession] using hothers
      rcases hi.route r route hroute with ⟨h1, h2, h3, h4⟩
      refine ⟨h1, h2, ?_, ?_⟩
      · simp only
        rw [Table.get?_erase_of_ne _ hothers.1]
        exact h3
      · simp only
        rw [Table.get?_erase_of_ne _ hothers.2]
        exact h4
    · intro h
      rcases hi.closed_empty h with ⟨h1, _⟩
      rw [h1 id] at hstate
      cases hstate

theorem Invariant.close (hi : hub.Invariant) : hub.close.hub.Invariant := by
  unfold Hub.close
  split
  · exact hi
  · refine ⟨by simp, by simp, ?_, ?_, by simp, by simp, by simp, by simp⟩
    · have hlimit := hi.session_limit
      simp only [Table.size_empty]
      omega
    · intro ref h
      rcases List.mem_append.mp h with h | h
      · obtain ⟨⟨id, state⟩, hmem, rfl⟩ := List.mem_map.mp h
        exact (hi.session id state (Table.mem_toList_iff.mp hmem)).ref_lt
      · exact hi.done_lt ref h

theorem Invariant.erase_route (hi : hub.Invariant) (routeID : RouteID) :
    Invariant { hub with routes := hub.routes.erase routeID } :=
  hi.of_subtables rfl rfl rfl rfl rfl
    (fun _ _ h => (Table.get?_eq_some_of_get?_erase h).2) (fun _ _ h => h) (fun _ _ h => h)

theorem Invariant.count (hi : hub.Invariant) (stats : Stats) :
    Invariant { hub with stats := stats } :=
  hi.of_subtables rfl rfl rfl rfl rfl (fun _ _ h => h) (fun _ _ h => h) (fun _ _ h => h)

theorem Invariant.settleLocal (hi : hub.Invariant) (source : SessionID)
    {target : SessionID} {destination : SessionState} {inbox : BoundedQueue Frame}
    {frame : Frame} (delivery : Option Delivery)
    (hdestination : hub.sessions.get? target = some destination)
    (hpush : destination.inbox.push? frame = some inbox) :
    (hub.settleLocal source target inbox frame delivery).Invariant := by
  apply Invariant.count
  apply hi.of_sessions
  · simp
  · intro id
    simp [Table.get?_modify_isSome]
  · intro id state' h
    simp only [Table.get?_modify] at h
    have hinbox : ∀ s, hub.sessions.get? target = some s →
        inbox.capacity = s.inbox.capacity := by
      intro s hs
      rw [hdestination] at hs
      cases hs
      exact (BoundedQueue.push?_eq_some hpush).1
    split at h
    · obtain ⟨s, hs, rfl⟩ := Option.map_eq_some_iff.mp h
      have hwindow : ∀ s : SessionState, WindowOk hub.config s.deliveries →
          WindowOk hub.config ((s.rememberDelivery frame.senderPeerID delivery).charge
            frame.payload.length).deliveries := fun s h => h.rememberDelivery _ _
      have hsame : ∀ s : SessionState,
          ((s.rememberDelivery frame.senderPeerID delivery).charge
            frame.payload.length).ref = s.ref ∧
          ((s.rememberDelivery frame.senderPeerID delivery).charge
            frame.payload.length).peerID = s.peerID ∧
          ((s.rememberDelivery frame.senderPeerID delivery).charge
            frame.payload.length).inbox = s.inbox := by
        intro s
        cases delivery <;> exact ⟨rfl, rfl, rfl⟩
      rcases hsame s with ⟨href, hpeer, hbox⟩
      split at hs
      · rename_i hid hsource
        obtain ⟨s₀, hs₀, rfl⟩ := Option.map_eq_some_iff.mp hs
        subst hid
        refine ⟨s₀, hsource ▸ hs₀, href, hpeer, ?_, hwindow _ (hi.session _ _ hs₀).window⟩
        rw [hbox]
        exact hinbox s₀ hs₀
      · rename_i hid _
        subst hid
        exact ⟨s, hs, href, hpeer, by rw [hbox], hwindow _ (hi.session _ _ hs).window⟩
    · split at h
      · rename_i hid
        obtain ⟨s₀, hs₀, rfl⟩ := Option.map_eq_some_iff.mp h
        exact ⟨s₀, hid ▸ hs₀, rfl, rfl, hinbox s₀ hs₀, (hi.session _ _ hs₀).window⟩
      · exact ⟨state', h, rfl, rfl, rfl, (hi.session _ _ h).window⟩

theorem Invariant.forwardLocked (hi : hub.Invariant) (ctxErr : Option Err)
    (source : SessionID) (routeID : RouteID) (payload : Bytes) (now : Time)
    (delivery : Option Delivery) :
    (hub.forwardLocked ctxErr source routeID payload now delivery).hub.Invariant := by
  have hspec := forwardLocked_spec hub ctxErr source routeID payload now delivery
  generalize hub.forwardLocked ctxErr source routeID payload now delivery = o at hspec ⊢
  cases hspec with
  | refused err => exact hi
  | dead => exact hi.erase_route routeID
  | orphaned => exact hi.erase_route routeID
  | full => exact hi.count _
  | enqueued _ hdestination hpush => exact hi.settleLocal source delivery hdestination hpush
  | forwarding hadmits =>
    exact hi.insert_session hadmits.session rfl rfl rfl (hi.session _ _ hadmits.session).window

theorem Invariant.rollbackUsageLocked (hi : hub.Invariant)
    (sessionID : SessionID) (expected : SessionRef) (payloadBytes : Nat) :
    (hub.rollbackUsageLocked sessionID expected payloadBytes).Invariant := by
  unfold Hub.rollbackUsageLocked
  split
  · exact hi
  · rename_i state hstate
    split
    · exact hi
    · exact hi.insert_session hstate rfl rfl rfl (hi.session _ _ hstate).window

theorem Invariant.rememberForwarded (hi : hub.Invariant)
    (pending : PendingForward) : (hub.rememberForwarded pending).Invariant := by
  unfold Hub.rememberForwarded
  split
  · exact hi
  · rename_i state hstate
    split
    · exact hi
    · have hwindow := (hi.session _ _ hstate).window.rememberDelivery
        pending.senderPeerID pending.delivery
      cases hdelivery : pending.delivery with
      | none => exact hi.insert_session hstate rfl rfl rfl (hdelivery ▸ hwindow)
      | some d => exact hi.insert_session hstate rfl rfl rfl (hdelivery ▸ hwindow)

theorem Invariant.forwardCompleted (hi : hub.Invariant)
    (pending : PendingForward) (err : Option Err) :
    (hub.forwardCompleted pending err).hub.Invariant := by
  cases err with
  | none => exact (hi.rememberForwarded pending).count _
  | some err =>
    have hrolled := hi.rollbackUsageLocked pending.source pending.sourceRef
      pending.payload.length
    unfold Hub.forwardCompleted
    simp only
    split
    · split
      · exact hrolled
      · exact hrolled.erase_route pending.routeID
    · exact hrolled

theorem Invariant.deliverFromFederated (hi : hub.Invariant)
    (ctxErr : Option Err) (routeID : RouteID) (payload : Bytes) (senderPeerID : PeerID) :
    (hub.deliverFromFederated ctxErr routeID payload senderPeerID).hub.Invariant := by
  have hspec := deliverFromFederated_spec hub ctxErr routeID payload senderPeerID
  generalize hub.deliverFromFederated ctxErr routeID payload senderPeerID = o at hspec ⊢
  cases hspec with
  | refused err => exact hi
  | orphaned => exact hi.erase_route routeID
  | full => exact hi.count _
  | enqueued _ _ hdestination hpush =>
    apply Invariant.count
    exact hi.insert_session hdestination rfl rfl (BoundedQueue.push?_eq_some hpush).1
      (hi.session _ _ hdestination).window

theorem Invariant.takeFrame {hub hub' : Hub} (hi : hub.Invariant) {id : SessionID}
    {ref : SessionRef} {frame : Frame} (h : hub.takeFrame id ref = some (frame, hub')) :
    hub'.Invariant := by
  rcases takeFrame_eq_some h with ⟨state, inbox, hstate, _, hcapacity, _, rfl⟩
  exact hi.insert_session hstate rfl rfl hcapacity (hi.session _ _ hstate).window

end Hub

namespace System

variable {w : System}

theorem invariant_attach (hi : w.hub.Invariant) (id : SessionID) :
    (w.attach id).hub.Invariant := by
  have hattach := hi.attach id
  unfold attach
  simp only
  split
  · exact hattach
  · exact hattach

theorem invariant_sendLocked (hi : w.hub.Invariant) (call : Nat)
    (ctxErr : Option Err) : (w.sendLocked call ctxErr).hub.Invariant := by
  unfold sendLocked
  split
  · exact hi
  · rename_i c _
    split
    · have hforward :=
        hi.forwardLocked ctxErr c.source c.routeID c.payload c.now c.delivery
      simp only
      split
      · simpa using hforward
      · simpa using hforward
      · simpa using hforward
    · exact hi

theorem invariant_forwardReturns (hi : w.hub.Invariant) (call : Nat)
    (reply : ForwardReply) : (w.forwardReturns call reply).hub.Invariant := by
  unfold forwardReturns
  split
  · exact hi
  · split
    · split
      · exact hi
      · simpa using hi
    · exact hi

theorem invariant_sendCompleted (hi : w.hub.Invariant) (call : Nat) :
    (w.sendCompleted call).hub.Invariant := by
  unfold sendCompleted
  split
  · exact hi
  · split
    · rename_i pending serial err _
      have hcompleted := hi.forwardCompleted pending err
      simp only
      split
      · simpa using hcompleted
      · simpa using hcompleted
    · exact hi

theorem invariant_deliverFromFederated (hi : w.hub.Invariant)
    (ctxErr : Option Err) (routeID : RouteID) (payload : Bytes) (senderPeerID : PeerID) :
    (w.deliverFromFederated ctxErr routeID payload senderPeerID).hub.Invariant := by
  have hdeliver := hi.deliverFromFederated ctxErr routeID payload senderPeerID
  unfold deliverFromFederated
  simp only
  split
  · simpa using hdeliver
  · simpa using hdeliver

theorem invariant_receiveSelect (hi : w.hub.Invariant) (call : Nat)
    (arm : SelectArm) : (w.receiveSelect call arm).hub.Invariant := by
  unfold receiveSelect
  split
  · exact hi
  · split
    · split
      · simpa using hi
      · split
        · simpa using hi
        · exact hi
      · split
        · exact hi
        · rename_i frame hub htake
          simpa using hi.takeFrame htake
    · exact hi

theorem invariant_step (hi : w.hub.Invariant) (e : Event) :
    (w.step e).hub.Invariant := by
  cases e with
  | write buffer bytes => exact hi
  | newForwarder object => exact hi
  | closeForwarder forwarder =>
    simp only [step, closeForwarder]
    split
    · exact hi
    · exact hi
  | tick now => exact hi
  | attach id => exact invariant_attach hi id
  | pair routeID left right => simpa [step] using hi.pair routeID left right
  | announceFederatedPresence peerID forwarder now =>
    exact hi.announceFederatedPresence peerID forwarder now
  | announcePresence id peerID now => exact hi.announcePresence id peerID now
  | heartbeat id now => exact hi.heartbeat id now
  | lookup peerID now => exact hi.lookup peerID now
  | lookupLocal peerID now => exact hi.lookupLocal peerID now
  | rendezvous source routeID peerID now =>
    simpa [step] using hi.rendezvous source routeID peerID now
  | sweepExpired now => exact hi.sweepExpired now
  | closeSession id => exact hi.detach id
  | closeHub => exact hi.close
  | deliverFromFederated ctxErr routeID payload senderPeerID =>
    exact invariant_deliverFromFederated hi ctxErr routeID payload senderPeerID
  | send source routeID buffer delivery now ctxErr => exact hi
  | sendLocked call ctxErr => exact invariant_sendLocked hi call ctxErr
  | forwardReturns call reply => exact invariant_forwardReturns hi call reply
  | sendCompleted call => exact invariant_sendCompleted hi call
  | receive handle =>
    simp only [step, receive]
    split
    · exact hi
    · exact hi
  | receiveLookup call =>
    simp only [step, receiveLookup]
    split
    · exact hi
    · split
      · split
        · exact hi
        · exact hi
      · exact hi
  | receiveSelect call arm => exact invariant_receiveSelect hi call arm
  | receiveReturns call =>
    simp only [step, receiveReturns]
    split
    · exact hi
    · split
      · split
        · exact hi
        · exact hi
      · exact hi

theorem invariant_after (config : ValidConfig) (events : List Event) :
    (after config events).hub.Invariant :=
  Trace.invariant (P := fun w : System => w.hub.Invariant) (fun _ e hi => invariant_step hi e)
    (Hub.invariant_start config) events

end System

end Branch.Relay
