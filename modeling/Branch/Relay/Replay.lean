import Branch.Relay.Sessions

/-!
The replay windows against the log of forwarded deliveries.
-/

namespace Branch.Relay

open Branch.Lib
open Branch.Wss

namespace System

/-- The deliveries that were forwarded for one session object, in order. -/
def deliveredLog (ref : SessionRef) (history : List HistoryEntry) :
    List (DeliveryKey × Digest) :=
  history.filterMap fun
    | .delivered source key digest => if source = ref then some (key, digest) else none
    | _ => none

theorem deliveredLog_append (ref : SessionRef) (xs ys : List HistoryEntry) :
    deliveredLog ref (xs ++ ys) = deliveredLog ref xs ++ deliveredLog ref ys :=
  List.filterMap_append

theorem deliveredLog_eq_nil {ref : SessionRef} {history : List HistoryEntry}
    (h : ∀ entry ∈ history, entry.session ≠ ref) : deliveredLog ref history = [] := by
  apply List.filterMap_eq_nil_iff.mpr
  intro entry hentry
  have hne := h entry hentry
  cases entry with
  | enqueued destination frame origin => rfl
  | delivered source key digest => exact if_neg hne
  | taken handle call frame => rfl

theorem deliveredLog_of_ne {ref source : SessionRef} (hne : ref ≠ source)
    (senderPeerID : PeerID) (delivery : Option Delivery) :
    deliveredLog ref (deliveredEntry source senderPeerID delivery) = [] := by
  apply deliveredLog_eq_nil
  intro entry hentry hsession
  exact hne (hsession.symm.trans (deliveredEntry_session hentry))

theorem deliveredLog_some (source : SessionRef) (senderPeerID : PeerID) (d : Delivery) :
    deliveredLog source (deliveredEntry source senderPeerID (some d)) =
      [(d.key senderPeerID, d.digest)] := by
  simp [deliveredLog, deliveredEntry]

/-- The window holds the last of the forwarded deliveries, and none of them was
forwarded while the window still held its key. -/
structure DeliveredOnce (window : DeliveryWindow) (log : List (DeliveryKey × Digest)) :
    Prop where
  nodup : window.order.Nodup
  same_keys : ∀ key, key ∈ window.order ↔ (window.entries.get? key).isSome
  remembered : ∀ key digest, window.entries.get? key = some digest ↔
    (key, digest) ∈ ReplayWindow.recent window.capacity log
  once : ReplayWindow.Spaced window.capacity log

/-- A send that takes the lock while its key is remembered is not forwarded. If
nothing is wrong with its route, it is reported as a duplicate or as a conflict. -/
def RepeatRefused (w : System) (e : Event) : Prop :=
  ∀ call ctxErr c d state digest, e = .sendLocked call ctxErr →
    w.sends[call]? = some c → c.stage = .entered → c.delivery = some d →
    w.hub.sessions.get? c.source = some state →
    state.deliveries.entries.get? (d.key state.peerID) = some digest →
    ∃ err, (w.step e).sends[call]? = some { c with stage := .failed err } ∧
      (w.step e).history = w.history ∧
      (ctxErr = none → ∀ route target, w.hub.routes.get? c.routeID = some route →
        route.peer c.source = some target → w.hub.routeLiveLocked route c.now = true →
        err = if digest = d.digest then .duplicateDelivery else .deliveryConflict)

/-- Each attached session's window is in step with the log after the event, and the
event forwards no remembered key. -/
def DeliveriesKept (w : System) (e : Event) : Prop :=
  (∀ id s, (w.step e).hub.sessions.get? id = some s →
    DeliveredOnce s.deliveries (deliveredLog s.ref (w.step e).history)) ∧
  RepeatRefused w e

/-- A forward that completes finds its key not yet remembered. -/
def ReplayGuard (w : System) (e : Event) : Prop :=
  ∀ call c pending serial d s, e = .sendCompleted call → w.sends[call]? = some c →
    c.stage = .answered pending serial none → pending.delivery = some d →
    w.hub.sessions.get? pending.source = some s → s.ref = pending.sourceRef →
    s.deliveries.entries.get? (d.key pending.senderPeerID) = none

structure Tracked (w : System) : Prop where
  tracks : ∀ id s, w.hub.sessions.get? id = some s →
    s.deliveries.Tracks (deliveredLog s.ref w.history)
  spaced : ∀ id s, w.hub.sessions.get? id = some s →
    ReplayWindow.Spaced s.deliveries.capacity (deliveredLog s.ref w.history)

theorem tracked_start (config : ValidConfig) : (start config).Tracked := by
  constructor
  · intro id s h
    simp [start, Hub.start] at h
  · intro id s h
    simp [start, Hub.start] at h

theorem Tracked.deliveredOnce {w : System} (ht : w.Tracked) {id : SessionID}
    {s : SessionState} (h : w.hub.sessions.get? id = some s) :
    DeliveredOnce s.deliveries (deliveredLog s.ref w.history) where
  nodup := (ht.tracks id s h).nodup_order
  same_keys := (ht.tracks id s h).mem_order_iff
  remembered := (ht.tracks id s h).entries
  once := ht.spaced id s h

theorem Tracked.of_same {w w' : System} (ht : w.Tracked)
    (hsessions : ∀ id s', w'.hub.sessions.get? id = some s' →
      ∃ s, w.hub.sessions.get? id = some s ∧ s'.ref = s.ref ∧ s'.deliveries = s.deliveries)
    (hlog : ∀ ref, deliveredLog ref w'.history = deliveredLog ref w.history) :
    w'.Tracked := by
  constructor
  · intro id s' h
    obtain ⟨s, hs, href, hwindow⟩ := hsessions id s' h
    rw [href, hwindow, hlog]
    exact ht.tracks id s hs
  · intro id s' h
    obtain ⟨s, hs, href, hwindow⟩ := hsessions id s' h
    rw [href, hwindow, hlog]
    exact ht.spaced id s hs

theorem Tracked.of_remembered {w w' : System} (hi : w.hub.Invariant) (ht : w.Tracked)
    (source : SessionRef) (senderPeerID : PeerID) (delivery : Option Delivery)
    (hsessions : ∀ id s', w'.hub.sessions.get? id = some s' →
      ∃ s, w.hub.sessions.get? id = some s ∧ s'.ref = s.ref ∧
        ((s.ref = source ∧
          s'.deliveries = (s.rememberDelivery senderPeerID delivery).deliveries) ∨
        (s.ref ≠ source ∧ s'.deliveries = s.deliveries)))
    (hlog : ∀ ref, deliveredLog ref w'.history = deliveredLog ref w.history ++
      deliveredLog ref (deliveredEntry source senderPeerID delivery))
    (hfresh : ∀ id s d, w.hub.sessions.get? id = some s → s.ref = source →
      delivery = some d → s.deliveries.entries.get? (d.key senderPeerID) = none) :
    w'.Tracked := by
  have hboth : ∀ id s', w'.hub.sessions.get? id = some s' →
      s'.deliveries.Tracks (deliveredLog s'.ref w'.history) ∧
        ReplayWindow.Spaced s'.deliveries.capacity (deliveredLog s'.ref w'.history) := by
    intro id s' h
    obtain ⟨s, hs, href, ⟨rfl, hwindow⟩ | ⟨hne, hwindow⟩⟩ := hsessions id s' h
    · rw [href, hwindow, hlog]
      cases delivery with
      | none =>
        have hnone : deliveredLog s.ref (deliveredEntry s.ref senderPeerID none) = [] := rfl
        rw [hnone, List.append_nil]
        exact ⟨ht.tracks id s hs, ht.spaced id s hs⟩
      | some d =>
        have hunknown := hfresh id s d hs rfl rfl
        have hpos : 0 < s.deliveries.capacity := by
          rw [(hi.session id s hs).window.capacity]
          exact Hub.replayCapacity_pos _
        rw [deliveredLog_some]
        refine ⟨(ht.tracks id s hs).remember hpos d.digest hunknown, ?_⟩
        simp only [SessionState.rememberDelivery, ReplayWindow.remember_capacity]
        exact ReplayWindow.spaced_snoc_iff.mpr
          ⟨ht.spaced id s hs, (ht.tracks id s hs).not_mem_recent hunknown⟩
    · rw [href, hwindow, hlog, deliveredLog_of_ne hne, List.append_nil]
      exact ⟨ht.tracks id s hs, ht.spaced id s hs⟩
  exact ⟨fun id s' h => (hboth id s' h).1, fun id s' h => (hboth id s' h).2⟩

theorem not_remembered {state : SessionState} {d : Delivery}
    (h : state.replayed (some d) = none) :
    state.deliveries.entries.get? (d.key state.peerID) = none := by
  simp only [SessionState.replayed] at h
  split at h
  · assumption
  · split at h
    · cases h
    · cases h

section Step

variable {w : System}

theorem tracked_sent (hi : w.Invariant) (ht : w.Tracked) {call : Nat} {c : SendCall}
    {state destination : SessionState} {target : SessionID} {inbox : BoundedQueue Frame}
    (hsource : w.hub.sessions.get? c.source = some state)
    (hreplay : state.replayed c.delivery = none) :
    (({ w with
      hub := w.hub.settleLocal c.source target inbox ⟨c.routeID, state.peerID, c.payload⟩
        c.delivery }.setSend call (.sent state.ref)).record
      (.enqueued destination.ref ⟨c.routeID, state.peerID, c.payload⟩ (.send call) ::
        deliveredEntry state.ref state.peerID c.delivery)).Tracked := by
  refine ht.of_remembered hi.hub state.ref state.peerID c.delivery ?_ ?_ ?_
  · intro id s' h
    obtain ⟨s, s₁, hs, htarget, hcase⟩ := settleLocal_eq_some h
    refine ⟨s, hs, ?_⟩
    have hs₁ : s₁.ref = s.ref ∧ s₁.deliveries = s.deliveries := by
      rcases htarget with ⟨_, rfl⟩ | ⟨_, rfl⟩
      · exact ⟨rfl, rfl⟩
      · exact ⟨rfl, rfl⟩
    rcases hcase with ⟨rfl, rfl⟩ | ⟨hne, rfl⟩
    · rw [hsource] at hs
      cases hs
      refine ⟨by simpa using hs₁.1, .inl ⟨rfl, ?_⟩⟩
      simp only [SessionState.charge_deliveries]
      cases c.delivery with
      | none => exact hs₁.2
      | some d => simp only [SessionState.rememberDelivery, hs₁.2]
    · refine ⟨hs₁.1, .inr ⟨?_, hs₁.2⟩⟩
      intro href
      exact hne (hi.hub.ref_unique _ _ _ _ hs hsource href)
  · intro ref
    rw [record_history, deliveredLog_append]
    rfl
  · intro id s d hs href hd
    obtain rfl := hi.hub.ref_unique _ _ _ _ hs hsource href
    rw [hsource] at hs
    cases hs
    rw [hd] at hreplay
    exact not_remembered hreplay

theorem tracked_completed (hi : w.Invariant) (ht : w.Tracked) {call : Nat} {c : SendCall}
    {pending : PendingForward} {serial : Nat} (hcall : w.sends[call]? = some c)
    (hstage : c.stage = .answered pending serial none)
    (hguard : ∀ d s, pending.delivery = some d →
      w.hub.sessions.get? pending.source = some s → s.ref = pending.sourceRef →
      s.deliveries.entries.get? (d.key pending.senderPeerID) = none) :
    (({ w with
      hub := (w.hub.rememberForwarded pending).countForwarded
        pending.payload.length }.setSend call (.sent pending.sourceRef)).record
      (deliveredEntry pending.sourceRef pending.senderPeerID pending.delivery)).Tracked := by
  have hsame : ∀ id s, w.hub.sessions.get? id = some s → s.ref = pending.sourceRef →
      id = pending.source :=
    fun id s hs href => hi.pending_source hcall (by rw [hstage]; rfl) hs href
  refine ht.of_remembered hi.hub pending.sourceRef pending.senderPeerID pending.delivery
    ?_ ?_ ?_
  · intro id s' h
    obtain ⟨s, hs, hcase⟩ := rememberForwarded_eq_some h
    rcases hcase with ⟨_, href, rfl⟩ | ⟨hother, rfl⟩
    · exact ⟨s, hs, by simp, .inl ⟨href, rfl⟩⟩
    · exact ⟨_, hs, rfl, .inr ⟨fun href => hother ⟨hsame _ _ hs href, href⟩, rfl⟩⟩
  · intro ref
    rw [record_history, deliveredLog_append]
    rfl
  · intro id s d hs href hd
    obtain rfl := hsame id s hs href
    exact hguard d s hd hs href

theorem sameWindow_insert {sessions : Table SessionID SessionState} {id : SessionID}
    {state state' : SessionState} (hstate : sessions.get? id = some state)
    (href : state'.ref = state.ref) (hwindow : state'.deliveries = state.deliveries)
    {id' : SessionID} {s' : SessionState}
    (h : (sessions.insert id state').get? id' = some s') :
    ∃ s, sessions.get? id' = some s ∧ s'.ref = s.ref ∧ s'.deliveries = s.deliveries := by
  rcases Table.get?_insert_eq_some h with ⟨rfl, rfl⟩ | ⟨_, hs⟩
  · exact ⟨state, hstate, href, hwindow⟩
  · exact ⟨s', hs, rfl, rfl⟩

theorem step_tracked (hi : w.Invariant) (ht : w.Tracked) {w' : System}
    {e : Event} (hstep : SessionsStep w e w') (hguard : ReplayGuard w e) : w'.Tracked := by
  cases hstep with
  | kept hkept _ hhistory =>
    refine ht.of_same ?_ (fun ref => by rw [hhistory])
    intro id s' h
    obtain ⟨s, hs, heq, _⟩ := hkept.kept id s' h
    exact ⟨s, hs, by rw [heq], by rw [heq]⟩
  | attached id =>
    -- Nothing has been forwarded for an object that did not exist.
    have hnil : deliveredLog w.hub.refs w.history = [] :=
      deliveredLog_eq_nil fun entry hentry => Nat.ne_of_lt (hi.history entry hentry)
    constructor
    · intro id' s' h
      rcases Table.get?_insert_eq_some h with ⟨_, rfl⟩ | ⟨_, hs⟩
      · simp only [hnil]
        exact ReplayWindow.tracks_empty (Hub.replayCapacity_pos _)
      · exact ht.tracks id' s' hs
    · intro id' s' h
      rcases Table.get?_insert_eq_some h with ⟨_, rfl⟩ | ⟨_, hs⟩
      · simp only [hnil]
        exact ReplayWindow.spaced_nil _
      · exact ht.spaced id' s' hs
  | sent _ _ hadmits => exact tracked_sent hi ht hadmits.session hadmits.fresh
  | forwarding _ _ hadmits =>
    exact ht.of_same (fun _ _ h => sameWindow_insert hadmits.session (by rfl) (by rfl) h) fun _ => rfl
  | completed hcall hstage hevent =>
    exact tracked_completed hi ht hcall hstage fun d s =>
      hguard _ _ _ _ d s hevent hcall hstage
  | rolledBack _ _ hsessions _ _ _ _ hhistory =>
    refine ht.of_same ?_ (fun ref => by rw [hhistory])
    intro id s' h
    rw [hsessions] at h
    obtain ⟨s, hs, ⟨_, _, rfl⟩ | ⟨_, rfl⟩⟩ := rollbackUsageLocked_eq_some h
    · exact ⟨s, hs, rfl, rfl⟩
    · exact ⟨_, hs, rfl, rfl⟩
  | delivered hdestination =>
    refine ht.of_same (fun _ _ h => sameWindow_insert hdestination (by rfl) (by rfl) h) ?_
    intro ref
    rw [record_history, deliveredLog_append]
    exact List.append_nil _
  | took _ _ hstate =>
    refine ht.of_same (fun _ _ h => sameWindow_insert hstate (by rfl) (by rfl) h) ?_
    intro ref
    rw [record_history, deliveredLog_append]
    exact List.append_nil _

theorem repeatRefused (hi : w.Invariant) (e : Event) : RepeatRefused w e := by
  rintro call ctxErr c d state digest rfl hcall hstage hdelivery hsource hheld
  have hreplayed : state.replayed c.delivery =
      some (if digest = d.digest then .duplicateDelivery else .deliveryConflict) := by
    rw [hdelivery]
    simp only [SessionState.replayed, hheld]
    split
    · rfl
    · rfl
  obtain ⟨err, hvalue, hreport⟩ :=
    Hub.forwardLocked_replayed hsource hreplayed ctxErr c.routeID c.payload c.now
  refine ⟨err, ?_, ?_, ?_⟩
  · simp only [step, sendLocked, hcall, hstage, hvalue]
    exact getElem?_setSend (w := w.settle _) hcall (.failed err)
  · simp only [step, sendLocked, hcall, hstage, hvalue]
    rfl
  · intro hctx
    exact hreport hctx (hi.hub.open_of_session hsource) (hi.hub.session _ _ hsource).not_done

theorem completed_log {call : Nat} {c : SendCall} {pending : PendingForward} {serial : Nat}
    {d : Delivery} {s : SessionState} (hcall : w.sends[call]? = some c)
    (hstage : c.stage = .answered pending serial none) (hdelivery : pending.delivery = some d)
    (hs : w.hub.sessions.get? pending.source = some s) (href : s.ref = pending.sourceRef) :
    ∃ s', (w.step (.sendCompleted call)).hub.sessions.get? pending.source = some s' ∧
      s'.deliveries.capacity = s.deliveries.capacity ∧
      deliveredLog s'.ref (w.step (.sendCompleted call)).history =
        deliveredLog s.ref w.history ++ [(d.key pending.senderPeerID, d.digest)] := by
  refine ⟨s.rememberDelivery pending.senderPeerID pending.delivery, ?_, ?_, ?_⟩
  · simp only [step, sendCompleted, hcall, hstage]
    change (w.hub.rememberForwarded pending).sessions.get? pending.source = _
    simp [Hub.rememberForwarded, hs, href]
  · rw [hdelivery]
    exact ReplayWindow.remember_capacity _ _ _
  · simp only [step, sendCompleted, hcall, hstage, record_history, SessionState.rememberDelivery_ref]
    rw [deliveredLog_append, href, hdelivery, deliveredLog_some]
    rfl

end Step

theorem deliveriesKept_iff {w : System} (hi : w.Invariant) (ht : w.Tracked) (e : Event) :
    DeliveriesKept w e ↔ ReplayGuard w e := by
  constructor
  · rintro ⟨hkept, _⟩ call c pending serial d s rfl hcall hstage hdelivery hs href
    by_contra hheld
    obtain ⟨digest, hdigest⟩ := Option.ne_none_iff_exists'.mp hheld
    obtain ⟨s', hs', hcapacity, hlog⟩ := completed_log hcall hstage hdelivery hs href
    -- The key is among the recent ones, so logging it again breaks the spacing.
    have honce := (hkept _ s' hs').once
    rw [hlog, hcapacity] at honce
    apply (ReplayWindow.spaced_snoc_iff.mp honce).2
    exact List.mem_map.mpr ⟨_, ((ht.tracks _ s hs).entries _ digest).mp hdigest, rfl⟩
  · intro hguard
    have hnext : (w.step e).Tracked := step_tracked hi ht (step_sessions w e) hguard
    exact ⟨fun id s h => hnext.deliveredOnce h, repeatRefused hi e⟩

/-- In a run, every window stays in step with the log and no key is forwarded while it
is remembered, exactly when no completed forward finds its key remembered already. -/
theorem deliveries_kept_iff (config : ValidConfig) (events : List Event) :
    Trace.Meets step DeliveriesKept (start config) events ↔
      Trace.Meets step ReplayGuard (start config) events :=
  Trace.meets_congr_of_meets (P := fun w => w.Invariant ∧ w.Tracked)
    (fun w e hi hguard =>
      ⟨step_invariant hi.1 e, step_tracked hi.1 hi.2 (step_sessions w e) hguard⟩)
    (fun _ e hi => deliveriesKept_iff hi.1 hi.2 e)
    ⟨invariant_start config, tracked_start config⟩ events

/-- A delivery that is retried before its first forward has come back. -/
def retriedDelivery : Delivery := ⟨7, "delivery-1", Vector.replicate 32 0⟩

def retriedRun : List Event :=
  [.newForwarder (.wss .fresh), .attach "a", .announceFederatedPresence "p" (some 0) 0,
    .rendezvous "a" "r" "p" 0, .send "a" "r" 0 (some retriedDelivery) 0 none,
    .send "a" "r" 0 (some retriedDelivery) 0 none, .sendLocked 0 none, .sendLocked 1 none,
    .forwardReturns 0 ⟨none, none⟩, .forwardReturns 1 ⟨none, none⟩, .sendCompleted 0]

/-- Both sends pass the replay check before either is answered, and both are
forwarded. -/
theorem delivery_forwarded_twice :
    ¬∀ (config : ValidConfig) (events : List Event),
      Trace.Meets step DeliveriesKept (start config) events := by
  intro h
  have hrun := h defaultValidConfig (retriedRun ++ [.sendCompleted 1])
  have hlast := ((Trace.meets_snoc _ _ _ _ _).mp hrun).2
  have horder : (((after defaultValidConfig retriedRun).step
      (.sendCompleted 1)).hub.sessions.get? "a").map (fun s => s.deliveries.order) =
        some [retriedDelivery.key "", retriedDelivery.key ""] := by
    decide
  obtain ⟨s, hs, hkeys⟩ := Option.map_eq_some_iff.mp horder
  have hnodup := (hlast.1 "a" s hs).nodup
  rw [hkeys] at hnodup
  exact absurd hnodup (by decide)

end System

end Branch.Relay
