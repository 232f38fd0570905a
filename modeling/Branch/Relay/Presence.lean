import Branch.Relay.Sessions

/-!
Presence entries under the operations of sessions that do not own them.
-/

namespace Branch.Relay

open Branch.Lib

namespace Hub

/-- The live presence entry of the peer id that a session has recorded is the
session's own. -/
def OwnsRecorded (hub : Hub) (id : SessionID) (now : Time) : Prop :=
  ∀ state entry, hub.sessions.get? id = some state →
    hub.presence.get? state.peerID = some entry → now < entry.expiresAt →
    entry.sessionID = id

theorem lookupLocal_value {hub : Hub} (hi : hub.Invariant) {peer : PeerID}
    {entry : PresenceState} (h : hub.presence.get? peer = some entry) {now : Time}
    (hlive : now < entry.expiresAt) :
    (hub.lookupLocal peer now).value =
      some ⟨peer, entry.sessionID, entry.expiresAt, false⟩ := by
  obtain ⟨_, state, hstate, _⟩ := hi.presence peer entry h
  have hopen := (hi.session _ _ hstate).not_done
  simp [lookupLocal, lookupLocalLocked, h, hlive, hstate, hopen]

theorem detach_presence {hub : Hub} {id : SessionID} {state : SessionState}
    (hstate : hub.sessions.get? id = some state) (peer : PeerID) :
    (hub.detach id).hub.presence.get? peer =
      if state.peerID ≠ "" ∧ peer = state.peerID then none
      else hub.presence.get? peer := by
  unfold detach
  rw [hstate]
  simp only
  by_cases hempty : state.peerID = ""
  · simp [hempty]
  · simp [hempty, Table.get?_erase]

theorem announcePresence_presence {hub : Hub} {id : SessionID} {state : SessionState}
    {peerID : PeerID} (hvalid : validateID peerID = none) (hopen : hub.closed = false)
    (hstate : hub.sessions.get? id = some state) (hlive : hub.isClosed state.ref = false)
    (now : Time) {peer : PeerID} (hother : peer ≠ peerID) :
    (hub.announcePresence id peerID now).hub.presence.get? peer =
      if state.peerID ≠ "" ∧ peer = state.peerID then none
      else hub.presence.get? peer := by
  unfold announcePresence
  rw [hvalid, hstate]
  simp only [hopen, hlive, Bool.false_eq_true, if_false, Table.get?_insert, if_neg hother]
  split
  · rename_i hmoved
    simp [hmoved.1, Table.get?_erase]
  · rename_i hsame
    rw [if_neg]
    rintro ⟨hne, rfl⟩
    exact hsame ⟨hne, fun h => hother h⟩

end Hub

namespace System

/-- The session whose close or announcement an event is, and the peer id that it
announces. -/
def presenceActor : Event → Option (SessionID × Option PeerID)
  | .closeSession id => some (id, none)
  | .announcePresence id peerID _ => some (id, some peerID)
  | _ => none

/-- Every live entry of another session, except for that of the announced peer,
survives the event, and its peer stays reachable at that session. -/
def ForeignPresenceKept (w : System) (e : Event) : Prop :=
  ∀ id claimed, presenceActor e = some (id, claimed) →
    ∀ peer entry, w.hub.presence.get? peer = some entry →
      (w.step e).clock < entry.expiresAt → entry.sessionID ≠ id → claimed ≠ some peer →
      (w.step e).hub.presence.get? peer = some entry ∧
        ∀ now, now < entry.expiresAt →
          ((w.step e).hub.lookupLocal peer now).value =
            some ⟨peer, entry.sessionID, entry.expiresAt, false⟩

/-- A close, or an announcement that the hub accepts and that changes the
recorded peer id, finds no live entry of another session under the recorded id. -/
def PresenceGuard (w : System) : Event → Prop
  | .closeSession id => w.hub.OwnsRecorded id w.clock
  | .announcePresence id peerID now =>
    validateID peerID = none →
      (∀ state, w.hub.sessions.get? id = some state → state.peerID ≠ peerID) →
      w.hub.OwnsRecorded id (max w.clock now)
  | _ => True

theorem foreignPresenceKept_of_get {w : System} (hi : w.Invariant) {e : Event}
    (h : ∀ id claimed, presenceActor e = some (id, claimed) →
      ∀ peer entry, w.hub.presence.get? peer = some entry →
        (w.step e).clock < entry.expiresAt → entry.sessionID ≠ id →
        claimed ≠ some peer → (w.step e).hub.presence.get? peer = some entry) :
    ForeignPresenceKept w e := by
  intro id claimed hactor peer entry hentry hlive hother hclaimed
  have hkept := h id claimed hactor peer entry hentry hlive hother hclaimed
  refine ⟨hkept, ?_⟩
  intro now hnow
  exact Hub.lookupLocal_value (invariant_step hi.hub e) hkept hnow

theorem foreignPresenceKept_close {w : System} (hi : w.Invariant) (id : SessionID) :
    ForeignPresenceKept w (.closeSession id) ↔ w.hub.OwnsRecorded id w.clock := by
  constructor
  · intro hkept state entry hstate hentry hlive
    by_contra hother
    have hget := (hkept id none rfl state.peerID entry hentry hlive hother (by simp)).1
    obtain ⟨hne, _⟩ := hi.hub.presence _ _ hentry
    change (w.hub.detach id).hub.presence.get? state.peerID = some entry at hget
    rw [Hub.detach_presence hstate, if_pos ⟨hne, rfl⟩] at hget
    cases hget
  · intro howns
    apply foreignPresenceKept_of_get hi
    rintro _ _ ⟨⟩ peer entry hentry hlive hother _
    change (w.hub.detach id).hub.presence.get? peer = some entry
    cases hstate : w.hub.sessions.get? id with
    | none => simpa [Hub.detach, hstate, Hub.returns] using hentry
    | some state =>
      rw [Hub.detach_presence hstate, if_neg, hentry]
      rintro ⟨_, rfl⟩
      exact hother (howns state entry hstate hentry hlive)

theorem foreignPresenceKept_announce {w : System} (hi : w.Invariant) (id : SessionID)
    (peerID : PeerID) (now : Time) :
    ForeignPresenceKept w (.announcePresence id peerID now) ↔
      PresenceGuard w (.announcePresence id peerID now) := by
  constructor
  · intro hkept hvalid hmoves state entry hstate hentry hlive
    by_contra hother
    have hne : state.peerID ≠ peerID := hmoves state hstate
    have hget := (hkept id (some peerID) rfl state.peerID entry hentry hlive hother
      (fun h => hne (Option.some.inj h).symm)).1
    obtain ⟨hempty, _⟩ := hi.hub.presence _ _ hentry
    have hopen : w.hub.closed = false := by
      apply Bool.eq_false_iff.mpr
      intro hclosed
      rw [(hi.hub.closed_empty hclosed).1] at hstate
      cases hstate
    change (w.hub.announcePresence id peerID now).hub.presence.get? state.peerID =
      some entry at hget
    rw [Hub.announcePresence_presence hvalid hopen hstate
      (hi.hub.session _ _ hstate).not_done now hne, if_pos ⟨hempty, rfl⟩] at hget
    cases hget
  · intro hguard
    apply foreignPresenceKept_of_get hi
    rintro _ _ ⟨⟩ peer entry hentry hlive hother hclaimed
    have hpeer : peer ≠ peerID := fun h => hclaimed (by rw [h])
    change (w.hub.announcePresence id peerID now).hub.presence.get? peer = some entry
    cases hvalid : validateID peerID with
    | some err => simpa [Hub.announcePresence, hvalid, Hub.returns] using hentry
    | none =>
      cases hopen : w.hub.closed with
      | true => simpa [Hub.announcePresence, hvalid, hopen, Hub.returns] using hentry
      | false =>
        cases hstate : w.hub.sessions.get? id with
        | none =>
          simpa [Hub.announcePresence, hvalid, hopen, hstate, Hub.returns] using hentry
        | some state =>
          rw [Hub.announcePresence_presence hvalid hopen hstate
            (hi.hub.session _ _ hstate).not_done now hpeer, if_neg, hentry]
          rintro ⟨_, rfl⟩
          apply hother
          refine hguard hvalid ?_ state entry hstate hentry hlive
          intro state' hstate'
          rw [hstate] at hstate'
          cases hstate'
          exact hpeer

theorem foreignPresenceKept_iff {w : System} (hi : w.Invariant) (e : Event) :
    ForeignPresenceKept w e ↔ PresenceGuard w e := by
  cases e with
  | closeSession id => exact foreignPresenceKept_close hi id
  | announcePresence id peerID now => exact foreignPresenceKept_announce hi id peerID now
  | _ => exact ⟨fun _ => trivial, by rintro _ _ _ ⟨⟩⟩

/-- In a run, foreign entries survive throughout exactly when no session ever acts
while its recorded peer id is live under another session. -/
theorem foreign_presence_kept_iff (config : ValidConfig) (events : List Event) :
    Trace.Meets step ForeignPresenceKept (start config) events ↔
      Trace.Meets step PresenceGuard (start config) events :=
  Trace.meets_congr (P := Invariant) (fun _ e hi => step_invariant hi e)
    (fun _ e hi => foreignPresenceKept_iff hi e) (invariant_start config) events

/-- A peer that has moved to a new session loses its entry when the old session
closes. -/
theorem reconnected_peer_dropped :
    ¬∀ (config : ValidConfig) (events : List Event),
      Trace.Meets step ForeignPresenceKept (start config) events := by
  intro h
  have hrun := h defaultValidConfig
    ([.attach "a", .attach "b", .announcePresence "a" "p" 0,
      .announcePresence "b" "p" 1] ++ [.closeSession "a"])
  have hlast := ((Trace.meets_snoc _ _ _ _ _).mp hrun).2
  have hkept := (hlast "a" none rfl "p" ⟨"b", 30000000001⟩ (by decide) (by decide)
    (by decide) (by decide)).1
  exact absurd hkept (by decide)

end System

end Branch.Relay
