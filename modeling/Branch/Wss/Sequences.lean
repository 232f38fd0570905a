import Branch.Lib.Trace
import Branch.Protocol.FrameFields
import Branch.Wss.Handler

/-!
The order of the sequences that an attachment accepts. Announcements for the contact discovery
carry a sequence as well, which nothing looks at.
-/

namespace Branch.Wss

open Branch.Lib
open Branch.Protocol (RawFrame RelayFrameType)
open Branch.Relay (Bytes)

/-- The type of a frame that carries a sequence, with the sequence. -/
def carriedSequence (raw : Bytes) : Option (RelayFrameType × Nat) :=
  match decodeTypedFrame raw with
  | .error _ => none
  | .ok frame =>
    (frameType frame).bind fun t => (numericField (frame.get? "sequence")).map fun n => (t, n)

structure SequenceLog where
  sequences : SequenceTracker := {}
  accepted : List (RelayFrameType × Nat) := []

/-- A frame with what the rest of the relay answers while it is handled. -/
abbrev Arrival := Environment × Bytes

namespace SequenceLog

variable (attached : Attached) (log : SequenceLog) (arrival : Arrival)

def answer : Except Fault (List Written) :=
  (handleFrame arrival.1 attached log.sequences arrival.2).2

/-- A frame is accepted when it is handled without an error. -/
def step : SequenceLog where
  sequences := (handleFrame arrival.1 attached log.sequences arrival.2).1
  accepted :=
    if (log.answer attached arrival).isOk then
      log.accepted ++ (carriedSequence arrival.2).toList
    else log.accepted

/-- A frame with a sequence that is not above all accepted ones is rejected. -/
def RejectsStale : Prop :=
  ∀ t n, carriedSequence arrival.2 = some (t, n) → (∃ entry ∈ log.accepted, n ≤ entry.2) →
    (log.answer attached arrival).isOk = false

def AnnouncementStands (raw : Bytes) : Prop :=
  attached.federationAttachment = false ∧ attached.contactDiscoveryEnabled = true ∧
    ∃ frame discoverable, decodeTypedFrame raw = .ok frame ∧ otherSession attached frame = false ∧
      frame.get? "discoverable" = some (.bool discoverable)

/-- An announcement that passes its checks is above all that was accepted, and a frame that
passes the check of its sequence is above the announcements. -/
def InOrder : Prop :=
  ∀ t n, carriedSequence arrival.2 = some (t, n) →
    if t = .contactAnnounce then
      AnnouncementStands attached arrival.2 → ∀ entry ∈ log.accepted, entry.2 < n
    else
      (log.sequences.set = true → log.sequences.last < n) →
        ∀ entry ∈ log.accepted, entry.1 = .contactAnnounce → entry.2 < n

/-- Every sequence that was accepted, that of an announcement apart, is at most the last one,
and they increase. -/
structure Ordered : Prop where
  bounded : ∀ entry ∈ log.accepted, entry.1 ≠ .contactAnnounce →
    log.sequences.set = true ∧ entry.2 ≤ log.sequences.last
  increasing : log.accepted.Pairwise fun entry entry' => entry.2 < entry'.2

end SequenceLog

/-- A type whose frames carry a sequence is looked at, or announces a contact. -/
theorem tracks_of_carriedSequence {raw : Bytes} {t : RelayFrameType} {n : Nat}
    (h : carriedSequence raw = some (t, n)) : t = .contactAnnounce ∨ tracksSequence t = true := by
  unfold carriedSequence at h
  split at h
  · cases h
  · rename_i frame hframe
    obtain ⟨t', htype, hn⟩ := Option.bind_eq_some_iff.mp h
    obtain ⟨n', hn', heq⟩ := Option.map_eq_some_iff.mp hn
    obtain ⟨rfl, rfl⟩ := Prod.mk.inj heq
    obtain ⟨fields, t, hreads, ht, hvalid⟩ := decodeTypedFrame_eq_ok hframe
    obtain rfl : t = t' := Option.some.inj ((hreads.frameType ht).symm.trans htype)
    have hkey : "sequence" ∈ Protocol.allowedKeys t := by
      refine Protocol.mem_allowedKeys hvalid fun hnone => ?_
      rw [hreads.get?_eq_none hnone] at hn'
      cases hn'
    cases t <;> first | exact .inl rfl | exact .inr rfl | exact absurd hkey (by decide)

theorem SequenceTracker.accept_eq_ok {tracker next : SequenceTracker} {frame : TypedFrame}
    (h : tracker.accept frame = .ok next) :
    ((frameType frame).any tracksSequence = false ∧ next = tracker) ∨
      ((frameType frame).any tracksSequence = true ∧
        ∃ n, numericField (frame.get? "sequence") = some n ∧
          (tracker.set = true → tracker.last < n) ∧ next = { set := true, last := n }) := by
  unfold SequenceTracker.accept at h
  split at h
  · rename_i htracks
    split at h
    · cases h
    · rename_i n hn
      split at h
      · cases h
      · rename_i hlast
        obtain rfl := Except.ok.inj h
        refine .inr ⟨htracks, n, hn, fun hset => ?_, rfl⟩
        exact Nat.lt_of_not_le fun hle => hlast ⟨hset, hle⟩
  · rename_i htracks
    obtain rfl := Except.ok.inj h
    exact .inl ⟨Bool.eq_false_iff.mpr htracks, rfl⟩

theorem carriedSequence_eq_some {raw : Bytes} {frame : TypedFrame} {t : RelayFrameType} {n : Nat}
    (hframe : decodeTypedFrame raw = .ok frame) :
    carriedSequence raw = some (t, n) ↔
      frameType frame = some t ∧ numericField (frame.get? "sequence") = some n := by
  simp only [carriedSequence, hframe, Option.bind_eq_some_iff, Option.map_eq_some_iff,
    Prod.mk.injEq]
  constructor
  · rintro ⟨t', htype, n', hn, rfl, rfl⟩
    exact ⟨htype, hn⟩
  · rintro ⟨htype, hn⟩
    exact ⟨t, htype, n, hn, rfl, rfl⟩

theorem handleContactAnnounce_eq_ok {attached : Attached} {frame : TypedFrame}
    {written : List Written} (h : handleContactAnnounce attached frame = .ok written) :
    attached.federationAttachment = false ∧ attached.contactDiscoveryEnabled = true ∧
      ∃ discoverable, frame.get? "discoverable" = some (.bool discoverable) := by
  unfold handleContactAnnounce at h
  split at h
  · cases h
  · rename_i hextension
    push Not at hextension
    repeat' split at h
    all_goals first | cases h; done | skip
    rename_i discoverable hdiscoverable
    exact ⟨Bool.eq_false_iff.mpr hextension.1, hextension.2, discoverable, hdiscoverable⟩

theorem announcementStands_of_dispatch {env : Environment} {attached : Attached} {raw : Bytes}
    {frame : TypedFrame} {written : List Written} (hframe : decodeTypedFrame raw = .ok frame)
    (hsession : otherSession attached frame = false)
    (htype : frameType frame = some .contactAnnounce)
    (h : dispatch env attached raw frame = .ok written) :
    SequenceLog.AnnouncementStands attached raw := by
  rw [dispatch, htype] at h
  obtain ⟨hfederation, henabled, discoverable, hdiscoverable⟩ := handleContactAnnounce_eq_ok h
  exact ⟨hfederation, henabled, frame, discoverable, hframe, hsession, hdiscoverable⟩

theorem handleFrame_cases (env : Environment) (attached : Attached) (sequences : SequenceTracker)
    (raw : Bytes) :
    ((handleFrame env attached sequences raw).1 = sequences ∧
        ((handleFrame env attached sequences raw).2.isOk = true → ∀ t n,
          carriedSequence raw = some (t, n) →
            t = .contactAnnounce ∧ SequenceLog.AnnouncementStands attached raw)) ∨
      ∃ t n, carriedSequence raw = some (t, n) ∧ tracksSequence t = true ∧
        (sequences.set = true → sequences.last < n) ∧
        (handleFrame env attached sequences raw).1 = { set := true, last := n } := by
  unfold handleFrame
  cases hframe : decodeTypedFrame raw with
  | error err => exact .inl ⟨rfl, fun h => nomatch h⟩
  | ok frame =>
    by_cases hsession : otherSession attached frame = true
    · simp only [hsession, if_true]
      exact .inl ⟨trivial, fun h => nomatch h⟩
    · simp only [hsession]
      cases haccept : sequences.accept frame with
      | error err => exact .inl ⟨rfl, fun h => nomatch h⟩
      | ok next =>
        rcases SequenceTracker.accept_eq_ok haccept with
          ⟨htracks, rfl⟩ | ⟨htracks, n, hn, hlast, rfl⟩
        · refine .inl ⟨rfl, fun hok t n hcarried => ?_⟩
          obtain ⟨htype, _⟩ := (carriedSequence_eq_some hframe).mp hcarried
          rcases tracks_of_carriedSequence hcarried with rfl | ht
          · obtain ⟨written, hwritten⟩ := exists_of_isOk hok
            exact ⟨rfl, announcementStands_of_dispatch hframe
              (Bool.eq_false_iff.mpr hsession) htype hwritten⟩
          · rw [htype, Option.any_some, ht] at htracks
            cases htracks
        · obtain ⟨t, htype, ht⟩ := (Option.any_eq_true _ _).mp htracks
          exact .inr ⟨t, n, (carriedSequence_eq_some hframe).mpr ⟨htype, hn⟩, ht, hlast, rfl⟩

namespace SequenceLog

variable {attached : Attached} {log : SequenceLog} {arrival : Arrival}

theorem ordered_empty : Ordered {} where
  bounded := by rintro entry ⟨⟩
  increasing := List.Pairwise.nil

theorem lt_of_accepted (h : log.Ordered) (horder : log.InOrder attached arrival)
    (hok : (log.answer attached arrival).isOk = true) {t : RelayFrameType} {n : Nat}
    (hcarried : carriedSequence arrival.2 = some (t, n)) : ∀ entry ∈ log.accepted, entry.2 < n := by
  have horder := horder t n hcarried
  rcases handleFrame_cases arrival.1 attached log.sequences arrival.2 with
    ⟨_, hannounce⟩ | ⟨t', n', hcarried', htracks, hlast, _⟩
  · obtain ⟨rfl, hstands⟩ := hannounce hok t n hcarried
    rw [if_pos rfl] at horder
    exact horder hstands
  · obtain ⟨rfl, rfl⟩ : t' = t ∧ n' = n := by
      simpa using hcarried'.symm.trans hcarried
    have hne : t' ≠ .contactAnnounce := by
      rintro rfl
      cases htracks
    rw [if_neg hne] at horder
    intro entry hentry
    by_cases htype : entry.1 = .contactAnnounce
    · exact horder hlast entry hentry htype
    · obtain ⟨hset, hle⟩ := h.bounded entry hentry htype
      exact Nat.lt_of_le_of_lt hle (hlast hset)

theorem rejectsStale_of_inOrder (h : log.Ordered) (horder : log.InOrder attached arrival) :
    log.RejectsStale attached arrival := by
  rintro t n hcarried ⟨entry, hentry, hle⟩
  refine Bool.eq_false_iff.mpr fun hok => ?_
  exact absurd (lt_of_accepted h horder hok hcarried entry hentry) (Nat.not_lt.mpr hle)

theorem ordered_step (h : log.Ordered) (horder : log.InOrder attached arrival) :
    (log.step attached arrival).Ordered := by
  constructor
  · intro entry hentry htype
    have hentry : entry ∈ log.accepted ∨
        (log.answer attached arrival).isOk = true ∧ carriedSequence arrival.2 = some entry := by
      rw [step] at hentry
      dsimp only at hentry
      split at hentry
      · rename_i hok
        rcases List.mem_append.mp hentry with hentry | hentry
        · exact .inl hentry
        · exact .inr ⟨hok, Option.mem_toList.mp hentry⟩
      · exact .inl hentry
    rcases handleFrame_cases arrival.1 attached log.sequences arrival.2 with
      ⟨hsame, hannounce⟩ | ⟨t, n, hcarried, _, hlast, hnext⟩
    · rw [step, hsame]
      rcases hentry with hentry | ⟨hok, hentry⟩
      · exact h.bounded entry hentry htype
      · exact absurd (hannounce hok entry.1 entry.2 hentry).1 htype
    · rw [step, hnext]
      refine ⟨rfl, ?_⟩
      rcases hentry with hentry | ⟨_, hentry⟩
      · obtain ⟨hset, hle⟩ := h.bounded entry hentry htype
        exact hle.trans (hlast hset).le
      · obtain rfl : (t, n) = entry := Option.some.inj (hcarried.symm.trans hentry)
        exact Nat.le_refl n
  · rw [step]
    dsimp only
    split
    · rename_i hok
      refine List.pairwise_append.mpr ⟨h.increasing, ?_, ?_⟩
      · cases carriedSequence arrival.2 <;> simp
      · intro entry hentry entry' hentry'
        exact lt_of_accepted h horder hok (Option.mem_toList.mp hentry') entry hentry
    · exact h.increasing

/-- In a run of an attachment whose frames come in order, the sequences that are accepted
increase, and each frame with a sequence that is not above them is rejected. -/
theorem sequences_increase (attached : Attached) (arrivals : List Arrival)
    (horder : Trace.Meets (step attached) (InOrder attached) {} arrivals) :
    (Trace.run (step attached) {} arrivals).accepted.Pairwise
        (fun entry entry' => entry.2 < entry'.2) ∧
      Trace.Meets (step attached) (RejectsStale attached) {} arrivals := by
  constructor
  · have hordered : (Trace.run (step attached) {} arrivals).Ordered :=
      Trace.invariant_of_meets (fun log arrival h => ordered_step h) ordered_empty horder
    exact hordered.increasing
  · exact Trace.meets_of_meets (fun log arrival h hin =>
      ⟨ordered_step h hin, rejectsStale_of_inOrder h hin⟩) ordered_empty horder

section Announcements

def zeroID : String := "AAAAAAAAAAAAAAAAAAAAAAAAAAAAAAAAAAAAAAAAAAA"

def discoveryAttachment : Attached where
  sessionID := zeroID
  authenticatedPeerID := zeroID
  federationAttachment := false
  contactDiscoveryEnabled := true

def quietEnvironment : Environment where
  now := 0
  writeFails := false
  random := fun _ => none
  reserve := fun _ _ => none
  announcePresence := fun _ => none
  heartbeat := none
  lookup := fun _ => false
  lookupLocal := fun _ => false
  lookupFederatedPeer := fun _ => false
  rendezvous := fun _ _ => none
  announceFederatedPeer := fun _ => some .peerUnavailable
  rendezvousAgain := fun _ _ => none
  sendDelivery := fun _ _ _ => none
  reserveRequest := fun _ _ => false
  identityContacts := false
  identityRecords := fun _ _ => []
  acceptRecord := fun _ _ => false

def announcement (sequence : Nat) : Arrival :=
  (quietEnvironment, Json.marshal (Fields.ofList [("type", .string "CONTACT_ANNOUNCE"),
    ("session_id", .string zeroID), ("discoverable", .bool true),
    ("sequence", jsonNat sequence)]))

theorem sequences_increase_announcements :
    (Trace.run (step discoveryAttachment) {} [announcement 1, announcement 2]).accepted.Pairwise
        (fun entry entry' => entry.2 < entry'.2) ∧
      Trace.Meets (step discoveryAttachment) (RejectsStale discoveryAttachment) {}
        [announcement 1, announcement 2] := by
  have hfirst : (step discoveryAttachment {} (announcement 1)).accepted =
      [(.contactAnnounce, 1)] := by decide +kernel
  have hsecond : carriedSequence (announcement 2).2 = some (.contactAnnounce, 2) := by
    decide +kernel
  refine sequences_increase discoveryAttachment [announcement 1, announcement 2] ⟨?_, ?_, trivial⟩
  · intro t n _
    split
    · rintro _ entry ⟨⟩
    · rintro _ entry ⟨⟩
  · intro t n hcarried
    obtain ⟨rfl, rfl⟩ : t = .contactAnnounce ∧ n = 2 := by
      simpa [eq_comm] using hsecond.symm.trans hcarried
    rw [if_pos rfl, hfirst]
    rintro _ entry hentry
    obtain rfl := List.mem_singleton.mp hentry
    decide

/-- An announcement is accepted again with the sequence that it had. -/
theorem not_sequences_increase_announcedTwice :
    ¬ ∀ (attached : Attached) (arrivals : List Arrival),
      (Trace.run (step attached) {} arrivals).accepted.Pairwise
          (fun entry entry' => entry.2 < entry'.2) ∧
        Trace.Meets (step attached) (RejectsStale attached) {} arrivals := by
  intro h
  have hincrease := (h discoveryAttachment [announcement 1, announcement 1]).1
  have haccepted : (Trace.run (step discoveryAttachment) {}
      [announcement 1, announcement 1]).accepted =
        [(.contactAnnounce, 1), (.contactAnnounce, 1)] := by decide +kernel
  rw [haccepted] at hincrease
  exact absurd hincrease (by decide)

end Announcements

end SequenceLog

end Branch.Wss
