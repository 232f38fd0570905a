import Branch.Agreement.IdentityContact
import Branch.Wss.IdentityContactCache

/-!
When a frame with records of an identity is taken as a whole.
-/

namespace Branch.Wss

open Branch.Lib Branch.Protocol

section Store

variable {config : IdentityContactConfig} {cache : IdentityContactCache}
  {observation : IdentityContactObservation} {nowUnix cacheNow : Int} {record source key : String}
  {contact : SignedEvent (IdentityContactPayload String)}

namespace IdentityContactCache

theorem store_ok : (cache.store config observation).2 = .ok observation := by
  have hpos : cache.maxEntries ≠ 0 := Nat.ne_of_gt cache.maxEntries_pos
  unfold store
  simp only [hpos, and_false, if_false]

variable (config) in
theorem entries_store (cache : IdentityContactCache) (observation : IdentityContactObservation) :
    ∃ kept : Table String IdentityContactObservation,
      (∀ key, cache.entries.get? key = none → kept.get? key = none) ∧
        (cache.store config observation).1.entries =
          kept.insert observation.branchID observation := by
  have hpos : cache.maxEntries ≠ 0 := Nat.ne_of_gt cache.maxEntries_pos
  unfold store
  simp only [hpos, and_false, if_false]
  split
  · unfold evictOldestLocked
    dsimp only
    split
    · refine ⟨_, ?_, rfl⟩
      intro key hnone
      rw [Table.get?_erase]
      split
      · rfl
      · exact hnone
    · exact ⟨_, fun _ hnone => hnone, rfl⟩
  · exact ⟨_, fun _ hnone => hnone, rfl⟩

theorem get?_store_self :
    (cache.store config observation).1.entries.get? observation.branchID = some observation := by
  obtain ⟨kept, _, heq⟩ := entries_store config cache observation
  rw [heq, Table.get?_insert_self]

theorem get?_store_eq_none (hne : key ≠ observation.branchID)
    (hnone : cache.entries.get? key = none) :
    (cache.store config observation).1.entries.get? key = none := by
  obtain ⟨kept, hkept, heq⟩ := entries_store config cache observation
  rw [heq, Table.get?_insert_of_ne _ _ hne]
  exact hkept key hnone

theorem get?_pruneExpiredLocked (cache : IdentityContactCache) (now : Int) (key : String) :
    (cache.pruneExpiredLocked now).entries.get? key =
      (cache.entries.get? key).filter fun entry => decide (now < entry.expiresAtUnix) :=
  Table.get?_filter _ _ _

theorem pruneExpiredLocked_eq_self {now : Int}
    (h : ∀ key entry, cache.entries.get? key = some entry → now < entry.expiresAtUnix) :
    cache.pruneExpiredLocked now = cache := by
  have heq : cache.entries.filter (fun _ entry => decide (now < entry.expiresAtUnix)) =
      cache.entries := by
    refine Table.filter_eq_self ?_
    intro key entry hget
    exact decide_eq_true (h key entry hget)
  unfold pruneExpiredLocked
  rw [heq]

end IdentityContactCache

def IdentityContactObservation.Repeats (entry : IdentityContactObservation) (record : String)
    (contact : SignedEvent (IdentityContactPayload String)) : Prop :=
  contact.payload.sequence = entry.sequence ∧ record = entry.wrapper

instance (entry : IdentityContactObservation) (record : String)
    (contact : SignedEvent (IdentityContactPayload String)) :
    Decidable (entry.Repeats record contact) :=
  inferInstanceAs (Decidable (_ ∧ _))

/-- What is cached for an identity behind a record that the cache takes, where `entry` was
cached before. -/
def followed (entry : Option IdentityContactObservation) (record source : String)
    (cacheNow : Int) (contact : SignedEvent (IdentityContactPayload String)) :
    Option IdentityContactObservation :=
  match entry with
  | none => some (observe record source cacheNow contact)
  | some entry =>
    if entry.sequence < contact.payload.sequence then
      some (observe record source cacheNow contact)
    else if entry.Repeats record contact then some entry
    else none

variable {live : Option IdentityContactObservation} {entry : IdentityContactObservation}

theorem accept_store (hread : readContact config nowUnix cacheNow record = .ok contact)
    (hnewer : ∀ entry ∈ (cache.pruneExpiredLocked cacheNow).entries.get?
      contact.payload.branchID, entry.sequence < contact.payload.sequence) :
    cache.accept config nowUnix cacheNow record source =
      (cache.pruneExpiredLocked cacheNow).store config
        (observe record source cacheNow contact) := by
  unfold IdentityContactCache.accept
  simp only [hread]
  split
  · rfl
  · rename_i entry hget
    have hlt := hnewer entry hget
    rw [if_neg (Nat.not_lt.mpr (Nat.le_of_lt hlt)), if_neg (fun h => Nat.ne_of_gt hlt h.1),
      if_neg (Nat.ne_of_gt hlt)]

theorem accept_repeated (hread : readContact config nowUnix cacheNow record = .ok contact)
    (hget : (cache.pruneExpiredLocked cacheNow).entries.get? contact.payload.branchID =
      some entry) (hrepeats : entry.Repeats record contact) :
    cache.accept config nowUnix cacheNow record source =
      (cache.pruneExpiredLocked cacheNow, .ok entry) := by
  obtain ⟨hsequence, hrecord⟩ := hrepeats
  unfold IdentityContactCache.accept
  simp only [hread, hget]
  rw [if_neg (Nat.not_lt.mpr (Nat.le_of_eq hsequence.symm)), if_neg (fun h => h.2 hrecord),
    if_pos hsequence]

variable (source) in
theorem accept_refused (hread : readContact config nowUnix cacheNow record = .ok contact)
    (hget : (cache.pruneExpiredLocked cacheNow).entries.get? contact.payload.branchID =
      some entry) (hnewer : ¬ entry.sequence < contact.payload.sequence)
    (hrepeats : ¬ entry.Repeats record contact) :
    ∃ err, cache.accept config nowUnix cacheNow record source =
      (cache.pruneExpiredLocked cacheNow, .error err) := by
  unfold IdentityContactCache.accept
  simp only [hread, hget]
  by_cases hlower : contact.payload.sequence < entry.sequence
  · exact ⟨_, by rw [if_pos hlower]⟩
  · have hsequence : contact.payload.sequence = entry.sequence :=
      Nat.le_antisymm (Nat.not_lt.mp hnewer) (Nat.not_lt.mp hlower)
    have hrecord : record ≠ entry.wrapper := fun h => hrepeats ⟨hsequence, h⟩
    exact ⟨_, by rw [if_neg hlower, if_pos ⟨hsequence, hrecord⟩]⟩

/-- The cache takes a record of an identity that it knows nothing newer of, and nothing else
in the same place. -/
theorem accept_followed (hread : readContact config nowUnix cacheNow record = .ok contact)
    {next : IdentityContactObservation}
    (h : followed ((cache.pruneExpiredLocked cacheNow).entries.get? contact.payload.branchID)
      record source cacheNow contact = some next) :
    ∃ cache', cache.accept config nowUnix cacheNow record source = (cache', .ok next) ∧
      cache'.entries.get? contact.payload.branchID = some next ∧
      ∀ key, key ≠ contact.payload.branchID →
        (cache.pruneExpiredLocked cacheNow).entries.get? key = none →
          cache'.entries.get? key = none := by
  have hstored : (∀ entry ∈ (cache.pruneExpiredLocked cacheNow).entries.get?
      contact.payload.branchID, entry.sequence < contact.payload.sequence) →
      next = observe record source cacheNow contact →
      ∃ cache', cache.accept config nowUnix cacheNow record source = (cache', .ok next) ∧
        cache'.entries.get? contact.payload.branchID = some next ∧
        ∀ key, key ≠ contact.payload.branchID →
          (cache.pruneExpiredLocked cacheNow).entries.get? key = none →
            cache'.entries.get? key = none := by
    rintro hnewer rfl
    refine ⟨_, (accept_store hread hnewer).trans (Prod.ext rfl
      IdentityContactCache.store_ok), IdentityContactCache.get?_store_self, ?_⟩
    exact fun key hne hnone => IdentityContactCache.get?_store_eq_none hne hnone
  cases hget : (cache.pruneExpiredLocked cacheNow).entries.get? contact.payload.branchID with
  | none =>
    rw [hget] at h
    exact hstored (by simp [hget]) (Option.some.inj h).symm
  | some entry =>
    rw [hget] at h
    simp only [followed] at h
    by_cases hnewer : entry.sequence < contact.payload.sequence
    · rw [if_pos hnewer] at h
      refine hstored ?_ (Option.some.inj h).symm
      intro entry' hentry'
      rw [hget] at hentry'
      cases hentry'
      exact hnewer
    · rw [if_neg hnewer] at h
      split at h
      · rename_i hrepeats
        cases h
        exact ⟨_, accept_repeated hread hget hrepeats, hget, fun _ _ hnone => hnone⟩
      · cases h

theorem accept_not_followed (hread : readContact config nowUnix cacheNow record = .ok contact)
    (h : followed ((cache.pruneExpiredLocked cacheNow).entries.get? contact.payload.branchID)
      record source cacheNow contact = none) :
    ∃ err, cache.accept config nowUnix cacheNow record source =
      (cache.pruneExpiredLocked cacheNow, .error err) := by
  cases hget : (cache.pruneExpiredLocked cacheNow).entries.get? contact.payload.branchID with
  | none =>
    rw [hget] at h
    cases h
  | some entry =>
    rw [hget] at h
    simp only [followed] at h
    split at h
    · cases h
    · rename_i hnewer
      split at h
      · cases h
      · rename_i hrepeats
        exact accept_refused source hread hget hnewer hrepeats

end Store

section Frame

variable (config : IdentityContactConfig) (nowUnix : Int) (branchID : String)

/-- The source under which the records of a frame are cached. -/
def identityHaveSource : String := "wss.identity_have"

/-- The records are valid, are those of the identity and follow one upon the other, from what
was cached for it. -/
def InOrder : Option IdentityContactObservation → List (String × Int) → Prop
  | _, [] => True
  | entry, (record, cacheNow) :: records =>
    ∃ contact, readContact config nowUnix cacheNow record = .ok contact ∧
      contact.payload.branchID = branchID ∧
      ∃ next, followed (entry.filter fun entry => decide (cacheNow < entry.expiresAtUnix))
          record identityHaveSource cacheNow contact = some next ∧
        InOrder (some next) records

/-- The records before the first that is not valid or not one of the identity, if there are
any, repeat what is cached for it, or the one that does not is behind it; and nothing that is
cached is expired as the cache is offered them. -/
def Untouching (cache : IdentityContactCache) : List (String × Int) → Prop
  | [] => True
  | (record, cacheNow) :: records =>
    ∀ contact, readContact config nowUnix cacheNow record = .ok contact →
      contact.payload.branchID = branchID →
        (∀ key entry, cache.entries.get? key = some entry → cacheNow < entry.expiresAtUnix) ∧
        ∃ entry, cache.entries.get? branchID = some entry ∧
          ¬ entry.sequence < contact.payload.sequence ∧
          (entry.Repeats record contact → Untouching cache records)

variable {config nowUnix branchID} {cache : IdentityContactCache} {offered : List String}

variable {record : String} {cacheNow : Int} {records : List (String × Int)}
  {contact : SignedEvent (IdentityContactPayload String)}

theorem acceptRecords_stray (h : ∀ contact, readContact config nowUnix cacheNow record = .ok contact →
      contact.payload.branchID ≠ branchID) :
    acceptRecords config nowUnix branchID cache offered ((record, cacheNow) :: records) =
      ⟨cache, offered, fail .invalidFrame⟩ := by
  unfold acceptRecords
  cases hread : readContact config nowUnix cacheNow record with
  | error reason => rfl
  | ok contact =>
    dsimp only
    rw [if_pos (h contact hread)]

theorem acceptRecords_refused (hread : readContact config nowUnix cacheNow record = .ok contact)
    (hbranch : contact.payload.branchID = branchID)
    (h : followed ((cache.pruneExpiredLocked cacheNow).entries.get? branchID) record
      identityHaveSource cacheNow contact = none) :
    acceptRecords config nowUnix branchID cache offered ((record, cacheNow) :: records) =
      ⟨cache.pruneExpiredLocked cacheNow, offered ++ [record], fail .invalidFrame⟩ := by
  subst hbranch
  obtain ⟨err, haccept⟩ := accept_not_followed hread h
  rw [identityHaveSource] at haccept
  unfold acceptRecords
  simp only [hread, ne_eq, not_true_eq_false, if_false, haccept]

variable (offered records) in
theorem acceptRecords_followed {next : IdentityContactObservation}
    (hread : readContact config nowUnix cacheNow record = .ok contact)
    (hbranch : contact.payload.branchID = branchID)
    (h : followed ((cache.pruneExpiredLocked cacheNow).entries.get? branchID) record
      identityHaveSource cacheNow contact = some next) :
    ∃ cache' : IdentityContactCache,
      acceptRecords config nowUnix branchID cache offered ((record, cacheNow) :: records) =
        acceptRecords config nowUnix branchID cache' (offered ++ [record]) records ∧
      cache'.entries.get? branchID = some next ∧
      ∀ key, key ≠ branchID → (cache.pruneExpiredLocked cacheNow).entries.get? key = none →
        cache'.entries.get? key = none := by
  subst hbranch
  obtain ⟨cache', haccept, hget, hnone⟩ := accept_followed hread h
  rw [identityHaveSource] at haccept
  refine ⟨cache', ?_, hget, hnone⟩
  rw [acceptRecords]
  simp only [hread, ne_eq, not_true_eq_false, if_false, haccept]

variable (config nowUnix branchID record cacheNow) in
theorem read_cases :
    (∃ contact, readContact config nowUnix cacheNow record = .ok contact ∧
      contact.payload.branchID = branchID) ∨
    ∀ contact, readContact config nowUnix cacheNow record = .ok contact →
      contact.payload.branchID ≠ branchID := by
  by_cases h : ∃ contact, readContact config nowUnix cacheNow record = .ok contact ∧
      contact.payload.branchID = branchID
  · exact .inl h
  · exact .inr fun contact hread hbranch => h ⟨contact, hread, hbranch⟩

theorem acceptRecords_result_iff (records : List (String × Int)) :
    (acceptRecords config nowUnix branchID cache offered records).result = .ok () ↔
      InOrder config nowUnix branchID (cache.entries.get? branchID) records := by
  induction records generalizing cache offered with
  | nil => exact iff_of_true rfl trivial
  | cons head records ih =>
    obtain ⟨record, cacheNow⟩ := head
    simp only [InOrder]
    rcases read_cases config nowUnix branchID record cacheNow with ⟨contact, hread, hbranch⟩ | hstray
    · simp only [hread, Except.ok.injEq, exists_eq_left', hbranch, true_and]
      rw [← IdentityContactCache.get?_pruneExpiredLocked]
      cases hfollowed : followed ((cache.pruneExpiredLocked cacheNow).entries.get? branchID)
          record identityHaveSource cacheNow contact with
      | none =>
        rw [acceptRecords_refused hread hbranch hfollowed]
        simp [fail]
      | some next =>
        obtain ⟨cache', heq, hget, _⟩ := acceptRecords_followed offered records hread hbranch
          hfollowed
        simp only [Option.some.injEq, exists_eq_left']
        rw [heq, ← hget]
        exact ih
    · rw [acceptRecords_stray hstray]
      refine iff_of_false (by simp [fail]) ?_
      rintro ⟨contact, hread, hbranch, _⟩
      exact hstray contact hread hbranch

theorem acceptRecords_offered (records : List (String × Int))
    (h : (acceptRecords config nowUnix branchID cache offered records).result = .ok ()) :
    (acceptRecords config nowUnix branchID cache offered records).offered =
      offered ++ records.map Prod.fst := by
  induction records generalizing cache offered with
  | nil => simp [acceptRecords]
  | cons head records ih =>
    obtain ⟨record, cacheNow⟩ := head
    rcases read_cases config nowUnix branchID record cacheNow with ⟨contact, hread, hbranch⟩ | hstray
    · cases hfollowed : followed ((cache.pruneExpiredLocked cacheNow).entries.get? branchID)
          record identityHaveSource cacheNow contact with
      | none =>
        rw [acceptRecords_refused hread hbranch hfollowed] at h
        cases h
      | some next =>
        obtain ⟨cache', heq, _, _⟩ := acceptRecords_followed offered records hread hbranch
          hfollowed
        rw [heq] at h ⊢
        rw [ih h, List.append_assoc]
        rfl
    · rw [acceptRecords_stray hstray] at h
      cases h

theorem acceptRecords_untouched (records : List (String × Int))
    (h : Untouching config nowUnix branchID cache records) :
    (acceptRecords config nowUnix branchID cache offered records).cache = cache := by
  induction records generalizing offered with
  | nil => rfl
  | cons head records ih =>
    obtain ⟨record, cacheNow⟩ := head
    rcases read_cases config nowUnix branchID record cacheNow with ⟨contact, hread, hbranch⟩ | hstray
    · obtain ⟨hlive, entry, hget, hnewer, hrest⟩ := h contact hread hbranch
      subst hbranch
      have hpruned := IdentityContactCache.pruneExpiredLocked_eq_self hlive
      have hget' : (cache.pruneExpiredLocked cacheNow).entries.get?
          contact.payload.branchID = some entry := by
        rw [hpruned]
        exact hget
      unfold acceptRecords
      simp only [hread, ne_eq, not_true_eq_false, if_false]
      by_cases hrepeats : entry.Repeats record contact
      · rw [accept_repeated hread hget' hrepeats, hpruned]
        exact ih (hrest hrepeats)
      · obtain ⟨err, haccept⟩ := accept_refused "wss.identity_have" hread hget' hnewer
          hrepeats
        rw [haccept, hpruned]
    · rw [acceptRecords_stray hstray]

def Lasting (config : IdentityContactConfig) (nowUnix : Int) (times : List Int)
    (records : List (String × Int)) : Prop :=
  ∀ offer ∈ records, offer.2 ∈ times ∧
    ∀ contact, readContact config nowUnix offer.2 offer.1 = .ok contact →
      ∀ time ∈ times, time < contact.payload.expiresAt

theorem lasting_cons {times : List Int} {offer : String × Int}
    (h : Lasting config nowUnix times (offer :: records)) :
    Lasting config nowUnix times records :=
  fun offer' hmem => h offer' (List.mem_cons_of_mem _ hmem)

theorem acceptRecords_missing {key : String} (hne : key ≠ branchID)
    (records : List (String × Int)) (hnone : cache.entries.get? key = none) :
    (acceptRecords config nowUnix branchID cache offered records).cache.entries.get? key =
      none := by
  induction records generalizing cache offered with
  | nil => exact hnone
  | cons head records ih =>
    obtain ⟨record, cacheNow⟩ := head
    have hpruned : (cache.pruneExpiredLocked cacheNow).entries.get? key = none := by
      rw [IdentityContactCache.get?_pruneExpiredLocked, hnone]
      rfl
    rcases read_cases config nowUnix branchID record cacheNow with ⟨contact, hread, hbranch⟩ | hstray
    · cases hfollowed : followed ((cache.pruneExpiredLocked cacheNow).entries.get? branchID)
          record identityHaveSource cacheNow contact with
      | none =>
        rw [acceptRecords_refused hread hbranch hfollowed]
        exact hpruned
      | some next =>
        obtain ⟨cache', heq, _, hkept⟩ := acceptRecords_followed offered records hread hbranch
          hfollowed
        rw [heq]
        exact ih (hkept key hne hpruned)
    · rw [acceptRecords_stray hstray]
      exact hnone

theorem followed_advances {entry next : IdentityContactObservation} {times : List Int}
    {source : String} (hfresh : ∀ time ∈ times, time < entry.expiresAtUnix)
    (hcontact : ∀ time ∈ times, time < (contact.payload.expiresAt : Int))
    (h : followed (some entry) record source cacheNow contact = some next) :
    (∀ time ∈ times, time < next.expiresAtUnix) ∧ entry.sequence ≤ next.sequence := by
  simp only [followed] at h
  split at h
  · rename_i hnewer
    cases h
    exact ⟨hcontact, Nat.le_of_lt hnewer⟩
  · split at h
    · cases h
      exact ⟨hfresh, Nat.le_refl _⟩
    · cases h

variable (offered) in
/-- What is cached for the identity does not expire within the frame and is not overtaken by
anything behind it. -/
theorem acceptRecords_advances {entry : IdentityContactObservation} {times : List Int}
    (records : List (String × Int)) (hlasting : Lasting config nowUnix times records)
    (hget : cache.entries.get? branchID = some entry)
    (hfresh : ∀ time ∈ times, time < entry.expiresAtUnix) :
    ∃ entry', (acceptRecords config nowUnix branchID cache offered records).cache.entries.get?
        branchID = some entry' ∧
      (∀ time ∈ times, time < entry'.expiresAtUnix) ∧ entry.sequence ≤ entry'.sequence := by
  induction records generalizing cache offered entry with
  | nil => exact ⟨entry, hget, hfresh, Nat.le_refl _⟩
  | cons head records ih =>
    obtain ⟨record, cacheNow⟩ := head
    obtain ⟨hmem, hcontact⟩ := hlasting _ List.mem_cons_self
    have hpruned : (cache.pruneExpiredLocked cacheNow).entries.get? branchID = some entry := by
      rw [IdentityContactCache.get?_pruneExpiredLocked, hget, Option.filter_some,
        if_pos (decide_eq_true (hfresh cacheNow hmem))]
    rcases read_cases config nowUnix branchID record cacheNow with ⟨contact, hread, hbranch⟩ | hstray
    · cases hfollowed : followed ((cache.pruneExpiredLocked cacheNow).entries.get? branchID)
          record identityHaveSource cacheNow contact with
      | none =>
        rw [acceptRecords_refused hread hbranch hfollowed]
        exact ⟨entry, hpruned, hfresh, Nat.le_refl _⟩
      | some next =>
        obtain ⟨cache', heq, hget', _⟩ := acceptRecords_followed offered records hread hbranch
          hfollowed
        rw [hpruned] at hfollowed
        obtain ⟨hfresh', hle⟩ := followed_advances hfresh (hcontact contact hread) hfollowed
        obtain ⟨entry', hfinal, hfresh'', hle'⟩ := ih _ (lasting_cons hlasting) hget' hfresh'
        rw [heq]
        exact ⟨entry', hfinal, hfresh'', hle.trans hle'⟩
    · rw [acceptRecords_stray hstray]
      exact ⟨entry, hget, hfresh, Nat.le_refl _⟩

theorem untouching_of_unchanged {times : List Int} (records : List (String × Int))
    (hlasting : Lasting config nowUnix times records)
    (hsame : ∀ key, (acceptRecords config nowUnix branchID cache offered
      records).cache.entries.get? key = cache.entries.get? key) :
    Untouching config nowUnix branchID cache records := by
  induction records generalizing offered with
  | nil => trivial
  | cons head records ih =>
    obtain ⟨record, cacheNow⟩ := head
    intro contact hread hbranch
    obtain ⟨hmem, hcontact⟩ := hlasting _ List.mem_cons_self
    have hobserved : ∀ next : IdentityContactObservation,
        followed ((cache.pruneExpiredLocked cacheNow).entries.get? branchID) record
          identityHaveSource cacheNow contact = some next →
        (∀ time ∈ times, time < next.expiresAtUnix) →
        ∃ entry', cache.entries.get? branchID = some entry' ∧
          (∀ time ∈ times, time < entry'.expiresAtUnix) ∧ next.sequence ≤ entry'.sequence := by
      intro next hfollowed hfresh
      obtain ⟨cache', heq, hget, _⟩ := acceptRecords_followed offered records hread hbranch
        hfollowed
      obtain ⟨entry', hfinal, hfresh', hle⟩ := acceptRecords_advances
        (offered ++ [record]) records (lasting_cons hlasting) hget hfresh
      rw [← heq, hsame] at hfinal
      exact ⟨entry', hfinal, hfresh', hle⟩
    have hlive : ∀ key entry, cache.entries.get? key = some entry →
        cacheNow < entry.expiresAtUnix := by
      intro key entry hget
      by_contra hexpired
      have hgone : (cache.pruneExpiredLocked cacheNow).entries.get? key = none := by
        rw [IdentityContactCache.get?_pruneExpiredLocked, hget, Option.filter_some,
          if_neg (by simpa using hexpired)]
      by_cases hkey : key = branchID
      · subst hkey
        have hfollowed : followed ((cache.pruneExpiredLocked cacheNow).entries.get? key)
            record identityHaveSource cacheNow contact =
            some (observe record identityHaveSource cacheNow contact) := by
          rw [hgone]
          rfl
        obtain ⟨entry', hget', hfresh', _⟩ := hobserved _ hfollowed (hcontact contact hread)
        rw [hget] at hget'
        cases hget'
        exact hexpired (hfresh' cacheNow hmem)
      · have hmissing : (acceptRecords config nowUnix branchID cache offered
            ((record, cacheNow) :: records)).cache.entries.get? key = none := by
          cases hfollowed : followed ((cache.pruneExpiredLocked cacheNow).entries.get?
              branchID) record identityHaveSource cacheNow contact with
          | none =>
            rw [acceptRecords_refused hread hbranch hfollowed]
            exact hgone
          | some next =>
            obtain ⟨cache', heq, _, hkept⟩ := acceptRecords_followed offered records hread
              hbranch hfollowed
            rw [heq]
            exact acceptRecords_missing hkey records (hkept key hkey hgone)
        rw [hsame, hget] at hmissing
        cases hmissing
    have hpruned := IdentityContactCache.pruneExpiredLocked_eq_self hlive
    refine ⟨hlive, ?_⟩
    cases hget : cache.entries.get? branchID with
    | none =>
      have hfollowed : followed ((cache.pruneExpiredLocked cacheNow).entries.get? branchID)
          record identityHaveSource cacheNow contact =
          some (observe record identityHaveSource cacheNow contact) := by
        rw [hpruned, hget]
        rfl
      obtain ⟨entry', hget', _⟩ := hobserved _ hfollowed (hcontact contact hread)
      rw [hget] at hget'
      cases hget'
    | some entry =>
      refine ⟨entry, rfl, ?_, ?_⟩
      · intro hnewer
        have hfollowed : followed ((cache.pruneExpiredLocked cacheNow).entries.get? branchID)
            record identityHaveSource cacheNow contact =
            some (observe record identityHaveSource cacheNow contact) := by
          rw [hpruned, hget]
          exact if_pos hnewer
        obtain ⟨entry', hget', _, hle⟩ := hobserved _ hfollowed (hcontact contact hread)
        rw [hget] at hget'
        cases hget'
        exact absurd hle (Nat.not_le.mpr hnewer)
      · intro hrepeats
        subst hbranch
        have hget' : (cache.pruneExpiredLocked cacheNow).entries.get?
            contact.payload.branchID = some entry := by
          rw [hpruned]
          exact hget
        have hrest : ∀ key, (acceptRecords config nowUnix contact.payload.branchID cache
            (offered ++ [record]) records).cache.entries.get? key =
              cache.entries.get? key := by
          intro key
          rw [← hsame key]
          conv_rhs => rw [acceptRecords]
          simp only [hread, ne_eq, not_true_eq_false, if_false,
            accept_repeated hread hget' hrepeats, hpruned]
        exact ih (lasting_cons hlasting) hrest

end Frame

section Whole

variable (config : IdentityContactConfig) (nowUnix : Int) (clock : Nat → Int)

/-- A frame that is rejected leaves the cache as it was; of a frame that is accepted the cache
is offered every record. -/
def TakenWhole (cache : IdentityContactCache) (frame : TypedFrame) : Prop :=
  let out := handleIdentityHaveCached config nowUnix clock cache frame
  (out.result = .ok () →
      ∀ records, identityRecordStringsFromFrame frame = .ok records → out.offered = records) ∧
    (out.result ≠ .ok () → ∀ key, out.cache.entries.get? key = cache.entries.get? key)

/-- The records of the frame are in order, or change nothing up to the first that is not. -/
def WholeOrNothing (cache : IdentityContactCache) (frame : TypedFrame) : Prop :=
  ∀ branchID records, frame.get? "branch_id" = some (.string branchID) →
    identityRecordStringsFromFrame frame = .ok records →
      InOrder config nowUnix branchID (cache.entries.get? branchID) (clocked clock records) ∨
        Untouching config nowUnix branchID cache (clocked clock records)

/-- No record of the frame expires while the frame is handled. -/
def NoneExpires (frame : TypedFrame) : Prop :=
  ∀ records, identityRecordStringsFromFrame frame = .ok records →
    ∀ i < records.length, ∀ record ∈ records, ∀ j < records.length, ∀ contact,
      readContact config nowUnix (clock j) record = .ok contact →
        clock i < contact.payload.expiresAt

theorem map_fst_clocked (records : List String) :
    (clocked clock records).map Prod.fst = records := by
  simp [clocked, Function.comp_def]

theorem handleIdentityHaveCached_cases (cache : IdentityContactCache) (frame : TypedFrame) :
    (∃ fault, handleIdentityHaveCached config nowUnix clock cache frame =
        ⟨cache, [], .error fault⟩) ∨
    ∃ branchID records, frame.get? "branch_id" = some (.string branchID) ∧
      identityRecordStringsFromFrame frame = .ok records ∧
      handleIdentityHaveCached config nowUnix clock cache frame =
        acceptRecords config nowUnix branchID cache [] (clocked clock records) := by
  unfold handleIdentityHaveCached
  cases hbranch : assertString (frame.get? "branch_id") with
  | error fault => exact .inl ⟨fault, rfl⟩
  | ok branchID =>
    have hget : frame.get? "branch_id" = some (.string branchID) := by
      unfold assertString at hbranch
      split at hbranch
      · rename_i heq
        cases hbranch
        exact heq
      · cases hbranch
    cases hrecords : identityRecordStringsFromFrame frame with
    | error err => exact .inl ⟨.failed err, rfl⟩
    | ok records => exact .inr ⟨branchID, records, hget, rfl, rfl⟩

variable {config nowUnix clock} {cache : IdentityContactCache} {frame : TypedFrame}

theorem lasting_clocked (h : NoneExpires config nowUnix clock frame) {records : List String}
    (hrecords : identityRecordStringsFromFrame frame = .ok records) :
    Lasting config nowUnix ((clocked clock records).map Prod.snd) (clocked clock records) := by
  have hindex : ∀ offer ∈ clocked clock records,
      offer.1 ∈ records ∧ ∃ i < records.length, offer.2 = clock i := by
    intro offer hmem
    obtain ⟨⟨record, i⟩, hentry, rfl⟩ := List.mem_map.mp hmem
    obtain ⟨_, hlt, heq⟩ := List.mem_zipIdx hentry
    have hrecord : record ∈ records := by
      rw [heq]
      exact List.getElem_mem _
    exact ⟨hrecord, i, by simpa using hlt, rfl⟩
  intro offer hmem
  refine ⟨List.mem_map_of_mem hmem, ?_⟩
  obtain ⟨hrecord, j, hj, hclock⟩ := hindex offer hmem
  intro contact hread time htime
  obtain ⟨offer', hmem', rfl⟩ := List.mem_map.mp htime
  obtain ⟨_, i, hi, hclock'⟩ := hindex offer' hmem'
  rw [hclock] at hread
  rw [hclock']
  exact h records hrecords i hi offer.1 hrecord j hj contact hread

/-- A frame is taken as a whole if its records are in order or change nothing up to the first
that is not, and only then where no record expires in between. -/
theorem takenWhole_iff (config : IdentityContactConfig) (nowUnix : Int) (clock : Nat → Int)
    (cache : IdentityContactCache) (frame : TypedFrame) :
    (WholeOrNothing config nowUnix clock cache frame →
        TakenWhole config nowUnix clock cache frame) ∧
      (NoneExpires config nowUnix clock frame → TakenWhole config nowUnix clock cache frame →
        WholeOrNothing config nowUnix clock cache frame) := by
  constructor
  · intro hwhole
    rcases handleIdentityHaveCached_cases config nowUnix clock cache frame with
      ⟨fault, heq⟩ | ⟨branchID, records, hbranch, hrecords, heq⟩
    · unfold TakenWhole
      rw [heq]
      exact ⟨(fun h => nomatch h), fun _ _ => rfl⟩
    · unfold TakenWhole
      rw [heq]
      refine ⟨?_, ?_⟩
      · intro hok records' hrecords'
        rw [hrecords] at hrecords'
        cases hrecords'
        rw [acceptRecords_offered _ hok, map_fst_clocked, List.nil_append]
      · intro hrejected key
        rcases hwhole branchID records hbranch hrecords with horder | huntouching
        · exact absurd ((acceptRecords_result_iff _).mpr horder) hrejected
        · rw [acceptRecords_untouched _ huntouching]
  · intro hlasting htaken branchID records hbranch hrecords
    have heq : handleIdentityHaveCached config nowUnix clock cache frame =
        acceptRecords config nowUnix branchID cache [] (clocked clock records) := by
      unfold handleIdentityHaveCached
      rw [hbranch, hrecords]
      rfl
    unfold TakenWhole at htaken
    rw [heq] at htaken
    by_cases hok : (acceptRecords config nowUnix branchID cache []
        (clocked clock records)).result = .ok ()
    · exact .inl ((acceptRecords_result_iff _).mp hok)
    · exact .inr (untouching_of_unchanged _ (lasting_clocked hlasting hrecords)
        (htaken.2 hok))

theorem not_takenWhole_of_changed (key : String)
    (hrejected : (handleIdentityHaveCached config nowUnix clock cache frame).result.toOption = none)
    (hchanged : (handleIdentityHaveCached config nowUnix clock cache frame).cache.entries.get? key ≠
      cache.entries.get? key) : ¬ TakenWhole config nowUnix clock cache frame := by
  rintro ⟨_, hunchanged⟩
  refine hchanged (hunchanged ?_ key)
  intro hok
  rw [hok] at hrejected
  cases hrejected

end Whole

section Sample

open Branch.Agreement

def sampleContactConfig : IdentityContactConfig where
  urlParse := sampleUrlParse
  verify := fun _ _ _ => true
  order := id
  perm := List.Perm.refl

def sampleRecord : String :=
  String.ofList (branchTextWrapperPrefix.toList ++
    Base64.encodeBytes (Cbor.encode (sampleContact [])))

def sampleBranchID : String := "br1.EiD7Pwh2K2th429FTVFaVvjJMWfve3RNtugSIxuAKJ3yEQ"

theorem bytes_sampleRecord : Utf8.bytes sampleRecord = wrapperOf (sampleContact []) := by
  rw [sampleRecord, Utf8.bytes, String.toList_ofList, Utf8.encode, List.flatMap_append]
  rfl

theorem branchID_sampleContact :
    ((readSignedIdentityContact sampleUrlParse (fun _ _ _ => true) 150 300
      [developmentProfileMultihash] 0 (Cbor.encode (sampleContact []))).toOption.map
        fun contact => contact.payload.branchID) = some sampleBranchID := by
  decide +kernel

theorem exists_sampleContact :
    ∃ contact, readContact sampleContactConfig 150 150 sampleRecord = .ok contact ∧
      contact.payload.branchID = sampleBranchID := by
  obtain ⟨contact, hread, hbranch⟩ := Option.map_eq_some_iff.mp branchID_sampleContact
  have hcontact : relayContact sampleUrlParse (fun _ _ _ => true) 150 150 0
      (wrapperOf (sampleContact [])) = some contact :=
    relayContact_eq_some_iff.mpr
      ⟨_, (wrapped_wrapperOf (sampleContact [])).spelled, toOption_eq_some_iff.mp hread⟩
  refine ⟨contact, ?_, hbranch⟩
  unfold readContact
  rw [bytes_sampleRecord]
  exact toOption_eq_some_iff.mp hcontact

theorem readContact_fragment (contact : SignedEvent (IdentityContactPayload String)) :
    readContact sampleContactConfig 150 150 "BRANCH0.A" ≠ .ok contact := by
  have hnone : (readContact sampleContactConfig 150 150 "BRANCH0.A").toOption.isSome = false := by
    decide +kernel
  intro hread
  rw [hread] at hnone
  cases hnone

def halfFrame : TypedFrame :=
  Fields.ofList [("type", .string "IDENTITY_HAVE"),
    ("session_id", .string "AAAAAAAAAAAAAAAAAAAAAAAAAAAAAAAAAAAAAAAAAAA"),
    ("branch_id", .string sampleBranchID), ("sequence", jsonNat 1),
    ("records", .array [.string sampleRecord, .string "BRANCH0.A"])]

def emptyCache : IdentityContactCache := ⟨512, by decide, .empty⟩

/-- The record is cached before the other is found to be none. -/
theorem not_takenWhole_halfFrame :
    ¬ TakenWhole sampleContactConfig 150 (fun _ => 150) emptyCache halfFrame := by
  obtain ⟨contact, hread, hbranch⟩ := exists_sampleContact
  have hgetBranch : halfFrame.get? "branch_id" = some (.string sampleBranchID) := by
    simp [halfFrame, Fields.ofList, Fields.get?_insert]
  have hgetRecords : halfFrame.get? "records" =
      some (.array [.string sampleRecord, .string "BRANCH0.A"]) := by
    simp [halfFrame, Fields.ofList]
  have hne : sampleRecord ≠ "" := by
    intro h
    have hlist := congrArg String.toList h
    rw [sampleRecord, String.toList_ofList] at hlist
    cases hlist
  have hrecords : identityRecordStringsFromFrame halfFrame =
      .ok [sampleRecord, "BRANCH0.A"] := by
    unfold identityRecordStringsFromFrame
    rw [hgetRecords]
    simp [asArray, asString, maxIdentityHaveRecords, hne]
    rfl
  have heq : handleIdentityHaveCached sampleContactConfig 150 (fun _ => 150) emptyCache halfFrame =
      acceptRecords sampleContactConfig 150 sampleBranchID emptyCache []
        [(sampleRecord, 150), ("BRANCH0.A", 150)] := by
    unfold handleIdentityHaveCached
    rw [hgetBranch, hrecords]
    rfl
  have hfollowed : followed ((emptyCache.pruneExpiredLocked 150).entries.get? sampleBranchID)
      sampleRecord identityHaveSource 150 contact =
      some (observe sampleRecord identityHaveSource 150 contact) := rfl
  obtain ⟨cache', hcached, hget, _⟩ :=
    acceptRecords_followed [] [("BRANCH0.A", 150)] hread hbranch hfollowed
  rw [hcached, acceptRecords_stray (fun contact h => absurd h (readContact_fragment contact))]
    at heq
  refine not_takenWhole_of_changed sampleBranchID ?_ ?_
  · rw [heq]
    rfl
  · rw [heq, hget]
    exact fun h => nomatch h

end Sample

end Branch.Wss
