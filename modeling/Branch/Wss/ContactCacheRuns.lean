import Mathlib.Data.String.Basic
import Branch.Lib.Trace
import Branch.Wss.IdentityHave

/-!
Runs of the relay's cache of identity contacts: its bound, what its entries are, and which
record of an identity it ends up with.
-/

namespace Branch.Wss

open Branch.Lib Branch.Protocol

section Clock

variable {urlParse : String → Option ParsedURL}
  {verify : List UInt8 → List UInt8 → List UInt8 → Bool}

theorem openSignedEvent_agree (reasons : EnvelopeReasons) (eventType : String)
    (now now' skew : Int) (signed : List UInt8) :
    Agree (openSignedEvent verify reasons eventType now skew signed)
      (openSignedEvent verify reasons eventType now' skew signed) := by
  unfold openSignedEvent
  refine (Agree.refl _).bind fun _ => (Agree.refl _).bind fun _ => (Agree.refl _).bind fun _ => ?_
  refine (Agree.refl _).bind fun envelope => (Agree.refl _).bind fun _ => ?_
  refine (Agree.refl _).bind fun _ => (Agree.refl _).bind fun unsignedBytes => ?_
  refine (Agree.refl _).bind fun _ => ?_
  exact (agree_unit _ _).bind fun _ => (agree_unit _ _).bind fun _ => Agree.refl _

theorem readSignedIdentityContact_agree (now now' skew : Int) (supported : List String)
    (minimumSequence : Nat) (signed : List UInt8) :
    Agree (readSignedIdentityContact urlParse verify now skew supported minimumSequence signed)
      (readSignedIdentityContact urlParse verify now' skew supported minimumSequence signed) := by
  unfold readSignedIdentityContact
  exact (openSignedEvent_agree _ _ now now' skew signed).bind fun _ => Agree.refl _

theorem readContact_agree (config : IdentityContactConfig)
    (nowUnix nowUnix' cacheNow cacheNow' : Int) (wrapper : String) :
    Agree (readContact config nowUnix cacheNow wrapper)
      (readContact config nowUnix' cacheNow' wrapper) := by
  unfold readContact validateBranchTextIdentityContact
  refine (Agree.refl _).bind fun _ => ?_
  cases Base64.decodeChars (wrapperBody (Utf8.bytes wrapper)) with
  | none => exact Agree.refl _
  | some signed => exact readSignedIdentityContact_agree _ _ _ _ _ signed

end Clock

inductive CacheCall where
  | accept (nowUnix : Int) (wrapper source : String)
  | lookup (branchID : String)
  | snapshot (limit : Int)

namespace IdentityContactCache

theorem defaultMaxEntries_pos : 0 < 512 := by decide

def new (maxEntries : Nat) : IdentityContactCache :=
  if h : maxEntries = 0 then ⟨512, defaultMaxEntries_pos, .empty⟩
  else ⟨maxEntries, Nat.pos_of_ne_zero h, .empty⟩

def lookup (cache : IdentityContactCache) (cacheNow : Int) (branchID : String) :
    IdentityContactCache × Option IdentityContactObservation :=
  if ¬ parseBranchID branchID then (cache, none)
  else
    let cache := cache.pruneExpiredLocked cacheNow
    (cache, cache.entries.get? branchID)

def snapshot (cache : IdentityContactCache) (cacheNow limit : Int) :
    IdentityContactCache × List IdentityContactObservation :=
  let cache := cache.pruneExpiredLocked cacheNow
  let observations := (cache.entries.toList.map Prod.snd).mergeSort fun left right =>
    if left.lastObservedUnix ≠ right.lastObservedUnix then
      right.lastObservedUnix < left.lastObservedUnix
    else left.branchID ≤ right.branchID
  if 0 < limit ∧ limit < observations.length then (cache, observations.take limit.toNat)
  else (cache, observations)

end IdentityContactCache

variable (config : IdentityContactConfig)

def cacheStep (cache : IdentityContactCache) (event : Int × CacheCall) : IdentityContactCache :=
  match event.2 with
  | .accept nowUnix wrapper source => (cache.accept config nowUnix event.1 wrapper source).1
  | .lookup branchID => (cache.lookup event.1 branchID).1
  | .snapshot limit => (cache.snapshot event.1 limit).1

/-- The call puts another identity in the place of the one that was observed first. -/
def Evicts (cache : IdentityContactCache) (event : Int × CacheCall) : Prop :=
  ∃ nowUnix wrapper source contact, event.2 = .accept nowUnix wrapper source ∧
    readContact config nowUnix event.1 wrapper = .ok contact ∧
    (cache.pruneExpiredLocked event.1).entries.get? contact.payload.branchID = none ∧
    cache.maxEntries ≤ (cache.pruneExpiredLocked event.1).entries.size

/-- The calls offer a record that says the contact of an identity. -/
def Offered (key : String) (events : List (Int × CacheCall)) (wrapper : String)
    (contact : SignedEvent (IdentityContactPayload String)) : Prop :=
  ∃ cacheNow nowUnix source, (cacheNow, CacheCall.accept nowUnix wrapper source) ∈ events ∧
    readContact config nowUnix cacheNow wrapper = .ok contact ∧ contact.payload.branchID = key

def DistinctSequences (key : String) (events : List (Int × CacheCall)) : Prop :=
  ∀ wrapper contact wrapper' contact', Offered config key events wrapper contact →
    Offered config key events wrapper' contact' →
    contact.payload.sequence = contact'.payload.sequence → wrapper = wrapper'

def LastingRecords (key : String) (events : List (Int × CacheCall)) : Prop :=
  ∀ wrapper contact, Offered config key events wrapper contact →
    ∀ event ∈ events, event.1 < contact.payload.expiresAt

/-- In the end the record with the highest sequence is cached. -/
def NewestWins (key : String) (cache : IdentityContactCache) (events : List (Int × CacheCall)) :
    Prop :=
  ∀ wrapper contact, Offered config key events wrapper contact →
    (∀ wrapper' contact', Offered config key events wrapper' contact' →
      contact'.payload.sequence ≤ contact.payload.sequence) →
    ∃ entry, (Trace.run (cacheStep config) cache events).entries.get? key = some entry ∧
      entry.wrapper = wrapper ∧ entry.sequence = contact.payload.sequence

def Genuine (key : String) (entry : IdentityContactObservation) : Prop :=
  ∃ nowUnix cacheNow source contact,
    readContact config nowUnix cacheNow entry.wrapper = .ok contact ∧
    entry = observe entry.wrapper source cacheNow contact ∧
    branchIDFromPublicKey contact.envelope.sender.publicKey = some key

/-- The identity has an entry that is not expired when the call comes. -/
def LivesAt (key : String) (cache : IdentityContactCache) (event : Int × CacheCall) : Prop :=
  ∃ entry, cache.entries.get? key = some entry ∧ event.1 < entry.expiresAtUnix

structure CacheKept (cache : IdentityContactCache) : Prop where
  bounded : cache.entries.size ≤ cache.maxEntries
  genuine : ∀ key entry, cache.entries.get? key = some entry → Genuine config key entry
  /-- As long as an identity has an entry, its sequence does not decrease. -/
  increasing : ∀ key entry entry' events, cache.entries.get? key = some entry →
    Trace.Meets (cacheStep config) (LivesAt key) cache events →
    (Trace.run (cacheStep config) cache events).entries.get? key = some entry' →
    entry.sequence ≤ entry'.sequence
  /-- A record that is cached already changes nothing. -/
  duplicate : ∀ key entry nowUnix cacheNow source,
    (cache.pruneExpiredLocked cacheNow).entries.get? key = some entry →
    cache.accept config nowUnix cacheNow entry.wrapper source =
      match readContact config nowUnix cacheNow entry.wrapper with
      | .error reason => (cache, .error (.invalid reason))
      | .ok _ => (cache.pruneExpiredLocked cacheNow, .ok entry)
  newest : ∀ key events, cache.entries.get? key = none →
    Trace.Meets (cacheStep config) (fun cache event => ¬ Evicts config cache event) cache events →
    DistinctSequences config key events → LastingRecords config key events →
    NewestWins config key cache events

section Entries

variable {config} {cache : IdentityContactCache} {event : Int × CacheCall}
  {nowUnix cacheNow : Int} {wrapper source key : String}
  {contact : SignedEvent (IdentityContactPayload String)}
  {observation entry : IdentityContactObservation}

theorem branchID_of_readContact
    (hread : readContact config nowUnix cacheNow wrapper = .ok contact) :
    branchIDFromPublicKey contact.envelope.sender.publicKey = some contact.payload.branchID := by
  have hsome : Agreement.relayContact config.urlParse config.verify cacheNow nowUnix 0
      (Utf8.bytes wrapper) = some contact := toOption_eq_some_iff.mpr hread
  obtain ⟨signed, _, hsigned⟩ := Agreement.relayContact_eq_some_iff.mp hsome
  obtain ⟨_, _, inner, hcontact, _, _, rfl⟩ :=
    Agreement.relay_readSignedIdentityContact_eq_ok_iff.mp hsigned
  exact hcontact.branchID

theorem genuine_observe (hread : readContact config nowUnix cacheNow wrapper = .ok contact) :
    Genuine config contact.payload.branchID (observe wrapper source cacheNow contact) :=
  ⟨nowUnix, cacheNow, source, contact, hread, rfl, branchID_of_readContact hread⟩

theorem Genuine.key_ne (h : Genuine config key entry) : key ≠ "" := by
  obtain ⟨_, _, _, _, _, _, hbranch⟩ := h
  rintro rfl
  have hparse := (Agreement.parse_of_branchIDFromPublicKey hbranch).1
  revert hparse
  decide

end Entries

namespace IdentityContactCache

variable {config} {cache : IdentityContactCache} {observation entry : IdentityContactObservation}
  {key : String}

theorem foldl_oldest_mem {entries : List (String × IdentityContactObservation)}
    {oldest : String × Int} (hne : ∀ entry ∈ entries, entry.1 ≠ "")
    (hfound : oldest.1 ≠ "" ∨ entries ≠ []) :
    let found := entries.foldl (fun (oldest : String × Int) entry =>
      if oldest.1 = "" ∨ entry.2.lastObservedUnix < oldest.2 then
        (entry.1, entry.2.lastObservedUnix)
      else oldest) oldest
    found.1 ≠ "" ∧ (found.1 = oldest.1 ∨ ∃ entry ∈ entries, entry.1 = found.1) := by
  induction entries generalizing oldest with
  | nil => exact ⟨hfound.resolve_right (fun h => h rfl), .inl rfl⟩
  | cons entry entries ih =>
    obtain ⟨hentry, hrest⟩ := List.forall_mem_cons.mp hne
    rw [List.foldl_cons]
    by_cases htaken : oldest.1 = "" ∨ entry.2.lastObservedUnix < oldest.2
    · rw [if_pos htaken]
      obtain ⟨hnonempty, heq | ⟨found, hmem, heq⟩⟩ :=
        @ih (entry.1, entry.2.lastObservedUnix) hrest (.inl hentry)
      · exact ⟨hnonempty, .inr ⟨entry, List.mem_cons_self, heq.symm⟩⟩
      · exact ⟨hnonempty, .inr ⟨found, List.mem_cons_of_mem _ hmem, heq⟩⟩
    · rw [if_neg htaken]
      obtain ⟨hnonempty, heq | ⟨found, hmem, heq⟩⟩ :=
        ih hrest (.inl fun h => htaken (.inl h))
      · exact ⟨hnonempty, .inl heq⟩
      · exact ⟨hnonempty, .inr ⟨found, List.mem_cons_of_mem _ hmem, heq⟩⟩

theorem evictOldestLocked_eq (hpos : 0 < cache.entries.size)
    (hkeys : ∀ key ∈ cache.entries.keys, key ≠ "") :
    ∃ key ∈ cache.entries.keys,
      cache.evictOldestLocked config = { cache with entries := cache.entries.erase key } := by
  have hmem : ∀ entry ∈ config.order cache.entries.toList,
      entry.1 ∈ cache.entries.keys := by
    intro entry hentry
    have htable := Table.mem_toList_iff.mp ((config.perm _).mem_iff.mp hentry)
    exact Table.mem_keys_iff.mpr (Option.isSome_iff_exists.mpr ⟨_, htable⟩)
  have hnil : config.order cache.entries.toList ≠ [] := by
    intro hnil
    have hlength := (config.perm cache.entries.toList).length_eq
    rw [hnil, Table.toList, List.length_map] at hlength
    exact absurd hlength (Nat.ne_of_lt hpos)
  obtain ⟨hne, heq | ⟨found, hfound, heq⟩⟩ := @foldl_oldest_mem _ ("", 0)
    (fun entry hentry => hkeys _ (hmem entry hentry)) (.inr hnil)
  · exact absurd heq hne
  · refine ⟨found.1, hmem found hfound, ?_⟩
    unfold evictOldestLocked
    dsimp only
    rw [if_pos hne, heq]

theorem store_of_room (hroom : cache.entries.get? observation.branchID = none →
      cache.entries.size < cache.maxEntries) :
    (cache.store config observation).1 =
      { cache with entries := cache.entries.insert observation.branchID observation } := by
  have hpos : cache.maxEntries ≠ 0 := Nat.ne_of_gt cache.maxEntries_pos
  have hfull : ¬ (¬ (cache.entries.get? observation.branchID).isSome ∧
      cache.maxEntries ≤ cache.entries.size) := by
    rintro ⟨hnone, hle⟩
    exact Nat.not_lt.mpr hle (hroom (by simpa using hnone))
  unfold store
  simp only [hpos, and_false, if_false]
  rw [if_neg hfull]

theorem store_of_full (hnone : cache.entries.get? observation.branchID = none)
    (hfull : cache.maxEntries ≤ cache.entries.size)
    (hkeys : ∀ key ∈ cache.entries.keys, key ≠ "") :
    ∃ key ∈ cache.entries.keys, (cache.store config observation).1 =
      { cache with entries :=
          (cache.entries.erase key).insert observation.branchID observation } := by
  have hpos : cache.maxEntries ≠ 0 := Nat.ne_of_gt cache.maxEntries_pos
  obtain ⟨key, hmem, heq⟩ := @evictOldestLocked_eq config cache
    (Nat.lt_of_lt_of_le cache.maxEntries_pos hfull) hkeys
  have htaken : ¬ (cache.entries.get? observation.branchID).isSome ∧
      cache.maxEntries ≤ cache.entries.size := ⟨by simp [hnone], hfull⟩
  refine ⟨key, hmem, ?_⟩
  unfold store
  simp only [hpos, and_false, if_false]
  rw [if_pos htaken, heq]

theorem size_store_le (hle : cache.entries.size ≤ cache.maxEntries)
    (hkeys : ∀ key ∈ cache.entries.keys, key ≠ "") :
    (cache.store config observation).1.entries.size ≤ cache.maxEntries := by
  cases hget : cache.entries.get? observation.branchID with
  | some entry =>
    rw [store_of_room (fun hnone => by simp [hnone] at hget),
      Table.size_insert_of_get?_isSome _ (by simp [hget])]
    exact hle
  | none =>
    by_cases hfull : cache.maxEntries ≤ cache.entries.size
    · obtain ⟨key, hmem, heq⟩ := @store_of_full config _ _ hget hfull hkeys
      have hgone : (cache.entries.erase key).get? observation.branchID = none := by
        rw [Table.get?_erase]
        split
        · rfl
        · exact hget
      have hsize := Table.size_erase_of_mem hmem
      rw [heq, Table.size_insert_of_get?_eq_none _ hgone]
      exact hsize ▸ hle
    · rw [store_of_room (fun _ => Nat.not_le.mp hfull),
        Table.size_insert_of_get?_eq_none _ hget]
      exact Nat.not_le.mp hfull

theorem maxEntries_store (cache : IdentityContactCache)
    (observation : IdentityContactObservation) :
    (cache.store config observation).1.maxEntries = cache.maxEntries := by
  have hpos : cache.maxEntries ≠ 0 := Nat.ne_of_gt cache.maxEntries_pos
  unfold store evictOldestLocked
  simp only [hpos, and_false, if_false]
  split
  · split
    · rfl
    · rfl
  · rfl

theorem get?_of_get?_store (hne : key ≠ observation.branchID)
    (h : (cache.store config observation).1.entries.get? key = some entry) :
    cache.entries.get? key = some entry := by
  have hpos : cache.maxEntries ≠ 0 := Nat.ne_of_gt cache.maxEntries_pos
  unfold store evictOldestLocked at h
  simp only [hpos, and_false, if_false] at h
  rw [Table.get?_insert_of_ne _ _ hne] at h
  split at h
  · split at h
    · exact (Table.get?_eq_some_of_get?_erase h).2
    · exact h
  · exact h

theorem get?_of_get?_pruneExpiredLocked {now : Int}
    (h : (cache.pruneExpiredLocked now).entries.get? key = some entry) :
    cache.entries.get? key = some entry := by
  rw [get?_pruneExpiredLocked, Option.filter_eq_some_iff] at h
  exact h.1

theorem get?_pruneExpiredLocked_of_lt {now : Int} (hget : cache.entries.get? key = some entry)
    (hlt : now < entry.expiresAtUnix) :
    (cache.pruneExpiredLocked now).entries.get? key = some entry := by
  rw [get?_pruneExpiredLocked, hget, Option.filter_some, if_pos (decide_eq_true hlt)]

end IdentityContactCache

section Steps

variable {config} {cache : IdentityContactCache} {event : Int × CacheCall} {key : String}
  {entry entry' : IdentityContactObservation}

/-- A call leaves the cache alone, or lets go of what is expired, and then it may store a record
that is newer than what is cached. -/
theorem cacheStep_cases (config : IdentityContactConfig) (cache : IdentityContactCache)
    (event : Int × CacheCall) :
    cacheStep config cache event = cache ∨
    cacheStep config cache event = cache.pruneExpiredLocked event.1 ∨
    ∃ nowUnix wrapper source contact, event.2 = .accept nowUnix wrapper source ∧
      readContact config nowUnix event.1 wrapper = .ok contact ∧
      (∀ entry ∈ (cache.pruneExpiredLocked event.1).entries.get? contact.payload.branchID,
        entry.sequence < contact.payload.sequence) ∧
      cacheStep config cache event = ((cache.pruneExpiredLocked event.1).store config
        (observe wrapper source event.1 contact)).1 := by
  obtain ⟨cacheNow, call⟩ := event
  cases call with
  | lookup branchID =>
    have hstep : cacheStep config cache (cacheNow, .lookup branchID) =
        (cache.lookup cacheNow branchID).1 := rfl
    by_cases hparse : ¬ parseBranchID branchID
    · exact .inl (by rw [hstep, IdentityContactCache.lookup, if_pos hparse])
    · exact .inr (.inl (by rw [hstep, IdentityContactCache.lookup, if_neg hparse]))
  | snapshot limit =>
    refine .inr (.inl ?_)
    show (cache.snapshot cacheNow limit).1 = _
    unfold IdentityContactCache.snapshot
    dsimp only
    split
    · rfl
    · rfl
  | accept nowUnix wrapper source =>
    cases hread : readContact config nowUnix cacheNow wrapper with
    | error reason =>
      refine .inl ?_
      show (cache.accept config nowUnix cacheNow wrapper source).1 = cache
      unfold IdentityContactCache.accept
      simp only [hread]
    | ok contact =>
      refine .inr ?_
      by_cases hnewer : ∀ entry ∈ (cache.pruneExpiredLocked cacheNow).entries.get?
          contact.payload.branchID, entry.sequence < contact.payload.sequence
      · refine .inr ⟨nowUnix, wrapper, source, contact, rfl, hread, hnewer, ?_⟩
        rw [cacheStep]
        exact congrArg Prod.fst (accept_store hread hnewer)
      · push Not at hnewer
        obtain ⟨entry, hget, hle⟩ := hnewer
        by_cases hrepeats : entry.Repeats wrapper contact
        · exact .inl (congrArg Prod.fst (accept_repeated hread hget hrepeats))
        · obtain ⟨err, heq⟩ := accept_refused source hread hget (Nat.not_lt.mpr hle)
            hrepeats
          exact .inl (congrArg Prod.fst heq)

/-- The part of what the cache is kept to that a call hands on to the next. -/
structure Sound (config : IdentityContactConfig) (cache : IdentityContactCache) : Prop where
  bounded : cache.entries.size ≤ cache.maxEntries
  genuine : ∀ key entry, cache.entries.get? key = some entry → Genuine config key entry

theorem Sound.keys_ne (h : Sound config cache) : ∀ key ∈ cache.entries.keys, key ≠ "" := by
  intro key hkey
  obtain ⟨entry, hget⟩ := Option.isSome_iff_exists.mp (Table.mem_keys_iff.mp hkey)
  exact (h.genuine key entry hget).key_ne

theorem sound_new (config : IdentityContactConfig) (maxEntries : Nat) :
    Sound config (.new maxEntries) := by
  unfold IdentityContactCache.new
  split
  · exact ⟨Nat.zero_le _, fun key entry hget => by simp at hget⟩
  · exact ⟨Nat.zero_le _, fun key entry hget => by simp at hget⟩

theorem Sound.prune (h : Sound config cache) (now : Int) :
    Sound config (cache.pruneExpiredLocked now) :=
  ⟨(Table.size_filter_le _ _).trans h.bounded, fun key entry hget =>
    h.genuine key entry (IdentityContactCache.get?_of_get?_pruneExpiredLocked hget)⟩

theorem Sound.store {observation : IdentityContactObservation} (h : Sound config cache)
    (hgenuine : Genuine config observation.branchID observation) :
    Sound config (cache.store config observation).1 := by
  refine ⟨?_, ?_⟩
  · rw [IdentityContactCache.maxEntries_store]
    exact IdentityContactCache.size_store_le h.bounded h.keys_ne
  · intro key entry hget
    by_cases hkey : key = observation.branchID
    · subst hkey
      rw [IdentityContactCache.get?_store_self] at hget
      exact Option.some.inj hget ▸ hgenuine
    · exact h.genuine key entry (IdentityContactCache.get?_of_get?_store hkey hget)

theorem sound_cacheStep (h : Sound config cache) (event : Int × CacheCall) :
    Sound config (cacheStep config cache event) := by
  obtain heq | heq | ⟨nowUnix, wrapper, source, contact, _, hread, _, heq⟩ :=
    cacheStep_cases config cache event
  · rw [heq]
    exact h
  · rw [heq]
    exact h.prune event.1
  · rw [heq]
    exact (h.prune event.1).store (genuine_observe hread)

theorem sequence_le_cacheStep (hget : cache.entries.get? key = some entry)
    (hlt : event.1 < entry.expiresAtUnix)
    (hget' : (cacheStep config cache event).entries.get? key = some entry') :
    entry.sequence ≤ entry'.sequence := by
  have hlive := IdentityContactCache.get?_pruneExpiredLocked_of_lt hget hlt
  obtain heq | heq | ⟨nowUnix, wrapper, source, contact, _, hread, hnewer, heq⟩ :=
    cacheStep_cases config cache event
  · rw [heq, hget] at hget'
    cases hget'
    exact Nat.le_refl _
  · rw [heq, hlive] at hget'
    cases hget'
    exact Nat.le_refl _
  · rw [heq] at hget'
    by_cases hkey : key = contact.payload.branchID
    · subst hkey
      have hself := @IdentityContactCache.get?_store_self config
        (cache.pruneExpiredLocked event.1) (observe wrapper source event.1 contact)
      rw [observe] at hself
      rw [observe, hself] at hget'
      cases hget'
      exact Nat.le_of_lt (hnewer entry hlive)
    · have hkept := IdentityContactCache.get?_of_get?_store hkey hget'
      rw [hlive] at hkept
      cases hkept
      exact Nat.le_refl _

variable {events : List (Int × CacheCall)}

theorem sequence_le_run
    (hget : cache.entries.get? key = some entry)
    (hlives : Trace.Meets (cacheStep config) (LivesAt key) cache events)
    (hget' : (Trace.run (cacheStep config) cache events).entries.get? key = some entry') :
    entry.sequence ≤ entry'.sequence := by
  induction events generalizing cache entry with
  | nil =>
    rw [Trace.run_nil, hget] at hget'
    cases hget'
    exact Nat.le_refl _
  | cons event events ih =>
    obtain ⟨⟨live, hlive, hlt⟩, hrest⟩ := hlives
    rw [hget] at hlive
    cases hlive
    cases hnext : (cacheStep config cache event).entries.get? key with
    | some next => exact (sequence_le_cacheStep hget hlt hnext).trans (ih hnext hrest hget')
    | none =>
      cases events with
      | nil =>
        rw [Trace.run_cons, Trace.run_nil, hnext] at hget'
        cases hget'
      | cons event' events =>
        obtain ⟨⟨_, hnext', _⟩, _⟩ := hrest
        rw [hnext] at hnext'
        cases hnext'

theorem accept_duplicate (h : Sound config cache) {nowUnix cacheNow : Int} {source : String}
    (hget : (cache.pruneExpiredLocked cacheNow).entries.get? key = some entry) :
    cache.accept config nowUnix cacheNow entry.wrapper source =
      match readContact config nowUnix cacheNow entry.wrapper with
      | .error reason => (cache, .error (.invalid reason))
      | .ok _ => (cache.pruneExpiredLocked cacheNow, .ok entry) := by
  obtain ⟨nowUnix', cacheNow', source', contact', hread', heq, hbranch⟩ :=
    (h.prune cacheNow).genuine key entry hget
  cases hread : readContact config nowUnix cacheNow entry.wrapper with
  | error reason =>
    unfold IdentityContactCache.accept
    simp only [hread]
  | ok contact =>
    obtain rfl := readContact_agree config nowUnix nowUnix' cacheNow cacheNow' _ _ _ hread hread'
    have hkey : contact.payload.branchID = key :=
      Option.some.inj ((branchID_of_readContact hread).symm.trans hbranch)
    have hrepeats : entry.Repeats entry.wrapper contact := ⟨by rw [heq]; rfl, rfl⟩
    exact accept_repeated hread (hkey ▸ hget) hrepeats

/-- A call that evicts nothing, while what is cached of an identity lives: the identity keeps its
entry, unless the call offers a newer record of it. -/
theorem get?_cacheStep (hno : ¬ Evicts config cache event)
    (hlive : ∀ entry ∈ cache.entries.get? key, event.1 < entry.expiresAtUnix) :
    ((cacheStep config cache event).entries.get? key = cache.entries.get? key ∧
      ∀ wrapper contact, Offered config key [event] wrapper contact →
        ∃ entry ∈ cache.entries.get? key, contact.payload.sequence ≤ entry.sequence) ∨
    ∃ wrapper source contact, Offered config key [event] wrapper contact ∧
      (∀ entry ∈ cache.entries.get? key, entry.sequence < contact.payload.sequence) ∧
      (cacheStep config cache event).entries.get? key =
        some (observe wrapper source event.1 contact) := by
  have hpruned : (cache.pruneExpiredLocked event.1).entries.get? key = cache.entries.get? key := by
    cases hget : cache.entries.get? key with
    | none => rw [IdentityContactCache.get?_pruneExpiredLocked, hget]; rfl
    | some entry =>
      exact IdentityContactCache.get?_pruneExpiredLocked_of_lt hget (hlive entry hget)
  by_cases hnewer : ∃ wrapper source contact, Offered config key [event] wrapper contact ∧
      (∃ nowUnix, event.2 = .accept nowUnix wrapper source) ∧
      ∀ entry ∈ cache.entries.get? key, entry.sequence < contact.payload.sequence
  · obtain ⟨wrapper, source, contact, hoffered, ⟨nowUnix, hcall⟩, hnewer⟩ := hnewer
    refine .inr ⟨wrapper, source, contact, hoffered, hnewer, ?_⟩
    obtain ⟨cacheNow, nowUnix', source', hmem, hread, hkey⟩ := hoffered
    obtain rfl := List.mem_singleton.mp hmem
    obtain ⟨rfl, -, rfl⟩ := CacheCall.accept.inj hcall
    subst hkey
    have hstep : (cache.accept config nowUnix' cacheNow wrapper source').1 =
        ((cache.pruneExpiredLocked cacheNow).store config
          (observe wrapper source' cacheNow contact)).1 :=
      congrArg Prod.fst (accept_store hread (hpruned ▸ hnewer))
    show (cache.accept config nowUnix' cacheNow wrapper source').1.entries.get? _ = _
    rw [hstep]
    exact IdentityContactCache.get?_store_self
  · refine .inl ⟨?_, ?_⟩
    · obtain heq | heq | ⟨nowUnix, wrapper, source, contact, hcall, hread, hnewer', heq⟩ :=
        cacheStep_cases config cache event
      · rw [heq]
      · rw [heq, hpruned]
      · have hkey : key ≠ contact.payload.branchID := by
          rintro rfl
          refine hnewer ⟨wrapper, source, contact, ⟨event.1, nowUnix, source, ?_, hread, rfl⟩,
            ⟨nowUnix, hcall⟩, hpruned ▸ hnewer'⟩
          rw [← hcall]
          exact List.mem_singleton_self _
        rw [heq, IdentityContactCache.store_of_room, ← hpruned]
        · exact Table.get?_insert_of_ne _ _ hkey
        · intro hnone
          by_contra hfull
          exact hno ⟨nowUnix, wrapper, source, contact, hcall, hread, hnone,
            Nat.not_lt.mp hfull⟩
    · intro wrapper contact hoffered
      by_contra hnone
      push Not at hnone
      refine hnewer ⟨wrapper, ?_⟩
      obtain ⟨cacheNow, nowUnix, source, hmem, hread, hkey⟩ := hoffered
      have hcall : event.2 = .accept nowUnix wrapper source := by
        rw [← List.mem_singleton.mp hmem]
      exact ⟨source, contact, ⟨cacheNow, nowUnix, source, hmem, hread, hkey⟩,
        ⟨nowUnix, hcall⟩, hnone⟩

theorem cacheStep_accept_of_room {nowUnix cacheNow : Int} {wrapper source : String}
    {contact : SignedEvent (IdentityContactPayload String)}
    (hread : readContact config nowUnix cacheNow wrapper = .ok contact)
    (hnone : (cache.pruneExpiredLocked cacheNow).entries.get? contact.payload.branchID = none)
    (hroom : (cache.pruneExpiredLocked cacheNow).entries.size < cache.maxEntries) :
    cacheStep config cache (cacheNow, .accept nowUnix wrapper source) =
      { cache with entries := ((cache.pruneExpiredLocked cacheNow).entries.insert
          contact.payload.branchID (observe wrapper source cacheNow contact)) } := by
  have hstep : cacheStep config cache (cacheNow, .accept nowUnix wrapper source) =
      (cache.accept config nowUnix cacheNow wrapper source).1 := rfl
  have hnewer : ∀ entry ∈ (cache.pruneExpiredLocked cacheNow).entries.get?
      contact.payload.branchID, entry.sequence < contact.payload.sequence := by
    rw [hnone]
    intro entry hentry
    cases hentry
  rw [hstep, accept_store hread hnewer]
  exact IdentityContactCache.store_of_room fun _ => hroom

theorem Offered.mono {events events' : List (Int × CacheCall)} {wrapper : String}
    {contact : SignedEvent (IdentityContactPayload String)}
    (h : Offered config key events wrapper contact) (hsub : ∀ e ∈ events, e ∈ events') :
    Offered config key events' wrapper contact := by
  obtain ⟨cacheNow, nowUnix, source, hmem, hrest⟩ := h
  exact ⟨cacheNow, nowUnix, source, hsub _ hmem, hrest⟩

theorem offered_append {events events' : List (Int × CacheCall)} {wrapper : String}
    {contact : SignedEvent (IdentityContactPayload String)} :
    Offered config key (events ++ events') wrapper contact ↔
      Offered config key events wrapper contact ∨ Offered config key events' wrapper contact := by
  constructor
  · rintro ⟨cacheNow, nowUnix, source, hmem, hrest⟩
    rcases List.mem_append.mp hmem with hmem | hmem
    · exact .inl ⟨cacheNow, nowUnix, source, hmem, hrest⟩
    · exact .inr ⟨cacheNow, nowUnix, source, hmem, hrest⟩
  · rintro (h | h)
    · exact h.mono fun _ => List.mem_append_left _
    · exact h.mono fun _ => List.mem_append_right _

theorem Offered.unique {wrapper wrapper' : String}
    {contact contact' : SignedEvent (IdentityContactPayload String)}
    (h : Offered config key [event] wrapper contact)
    (h' : Offered config key [event] wrapper' contact') : contact = contact' := by
  obtain ⟨cacheNow, nowUnix, source, hmem, hread, _⟩ := h
  obtain ⟨cacheNow', nowUnix', source', hmem', hread', _⟩ := h'
  obtain rfl := List.mem_singleton.mp hmem
  obtain ⟨rfl, hcall⟩ := Prod.mk.inj (List.mem_singleton.mp hmem')
  obtain ⟨rfl, rfl, -⟩ := CacheCall.accept.inj hcall
  exact Except.ok.inj (hread.symm.trans hread')

/-- What is cached of the identity is a record that was offered, and no record that was offered is
newer. -/
structure Leads (config : IdentityContactConfig) (key : String)
    (events : List (Int × CacheCall)) (found : Option IdentityContactObservation) : Prop where
  offered : ∀ entry ∈ found, ∃ contact, Offered config key events entry.wrapper contact ∧
    entry.sequence = contact.payload.sequence ∧ entry.expiresAtUnix = contact.payload.expiresAt
  highest : ∀ wrapper contact, Offered config key events wrapper contact →
    ∃ entry ∈ found, contact.payload.sequence ≤ entry.sequence

theorem leads_run (hnone : cache.entries.get? key = none)
    (hroom : Trace.Meets (cacheStep config) (fun cache event => ¬ Evicts config cache event) cache
      events)
    (hlasting : LastingRecords config key events) :
    Leads config key events ((Trace.run (cacheStep config) cache events).entries.get? key) := by
  induction events using List.reverseRecOn with
  | nil =>
    rw [Trace.run_nil, hnone]
    refine ⟨?_, ?_⟩
    · intro entry hentry
      cases hentry
    · rintro wrapper contact ⟨_, _, _, hmem, _⟩
      cases hmem
  | append_singleton events event ih =>
    obtain ⟨hbefore, hno⟩ := (Trace.meets_snoc _ _ _ _ _).mp hroom
    have hleads := ih hbefore fun wrapper contact hoffered event' hmem =>
      hlasting wrapper contact (hoffered.mono fun _ => List.mem_append_left _) event'
        (List.mem_append_left _ hmem)
    rw [Trace.run_snoc]
    generalize Trace.run (cacheStep config) cache events = reached at hleads hno
    have hlive : ∀ entry ∈ reached.entries.get? key, event.1 < entry.expiresAtUnix := by
      intro entry hentry
      obtain ⟨contact, hoffered, _, hexpires⟩ := hleads.offered entry hentry
      rw [hexpires]
      exact hlasting _ contact (hoffered.mono fun _ => List.mem_append_left _) event (by simp)
    obtain ⟨heq, hbelow⟩ | ⟨wrapper, source, contact, hoffered, hnewer, heq⟩ :=
      get?_cacheStep hno hlive
    · rw [heq]
      refine ⟨?_, ?_⟩
      · intro entry hentry
        obtain ⟨contact, hoffered, hsame⟩ := hleads.offered entry hentry
        exact ⟨contact, hoffered.mono fun _ => List.mem_append_left _, hsame⟩
      · intro wrapper contact hoffered
        rcases offered_append.mp hoffered with hoffered | hoffered
        · exact hleads.highest wrapper contact hoffered
        · exact hbelow wrapper contact hoffered
    · rw [heq]
      refine ⟨?_, ?_⟩
      · rintro entry ⟨⟩
        exact ⟨contact, hoffered.mono fun _ => List.mem_append_right _, rfl, rfl⟩
      · intro wrapper' contact' hoffered'
        refine ⟨_, rfl, ?_⟩
        rcases offered_append.mp hoffered' with hoffered' | hoffered'
        · obtain ⟨entry, hentry, hle⟩ := hleads.highest wrapper' contact' hoffered'
          exact hle.trans (Nat.le_of_lt (hnewer entry hentry))
        · rw [hoffered'.unique hoffered]
          exact Nat.le_refl _

theorem newestWins_run (hnone : cache.entries.get? key = none)
    (hroom : Trace.Meets (cacheStep config) (fun cache event => ¬ Evicts config cache event) cache
      events)
    (hdistinct : DistinctSequences config key events)
    (hlasting : LastingRecords config key events) : NewestWins config key cache events := by
  intro wrapper contact hoffered hmax
  have hleads := leads_run hnone hroom hlasting
  obtain ⟨entry, hentry, hle⟩ := hleads.highest wrapper contact hoffered
  obtain ⟨contact', hoffered', hsequence, _⟩ := hleads.offered entry hentry
  have hsame : contact'.payload.sequence = contact.payload.sequence :=
    Nat.le_antisymm (hmax _ contact' hoffered') (hsequence ▸ hle)
  exact ⟨entry, hentry, hdistinct _ contact' _ contact hoffered' hoffered hsame,
    hsequence.trans hsame⟩

theorem Sound.cacheKept (h : Sound config cache) : CacheKept config cache where
  bounded := h.bounded
  genuine := h.genuine
  increasing := fun _ _ _ _ hget hlives hget' => sequence_le_run hget hlives hget'
  duplicate := fun _ _ _ _ _ hget => accept_duplicate h hget
  newest := fun _ _ hnone hroom hdistinct hlasting =>
    newestWins_run hnone hroom hdistinct hlasting

end Steps

/-- A cache that was made new is kept to its bound and to what signed records say, in any run of
calls. -/
theorem cacheKept_run (maxEntries : Nat) (events : List (Int × CacheCall)) :
    CacheKept config (Trace.run (cacheStep config) (.new maxEntries) events) :=
  (Trace.invariant (P := Sound config) (fun _ event h => sound_cacheStep h event)
    (sound_new config maxEntries) events).cacheKept

section Sample

open Agreement

/-- A contact like the other sample, with a higher sequence and a shorter life. -/
def shortContact : Cbor :=
  .map [("type", .text eventIdentityAnnounce),
    ("sender", .map [("key_alg", .text "ed25519"), ("public_key", .bytes (.replicate 32 0))]),
    ("payload", .bytes (Cbor.encode (.map [
      ("aliases", .array []), ("sequence", .uint 2), ("branch_id", .text sampleBranchID),
      ("issued_at", .uint 100), ("contact_id", .bytes (.replicate 32 0)),
      ("expires_at", .uint 150), ("route_hints", .array []),
      ("protocol_versions", .array [.text protocolID]),
      ("profile_multihashes", .array [.text developmentProfileMultihash])]))),
    ("event_id", .bytes (.replicate 32 0)), ("protocol", .text protocolID),
    ("signature", .bytes (.replicate 64 0)), ("created_at", .uint 100),
    ("expires_at", .uint 150), ("payload_mode", .text "public"),
    ("signature_alg", .text "ed25519")]

def shortRecord : String :=
  String.ofList (branchTextWrapperPrefix.toList ++
    Base64.encodeBytes (Cbor.encode shortContact))

theorem bytes_shortRecord : Utf8.bytes shortRecord = wrapperOf shortContact := by
  rw [shortRecord, Utf8.bytes, String.toList_ofList, Utf8.encode, List.flatMap_append]
  rfl

theorem payload_shortContact :
    ((readSignedIdentityContact sampleUrlParse (fun _ _ _ => true) 120 300
      [developmentProfileMultihash] 0 (Cbor.encode shortContact)).toOption.map
        fun contact => (contact.payload.branchID, contact.payload.sequence,
          contact.payload.expiresAt)) = some (sampleBranchID, 2, 150) := by
  decide +kernel

theorem sequence_sampleContact :
    ((readSignedIdentityContact sampleUrlParse (fun _ _ _ => true) 150 300
      [developmentProfileMultihash] 0 (Cbor.encode (sampleContact []))).toOption.map
        fun contact => (contact.payload.branchID, contact.payload.sequence)) =
          some (sampleBranchID, 1) := by
  decide +kernel

theorem readContact_wrapper {wrapper : String} {event : Cbor} {now : Int}
    {contact : SignedEvent (IdentityContactPayload String)}
    (hbytes : Utf8.bytes wrapper = wrapperOf event)
    (hread : (readSignedIdentityContact sampleUrlParse (fun _ _ _ => true) now 300
      [developmentProfileMultihash] 0 (Cbor.encode event)).toOption = some contact) :
    readContact sampleContactConfig now now wrapper = .ok contact := by
  have hnow : relayNow now now = now := ite_self _
  have hcontact : relayContact sampleUrlParse (fun _ _ _ => true) now now 0 (wrapperOf event) =
      some contact := by
    refine relayContact_eq_some_iff.mpr ⟨_, (wrapped_wrapperOf event).spelled, ?_⟩
    rw [hnow]
    exact toOption_eq_some_iff.mp hread
  unfold readContact
  rw [hbytes]
  exact toOption_eq_some_iff.mp hcontact

/-- The record with the higher sequence comes first and is expired when the other comes. -/
def expiringOffers : List (Int × CacheCall) :=
  [(120, .accept 120 shortRecord "wss"), (150, .accept 150 sampleRecord "wss")]

theorem offered_expiringOffers {wrapper : String}
    {contact short long : SignedEvent (IdentityContactPayload String)}
    (hshort : readContact sampleContactConfig 120 120 shortRecord = .ok short)
    (hlong : readContact sampleContactConfig 150 150 sampleRecord = .ok long)
    (h : Offered sampleContactConfig sampleBranchID expiringOffers wrapper contact) :
    (wrapper = shortRecord ∧ contact = short) ∨ (wrapper = sampleRecord ∧ contact = long) := by
  obtain ⟨cacheNow, nowUnix, source, hmem, hread, _⟩ := h
  rcases List.mem_cons.mp hmem with heq | hmem
  · cases heq
    exact .inl ⟨rfl, Except.ok.inj (hread.symm.trans hshort)⟩
  · cases List.mem_singleton.mp hmem
    exact .inr ⟨rfl, Except.ok.inj (hread.symm.trans hlong)⟩

/-- The record with the highest sequence is gone in the end. -/
theorem not_newestWins_expiringOffers :
    emptyCache.entries.get? sampleBranchID = none ∧
      Trace.Meets (cacheStep sampleContactConfig)
        (fun cache event => ¬ Evicts sampleContactConfig cache event) emptyCache expiringOffers ∧
      DistinctSequences sampleContactConfig sampleBranchID expiringOffers ∧
      ¬ NewestWins sampleContactConfig sampleBranchID emptyCache expiringOffers := by
  obtain ⟨short, hreadShort, hshort⟩ := Option.map_eq_some_iff.mp payload_shortContact
  obtain ⟨long, hreadLong, hlong⟩ := Option.map_eq_some_iff.mp sequence_sampleContact
  simp only [Prod.mk.injEq] at hshort hlong
  obtain ⟨hshortID, hshortSequence, hshortExpires⟩ := hshort
  obtain ⟨hlongID, hlongSequence⟩ := hlong
  have hshort := readContact_wrapper bytes_shortRecord hreadShort
  have hlong := readContact_wrapper bytes_sampleRecord hreadLong
  have hfirst := @cacheStep_accept_of_room _ emptyCache _ _ _ "wss" _ hshort rfl (by decide)
  have hempty : ¬ Evicts sampleContactConfig emptyCache (120, .accept 120 shortRecord "wss") := by
    rintro ⟨_, _, _, _, _, _, _, hfull⟩
    exact absurd hfull (by decide)
  have hmax := congrArg (·.maxEntries) hfirst
  have hentries := congrArg (·.entries) hfirst
  dsimp only at hmax hentries
  rw [hshortID] at hentries
  generalize hcache : cacheStep sampleContactConfig emptyCache
    (120, .accept 120 shortRecord "wss") = cache at hmax hentries
  have hgone : (cache.pruneExpiredLocked 150).entries.get? sampleBranchID = none := by
    rw [IdentityContactCache.get?_pruneExpiredLocked, hentries, Table.get?_insert_self,
      Option.filter_some, if_neg]
    simp [observe, hshortExpires]
  have hsize : (cache.pruneExpiredLocked 150).entries.size < cache.maxEntries := by
    refine Nat.lt_of_le_of_lt (Table.size_filter_le _ _) ?_
    rw [hmax, hentries, Table.size_insert_of_get?_eq_none _ rfl]
    decide
  have hsecond := @cacheStep_accept_of_room _ cache _ _ _ "wss" _ hlong (hlongID ▸ hgone) hsize
  have hfinal := congrArg (fun cache => cache.entries.get? sampleBranchID) hsecond
  dsimp only at hfinal
  rw [hlongID, Table.get?_insert_self] at hfinal
  have hroom : ¬ Evicts sampleContactConfig cache (150, .accept 150 sampleRecord "wss") := by
    rintro ⟨_, _, _, _, _, _, _, hfull⟩
    exact absurd hsize (Nat.not_lt.mpr hfull)
  refine ⟨rfl, ⟨hempty, hcache ▸ hroom, trivial⟩, ?_, ?_⟩
  · intro wrapper contact wrapper' contact' hoffered hoffered' hsequence
    rcases offered_expiringOffers hshort hlong hoffered with ⟨rfl, rfl⟩ | ⟨rfl, rfl⟩
    · rcases offered_expiringOffers hshort hlong hoffered' with ⟨rfl, rfl⟩ | ⟨rfl, rfl⟩
      · rfl
      · omega
    · rcases offered_expiringOffers hshort hlong hoffered' with ⟨rfl, rfl⟩ | ⟨rfl, rfl⟩
      · omega
      · rfl
  · intro hwins
    have hoffered : Offered sampleContactConfig sampleBranchID expiringOffers shortRecord short :=
      ⟨120, 120, "wss", List.mem_cons_self, hshort, hshortID⟩
    obtain ⟨entry, hget, _, hsequence⟩ := hwins shortRecord short hoffered (by
      intro wrapper' contact' hoffered'
      rcases offered_expiringOffers hshort hlong hoffered' with ⟨-, rfl⟩ | ⟨-, rfl⟩
      · exact Nat.le_refl _
      · omega)
    rw [expiringOffers, Trace.run_cons, Trace.run_cons, Trace.run_nil, hcache, hfinal] at hget
    cases hget
    have hlower : (observe sampleRecord "wss" 150 long).sequence = long.payload.sequence := rfl
    omega

end Sample

end Branch.Wss
