import Branch.Lib.InsertionMap
import Mathlib.Data.Finset.Card
import Mathlib.Order.Defs.LinearOrder

/-!
Memories of keys that hold each key until its time comes, and no more than a number of them:
the key that came first goes first.
-/

namespace Branch.Lib

universe u v

/-- `history` is all that was ever remembered, and nothing reads it. -/
structure ExpiringMemory (K : Type u) (T : Type v) where
  held : InsertionMap K T := .empty
  history : List (K × T) := []

namespace ExpiringMemory

variable {K : Type u} {T : Type v} {m : ExpiringMemory K T} {key : K} {expiresAt : T}
  {since : List (K × T)} {limit : Nat}

/-- The oldest keys go until there are no more than the limit. -/
def evict (m : ExpiringMemory K T) (limit : Nat) : ExpiringMemory K T :=
  { m with held := m.held.shrink (limit + 1) }

/-- The entry is held, and what came behind it came with one of these. -/
def HeldBefore (m : ExpiringMemory K T) (key : K) (expiresAt : T) (since : List (K × T)) : Prop :=
  ∃ before behind, m.held.entries = before ++ (key, expiresAt) :: behind ∧
    ∀ entry ∈ behind, entry.1 ∈ since.map Prod.fst

theorem entries_evict (m : ExpiringMemory K T) (limit : Nat) :
    (m.evict limit).held.entries = m.held.entries.drop (m.held.size - limit) := by
  change m.held.entries.drop (m.held.size + 1 - (limit + 1)) = _
  rw [Nat.add_sub_add_right]

@[simp] theorem history_evict (m : ExpiringMemory K T) (limit : Nat) :
    (m.evict limit).history = m.history := rfl

theorem size_evict_le (m : ExpiringMemory K T) (limit : Nat) :
    (m.evict limit).held.size ≤ limit := by
  rw [InsertionMap.size, entries_evict, List.length_drop, InsertionMap.size]
  omega

section Keys

variable [DecidableEq K]

def has (m : ExpiringMemory K T) (key : K) : Bool := m.held.has key

def remember (m : ExpiringMemory K T) (key : K) (expiresAt : T) : ExpiringMemory K T where
  held := m.held.set key expiresAt
  history := m.history ++ [(key, expiresAt)]

def distinct (entries : List (K × T)) : Nat := (entries.map Prod.fst).toFinset.card

theorem distinct_le_length (entries : List (K × T)) : distinct entries ≤ entries.length :=
  Nat.le_trans (List.toFinset_card_le _) (List.length_map Prod.fst).le

theorem get?_of_heldBefore (h : m.HeldBefore key expiresAt since) :
    m.held.get? key = some expiresAt := by
  obtain ⟨before, behind, heq, -⟩ := h
  rw [InsertionMap.get?_eq_some_iff, heq]
  exact List.mem_append_right before List.mem_cons_self

theorem has_of_heldBefore (h : m.HeldBefore key expiresAt since) : m.has key = true := by
  rw [has, InsertionMap.has, get?_of_heldBefore h]
  rfl

theorem not_has_evict (h : ¬ m.has key = true) : ¬ (m.evict limit).has key = true := by
  intro hhas
  refine h ?_
  rw [has, ← InsertionMap.mem_keys_iff] at hhas ⊢
  exact ((List.drop_sublist _ _).map Prod.fst).subset hhas

theorem has_remember {key' : K} :
    (m.remember key expiresAt).has key' = true ↔ key' = key ∨ m.has key' = true :=
  InsertionMap.has_set

theorem entries_remember (h : ¬ m.has key = true) (expiresAt : T) :
    (m.remember key expiresAt).held.entries = m.held.entries ++ [(key, expiresAt)] := by
  have hkey : key ∉ m.held.keys := fun hmem => h (InsertionMap.mem_keys_iff.mp hmem)
  change (m.held.set key expiresAt).entries = _
  rw [InsertionMap.set, dif_neg hkey]

theorem heldBefore_remember {key' : K} {expiresAt' : T} (h : m.HeldBefore key expiresAt since)
    (hnew : ¬ m.has key' = true) :
    (m.remember key' expiresAt').HeldBefore key expiresAt (since ++ [(key', expiresAt')]) := by
  obtain ⟨before, behind, heq, hbehind⟩ := h
  refine ⟨before, behind ++ [(key', expiresAt')], ?_, ?_⟩
  · rw [entries_remember hnew, heq, List.append_assoc, List.cons_append]
  · intro entry hentry
    rw [List.map_append, List.mem_append]
    rcases List.mem_append.mp hentry with hentry | hentry
    · exact .inl (hbehind entry hentry)
    · exact .inr (List.mem_map_of_mem hentry)

theorem distinct_le_distinct {entries : List (K × T)} (h : since ⊆ entries) :
    distinct since ≤ distinct entries := by
  refine Finset.card_le_card fun key hkey => ?_
  rw [List.mem_toFinset] at hkey ⊢
  obtain ⟨entry, hentry, rfl⟩ := List.mem_map.mp hkey
  exact List.mem_map_of_mem (h hentry)

theorem length_le_distinct {behind : List (K × T)} (hnodup : (behind.map Prod.fst).Nodup)
    (h : ∀ entry ∈ behind, entry.1 ∈ since.map Prod.fst) : behind.length ≤ distinct since := by
  rw [← List.length_map Prod.fst, ← List.toFinset_card_of_nodup hnodup]
  refine Finset.card_le_card fun key hkey => ?_
  rw [List.mem_toFinset] at hkey ⊢
  obtain ⟨entry, hentry, rfl⟩ := List.mem_map.mp hkey
  exact h entry hentry

theorem heldBefore_evict (limit : Nat) (h : m.HeldBefore key expiresAt since) :
    limit ≤ distinct since ∨ (m.evict limit).HeldBefore key expiresAt since := by
  obtain ⟨before, behind, heq, hbehind⟩ := h
  have hsize : m.held.size = before.length + (behind.length + 1) := by
    rw [InsertionMap.size, heq, List.length_append, List.length_cons]
  rcases Nat.lt_or_ge before.length (m.held.size - limit) with hlt | hle
  · -- the entry itself goes: as many keys as there is room for came behind it
    have hnodup : (behind.map Prod.fst).Nodup := by
      have hall := m.held.nodup
      rw [heq, List.map_append, List.map_cons] at hall
      exact (List.nodup_cons.mp (List.nodup_append.mp hall).2.1).2
    have hlength := length_le_distinct hnodup hbehind
    exact .inl (by omega)
  · refine .inr ⟨before.drop (m.held.size - limit), behind, ?_, hbehind⟩
    rw [entries_evict, heq, List.drop_append_of_le_length hle]

/-- What was remembered is held, unless it is over or as many keys as there is room for were
remembered since. -/
def RecallsUnless (limit : Nat) (lapsed : T → Prop) (m : ExpiringMemory K T) : Prop :=
  ∀ past key expiresAt since, m.history = past ++ (key, expiresAt) :: since →
    lapsed expiresAt ∨ limit ≤ distinct since ∨ m.HeldBefore key expiresAt since

variable {lapsed : T → Prop}

theorem recallsUnless_empty (limit : Nat) (lapsed : T → Prop) :
    ({} : ExpiringMemory K T).RecallsUnless limit lapsed := by
  intro past key expiresAt since heq
  exact absurd heq (List.append_ne_nil_of_right_ne_nil _ (List.cons_ne_nil _ _)).symm

theorem RecallsUnless.of_not_has {past : List (K × T)} (h : m.RecallsUnless limit lapsed)
    (hhas : ¬ m.has key = true) (heq : m.history = past ++ (key, expiresAt) :: since) :
    lapsed expiresAt ∨ limit ≤ distinct since := by
  rcases h past key expiresAt since heq with hlapsed | hmany | hheld
  · exact .inl hlapsed
  · exact .inr hmany
  · exact absurd (has_of_heldBefore hheld) hhas

theorem RecallsUnless.remember (h : m.RecallsUnless limit lapsed) (hnew : ¬ m.has key = true)
    (expiresAt : T) : (m.remember key expiresAt).RecallsUnless limit lapsed := by
  intro past key' expiresAt' since heq
  change m.history ++ [(key, expiresAt)] = _ at heq
  rcases List.eq_nil_or_concat since with rfl | ⟨since, last, rfl⟩
  · obtain ⟨-, hlast⟩ := List.append_inj' heq rfl
    obtain ⟨rfl, rfl⟩ := Prod.mk.inj (List.cons.inj hlast).1
    exact .inr (.inr ⟨m.held.entries, [], entries_remember hnew _, by simp⟩)
  · rw [List.concat_eq_append, ← List.cons_append, ← List.append_assoc] at heq
    obtain ⟨hhistory, hlast⟩ := List.append_inj' heq rfl
    obtain rfl : (key, expiresAt) = last := (List.cons.inj hlast).1
    rw [List.concat_eq_append]
    rcases h past key' expiresAt' since hhistory with hlapsed | hmany | hheld
    · exact .inl hlapsed
    · exact .inr (.inl (hmany.trans
        (distinct_le_distinct (List.subset_append_left since [(key, expiresAt)]))))
    · exact .inr (.inr (heldBefore_remember hheld hnew))

theorem RecallsUnless.evict (h : m.RecallsUnless limit lapsed) :
    (m.evict limit).RecallsUnless limit lapsed := by
  intro past key expiresAt since heq
  rcases h past key expiresAt since heq with hlapsed | hmany | hheld
  · exact .inl hlapsed
  · exact .inr (.inl hmany)
  · exact .inr (heldBefore_evict limit hheld)

theorem RecallsUnless.makeRoom (h : m.RecallsUnless limit lapsed) (hlimit : 0 < limit)
    (hnew : ¬ m.has key = true) (expiresAt : T) :
    RecallsUnless limit lapsed
      { held := (m.held.shrink limit).set key expiresAt
        history := m.history ++ [(key, expiresAt)] } := by
  have hkey : key ∉ (m.held.shrink limit).keys := fun hmem =>
    hnew (InsertionMap.mem_keys_iff.mp (((List.drop_sublist _ _).map Prod.fst).subset hmem))
  have hheld : (m.held.shrink limit).set key expiresAt =
      ((m.remember key expiresAt).evict limit).held := by
    rw [InsertionMap.set, dif_neg hkey]
    refine InsertionMap.eq_of_entries ?_
    change m.held.entries.drop (m.held.size + 1 - limit) ++ [(key, expiresAt)] =
      (m.remember key expiresAt).held.entries.drop
        ((m.remember key expiresAt).held.size + 1 - (limit + 1))
    have hsize : (m.remember key expiresAt).held.size = m.held.size + 1 := by
      rw [InsertionMap.size, entries_remember hnew, List.length_append]
      rfl
    have hle : m.held.size + 1 - limit ≤ m.held.entries.length := by
      rw [InsertionMap.size]
      omega
    rw [hsize, entries_remember hnew, Nat.add_sub_add_right,
      List.drop_append_of_le_length hle]
  rw [hheld]
  exact (h.remember hnew expiresAt).evict

end Keys

section Times

variable [LinearOrder T] {now clock : T}

def forget (m : ExpiringMemory K T) (now : T) : ExpiringMemory K T :=
  { m with held := m.held.filter fun _ expiresAt => now < expiresAt }

theorem heldBefore_forget (h : m.HeldBefore key expiresAt since) (hnow : now < expiresAt) :
    (m.forget now).HeldBefore key expiresAt since := by
  obtain ⟨before, behind, heq, hbehind⟩ := h
  refine ⟨before.filter fun e => now < e.2, behind.filter fun e => now < e.2, ?_, ?_⟩
  · change m.held.entries.filter (fun e => now < e.2) = _
    rw [heq, List.filter_append, List.filter_cons_of_pos (by simpa using hnow)]
  · exact fun entry hentry => hbehind entry (List.mem_of_mem_filter hentry)

variable [DecidableEq K]

/-- What was remembered is held, unless its time has come or as many keys as there is room for
were remembered since. -/
def Recalls (limit : Nat) (clock : T) (m : ExpiringMemory K T) : Prop :=
  ∀ past key expiresAt since, m.history = past ++ (key, expiresAt) :: since →
    expiresAt ≤ clock ∨ limit ≤ distinct since ∨ m.HeldBefore key expiresAt since

theorem recalls_empty (limit : Nat) (clock : T) :
    ({} : ExpiringMemory K T).Recalls limit clock :=
  recallsUnless_empty limit (· ≤ clock)

theorem Recalls.mono {later : T} (h : m.Recalls limit clock) (hlater : clock ≤ later) :
    m.Recalls limit later := by
  intro past key expiresAt since heq
  rcases h past key expiresAt since heq with hexpired | hmany | hheld
  · exact .inl (hexpired.trans hlater)
  · exact .inr (.inl hmany)
  · exact .inr (.inr hheld)

theorem Recalls.of_not_has {past : List (K × T)} (h : m.Recalls limit clock)
    (hhas : ¬ m.has key = true) (heq : m.history = past ++ (key, expiresAt) :: since) :
    expiresAt ≤ clock ∨ limit ≤ distinct since :=
  have hunless : m.RecallsUnless limit (· ≤ clock) := h
  hunless.of_not_has hhas heq

theorem not_has_forget (h : ¬ m.has key = true) : ¬ (m.forget now).has key = true := by
  intro hhas
  refine h ?_
  rw [has, ← InsertionMap.mem_keys_iff] at hhas ⊢
  exact (InsertionMap.keys_filter_sublist _ _).subset hhas

theorem recalls_forget (h : m.Recalls limit clock) (hclock : now ≤ clock) :
    (m.forget now).Recalls limit clock := by
  intro past key expiresAt since heq
  rcases h past key expiresAt since heq with hexpired | hmany | hheld
  · exact .inl hexpired
  · exact .inr (.inl hmany)
  · rcases lt_or_ge now expiresAt with hnow | hnow
    · exact .inr (.inr (heldBefore_forget hheld hnow))
    · exact .inl (hnow.trans hclock)

theorem recalls_remember (h : m.Recalls limit clock) (hnew : ¬ m.has key = true) (expiresAt : T) :
    (m.remember key expiresAt).Recalls limit clock :=
  RecallsUnless.remember h hnew expiresAt

theorem recalls_evict (h : m.Recalls limit clock) : (m.evict limit).Recalls limit clock :=
  RecallsUnless.evict h

end Times

end ExpiringMemory

end Branch.Lib
