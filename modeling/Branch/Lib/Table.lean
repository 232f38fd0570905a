import Mathlib.Data.List.AList

/-!
Finite tables with unique keys. They model hash maps whose iteration order is
irrelevant, and evaluate in the kernel on small inputs.
-/

namespace Branch.Lib

universe u v

structure Table (K : Type u) (V : Type v) where
  alist : AList fun _ : K => V

namespace Table

section Definitions

variable {K : Type u} {V : Type v}

def empty : Table K V := ⟨∅⟩

/-- Keep the entries on which `p` is true. -/
def filter (t : Table K V) (p : K → V → Bool) : Table K V :=
  ⟨⟨t.alist.entries.filter fun e => p e.1 e.2,
    List.NodupKeys.sublist List.filter_sublist t.alist.nodupKeys⟩⟩

def size (t : Table K V) : Nat := t.alist.entries.length

def keys (t : Table K V) : List K := t.alist.keys

def toList (t : Table K V) : List (K × V) :=
  t.alist.entries.map fun e => (e.1, e.2)

theorem keys_nodup (t : Table K V) : t.keys.Nodup := t.alist.keys_nodup

theorem length_keys (t : Table K V) : t.keys.length = t.size := by
  simp [keys, AList.keys, List.keys, size]

@[simp] theorem size_empty : (empty : Table K V).size = 0 := rfl

end Definitions

theorem filter_filter {K : Type u} {V : Type v} (t : Table K V) {p q : K → V → Bool}
    (h : ∀ k v, q k v = true → p k v = true) : (t.filter p).filter q = t.filter q := by
  unfold filter
  simp only [List.filter_filter, mk.injEq, AList.mk.injEq]
  refine List.filter_congr fun e _ => ?_
  cases hq : q e.1 e.2 with
  | false => rfl
  | true => rw [h e.1 e.2 hq]; rfl

variable {K : Type u} {V : Type v} [DecidableEq K]

def get? (t : Table K V) (k : K) : Option V := t.alist.lookup k

def insert (t : Table K V) (k : K) (v : V) : Table K V := ⟨t.alist.insert k v⟩

def erase (t : Table K V) (k : K) : Table K V := ⟨t.alist.erase k⟩

/-- Rewrite the value stored at `k`, if there is one. -/
def modify (t : Table K V) (k : K) (f : V → V) : Table K V :=
  match t.get? k with
  | none => t
  | some v => t.insert k (f v)

variable {t : Table K V}

theorem mem_entries_iff {k : K} {v : V} :
    (⟨k, v⟩ : Sigma fun _ : K => V) ∈ t.alist.entries ↔ t.get? k = some v :=
  AList.mem_lookup_iff.symm

@[simp] theorem mem_toList_iff {k : K} {v : V} :
    (k, v) ∈ t.toList ↔ t.get? k = some v := by
  rw [← mem_entries_iff]
  constructor
  · intro h
    obtain ⟨⟨k', v'⟩, hmem, heq⟩ := List.mem_map.mp h
    cases heq
    exact hmem
  · intro h
    exact List.mem_map.mpr ⟨⟨k, v⟩, h, rfl⟩

theorem mem_keys_iff {k : K} :
    k ∈ t.keys ↔ (t.get? k).isSome :=
  AList.lookup_isSome.symm

@[simp] theorem get?_empty (k : K) : (empty : Table K V).get? k = none :=
  AList.lookup_empty k

theorem get?_insert (t : Table K V) (k k' : K) (v : V) :
    (t.insert k v).get? k' = if k' = k then some v else t.get? k' := by
  by_cases h : k' = k
  · subst h
    rw [if_pos rfl]
    exact AList.lookup_insert t.alist
  · rw [if_neg h]
    exact AList.lookup_insert_ne h

@[simp] theorem get?_insert_self (t : Table K V) (k : K) (v : V) :
    (t.insert k v).get? k = some v := by
  rw [get?_insert, if_pos rfl]

theorem get?_insert_of_ne (t : Table K V) {k k' : K} (v : V) (h : k' ≠ k) :
    (t.insert k v).get? k' = t.get? k' := by
  rw [get?_insert, if_neg h]

theorem get?_erase (t : Table K V) (k k' : K) :
    (t.erase k).get? k' = if k' = k then none else t.get? k' := by
  by_cases h : k' = k
  · subst h
    rw [if_pos rfl]
    exact AList.lookup_erase k' t.alist
  · rw [if_neg h]
    exact AList.lookup_erase_ne h

@[simp] theorem get?_erase_self (t : Table K V) (k : K) :
    (t.erase k).get? k = none := by
  rw [get?_erase, if_pos rfl]

theorem get?_erase_of_ne (t : Table K V) {k k' : K} (h : k' ≠ k) :
    (t.erase k).get? k' = t.get? k' := by
  rw [get?_erase, if_neg h]

theorem get?_eq_some_of_get?_erase {k k' : K} {v : V}
    (h : (t.erase k).get? k' = some v) : k' ≠ k ∧ t.get? k' = some v := by
  rw [get?_erase] at h
  split at h
  · cases h
  · exact ⟨by assumption, h⟩

theorem get?_filter_eq_some {p : K → V → Bool} {k : K} {v : V} :
    (t.filter p).get? k = some v ↔ t.get? k = some v ∧ p k v = true := by
  rw [← mem_entries_iff, ← mem_entries_iff]
  exact List.mem_filter

theorem get?_filter (t : Table K V) (p : K → V → Bool) (k : K) :
    (t.filter p).get? k = (t.get? k).filter (p k) := by
  apply Option.ext
  intro v
  rw [get?_filter_eq_some, Option.filter_eq_some_iff]

theorem filter_eq_self {p : K → V → Bool}
    (h : ∀ k v, t.get? k = some v → p k v = true) : t.filter p = t := by
  have hentries : t.alist.entries.filter (fun e => p e.1 e.2) = t.alist.entries := by
    refine List.filter_eq_self.mpr ?_
    rintro ⟨k, v⟩ hmem
    exact h k v (mem_entries_iff.mp hmem)
  exact congrArg Table.mk (AList.ext hentries)

theorem get?_modify (t : Table K V) (k k' : K) (f : V → V) :
    (t.modify k f).get? k' = if k' = k then (t.get? k).map f else t.get? k' := by
  unfold modify
  split
  · rename_i h
    by_cases hk : k' = k
    · subst hk
      simp [h]
    · simp [hk]
  · rename_i v h
    rw [get?_insert, h]
    rfl

theorem get?_insert_eq_some {k k' : K} {v v' : V}
    (h : (t.insert k v).get? k' = some v') :
    (k' = k ∧ v' = v) ∨ (k' ≠ k ∧ t.get? k' = some v') := by
  rw [get?_insert] at h
  split at h
  · rename_i hk
    exact .inl ⟨hk, (Option.some.inj h).symm⟩
  · rename_i hk
    exact .inr ⟨hk, h⟩

theorem get?_modify_eq_some {k k' : K} {f : V → V} {v' : V}
    (h : (t.modify k f).get? k' = some v') :
    ∃ v, t.get? k' = some v ∧ ((k' = k ∧ v' = f v) ∨ (k' ≠ k ∧ v' = v)) := by
  rw [get?_modify] at h
  split at h
  · rename_i hk
    obtain ⟨v, hv, rfl⟩ := Option.map_eq_some_iff.mp h
    exact ⟨v, hk ▸ hv, .inl ⟨hk, rfl⟩⟩
  · rename_i hk
    exact ⟨v', h, .inr ⟨hk, rfl⟩⟩

theorem get?_modify_isSome (t : Table K V) (k k' : K) (f : V → V) :
    ((t.modify k f).get? k').isSome = (t.get? k').isSome := by
  rw [get?_modify]
  split
  · rename_i h
    subst h
    simp
  · rfl

theorem keys_insert (t : Table K V) (k : K) (v : V) :
    (t.insert k v).keys = k :: t.keys.erase k := AList.keys_insert t.alist

theorem keys_erase (t : Table K V) (k : K) :
    (t.erase k).keys = t.keys.erase k := AList.keys_erase k t.alist

theorem size_insert_of_get?_eq_none {k : K} (v : V)
    (h : t.get? k = none) : (t.insert k v).size = t.size + 1 := by
  have hk : k ∉ t.keys := by
    rw [mem_keys_iff, h]
    simp
  rw [← length_keys, keys_insert, List.erase_of_not_mem hk, List.length_cons,
    length_keys]

theorem size_insert_of_get?_isSome {k : K} (v : V)
    (h : (t.get? k).isSome) : (t.insert k v).size = t.size := by
  have hk : k ∈ t.keys := mem_keys_iff.mpr h
  have hpos := List.length_pos_of_mem hk
  rw [← length_keys, keys_insert, List.length_cons, List.length_erase_of_mem hk,
    ← length_keys]
  omega

theorem size_erase_le (t : Table K V) (k : K) : (t.erase k).size ≤ t.size := by
  rw [← length_keys, ← length_keys, keys_erase]
  exact List.erase_sublist.length_le

theorem size_erase_of_mem {k : K} (h : k ∈ t.keys) :
    (t.erase k).size + 1 = t.size := by
  have hpos := List.length_pos_of_mem h
  rw [← length_keys, ← length_keys, keys_erase, List.length_erase_of_mem h]
  omega

omit [DecidableEq K] in
theorem size_filter_le (t : Table K V) (p : K → V → Bool) : (t.filter p).size ≤ t.size :=
  List.length_filter_le _ _

@[simp] theorem size_modify (t : Table K V) (k : K) (f : V → V) :
    (t.modify k f).size = t.size := by
  unfold modify
  split
  · rfl
  · rename_i v h
    exact size_insert_of_get?_isSome _ (by simp [h])

theorem size_filter_insert {k : K} (v : V) (p : K → V → Bool)
    (h : t.get? k = none) :
    ((t.insert k v).filter p).size = (t.filter p).size + if p k v then 1 else 0 := by
  have hk : k ∉ t.alist := AList.lookup_eq_none.mp h
  have hentries : (t.insert k v).alist.entries = ⟨k, v⟩ :: t.alist.entries :=
    AList.entries_insert_of_notMem hk
  rw [size, size, filter, filter]
  dsimp only
  rw [hentries, List.filter_cons]
  split
  · rfl
  · rfl

theorem size_le_of_keys_subset {l : List K}
    (h : ∀ k, (t.get? k).isSome → k ∈ l) : t.size ≤ l.length := by
  rw [← length_keys]
  exact (List.subperm_of_subset t.keys_nodup fun k hk =>
    h k (mem_keys_iff.mp hk)).length_le

end Table

end Branch.Lib
