import Branch.Lib.Table
import Mathlib.Data.List.Nodup

/-!
Maps that remember the order in which their keys came: a key that is set again keeps its
place, and the oldest key comes first.
-/

namespace Branch.Lib

universe u v

structure InsertionMap (K : Type u) (V : Type v) where
  entries : List (K × V)
  nodup : (entries.map Prod.fst).Nodup

namespace InsertionMap

variable {K : Type u} {V : Type v}

def empty : InsertionMap K V := ⟨[], List.nodup_nil⟩

def keys (m : InsertionMap K V) : List K := m.entries.map Prod.fst

def size (m : InsertionMap K V) : Nat := m.entries.length

def oldest? (m : InsertionMap K V) : Option K := m.keys.head?

def filter (m : InsertionMap K V) (p : K → V → Bool) : InsertionMap K V where
  entries := m.entries.filter fun e => p e.1 e.2
  nodup := m.nodup.sublist (List.filter_sublist.map Prod.fst)

/-- The oldest entries go until there are fewer than the limit. -/
def shrink (m : InsertionMap K V) (limit : Nat) : InsertionMap K V where
  entries := m.entries.drop (m.size + 1 - limit)
  nodup := m.nodup.sublist ((List.drop_sublist _ _).map Prod.fst)

theorem eq_of_entries {m m' : InsertionMap K V} (h : m.entries = m'.entries) : m = m' := by
  cases m
  cases m'
  cases h
  rfl

theorem length_keys (m : InsertionMap K V) : m.keys.length = m.size :=
  List.length_map Prod.fst

theorem keys_filter_sublist (m : InsertionMap K V) (p : K → V → Bool) :
    (m.filter p).keys.Sublist m.keys :=
  List.filter_sublist.map Prod.fst

variable [DecidableEq K]

def get? (m : InsertionMap K V) (k : K) : Option V :=
  (m.entries.find? fun e => e.1 = k).map Prod.snd

def has (m : InsertionMap K V) (k : K) : Bool := (m.get? k).isSome

def delete (m : InsertionMap K V) (k : K) : InsertionMap K V :=
  m.filter fun k' _ => k' ≠ k

variable {m : InsertionMap K V}

theorem mem_keys_iff {k : K} : k ∈ m.keys ↔ m.has k = true := by
  rw [has, get?, Option.isSome_map, List.find?_isSome, keys, List.mem_map]
  simp only [decide_eq_true_eq]

def assign (k : K) (v : V) (e : K × V) : K × V := if e.1 = k then (k, v) else e

theorem fst_assign (k : K) (v : V) (e : K × V) : (assign k v e).1 = e.1 := by
  unfold assign
  split
  · rename_i h
    exact h.symm
  · rfl

theorem map_fst_assign (k : K) (v : V) (l : List (K × V)) :
    (l.map (assign k v)).map Prod.fst = l.map Prod.fst := by
  rw [List.map_map]
  exact List.map_congr_left fun e _ => fst_assign k v e

def set (m : InsertionMap K V) (k : K) (v : V) : InsertionMap K V :=
  if h : k ∈ m.keys then ⟨m.entries.map (assign k v), by rw [map_fst_assign]; exact m.nodup⟩
  else
    ⟨m.entries ++ [(k, v)], by
      rw [List.map_append, List.map_singleton, ← List.concat_eq_append]
      exact m.nodup.concat h⟩

theorem keys_set (m : InsertionMap K V) (k : K) (v : V) :
    (m.set k v).keys = if k ∈ m.keys then m.keys else m.keys ++ [k] := by
  unfold set
  split
  · exact map_fst_assign k v m.entries
  · exact List.map_append

theorem keys_delete (m : InsertionMap K V) (k : K) :
    (m.delete k).keys = m.keys.filter (· ≠ k) := by
  change (m.entries.filter fun e => e.1 ≠ k).map Prod.fst = _
  rw [keys, List.filter_map]
  rfl

theorem mem_keys_set {k k' : K} {v : V} :
    k' ∈ (m.set k v).keys ↔ k' = k ∨ k' ∈ m.keys := by
  rw [keys_set]
  split
  · rename_i h
    constructor
    · exact .inr
    · rintro (rfl | h')
      · exact h
      · exact h'
  · rw [List.mem_append, List.mem_singleton, or_comm]

theorem mem_keys_delete {k k' : K} :
    k' ∈ (m.delete k).keys ↔ k' ∈ m.keys ∧ k' ≠ k := by
  rw [keys_delete, List.mem_filter, decide_eq_true_eq]

theorem get?_eq_some_iff {k : K} {v : V} :
    m.get? k = some v ↔ (k, v) ∈ m.entries := by
  constructor
  · intro h
    obtain ⟨⟨k', v'⟩, hfind, rfl⟩ := Option.map_eq_some_iff.mp h
    have hkey : k' = k := by simpa using List.find?_some hfind
    exact hkey ▸ List.mem_of_find?_eq_some hfind
  · intro h
    have hsome : (m.entries.find? fun e => e.1 = k).isSome = true := by
      rw [List.find?_isSome]
      exact ⟨(k, v), h, decide_eq_true rfl⟩
    obtain ⟨⟨k', v'⟩, hfind⟩ := Option.isSome_iff_exists.mp hsome
    have hkey : k' = k := by simpa using List.find?_some hfind
    have heq : ((k', v') : K × V) = (k, v) :=
      List.inj_on_of_nodup_map m.nodup (List.mem_of_find?_eq_some hfind) h hkey
    rw [get?, hfind, Option.map_some]
    exact congrArg some (Prod.mk.inj heq).2

theorem get?_delete_eq_some_iff {k k' : K} {v : V} :
    (m.delete k).get? k' = some v ↔ k' ≠ k ∧ m.get? k' = some v := by
  rw [get?_eq_some_iff, get?_eq_some_iff]
  change (k', v) ∈ m.entries.filter (fun e => e.1 ≠ k) ↔ _
  rw [List.mem_filter, decide_eq_true_eq, and_comm]

theorem get?_filter_eq_some_iff {p : K → V → Bool} {k : K} {v : V} :
    (m.filter p).get? k = some v ↔ m.get? k = some v ∧ p k v = true := by
  rw [get?_eq_some_iff, get?_eq_some_iff]
  exact List.mem_filter

theorem get?_shrink {limit : Nat} {k : K} {v : V}
    (h : (m.shrink limit).get? k = some v) : m.get? k = some v := by
  rw [get?_eq_some_iff] at h ⊢
  exact List.mem_of_mem_drop h

theorem mem_entries_set {k k' : K} {v v' : V}
    (h : (k', v') ∈ (m.set k v).entries) : (k' = k ∧ v' = v) ∨ (k', v') ∈ m.entries := by
  unfold set at h
  split at h
  · obtain ⟨⟨k'', v''⟩, hmem, heq⟩ := List.mem_map.mp h
    unfold assign at heq
    split at heq
    · exact .inl ⟨(Prod.mk.inj heq).1.symm, (Prod.mk.inj heq).2.symm⟩
    · exact .inr (heq ▸ hmem)
  · rcases List.mem_append.mp h with h | h
    · exact .inr h
    · exact .inl (Prod.mk.inj (List.mem_singleton.mp h))

theorem mem_entries_set_self (m : InsertionMap K V) (k : K) (v : V) :
    (k, v) ∈ (m.set k v).entries := by
  unfold set
  split
  · rename_i h
    obtain ⟨⟨k', v'⟩, hmem, rfl⟩ := List.mem_map.mp h
    exact List.mem_map.mpr ⟨(k', v'), hmem, if_pos rfl⟩
  · exact List.mem_append_right _ (List.mem_singleton.mpr rfl)

@[simp] theorem get?_set_self (m : InsertionMap K V) (k : K) (v : V) :
    (m.set k v).get? k = some v :=
  get?_eq_some_iff.mpr (mem_entries_set_self m k v)

theorem get?_set_of_ne {k k' : K} (h : k' ≠ k) (v : V) :
    (m.set k v).get? k' = m.get? k' := by
  refine Option.ext fun v' => ?_
  rw [get?_eq_some_iff, get?_eq_some_iff]
  constructor
  · intro hmem
    rcases mem_entries_set hmem with ⟨heq, -⟩ | hmem
    · exact absurd heq h
    · exact hmem
  · intro hmem
    unfold set
    split
    · exact List.mem_map.mpr ⟨(k', v'), hmem, if_neg h⟩
    · exact List.mem_append_left _ hmem

theorem has_set {k k' : K} {v : V} :
    (m.set k v).has k' = true ↔ k' = k ∨ m.has k' = true := by
  rw [← mem_keys_iff, ← mem_keys_iff, mem_keys_set]

theorem has_delete {k k' : K} :
    (m.delete k).has k' = true ↔ m.has k' = true ∧ k' ≠ k := by
  rw [← mem_keys_iff, ← mem_keys_iff, mem_keys_delete]

theorem size_set_le (m : InsertionMap K V) (k : K) (v : V) : (m.set k v).size ≤ m.size + 1 := by
  rw [← length_keys, ← length_keys, keys_set]
  split
  · exact Nat.le_succ _
  · exact Nat.le_of_eq List.length_append

theorem size_delete_le (m : InsertionMap K V) (k : K) : (m.delete k).size ≤ m.size := by
  rw [← length_keys, ← length_keys, keys_delete]
  exact List.length_filter_le _ _

theorem size_delete_set_le (m : InsertionMap K V) (k : K) (v : V) :
    ((m.set k v).delete k).size ≤ m.size := by
  rw [← length_keys, ← length_keys, keys_delete, keys_set]
  split
  · exact List.length_filter_le _ _
  · rw [List.filter_append, List.length_append]
    simpa using List.length_filter_le (fun k' => decide (k' ≠ k)) m.keys

theorem size_eq_zero_iff : m.size = 0 ↔ ∀ k, ¬ m.has k = true := by
  rw [← length_keys, List.length_eq_zero_iff, List.eq_nil_iff_forall_not_mem]
  simp only [mem_keys_iff]

def toTable (m : InsertionMap K V) : Table K V where
  alist :=
    { entries := m.entries.map fun e => ⟨e.1, e.2⟩
      nodupKeys := by
        rw [List.NodupKeys, List.keys, List.map_map]
        exact m.nodup }

theorem get?_toTable (m : InsertionMap K V) (k : K) : m.toTable.get? k = m.get? k := by
  refine Option.ext fun v => ?_
  rw [← Table.mem_entries_iff, get?_eq_some_iff]
  change (⟨k, v⟩ : Sigma fun _ => V) ∈ m.entries.map (fun e => ⟨e.1, e.2⟩) ↔ _
  constructor
  · intro h
    obtain ⟨⟨k', v'⟩, hmem, heq⟩ := List.mem_map.mp h
    cases heq
    exact hmem
  · exact fun h => List.mem_map.mpr ⟨(k, v), h, rfl⟩

end InsertionMap

end Branch.Lib
