import Mathlib.Data.List.Sort

/-!
A store of records with unique keys and an index over their stamps. A walk along the index sees
the records by their stamps, and those of one stamp by their keys.
-/

namespace Branch.Lib

universe u v w

variable {R : Type u} {K : Type v} {S : Type w} [LinearOrder K] [LinearOrder S]

/-- The index has the first record in front of the second one, or they have the same place. -/
def Precedes (key : R → K) (stamp : R → S) (a b : R) : Prop :=
  stamp a < stamp b ∨ stamp a = stamp b ∧ key a ≤ key b

section Order

variable {key : R → K} {stamp : R → S} {a b c : R}

instance : DecidableRel (Precedes key stamp) :=
  fun a b => inferInstanceAs (Decidable (stamp a < stamp b ∨ stamp a = stamp b ∧ key a ≤ key b))

theorem Precedes.stamp_le (h : Precedes key stamp a b) : stamp a ≤ stamp b := by
  rcases h with hlt | ⟨heq, _⟩
  · exact hlt.le
  · exact heq.le

theorem Precedes.trans (hab : Precedes key stamp a b) (hbc : Precedes key stamp b c) :
    Precedes key stamp a c := by
  rcases hab with hab | ⟨hab, hkey⟩
  · exact .inl (hab.trans_le hbc.stamp_le)
  · rcases hbc with hbc | ⟨hbc, hkey'⟩
    · exact .inl (hab ▸ hbc)
    · exact .inr ⟨hab.trans hbc, hkey.trans hkey'⟩

theorem precedes_total (key : R → K) (stamp : R → S) (a b : R) :
    Precedes key stamp a b ∨ Precedes key stamp b a := by
  rcases lt_trichotomy (stamp a) (stamp b) with hlt | heq | hgt
  · exact .inl (.inl hlt)
  · exact (le_total (key a) (key b)).imp (fun h => .inr ⟨heq, h⟩) fun h => .inr ⟨heq.symm, h⟩
  · exact .inr (.inl hgt)

theorem Precedes.key_eq (hab : Precedes key stamp a b) (hba : Precedes key stamp b a) :
    key a = key b := by
  have hstamp := hab.stamp_le.antisymm hba.stamp_le
  rcases hab with hlt | ⟨_, hkey⟩
  · exact absurd hstamp hlt.ne
  · rcases hba with hlt | ⟨_, hkey'⟩
    · exact absurd hstamp.symm hlt.ne
    · exact hkey.antisymm hkey'

instance : IsTrans R (Precedes key stamp) := ⟨fun _ _ _ => Precedes.trans⟩

instance : Std.Total (Precedes key stamp) := ⟨precedes_total key stamp⟩

end Order

structure IndexedStore (key : R → K) (stamp : R → S) where
  records : List R
  sorted : records.Pairwise (Precedes key stamp)
  nodup : (records.map key).Nodup

namespace IndexedStore

variable {key : R → K} {stamp : R → S}

def empty : IndexedStore key stamp := ⟨[], List.Pairwise.nil, List.nodup_nil⟩

def get? (store : IndexedStore key stamp) (k : K) : Option R :=
  store.records.find? fun r => key r = k

theorem nodup_filter (store : IndexedStore key stamp) (p : R → Bool) :
    ((store.records.filter p).map key).Nodup :=
  (List.filter_sublist.map key).nodup store.nodup

/-- Keep the records on which `p` is true. -/
def filter (store : IndexedStore key stamp) (p : R → Bool) : IndexedStore key stamp :=
  ⟨store.records.filter p, store.sorted.filter p, store.nodup_filter p⟩

def delete (store : IndexedStore key stamp) (k : K) : IndexedStore key stamp :=
  store.filter fun r => key r ≠ k

theorem not_mem_keys_delete (store : IndexedStore key stamp) (k : K) :
    k ∉ (store.delete k).records.map key := by
  simp [delete, filter]

theorem nodup_put (store : IndexedStore key stamp) (r : R) :
    (((store.delete (key r)).records.orderedInsert (Precedes key stamp) r).map key).Nodup := by
  have hperm := (List.perm_orderedInsert (Precedes key stamp) r
    (store.delete (key r)).records).map key
  rw [hperm.nodup_iff, List.map_cons, List.nodup_cons]
  exact ⟨store.not_mem_keys_delete (key r), (store.delete (key r)).nodup⟩

def put (store : IndexedStore key stamp) (r : R) : IndexedStore key stamp :=
  ⟨(store.delete (key r)).records.orderedInsert (Precedes key stamp) r,
    (store.delete (key r)).sorted.orderedInsert r _, store.nodup_put r⟩

/-- A walk along the index that deletes every record behind the first `max`. -/
def walk (max : Nat) : Nat → List R → List R
  | _, [] => []
  | retained, r :: records =>
    if max < retained + 1 then walk max (retained + 1) records
    else r :: walk max (retained + 1) records

theorem walk_eq_take (max retained : Nat) (records : List R) :
    walk max retained records = records.take (max - retained) := by
  induction records generalizing retained with
  | nil => simp [walk]
  | cons r records ih =>
    rw [walk, ih]
    split
    · rw [show max - retained = 0 by omega, show max - (retained + 1) = 0 by omega]
      rfl
    · rw [show max - retained = max - (retained + 1) + 1 by omega, List.take_succ_cons]

theorem sorted_walk (store : IndexedStore key stamp) (max : Nat) :
    (walk max 0 store.records).Pairwise (Precedes key stamp) := by
  rw [walk_eq_take]
  exact store.sorted.sublist (List.take_sublist _ _)

theorem nodup_walk (store : IndexedStore key stamp) (max : Nat) :
    ((walk max 0 store.records).map key).Nodup := by
  rw [walk_eq_take]
  exact ((List.take_sublist _ _).map key).nodup store.nodup

def trim (store : IndexedStore key stamp) (max : Nat) : IndexedStore key stamp :=
  ⟨walk max 0 store.records, store.sorted_walk max, store.nodup_walk max⟩

theorem records_trim (store : IndexedStore key stamp) (max : Nat) :
    (store.trim max).records = store.records.take max :=
  walk_eq_take max 0 store.records

section Trimmed

variable {store : IndexedStore key stamp} {r : R} {max : Nat}

theorem perm_put (store : IndexedStore key stamp) (r : R) :
    (store.put r).records.Perm (r :: (store.delete (key r)).records) :=
  List.perm_orderedInsert _ _ _

theorem mem_put_iff {q : R} :
    q ∈ (store.put r).records ↔ q = r ∨ q ∈ store.records ∧ key q ≠ key r := by
  rw [(store.perm_put r).mem_iff, List.mem_cons]
  simp [delete, filter]

theorem delete_of_not_mem {k : K} (h : k ∉ store.records.map key) :
    (store.delete k).records = store.records :=
  List.filter_eq_self.mpr fun _ hq => decide_eq_true fun heq =>
    h (heq ▸ List.mem_map_of_mem hq)

theorem records_put_of_lt (hkey : key r ∉ store.records.map key)
    (hstamp : ∀ q ∈ store.records, stamp q < stamp r) :
    (store.put r).records = store.records ++ [r] := by
  show (store.delete (key r)).records.orderedInsert (Precedes key stamp) r = _
  rw [delete_of_not_mem hkey]
  generalize store.records = records at hstamp
  induction records with
  | nil => rfl
  | cons q records ih =>
    have hbehind : ¬ Precedes key stamp r q := fun h =>
      absurd h.stamp_le (not_le.mpr (hstamp q List.mem_cons_self))
    rw [List.orderedInsert, if_neg hbehind, List.cons_append,
      ih fun q' hq' => hstamp q' (List.mem_cons_of_mem q hq')]

def Room (max : Nat) (store : IndexedStore key stamp) (r : R) : Prop :=
  store.records.length < max ∨ key r ∈ store.records.map key

instance : Decidable (Room max store r) := inferInstanceAs (Decidable (_ ∨ _))

theorem length_put_le_iff (hlength : store.records.length ≤ max) :
    (store.put r).records.length ≤ max ↔ Room max store r := by
  rw [(store.perm_put r).length_eq, List.length_cons, Room]
  by_cases hmem : key r ∈ store.records.map key
  · obtain ⟨q, hq, hkey⟩ := List.mem_map.mp hmem
    have hlt : (store.delete (key r)).records.length < store.records.length :=
      List.length_filter_lt_length_iff_exists.mpr ⟨q, hq, by simp [hkey]⟩
    exact ⟨fun _ => .inr hmem, fun _ => by omega⟩
  · rw [delete_of_not_mem hmem]
    exact ⟨fun h => .inl (by omega), fun h => by have := h.resolve_right hmem; omega⟩

/-- What a store should keep of the records when a new one is written: the new one, and of the
others those with the greatest stamps. -/
structure KeepsNewest (max : Nat) (store : IndexedStore key stamp) (r : R)
    (kept : IndexedStore key stamp) : Prop where
  saved : r ∈ kept.records
  written : ∀ q ∈ kept.records, q ∈ (store.put r).records
  length : kept.records.length = min max (store.put r).records.length
  newest : ∀ q ∈ (store.put r).records, q ∉ kept.records →
    ∀ p ∈ kept.records, p ≠ r → stamp q ≤ stamp p

/-- All records have one stamp, and the index does not have the new one behind them. -/
def Tied (store : IndexedStore key stamp) (r : R) : Prop :=
  (∀ p ∈ store.records, ∀ q ∈ store.records, stamp p = stamp q) ∧
    ∃ q ∈ store.records, ¬ Precedes key stamp q r

theorem keepsNewest_of_length_le (h : (store.put r).records.length ≤ max) :
    KeepsNewest max store r ((store.put r).trim max) := by
  have htake : ((store.put r).trim max).records = (store.put r).records := by
    rw [records_trim, List.take_of_length_le h]
  refine ⟨?_, fun q hq => htake ▸ hq, ?_, fun q hq hlost => ?_⟩
  · rw [htake, mem_put_iff]
    exact .inl rfl
  · rw [htake, Nat.min_eq_right h]
  · exact absurd (htake ▸ hq) hlost

theorem exists_trim_eq (hlength : store.records.length ≤ max) (h : ¬ Room max store r) :
    ∃ last, (store.put r).records = ((store.put r).trim max).records ++ [last] ∧
      ((store.put r).trim max).records.length = max := by
  have hlong := (not_congr (length_put_le_iff hlength)).mpr h
  have hmem : key r ∉ store.records.map key := fun hmem => h (.inr hmem)
  have hput : (store.put r).records.length = max + 1 := by
    have hperm := (store.perm_put r).length_eq
    rw [delete_of_not_mem hmem, List.length_cons] at hperm
    omega
  rw [records_trim]
  have hdrop := List.take_append_drop max (store.put r).records
  have hone : ((store.put r).records.drop max).length = 1 := by
    rw [List.length_drop, hput]
    omega
  obtain ⟨last, hlast⟩ := List.length_eq_one_iff.mp hone
  rw [hlast] at hdrop
  refine ⟨last, hdrop.symm, ?_⟩
  rw [List.length_take, hput]
  omega

theorem keepsNewest_trim_iff_tied (hlength : store.records.length ≤ max)
    (h : ¬ Room max store r) :
    KeepsNewest max store r ((store.put r).trim max) ↔ Tied store r := by
  obtain ⟨last, hput, hmax⟩ := exists_trim_eq hlength h
  have hlong := (not_congr (length_put_le_iff hlength)).mpr h
  have hkey : key r ∉ store.records.map key := fun hmem => h (.inr hmem)
  have hmem (q : R) : q ∈ ((store.put r).trim max).records ∨ q = last ↔
      q = r ∨ q ∈ store.records := by
    rw [← List.mem_singleton, ← List.mem_append, ← hput, (store.perm_put r).mem_iff,
      delete_of_not_mem hkey, List.mem_cons]
  have hsorted := (store.put r).sorted
  have hnodup := (store.put r).nodup
  rw [hput] at hsorted hnodup
  have hbefore : ∀ q ∈ ((store.put r).trim max).records, Precedes key stamp q last :=
    fun q hq => (List.pairwise_append.mp hsorted).2.2 q hq last (List.mem_singleton_self last)
  have hlast : last ∉ ((store.put r).trim max).records := by
    intro hin
    rw [List.map_append, List.nodup_append] at hnodup
    exact hnodup.2.2 _ (List.mem_map_of_mem hin) _ (by simp) rfl
  constructor
  · intro hkeeps
    have hne : last ≠ r := fun heq => hlast (heq ▸ hkeeps.saved)
    have hlastOld : last ∈ store.records := ((hmem last).mp (.inr rfl)).resolve_left hne
    have hstamp : ∀ q ∈ store.records, stamp q = stamp last := by
      intro q hq
      rcases (hmem q).mpr (.inr hq) with hin | rfl
      · have hqr : q ≠ r := fun heq => hkey (heq ▸ List.mem_map_of_mem hq)
        have hle := hkeeps.newest last (hput ▸ by simp) hlast q hin hqr
        exact (hbefore q hin).stamp_le.antisymm hle
      · rfl
    refine ⟨fun p hp q hq => (hstamp p hp).trans (hstamp q hq).symm, last, hlastOld, ?_⟩
    intro hback
    have hsame := (hbefore r hkeeps.saved).key_eq hback
    exact hkey (hsame ▸ List.mem_map_of_mem hlastOld)
  · rintro ⟨hstamp, q, hq, hbehind⟩
    have hne : last ≠ r := by
      rintro rfl
      have hqlast : q ≠ last := fun heq => hkey (heq ▸ List.mem_map_of_mem hq)
      exact hbehind (hbefore q (((hmem q).mpr (.inr hq)).resolve_right hqlast))
    have hlastOld : last ∈ store.records := ((hmem last).mp (.inr rfl)).resolve_left hne
    refine ⟨((hmem r).mpr (.inl rfl)).resolve_right hne.symm, fun p hp => ?_, ?_, ?_⟩
    · rw [hput]
      exact List.mem_append_left _ hp
    · rw [hmax, Nat.min_eq_left (by omega)]
    · intro p hp hlost p' hp' hpr
      have hold : p' ∈ store.records := ((hmem p').mp (.inl hp')).resolve_left hpr
      rw [hput, List.mem_append, List.mem_singleton] at hp
      rw [hp.resolve_left hlost, hstamp last hlastOld p' hold]

/-- The walk goes from the least stamps on, and so it keeps what it should if it deletes
nothing, or deletes one of equals. -/
theorem keepsNewest_trim_iff (hlength : store.records.length ≤ max) :
    KeepsNewest max store r ((store.put r).trim max) ↔ Room max store r ∨ Tied store r := by
  by_cases hroom : Room max store r
  · have hle := (length_put_le_iff hlength).mpr hroom
    exact ⟨fun _ => .inl hroom, fun _ => keepsNewest_of_length_le hle⟩
  · rw [keepsNewest_trim_iff_tied hlength hroom, or_iff_right hroom]

theorem length_trim_le (store : IndexedStore key stamp) (max : Nat) :
    (store.trim max).records.length ≤ max := by
  rw [records_trim, List.length_take]
  exact Nat.min_le_left _ _

theorem length_filter_le (store : IndexedStore key stamp) (p : R → Bool) :
    (store.filter p).records.length ≤ store.records.length :=
  List.length_filter_le ..

end Trimmed

end IndexedStore

end Branch.Lib
