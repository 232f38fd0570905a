import Branch.Lib.Table

/-!
A table that is derived from two others and written beside them. It should have, for each of
their entries, one that is made of it, and nothing else.
-/

namespace Branch.Lib

universe u v w x

variable {K : Type u} {A : Type v} {B : Type w} {C : Type x} [DecidableEq K]

namespace Table

def eraseAll (t : Table K A) (keys : List K) : Table K A := keys.foldl Table.erase t

theorem get?_eraseAll (t : Table K A) (keys : List K) (k : K) :
    (t.eraseAll keys).get? k = if k ∈ keys then none else t.get? k := by
  induction keys generalizing t with
  | nil => simp [eraseAll]
  | cons key keys ih =>
    show ((t.erase key).eraseAll keys).get? k = _
    rw [ih, get?_erase]
    by_cases hkeys : k ∈ keys
    · rw [if_pos hkeys, if_pos (List.mem_cons_of_mem key hkeys)]
    · simp only [List.mem_cons, hkeys, or_false, if_false]

def insertAll (t : Table K A) (rows : List (K × A)) : Table K A :=
  rows.foldl (fun t row => t.insert row.1 row.2) t

theorem insertAll_append (t : Table K A) (rows : List (K × A)) (row : K × A) :
    t.insertAll (rows ++ [row]) = (t.insertAll rows).insert row.1 row.2 := by
  simp [insertAll]

end Table

/-- Two tables have no key in common, and a third one has what is made of their entries. -/
structure IsUnion (f : A → C) (g : B → C) (left : Table K A) (right : Table K B)
    (both : Table K C) : Prop where
  apart : ∀ k, left.get? k = none ∨ right.get? k = none
  get?_eq : ∀ k, both.get? k = ((left.get? k).map f).or ((right.get? k).map g)

namespace IsUnion

variable {f : A → C} {g : B → C} {left : Table K A} {right : Table K B} {both : Table K C}
  {k : K} {a : A} {b : B} {c : C} {keys : List K}

theorem empty (f : A → C) (g : B → C) :
    IsUnion f g (Table.empty : Table K A) Table.empty Table.empty where
  apart _ := .inl (Table.get?_empty _)
  get?_eq k := by simp only [Table.get?_empty, Option.map_none, Option.or_none]

theorem symm (h : IsUnion f g left right both) : IsUnion g f right left both where
  apart k := (h.apart k).symm
  get?_eq k := by
    rw [h.get?_eq k]
    rcases h.apart k with hnone | hnone
    · rw [hnone, Option.map_none, Option.none_or, Option.or_none]
    · rw [hnone, Option.map_none, Option.none_or, Option.or_none]

theorem get?_eq_none_iff (h : IsUnion f g left right both) :
    both.get? k = none ↔ left.get? k = none ∧ right.get? k = none := by
  rw [h.get?_eq, Option.or_eq_none_iff, Option.map_eq_none_iff, Option.map_eq_none_iff]

/-- An entry is written well if it is made of the new entry, and the key is not taken by the
other table. -/
theorem insert_iff (h : IsUnion f g left right both) :
    IsUnion f g (left.insert k a) right (both.insert k c) ↔ c = f a ∧ right.get? k = none := by
  constructor
  · intro hinsert
    have hright : right.get? k = none := (hinsert.apart k).resolve_left (by simp)
    have hread := hinsert.get?_eq k
    rw [Table.get?_insert_self, Table.get?_insert_self, hright, Option.map_some,
      Option.map_none, Option.or_none] at hread
    exact ⟨Option.some_inj.mp hread, hright⟩
  · rintro ⟨rfl, hright⟩
    refine ⟨fun k' => ?_, fun k' => ?_⟩
    · by_cases hk : k' = k
      · exact .inr (hk ▸ hright)
      · rw [Table.get?_insert_of_ne _ _ hk]
        exact h.apart k'
    · by_cases hk : k' = k
      · subst hk
        simp [hright]
      · rw [Table.get?_insert_of_ne _ _ hk, Table.get?_insert_of_ne _ _ hk, h.get?_eq]

theorem eraseAll_iff (h : IsUnion f g left right both) :
    IsUnion f g (left.eraseAll keys) right (both.eraseAll keys) ↔
      ∀ k ∈ keys, right.get? k = none := by
  constructor
  · intro herase k hk
    have hnone : (both.eraseAll keys).get? k = none := by rw [Table.get?_eraseAll, if_pos hk]
    exact (herase.get?_eq_none_iff.mp hnone).2
  · intro hright
    refine ⟨fun k => ?_, fun k => ?_⟩
    · by_cases hk : k ∈ keys
      · exact .inr (hright k hk)
      · rw [Table.get?_eraseAll, if_neg hk]
        exact h.apart k
    · by_cases hk : k ∈ keys
      · simp [Table.get?_eraseAll, hk, hright k hk]
      · rw [Table.get?_eraseAll, Table.get?_eraseAll, if_neg hk, if_neg hk, h.get?_eq]

theorem erase_insert_iff (h : IsUnion f g left right both) {k' : K} :
    IsUnion f g ((left.erase k').insert k a) right ((both.erase k').insert k (f a)) ↔
      right.get? k' = none ∧ right.get? k = none := by
  constructor
  · intro hreplace
    have hright : right.get? k = none := (hreplace.apart k).resolve_left (by simp)
    refine ⟨?_, hright⟩
    by_cases hk : k' = k
    · exact hk ▸ hright
    · have hnone : ((both.erase k').insert k (f a)).get? k' = none := by
        rw [Table.get?_insert_of_ne _ _ hk, Table.get?_erase_self]
      exact (hreplace.get?_eq_none_iff.mp hnone).2
  · rintro ⟨hold, hnew⟩
    have herase : IsUnion f g (left.eraseAll [k']) right (both.eraseAll [k']) :=
      h.eraseAll_iff.mpr (by simpa using hold)
    exact herase.insert_iff.mpr ⟨rfl, hnew⟩

theorem eraseAll_own (h : IsUnion f g left right both)
    (hkeys : ∀ k ∈ keys, (left.get? k).isSome) :
    IsUnion f g (left.eraseAll keys) right (both.eraseAll keys) := by
  refine h.eraseAll_iff.mpr fun k hk => (h.apart k).resolve_left fun hnone => ?_
  have hsome := hkeys k hk
  rw [hnone] at hsome
  cases hsome

theorem clear_right (h : IsUnion f g left right both) {keep : C → Bool}
    (hleft : ∀ a, keep (f a) = true) (hright : ∀ b, keep (g b) = false) :
    IsUnion f g left Table.empty (both.filter fun _ => keep) := by
  refine ⟨fun k => .inr (Table.get?_empty k), fun k => ?_⟩
  rw [Table.get?_filter, h.get?_eq, Table.get?_empty, Option.map_none, Option.or_none]
  rcases hl : left.get? k with _ | a
  · rcases hr : right.get? k with _ | b
    · rfl
    · simp [Option.filter, hright]
  · simp [Option.filter, hleft]

end IsUnion

end Branch.Lib
