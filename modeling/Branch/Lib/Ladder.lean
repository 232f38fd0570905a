import Mathlib.Data.List.Forall2

/-!
A ladder that is climbed one rung at a time: each piece of evidence takes the next rung if it
fits, and is lost if it does not. The height that is reached is that of the longest part of
the ladder that the evidence has in this order.
-/

namespace Branch.Lib.Ladder

universe u

variable {α : Type u}

def climbed : List (α → Bool) → List α → Nat
  | [], _ => 0
  | _ :: _, [] => 0
  | rung :: rungs, a :: evidence =>
    if rung a then climbed rungs evidence + 1 else climbed (rung :: rungs) evidence

/-- The evidence has something for each rung, in the order of the rungs. -/
def Reaches (rungs : List (α → Bool)) (evidence : List α) : Prop :=
  ∃ l, l.Sublist evidence ∧ List.Forall₂ (fun rung a => rung a = true) rungs l

variable {rung : α → Bool} {rungs : List (α → Bool)} {evidence evidence' : List α} {a : α}

@[simp] theorem climbed_nil_right (rungs : List (α → Bool)) : climbed rungs [] = 0 := by
  cases rungs with
  | nil => rfl
  | cons rung rungs => rfl

theorem climbed_cons (rung : α → Bool) (rungs : List (α → Bool)) (a : α) (evidence : List α) :
    climbed (rung :: rungs) (a :: evidence) =
      if rung a then climbed rungs evidence + 1 else climbed (rung :: rungs) evidence := rfl

theorem reaches_nil (evidence : List α) : Reaches ([] : List (α → Bool)) evidence :=
  ⟨[], List.nil_sublist evidence, .nil⟩

theorem not_reaches_nil_right : ¬ Reaches (rung :: rungs) [] := by
  rintro ⟨l, hl, hall⟩
  rw [List.sublist_nil.mp hl] at hall
  cases hall

theorem Reaches.mono (h : Reaches rungs evidence) (hle : evidence.Sublist evidence') :
    Reaches rungs evidence' := by
  obtain ⟨l, hl, hall⟩ := h
  exact ⟨l, hl.trans hle, hall⟩

theorem reaches_cons_iff (h : rung a = true) :
    Reaches (rung :: rungs) (a :: evidence) ↔ Reaches rungs evidence := by
  constructor
  · rintro ⟨l, hl, hall⟩
    cases hall with
    | cons _ hrest =>
      exact ⟨_, hl.tail, hrest⟩
  · rintro ⟨l, hl, hall⟩
    exact ⟨a :: l, hl.cons_cons a, .cons h hall⟩

theorem reaches_cons_iff_of_not (h : rung a = false) :
    Reaches (rung :: rungs) (a :: evidence) ↔ Reaches (rung :: rungs) evidence := by
  constructor
  · rintro ⟨l, hl, hall⟩
    cases hall with
    | cons hfits hrest =>
      rcases List.sublist_cons_iff.mp hl with hl | ⟨l', heq, _⟩
      · exact ⟨_, hl, .cons hfits hrest⟩
      · rw [(List.cons.inj heq).1, h] at hfits
        cases hfits
  · exact fun h' => h'.mono (List.sublist_cons_self a evidence)

theorem le_climbed_iff {k : Nat} (hk : k ≤ rungs.length) :
    k ≤ climbed rungs evidence ↔ Reaches (rungs.take k) evidence := by
  induction evidence generalizing rungs k with
  | nil =>
    cases k with
    | zero => simp [reaches_nil]
    | succ k =>
      cases rungs with
      | nil => exact absurd hk (Nat.not_succ_le_zero k)
      | cons rung rungs => simp [not_reaches_nil_right]
  | cons a evidence ih =>
    cases k with
    | zero => simp [reaches_nil]
    | succ k =>
      cases rungs with
      | nil => exact absurd hk (Nat.not_succ_le_zero k)
      | cons rung rungs =>
        rw [climbed_cons, List.take_succ_cons]
        have hk' : k ≤ rungs.length := Nat.le_of_succ_le_succ hk
        cases hfits : rung a with
        | true =>
          rw [if_pos rfl, reaches_cons_iff hfits, Nat.succ_le_succ_iff]
          exact ih hk'
        | false =>
          rw [if_neg Bool.false_ne_true, reaches_cons_iff_of_not hfits,
            ← List.take_succ_cons]
          exact ih hk

theorem climbed_snoc (rungs : List (α → Bool)) (evidence : List α) (a : α) :
    climbed rungs (evidence ++ [a]) =
      if rungs[climbed rungs evidence]?.any fun rung => rung a then climbed rungs evidence + 1
      else climbed rungs evidence := by
  induction evidence generalizing rungs with
  | nil =>
    cases rungs with
    | nil => rfl
    | cons rung rungs => simp [climbed_cons]
  | cons b evidence ih =>
    cases rungs with
    | nil => rfl
    | cons rung rungs =>
      rw [List.cons_append, climbed_cons, climbed_cons]
      cases hfits : rung b with
      | true =>
        simp only [if_true, List.getElem?_cons_succ]
        rw [ih rungs]
        split
        · rfl
        · rfl
      | false =>
        simp only [Bool.false_eq_true, if_false]
        exact ih (rung :: rungs)

end Branch.Lib.Ladder
