import Mathlib.Algebra.BigOperators.Group.List.Basic
import Mathlib.Algebra.Ring.Nat

/-!
Rewriting one position of a list of records.
-/

namespace Branch.Lib

universe u v

variable {α : Type u} {l : List α}

theorem of_getElem?_modify {i j : Nat} {f : α → α} {b : α}
    (h : (l.modify i f)[j]? = some b) :
    ∃ a, l[j]? = some a ∧ ((i = j ∧ b = f a) ∨ (i ≠ j ∧ b = a)) := by
  rw [List.getElem?_modify] at h
  obtain ⟨a, ha, rfl⟩ := Option.map_eq_some_iff.mp h
  refine ⟨a, ha, ?_⟩
  by_cases hij : i = j
  · exact .inl ⟨hij, by simp [hij]⟩
  · exact .inr ⟨hij, by simp [hij]⟩

theorem map_modify_eq_map {β : Type v} {i : Nat} {f : α → α} {g : α → β}
    (h : ∀ a, l[i]? = some a → g (f a) = g a) : (l.modify i f).map g = l.map g := by
  induction l generalizing i with
  | nil => rw [List.modify_nil]
  | cons b l ih =>
    cases i with
    | zero => rw [List.modify_zero_cons, List.map_cons, List.map_cons, h b rfl]
    | succ i =>
      rw [List.modify_succ_cons, List.map_cons, List.map_cons,
        ih fun a hget => h a (by simpa using hget)]

theorem getElem?_concat_eq_some_iff {a b : α} {i : Nat} :
    (l ++ [a])[i]? = some b ↔ l[i]? = some b ∨ (i = l.length ∧ a = b) := by
  rcases Nat.lt_trichotomy i l.length with h | h | h
  · rw [List.getElem?_append_left h]
    constructor
    · exact .inl
    · rintro (hb | ⟨hi, _⟩)
      · exact hb
      · omega
  · subst h
    simp
  · have hnone : l[i]? = none := List.getElem?_eq_none (by omega)
    have hnone' : (l ++ [a])[i]? = none := List.getElem?_eq_none (by simp; omega)
    simp [hnone, hnone']
    omega

/-- A relation between the places of a list survives a change at one place when the new
value is related to what the old one was related to. -/
theorem pairwise_set {R : α → α → Prop} {i : Nat} {a b : α}
    (h : l.Pairwise R) (hget : l[i]? = some a)
    (hnew : ∀ c ∈ l, (R c a → R c b) ∧ (R a c → R b c)) : (l.set i b).Pairwise R := by
  induction l generalizing i with
  | nil => exact List.Pairwise.nil
  | cons c l ih =>
    rw [List.pairwise_cons] at h
    cases i with
    | zero =>
      obtain rfl : c = a := by simpa using hget
      rw [List.set_cons_zero, List.pairwise_cons]
      refine ⟨fun d hd => (hnew d (List.mem_cons_of_mem c hd)).2 (h.1 d hd), h.2⟩
    | succ i =>
      have hget : l[i]? = some a := by simpa using hget
      rw [List.set_cons_succ, List.pairwise_cons]
      refine ⟨fun d hd => ?_, ih h.2 hget fun d hd => hnew d (List.mem_cons_of_mem c hd)⟩
      rcases List.mem_or_eq_of_mem_set hd with hd | rfl
      · exact h.1 d hd
      · exact (hnew c List.mem_cons_self).1 (h.1 a (List.mem_of_getElem? hget))

theorem modify_concat (l : List α) (a : α) (f : α → α) :
    (l ++ [a]).modify l.length f = l ++ [f a] := by
  induction l with
  | nil => rfl
  | cons b l ih => simpa using ih

theorem sum_map_modify {i : Nat} {a : α} (h : l[i]? = some a)
    (f : α → Nat) (g : α → α) :
    ((l.modify i g).map f).sum + f a = (l.map f).sum + f (g a) := by
  induction l generalizing i with
  | nil => simp at h
  | cons b l ih =>
    cases i with
    | zero =>
      obtain rfl : b = a := by simpa using h
      simp only [List.modify_zero_cons, List.map_cons, List.sum_cons]
      omega
    | succ i =>
      have hrec := ih (by simpa using h)
      simp only [List.modify_succ_cons, List.map_cons, List.sum_cons]
      omega

theorem sum_map_set {i : Nat} {a b : α} (h : l[i]? = some a) (f : α → Nat) :
    ((l.set i b).map f).sum + f a = (l.map f).sum + f b := by
  rw [List.set_eq_modify]
  exact sum_map_modify h f fun _ => b

theorem cons_set_perm {i : Nat} {a b : α} (h : l[i]? = some a) :
    (a :: l.set i b).Perm (b :: l) := by
  induction l generalizing i with
  | nil => simp at h
  | cons c l ih =>
    cases i with
    | zero =>
      obtain rfl : c = a := by simpa using h
      exact .swap ..
    | succ i => exact ((List.Perm.swap ..).trans ((ih (by simpa using h)).cons c)).trans (.swap ..)

theorem eq_or_mem_set_iff {i : Nat} {a b : α} (h : l[i]? = some a) {c : α} :
    c = a ∨ c ∈ l.set i b ↔ c = b ∨ c ∈ l := by
  rw [← List.mem_cons, ← List.mem_cons]
  exact (cons_set_perm h).mem_iff

end Branch.Lib
