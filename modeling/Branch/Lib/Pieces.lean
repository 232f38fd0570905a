import Mathlib.Algebra.BigOperators.Intervals
import Mathlib.Algebra.Order.Group.Nat
import Mathlib.Data.Finset.Range
import Mathlib.Data.List.Basic

/-!
A list cut into pieces of one size, of which the last may be shorter, and the first number
that a collection of numbers misses.
-/

namespace Branch.Lib.Pieces

universe u

section Piece

variable {α : Type u} (size : Nat) (file : List α)

def piece (i : Nat) : List α := (file.drop (i * size)).take size

theorem length_piece (i : Nat) :
    (piece size file i).length = min size (file.length - i * size) := by
  rw [piece, List.length_take, List.length_drop]

theorem flatMap_piece_eq_take (n : Nat) :
    (List.range n).flatMap (piece size file) = file.take (n * size) := by
  induction n with
  | zero => simp
  | succ n ih =>
    rw [List.range_succ, List.flatMap_append, ih, List.flatMap_singleton, Nat.succ_mul,
      List.take_add]
    rfl

theorem flatMap_piece {n : Nat} (h : file.length ≤ n * size) :
    (List.range n).flatMap (piece size file) = file := by
  rw [flatMap_piece_eq_take, List.take_of_length_le h]

theorem sum_length_piece_eq_length_take (n : Nat) :
    (Finset.range n).sum (fun i => (piece size file i).length) =
      (file.take (n * size)).length := by
  rw [← flatMap_piece_eq_take]
  induction n with
  | zero => rfl
  | succ n ih =>
    rw [Finset.sum_range_succ, ih, List.range_succ, List.flatMap_append,
      List.flatMap_singleton, List.length_append]

theorem sum_length_piece {n : Nat} (h : file.length ≤ n * size) :
    (Finset.range n).sum (fun i => (piece size file i).length) = file.length := by
  rw [sum_length_piece_eq_length_take, List.take_of_length_le h]

end Piece

section FirstMissing

def FirstMissing (has : Nat → Prop) (n : Nat) : Prop :=
  ¬ has n ∧ ∀ m, m < n → has m

/-- As far as the numbers go on from `n`, in so many steps at most. -/
def advance (has : Nat → Bool) : Nat → Nat → Nat
  | 0, n => n
  | steps + 1, n => if has n then advance has steps (n + 1) else n

theorem firstMissing_advance {has : Nat → Bool} {steps n k : Nat}
    (hbelow : ∀ m, m < n → has m = true) (hk : has k = false) (hle : k ≤ n + steps) :
    FirstMissing (fun m => has m = true) (advance has steps n) := by
  induction steps generalizing n with
  | zero =>
    have hkn : n ≤ k := by
      by_contra hlt
      rw [hbelow k (Nat.not_le.mp hlt)] at hk
      cases hk
    obtain rfl : k = n := Nat.le_antisymm hle hkn
    exact ⟨by simp [advance, hk], hbelow⟩
  | succ steps ih =>
    rw [advance]
    split
    · rename_i hn
      refine ih (fun m hm => ?_) (by omega)
      rcases Nat.lt_succ_iff_lt_or_eq.mp hm with hlt | rfl
      · exact hbelow m hlt
      · exact hn
    · rename_i hn
      exact ⟨hn, hbelow⟩

end FirstMissing

end Branch.Lib.Pieces
