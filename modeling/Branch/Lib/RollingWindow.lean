import Mathlib.Data.List.Count

/-!
Admissions that are limited over a window that ends at the present one. No window of that
width then holds more of them, wherever it lies.
-/

namespace Branch.Lib.RollingWindow

/-- The time lies in the window behind `now`, or after it. -/
def recent (width now time : Int) : Bool := decide (now - width < time)

/-- The time lies in the window that ends at `last`. -/
def inWindow (width last time : Int) : Bool := recent width last time && decide (time ≤ last)

/-- At each time of the list fewer than `limit` of the earlier ones are recent. -/
inductive Paced (width : Int) (limit : Nat) : List Int → Prop
  | nil : Paced width limit []
  | snoc {times : List Int} {now : Int} (htimes : Paced width limit times)
      (hlimit : times.countP (recent width now) < limit) : Paced width limit (times ++ [now])

variable {width : Int} {limit : Nat} {times : List Int}

theorem recent_of_le {now later time : Int} (hnow : now ≤ later)
    (h : recent width later time = true) : recent width now time = true := by
  simp only [recent, decide_eq_true_eq] at h ⊢
  omega

theorem recent_of_inWindow {last now time : Int} (hnow : inWindow width last now = true)
    (htime : inWindow width last time = true) : recent width now time = true := by
  simp only [inWindow, recent, Bool.and_eq_true, decide_eq_true_eq] at hnow htime ⊢
  omega

theorem Paced.countP_le (h : Paced width limit times) (last : Int) :
    times.countP (inWindow width last) ≤ limit := by
  induction h with
  | nil => exact Nat.zero_le limit
  | @snoc times now _ hlimit ih =>
    rw [List.countP_append, List.countP_singleton]
    by_cases hnow : inWindow width last now = true
    · have hle : times.countP (inWindow width last) ≤ times.countP (recent width now) :=
        List.countP_mono_left fun time _ htime => recent_of_inWindow hnow htime
      rw [if_pos hnow]
      omega
    · rw [if_neg hnow]
      exact ih

end Branch.Lib.RollingWindow
