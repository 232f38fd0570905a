import Mathlib.Data.List.Basic

/-!
Texts stripped of the characters around them.
-/

namespace Branch.Lib.Text

variable {drops : Char → Bool}

/-- Without the characters before and behind that `drops` names. -/
def strip (drops : Char → Bool) (cs : List Char) : List Char :=
  ((cs.dropWhile drops).reverse.dropWhile drops).reverse

theorem dropWhile_eq_self {cs : List Char} (h : ∀ c ∈ cs, drops c = false) :
    cs.dropWhile drops = cs := by
  cases cs with
  | nil => rfl
  | cons c cs => exact List.dropWhile_cons_of_neg (by simp [h c List.mem_cons_self])

theorem strip_eq_self {cs : List Char} (h : ∀ c ∈ cs, drops c = false) :
    strip drops cs = cs := by
  have hreverse : ∀ c ∈ cs.reverse, drops c = false :=
    fun c hc => h c (List.mem_reverse.mp hc)
  rw [strip, dropWhile_eq_self h, dropWhile_eq_self hreverse, List.reverse_reverse]

end Branch.Lib.Text
