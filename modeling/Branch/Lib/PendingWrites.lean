import Mathlib.Data.List.Basic
import Mathlib.Data.Option.Basic

/-!
Writes to the rows of a store that are issued in one order and performed in another. What a row
comes to is up to the last of the writes that touch it.
-/

namespace Branch.Lib

universe u v w

/-- What a write makes of the row of a key: nothing, or another row, or none. -/
abbrev WriteEffect (W : Type u) (K : Type v) (V : Type w) := W → K → Option (Option V)

namespace WriteEffect

variable {W : Type u} {K : Type v} {V : Type w} (effect : WriteEffect W K V)

def latest (writes : List W) (key : K) : Option (Option V) :=
  (writes.filterMap fun write => effect write key).getLast?

/-- The row when all of the writes were performed in their order. -/
def due (writes : List W) (row : Option V) (key : K) : Option V :=
  (latest effect writes key).getD row

variable {effect} {writes : List W} {write : W} {key : K} {row : Option V} {position : Nat}

@[simp] theorem due_nil (row : Option V) (key : K) : due effect [] row key = row := rfl

theorem latest_append (xs ys : List W) (key : K) :
    latest effect (xs ++ ys) key = (latest effect ys key).or (latest effect xs key) := by
  rw [latest, List.filterMap_append, List.getLast?_append]
  rfl

theorem latest_singleton (write : W) (key : K) :
    latest effect [write] key = effect write key := by
  rw [latest, List.filterMap_cons]
  cases effect write key with
  | none => rfl
  | some row => rfl

theorem latest_eq_none_iff :
    latest effect writes key = none ↔ ∀ w ∈ writes, effect w key = none := by
  rw [latest, List.getLast?_eq_none_iff, List.filterMap_eq_nil_iff]

theorem due_append (xs ys : List W) (row : Option V) (key : K) :
    due effect (xs ++ ys) row key = due effect ys (due effect xs row key) key := by
  rw [due, latest_append]
  unfold due
  cases latest effect ys key with
  | none => rfl
  | some row => rfl

theorem due_singleton (write : W) (row : Option V) (key : K) :
    due effect [write] row key = (effect write key).getD row := by
  rw [due, latest_singleton]

/-- The write at a position is the first of those that touch the row, if it does. -/
def First (effect : WriteEffect W K V) (writes : List W) (position : Nat) (key : K) : Prop :=
  ∀ write ∈ writes[position]?, effect write key = none ∨
    ∀ earlier ∈ writes.take position, effect earlier key = none

theorem latest_eraseIdx (hwrite : writes[position]? = some write)
    (hfirst : First effect writes position key) :
    latest effect writes key =
      (latest effect (writes.eraseIdx position) key).or (effect write key) := by
  obtain ⟨hlt, hget⟩ := List.getElem?_eq_some_iff.mp hwrite
  have hsplit : writes = writes.take position ++ ([write] ++ writes.drop (position + 1)) := by
    rw [List.singleton_append, ← hget, ← List.drop_eq_getElem_cons hlt, List.take_append_drop]
  rw [List.eraseIdx_eq_take_drop_succ, latest_append]
  conv_lhs => rw [hsplit, latest_append, latest_append, latest_singleton]
  rcases hfirst write hwrite with hnone | hnone
  · rw [hnone, Option.or_none, Option.or_none]
  · rw [latest_eq_none_iff.mpr hnone, Option.or_none, Option.or_none]

theorem due_eraseIdx (hwrite : writes[position]? = some write)
    (hfirst : First effect writes position key) :
    due effect (writes.eraseIdx position) ((effect write key).getD row) key =
      due effect writes row key := by
  rw [due, due, latest_eraseIdx hwrite hfirst]
  cases latest effect (writes.eraseIdx position) key with
  | none => rfl
  | some row => rfl

end WriteEffect

end Branch.Lib
