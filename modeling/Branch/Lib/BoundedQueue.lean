import Mathlib.Data.List.Basic

/-!
Bounded first-in first-out queues with a non-blocking send, as a buffered
channel offers through a select with a default arm.
-/

namespace Branch.Lib

universe u

structure BoundedQueue (α : Type u) where
  capacity : Nat
  items : List α
  bounded : items.length ≤ capacity

namespace BoundedQueue

variable {α : Type u}

def empty (capacity : Nat) : BoundedQueue α := ⟨capacity, [], Nat.zero_le _⟩

theorem length_concat_le {q : BoundedQueue α} (a : α)
    (h : q.items.length < q.capacity) : (q.items ++ [a]).length ≤ q.capacity := by
  rw [List.length_append, List.length_singleton]
  omega

def push? (q : BoundedQueue α) (a : α) : Option (BoundedQueue α) :=
  if h : q.items.length < q.capacity then
    some ⟨q.capacity, q.items ++ [a], length_concat_le a h⟩
  else none

def pop? (q : BoundedQueue α) : Option (α × BoundedQueue α) :=
  match h : q.items with
  | [] => none
  | a :: rest => some (a, ⟨q.capacity, rest, by
      have hq := q.bounded
      rw [h, List.length_cons] at hq
      omega⟩)

variable {q q' : BoundedQueue α} {entered left : List α}

theorem push?_eq_some {a : α}
    (h : q.push? a = some q') :
    q'.capacity = q.capacity ∧ q'.items = q.items ++ [a] := by
  unfold push? at h
  split at h
  · cases h
    exact ⟨rfl, rfl⟩
  · cases h

theorem push?_isSome_iff {q : BoundedQueue α} {a : α} :
    (q.push? a).isSome ↔ q.items.length < q.capacity := by
  unfold push?
  split <;> simp <;> omega

theorem pop?_eq_some {a : α}
    (h : q.pop? = some (a, q')) :
    q'.capacity = q.capacity ∧ q.items = a :: q'.items := by
  unfold pop? at h
  split at h
  · cases h
  · rename_i b rest hitems
    cases h
    exact ⟨rfl, hitems⟩

theorem pop?_eq_none {q : BoundedQueue α} (h : q.pop? = none) : q.items = [] := by
  unfold pop? at h
  split at h
  · assumption
  · cases h

/-- Everything that has entered the queue has left it again, in the same order, or is
still inside. -/
def Accounts (q : BoundedQueue α) (entered left : List α) : Prop :=
  entered = left ++ q.items

theorem accounts_empty (capacity : Nat) : (empty capacity : BoundedQueue α).Accounts [] [] :=
  rfl

theorem Accounts.push {a : α}
    (h : q.Accounts entered left) (hpush : q.push? a = some q') :
    q'.Accounts (entered ++ [a]) left := by
  rw [Accounts, (push?_eq_some hpush).2, h, List.append_assoc]

theorem accounts_pop_iff {a : α}
    (hitems : q.items = a :: q'.items) :
    q'.Accounts entered (left ++ [a]) ↔ q.Accounts entered left := by
  rw [Accounts, Accounts, hitems, List.append_assoc, List.singleton_append]

theorem not_accounts_pop {a : α}
    (h : q.Accounts entered left) (hitems : q.items = a :: q'.items) :
    ¬q'.Accounts entered left := by
  intro h'
  have hsame : q.items = q'.items := List.append_cancel_left (h.symm.trans h')
  rw [hitems] at hsame
  exact List.cons_ne_self _ _ hsame

theorem Accounts.isPrefix {q : BoundedQueue α}
    (h : q.Accounts entered left) : left <+: entered :=
  ⟨q.items, h.symm⟩

end BoundedQueue

end Branch.Lib
