import Mathlib.Data.String.Basic

/-!
Maps from names to values, kept in the order of the names.
-/

namespace Branch.Lib

universe u

/-- A map whose entries stand in increasing order of their names. -/
@[ext]
structure Fields (V : Type u) where
  entries : List (String × V)
  sorted : entries.Pairwise fun a b => a.1 < b.1

namespace Fields

variable {V : Type u}

def insertEntry (name : String) (v : V) : List (String × V) → List (String × V)
  | [] => [(name, v)]
  | entry :: rest =>
    if name < entry.1 then (name, v) :: entry :: rest
    else if name = entry.1 then (name, v) :: rest
    else entry :: insertEntry name v rest

variable {entries : List (String × V)} {name : String}

theorem mem_insertEntry {v : V}
    {entry : String × V} (h : entry ∈ insertEntry name v entries) :
    entry = (name, v) ∨ entry ∈ entries := by
  induction entries with
  | nil => exact .inl (List.mem_singleton.mp h)
  | cons first rest ih =>
    rw [insertEntry] at h
    split at h
    · exact List.mem_cons.mp h
    · split at h
      · rcases List.mem_cons.mp h with h | h
        · exact .inl h
        · exact .inr (List.mem_cons_of_mem first h)
      · rcases List.mem_cons.mp h with rfl | h
        · exact .inr List.mem_cons_self
        · exact (ih h).imp id (List.mem_cons_of_mem first)

theorem sorted_insertEntry {v : V}
    (h : entries.Pairwise fun a b => a.1 < b.1) :
    (insertEntry name v entries).Pairwise fun a b => a.1 < b.1 := by
  induction entries with
  | nil => exact List.pairwise_singleton _ _
  | cons entry rest ih =>
    obtain ⟨hentry, hrest⟩ := List.pairwise_cons.mp h
    rw [insertEntry]
    split
    · rename_i hlt
      refine List.pairwise_cons.mpr ⟨?_, h⟩
      intro other hother
      rcases List.mem_cons.mp hother with rfl | hother
      · exact hlt
      · exact hlt.trans (hentry other hother)
    · rename_i hnot
      split
      · rename_i heq
        refine List.pairwise_cons.mpr ⟨?_, hrest⟩
        intro other hother
        exact heq ▸ hentry other hother
      · rename_i hne
        refine List.pairwise_cons.mpr ⟨?_, ih hrest⟩
        intro other hother
        rcases mem_insertEntry hother with rfl | hother
        · exact lt_of_le_of_ne (not_lt.mp hnot) (Ne.symm hne)
        · exact hentry other hother

def empty : Fields V := ⟨[], List.Pairwise.nil⟩

/-- Bind the name to the value, in place of what it was bound to. -/
def insert (f : Fields V) (name : String) (v : V) : Fields V :=
  ⟨insertEntry name v f.entries, sorted_insertEntry f.sorted⟩

def get? (f : Fields V) (name : String) : Option V := f.entries.lookup name

def ofList (entries : List (String × V)) : Fields V :=
  entries.foldl (fun f entry => f.insert entry.1 entry.2) empty

theorem lookup_insertEntry (name : String) (v : V) (entries : List (String × V)) :
    (insertEntry name v entries).lookup name = some v := by
  induction entries with
  | nil => simp [insertEntry]
  | cons entry rest ih =>
    rw [insertEntry]
    split
    · simp
    · split
      · simp
      · rename_i hne
        rw [List.lookup_cons, beq_false_of_ne hne]
        exact ih

@[simp] theorem get?_insert_self (f : Fields V) (name : String) (v : V) :
    (f.insert name v).get? name = some v :=
  lookup_insertEntry name v f.entries

theorem lookup_insertEntry_of_ne {key name : String} (hne : key ≠ name) (v : V)
    (entries : List (String × V)) :
    (insertEntry name v entries).lookup key = entries.lookup key := by
  induction entries with
  | nil => simp [insertEntry, List.lookup_cons, beq_false_of_ne hne]
  | cons entry rest ih =>
    rw [insertEntry]
    split
    · rw [List.lookup_cons, beq_false_of_ne hne]
    · split
      · rename_i heq
        rw [List.lookup_cons, List.lookup_cons, ← heq, beq_false_of_ne hne]
      · rw [List.lookup_cons, List.lookup_cons, ih]

theorem get?_insert (f : Fields V) (key name : String) (v : V) :
    (f.insert name v).get? key = if key = name then some v else f.get? key := by
  split
  · rename_i heq
    rw [heq]
    exact get?_insert_self f name v
  · rename_i hne
    exact lookup_insertEntry_of_ne hne v f.entries

theorem lookup_of_mem {v : V}
    (hsorted : entries.Pairwise fun a b => a.1 < b.1) (h : (name, v) ∈ entries) :
    entries.lookup name = some v := by
  induction entries with
  | nil => cases h
  | cons entry rest ih =>
    obtain ⟨hentry, hrest⟩ := List.pairwise_cons.mp hsorted
    rcases List.mem_cons.mp h with rfl | h
    · exact List.lookup_cons_self
    · rw [List.lookup_cons, beq_false_of_ne (ne_of_gt (hentry (name, v) h))]
      exact ih hrest h

theorem get?_eq_some_iff {f : Fields V} {v : V} :
    f.get? name = some v ↔ (name, v) ∈ f.entries := by
  constructor
  · intro h
    obtain ⟨before, after, heq, _⟩ := List.lookup_eq_some_iff.mp h
    rw [heq]
    exact List.mem_append_right before List.mem_cons_self
  · exact lookup_of_mem f.sorted

theorem insertEntry_of_lt {v : V}
    (h : ∀ entry ∈ entries, entry.1 < name) :
    insertEntry name v entries = entries ++ [(name, v)] := by
  induction entries with
  | nil => rfl
  | cons entry rest ih =>
    have hentry := h entry List.mem_cons_self
    rw [insertEntry, if_neg (lt_asymm hentry), if_neg (ne_of_gt hentry),
      ih fun other hother => h other (List.mem_cons_of_mem entry hother)]
    rfl

theorem entries_insert_of_lt {f : Fields V} {v : V}
    (h : ∀ entry ∈ f.entries, entry.1 < name) :
    (f.insert name v).entries = f.entries ++ [(name, v)] :=
  insertEntry_of_lt h

theorem mem_foldl_insert {f : Fields V} {entry : String × V}
    (h : entry ∈ (entries.foldl (fun f entry => f.insert entry.1 entry.2) f).entries) :
    entry ∈ entries ∨ entry ∈ f.entries := by
  induction entries generalizing f with
  | nil => exact .inr h
  | cons other rest ih =>
    rcases ih h with hrest | hinsert
    · exact .inl (List.mem_cons_of_mem other hrest)
    · rcases mem_insertEntry hinsert with rfl | hf
      · exact .inl List.mem_cons_self
      · exact .inr hf

theorem mem_of_mem_ofList {entry : String × V}
    (h : entry ∈ (ofList entries).entries) : entry ∈ entries := by
  rcases mem_foldl_insert h with h | h
  · exact h
  · cases h

end Fields

end Branch.Lib
