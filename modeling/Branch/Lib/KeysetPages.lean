import Mathlib.Data.List.Induction
import Mathlib.Order.Lattice

/-!
A list in order that is read in pages, from its end to its beginning: each page is what comes
before a cursor, and the cursor of the next page is the oldest entry of the last.
-/

namespace Branch.Lib.KeysetPages

universe u v w

variable {β : Type u} {C : Type v} {κ : Type w}

structure Page (β : Type u) where
  entries : List β
  hasOlder : Bool

def lastPage (limit : Nat) (entries : List β) : Page β where
  entries := entries.drop (entries.length - limit)
  hasOlder := limit < entries.length

/-- The pages that are read one after the other, each with its cursor, until one says that it is
the last. -/
inductive Paging {ε : Type} (load : Option C → Except ε (Page β)) (cursor : β → C) :
    Option C → List (Option C × Page β) → Prop where
  | last {before : Option C} {page : Page β} (loaded : load before = .ok page)
      (isLast : page.hasOlder = false) : Paging load cursor before [(before, page)]
  | more {before : Option C} {page : Page β} {oldest : β} {pages : List (Option C × Page β)}
      (loaded : load before = .ok page) (hasOlder : page.hasOlder = true)
      (isOldest : page.entries.head? = some oldest)
      (rest : Paging load cursor (some (cursor oldest)) pages) :
      Paging load cursor before ((before, page) :: pages)

theorem Paging.unique {ε : Type} {load : Option C → Except ε (Page β)} {cursor : β → C}
    {before : Option C} {pages pages' : List (Option C × Page β)}
    (h : Paging load cursor before pages) (h' : Paging load cursor before pages') :
    pages = pages' := by
  induction h generalizing pages' with
  | last loaded isLast =>
    cases h' with
    | last loaded' isLast' => rw [Except.ok.inj (loaded.symm.trans loaded')]
    | more loaded' hasOlder' isOldest' rest' =>
      rw [← Except.ok.inj (loaded.symm.trans loaded'), isLast] at hasOlder'
      cases hasOlder'
  | more loaded hasOlder isOldest rest ih =>
    cases h' with
    | last loaded' isLast' =>
      rw [← Except.ok.inj (loaded.symm.trans loaded'), hasOlder] at isLast'
      cases isLast'
    | more loaded' hasOlder' isOldest' rest' =>
      obtain rfl := Except.ok.inj (loaded.symm.trans loaded')
      obtain rfl := Option.some.inj (isOldest.symm.trans isOldest')
      rw [ih rest']

def entriesOf (pages : List (Option C × Page β)) : List β :=
  pages.reverse.flatMap fun visit => visit.2.entries

section Order

variable [LinearOrder κ] (order : C → κ) (cursor : β → C)

def olderThan (entries : List β) (before : Option C) : List β :=
  entries.filter fun e => before.all fun c => order (cursor e) < order c

variable {order cursor}

theorem olderThan_none (entries : List β) : olderThan order cursor entries none = entries :=
  List.filter_eq_self.mpr fun _ _ => rfl

theorem mem_olderThan {entries : List β} {before : Option C} {e : β} :
    e ∈ olderThan order cursor entries before ↔
      e ∈ entries ∧ ∀ c ∈ before, order (cursor e) < order c := by
  rw [olderThan, List.mem_filter, Option.all_eq_true]
  simp only [decide_eq_true_eq, Option.mem_def]

theorem olderThan_cursor {older newer : List β} {e : β}
    (hsorted : (older ++ e :: newer).Pairwise fun a b => order (cursor a) < order (cursor b)) :
    olderThan order cursor (older ++ e :: newer) (some (cursor e)) = older := by
  obtain ⟨-, hnewer, hbetween⟩ := List.pairwise_append.mp hsorted
  have holder : ∀ a ∈ older, order (cursor a) < order (cursor e) :=
    fun a ha => hbetween a ha e List.mem_cons_self
  have hrest : ∀ a ∈ e :: newer, ¬ order (cursor a) < order (cursor e) := by
    intro a ha
    rcases List.mem_cons.mp ha with rfl | ha
    · exact lt_irrefl _
    · exact not_lt_of_gt ((List.pairwise_cons.mp hnewer).1 a ha)
  rw [olderThan, List.filter_append, List.filter_eq_self.mpr, List.filter_eq_nil_iff.mpr,
    List.append_nil]
  · exact fun a ha => by simpa using hrest a ha
  · exact fun a ha => by simpa using holder a ha

theorem olderThan_olderThan {entries : List β} {before : Option C} {e : β}
    (h : ∀ c ∈ before, order (cursor e) < order c) :
    olderThan order cursor (olderThan order cursor entries before) (some (cursor e)) =
      olderThan order cursor entries (some (cursor e)) := by
  rw [olderThan, olderThan, olderThan, List.filter_filter]
  refine List.filter_congr fun a _ => ?_
  cases before with
  | none => simp
  | some c =>
    have hlt := h c rfl
    simp only [Option.all_some, Bool.and_eq_left_iff_imp, decide_eq_true_eq]
    exact fun ha => lt_trans ha hlt

/-- A page of a list in order has older ones behind it exactly when some entry is before all of
the page. -/
theorem hasOlder_lastPage_iff {limit : Nat} {entries : List β} (hlimit : 0 < limit)
    (hsorted : entries.Pairwise fun a b => order (cursor a) < order (cursor b)) :
    (lastPage limit entries).hasOlder = true ↔
      ∃ e ∈ entries, ∀ f ∈ (lastPage limit entries).entries, order (cursor e) < order (cursor f) := by
  simp only [lastPage, decide_eq_true_eq]
  constructor
  · intro hlt
    have hparts := List.take_append_drop (entries.length - limit) entries
    have hfirst : 0 < (entries.take (entries.length - limit)).length := by
      rw [List.length_take]
      omega
    obtain ⟨e, he⟩ := List.exists_mem_of_length_pos hfirst
    rw [← hparts, List.pairwise_append] at hsorted
    exact ⟨e, List.mem_of_mem_take he, hsorted.2.2 e he⟩
  · rintro ⟨e, he, hall⟩
    by_contra hle
    rw [Nat.sub_eq_zero_of_le (by omega), List.drop_zero] at hall
    exact lt_irrefl _ (hall e he)

theorem exists_paging {ε : Type} {load : Option C → Except ε (Page β)} {limit : Nat}
    {entries : List β} (hlimit : 0 < limit)
    (hsorted : entries.Pairwise fun a b => order (cursor a) < order (cursor b))
    (hload : ∀ before, (∀ c ∈ before, ∃ e ∈ entries, c = cursor e) →
      load before = .ok (lastPage limit (olderThan order cursor entries before)))
    (before : Option C) (hbefore : ∀ c ∈ before, ∃ e ∈ entries, c = cursor e) :
    ∃ pages, Paging load cursor before pages ∧
      entriesOf pages = olderThan order cursor entries before ∧
      ∀ visit ∈ pages, (∀ c ∈ visit.1, ∃ e ∈ entries, c = cursor e) ∧
        visit.2 = lastPage limit (olderThan order cursor entries visit.1) := by
  induction hlength : (olderThan order cursor entries before).length using Nat.strongRecOn
    generalizing before with
  | _ n ih =>
    have hloaded := hload before hbefore
    rcases Nat.lt_or_ge limit (olderThan order cursor entries before).length with hlt | hle
    · -- the page begins with its oldest entry, and all that is before it remains
      have hsplit : (olderThan order cursor entries before).length - limit <
          (olderThan order cursor entries before).length := by omega
      obtain ⟨oldest, holdest⟩ : ∃ oldest, (olderThan order cursor entries before)[
          (olderThan order cursor entries before).length - limit]? = some oldest :=
        ⟨_, List.getElem?_eq_getElem hsplit⟩
      have hmem := mem_olderThan.mp (List.mem_of_getElem? holdest)
      have hparts := (List.take_append_drop
        ((olderThan order cursor entries before).length - limit)
        (olderThan order cursor entries before)).symm
      rw [List.drop_eq_getElem_cons hsplit, (List.getElem?_eq_some_iff.mp holdest).2] at hparts
      have hrest : olderThan order cursor entries (some (cursor oldest)) =
          (olderThan order cursor entries before).take
            ((olderThan order cursor entries before).length - limit) := by
        have hsorted' : (olderThan order cursor entries before).Pairwise
            fun a b => order (cursor a) < order (cursor b) := hsorted.filter _
        rw [← olderThan_olderThan hmem.2]
        rw [hparts] at hsorted' ⊢
        rw [olderThan_cursor hsorted', ← hparts]
      have hcursor : ∀ c ∈ some (cursor oldest), ∃ e ∈ entries, c = cursor e := by
        rintro c ⟨⟩
        exact ⟨oldest, hmem.1, rfl⟩
      obtain ⟨pages, hpaging, hentries, hvisits⟩ := ih _ (by
        rw [hrest, List.length_take]
        omega) _ hcursor rfl
      refine ⟨(before, _) :: pages, .more hloaded (by simpa [lastPage] using hlt) ?_ hpaging,
        ?_, ?_⟩
      · rw [lastPage, List.head?_drop, holdest]
      · rw [entriesOf, List.reverse_cons, List.flatMap_append]
        change entriesOf pages ++ _ = _
        rw [hentries, hrest, List.flatMap_singleton, lastPage, List.take_append_drop]
      · intro visit hvisit
        rcases List.mem_cons.mp hvisit with rfl | hvisit
        · exact ⟨hbefore, rfl⟩
        · exact hvisits visit hvisit
    · refine ⟨[(before, _)], .last hloaded (by simpa [lastPage] using hle), ?_, ?_⟩
      · rw [entriesOf, List.reverse_singleton, List.flatMap_singleton, lastPage,
          Nat.sub_eq_zero_of_le hle, List.drop_zero]
      · intro visit hvisit
        rw [List.mem_singleton.mp hvisit]
        exact ⟨hbefore, rfl⟩

end Order

end Branch.Lib.KeysetPages
