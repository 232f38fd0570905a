import Mathlib.Algebra.Order.Group.Nat
import Mathlib.Data.List.Induction

/-!
Statements of one sender in the order of their arrival, of which the highest ranked one
counts, unless it is contested: the running choice that rejects the sender at the first
contested top, and the choice that looks at the whole list.
-/

namespace Branch.Lib.Latest

universe u v

variable {α : Type u} {β : Type v}

inductive Standing (α : Type u) where
  | unseen
  | leading (a : α)
  | rejected

namespace Standing

def kept : Standing α → Option α
  | leading a => some a
  | _ => none

@[simp] theorem kept_unseen : kept (unseen : Standing α) = none := rfl

@[simp] theorem kept_leading (a : α) : kept (leading a) = some a := rfl

@[simp] theorem kept_rejected : kept (rejected : Standing α) = none := rfl

end Standing

section Definitions

variable [DecidableEq β] (rank : α → Nat) (name : α → β)

def enter : Standing α → α → Standing α
  | .unseen, a => .leading a
  | .leading c, a =>
    if rank c < rank a then .leading a
    else if rank a = rank c ∧ name a ≠ name c then .rejected
    else .leading c
  | .rejected, _ => .rejected

def standing (l : List α) : Standing α :=
  l.foldl (enter rank name) .unseen

def leader (l : List α) : Option α :=
  l.find? fun a => l.all fun b => rank b < rank a ∨ (rank b = rank a ∧ name b = name a)

def Top (l : List α) (a : α) : Prop :=
  a ∈ l ∧ ∀ b ∈ l, rank b ≤ rank a

def Conflicted (l : List α) : Prop :=
  ∃ a b, Top rank l a ∧ Top rank l b ∧ name a ≠ name b

/-- There was a conflict on the way that is none any more at the end. -/
def Superseded (l : List α) : Prop :=
  ¬ Conflicted rank name l ∧ ∃ l₁, l₁ <+: l ∧ Conflicted rank name l₁

end Definitions

variable {rank : α → Nat} {name : α → β} {l l' : List α} {a c : α}

theorem not_conflicted_nil : ¬ Conflicted rank name ([] : List α) := by
  rintro ⟨a, _, ha, _⟩
  exact List.not_mem_nil ha.1

theorem Top.perm (h : Top rank l a) (hp : l.Perm l') : Top rank l' a :=
  ⟨hp.mem_iff.mp h.1, fun b hb => h.2 b (hp.mem_iff.mpr hb)⟩

theorem Top.rank_eq (ha : Top rank l a) (hc : Top rank l c) : rank a = rank c :=
  Nat.le_antisymm (hc.2 a ha.1) (ha.2 c hc.1)

theorem exists_top (rank : α → Nat) (hne : l ≠ []) : ∃ a, Top rank l a := by
  induction l with
  | nil => exact absurd rfl hne
  | cons b l ih =>
    by_cases hl : l = []
    · subst hl
      refine ⟨b, List.mem_cons_self, fun c hc => ?_⟩
      rw [List.mem_singleton.mp hc]
    · obtain ⟨a, ha, htop⟩ := ih hl
      by_cases hlt : rank a < rank b
      · refine ⟨b, List.mem_cons_self, fun c hc => ?_⟩
        rcases List.mem_cons.mp hc with rfl | hc
        · exact Nat.le_refl _
        · exact (htop c hc).trans hlt.le
      · refine ⟨a, List.mem_cons_of_mem b ha, fun c hc => ?_⟩
        rcases List.mem_cons.mp hc with rfl | hc
        · exact Nat.not_lt.mp hlt
        · exact htop c hc

theorem top_snoc_of_lt (hc : Top rank l c) (hlt : rank c < rank a) {b : α} :
    Top rank (l ++ [a]) b ↔ b = a := by
  constructor
  · rintro ⟨hmem, htop⟩
    rcases List.mem_append.mp hmem with hb | hb
    · have hle := htop a (by simp)
      have hbc := hc.2 b hb
      omega
    · exact List.mem_singleton.mp hb
  · rintro rfl
    refine ⟨by simp, fun d hd => ?_⟩
    rcases List.mem_append.mp hd with hd | hd
    · exact (hc.2 d hd).trans hlt.le
    · rw [List.mem_singleton.mp hd]

theorem top_snoc_of_not_lt (hc : Top rank l c) (hlt : ¬ rank c < rank a) {b : α} :
    Top rank (l ++ [a]) b ↔ Top rank l b ∨ (b = a ∧ rank a = rank c) := by
  constructor
  · rintro ⟨hmem, htop⟩
    have hall : ∀ d ∈ l, rank d ≤ rank b := fun d hd => htop d (List.mem_append_left _ hd)
    rcases List.mem_append.mp hmem with hb | hb
    · exact .inl ⟨hb, hall⟩
    · obtain rfl := List.mem_singleton.mp hb
      have hle := hall c hc.1
      exact .inr ⟨rfl, by omega⟩
  · rintro (⟨hmem, hall⟩ | ⟨rfl, heq⟩)
    · refine ⟨List.mem_append_left _ hmem, fun d hd => ?_⟩
      rcases List.mem_append.mp hd with hd | hd
      · exact hall d hd
      · have hle := hall c hc.1
        rw [List.mem_singleton.mp hd]
        omega
    · refine ⟨by simp, fun d hd => ?_⟩
      rcases List.mem_append.mp hd with hd | hd
      · have hle := hc.2 d hd
        omega
      · rw [List.mem_singleton.mp hd]

section Standing

variable [DecidableEq β]

@[simp] theorem standing_nil : standing rank name ([] : List α) = .unseen := rfl

@[simp] theorem standing_snoc (l : List α) (a : α) :
    standing rank name (l ++ [a]) = enter rank name (standing rank name l) a := by
  simp [standing]

theorem standing_cases (rank : α → Nat) (name : α → β) (l : List α) :
    (l = [] ∧ standing rank name l = .unseen) ∨
    (∃ c, standing rank name l = .leading c ∧ Top rank l c ∧
      (∀ b, Top rank l b → name b = name c) ∧
      ∀ l₁, l₁ <+: l → ¬ Conflicted rank name l₁) ∨
    (standing rank name l = .rejected ∧ ∃ l₁, l₁ <+: l ∧ Conflicted rank name l₁) := by
  induction l using List.reverseRecOn with
  | nil => exact .inl ⟨rfl, rfl⟩
  | append_singleton l a ih =>
    right
    rw [standing_snoc]
    have hinit : ∀ {l₁ : List α}, l₁ <+: l ++ [a] → l₁ <+: l ∨ l₁ = l ++ [a] := by
      intro l₁ h
      rcases List.prefix_concat_iff.mp h with h | h
      · exact .inr h
      · exact .inl h
    have hnone : (∀ b, Top rank (l ++ [a]) b → name b = name a) →
        (∀ l₁, l₁ <+: l → ¬ Conflicted rank name l₁) →
        ∀ l₁, l₁ <+: l ++ [a] → ¬ Conflicted rank name l₁ := by
      rintro hname hno l₁ hl₁ hconflict
      rcases hinit hl₁ with h | rfl
      · exact hno l₁ h hconflict
      · obtain ⟨b, d, hb, hd, hne⟩ := hconflict
        exact hne ((hname b hb).trans (hname d hd).symm)
    rcases ih with ⟨rfl, hs⟩ | ⟨c, hs, hc, hname, hno⟩ | ⟨hs, l₁, hl₁, hconflict⟩
    · left
      have htop : ∀ b, Top rank ([] ++ [a]) b → name b = name a := by
        rintro b ⟨hb, _⟩
        rw [List.mem_singleton.mp hb]
      refine ⟨a, by rw [hs, enter], ⟨by simp, by simp⟩, htop, hnone htop ?_⟩
      rintro l₁ hl₁
      rw [List.prefix_nil.mp hl₁]
      exact not_conflicted_nil
    · rw [hs, enter]
      split
      · rename_i hlt
        left
        have htop : ∀ b, Top rank (l ++ [a]) b → name b = name a := by
          intro b hb
          rw [(top_snoc_of_lt hc hlt).mp hb]
        exact ⟨a, rfl, (top_snoc_of_lt hc hlt).mpr rfl, htop, hnone htop hno⟩
      · rename_i hlt
        have hc' : Top rank (l ++ [a]) c := (top_snoc_of_not_lt hc hlt).mpr (.inl hc)
        split
        · rename_i h
          have ha : Top rank (l ++ [a]) a := (top_snoc_of_not_lt hc hlt).mpr (.inr ⟨rfl, h.1⟩)
          exact .inr ⟨rfl, _, List.prefix_rfl, a, c, ha, hc', h.2⟩
        · rename_i h
          left
          have htop : ∀ b, Top rank (l ++ [a]) b → name b = name c := by
            intro b hb
            rcases (top_snoc_of_not_lt hc hlt).mp hb with hb | ⟨rfl, heq⟩
            · exact hname b hb
            · by_contra hne
              exact h ⟨heq, hne⟩
          refine ⟨c, rfl, hc', htop, ?_⟩
          rintro l₁ hl₁ hconflict
          rcases hinit hl₁ with h₁ | rfl
          · exact hno l₁ h₁ hconflict
          · obtain ⟨b, d, hb, hd, hne⟩ := hconflict
            exact hne ((htop b hb).trans (htop d hd).symm)
    · right
      exact ⟨by rw [hs, enter], l₁, hl₁.trans (List.prefix_append l [a]), hconflict⟩

theorem mem_of_kept_standing (h : (standing rank name l).kept = some c) : c ∈ l := by
  rcases standing_cases rank name l with
    ⟨_, hs⟩ | ⟨d, hs, hd, _, _⟩ | ⟨hs, _⟩
  · rw [hs] at h
    cases h
  · rw [hs] at h
    cases h
    exact hd.1
  · rw [hs] at h
    cases h

end Standing

section Leader

variable [DecidableEq β]

theorem leader_eq_some_iff (hname : ∀ a ∈ l, ∀ b ∈ l, name a = name b → a = b) :
    leader rank name l = some c ↔ Top rank l c ∧ ∀ b, Top rank l b → name b = name c := by
  have hleads : ∀ a ∈ l,
      (l.all fun b => rank b < rank a ∨ (rank b = rank a ∧ name b = name a)) = true ↔
        Top rank l a ∧ ∀ b, Top rank l b → name b = name a := by
    intro a ha
    rw [List.all_eq_true]
    simp only [decide_eq_true_eq]
    constructor
    · intro h
      refine ⟨⟨ha, fun b hb => ?_⟩, fun b hb => ?_⟩
      · rcases h b hb with hlt | ⟨heq, _⟩
        · exact hlt.le
        · exact heq.le
      · rcases h b hb.1 with hlt | ⟨_, heq⟩
        · exact absurd (hb.2 a ha) (by omega)
        · exact heq
    · rintro ⟨htop, hall⟩ b hb
      rcases Nat.lt_or_ge (rank b) (rank a) with hlt | hge
      · exact .inl hlt
      · have heq : rank b = rank a := Nat.le_antisymm (htop.2 b hb) hge
        exact .inr ⟨heq, hall b ⟨hb, fun d hd => (htop.2 d hd).trans hge⟩⟩
  constructor
  · intro h
    have hfound := List.find?_some h
    exact (hleads c (List.mem_of_find?_eq_some h)).mp hfound
  · rintro ⟨htop, hall⟩
    have hfound : ∃ d, leader rank name l = some d := by
      rw [← Option.isSome_iff_exists, leader, List.find?_isSome]
      exact ⟨c, htop.1, (hleads c htop.1).mpr ⟨htop, hall⟩⟩
    obtain ⟨d, hd⟩ := hfound
    have hleading := List.find?_some hd
    have hdtop := ((hleads d (List.mem_of_find?_eq_some hd)).mp hleading).1
    rw [hd, hname d hdtop.1 c htop.1 (hall d hdtop)]

theorem leader_eq_none_iff (hname : ∀ a ∈ l, ∀ b ∈ l, name a = name b → a = b)
    (hne : l ≠ []) : leader rank name l = none ↔ Conflicted rank name l := by
  constructor
  · intro h
    obtain ⟨a, ha⟩ := exists_top rank hne
    by_contra hconflict
    have hsome : leader rank name l = some a := by
      refine (leader_eq_some_iff hname).mpr ⟨ha, fun b hb => ?_⟩
      by_contra hne
      exact hconflict ⟨b, a, hb, ha, hne⟩
    rw [h] at hsome
    cases hsome
  · rintro ⟨a, b, ha, hb, hab⟩
    cases h : leader rank name l with
    | none => rfl
    | some c =>
      obtain ⟨_, hall⟩ := (leader_eq_some_iff hname).mp h
      exact absurd ((hall a ha).trans (hall b hb).symm) hab

theorem leader_perm (hname : ∀ a ∈ l, ∀ b ∈ l, name a = name b → a = b)
    (hp : l.Perm l') : leader rank name l = leader rank name l' := by
  have hname' : ∀ a ∈ l', ∀ b ∈ l', name a = name b → a = b := fun a ha b hb =>
    hname a (hp.mem_iff.mpr ha) b (hp.mem_iff.mpr hb)
  apply Option.ext
  intro c
  rw [leader_eq_some_iff hname, leader_eq_some_iff hname']
  constructor
  · rintro ⟨hc, hall⟩
    exact ⟨hc.perm hp, fun b hb => hall b (hb.perm hp.symm)⟩
  · rintro ⟨hc, hall⟩
    exact ⟨hc.perm hp.symm, fun b hb => hall b (hb.perm hp)⟩

theorem kept_standing_eq_leader_iff (hname : ∀ a ∈ l, ∀ b ∈ l, name a = name b → a = b) :
    (standing rank name l).kept = leader rank name l ↔ ¬ Superseded rank name l := by
  rcases standing_cases rank name l with
    ⟨rfl, hs⟩ | ⟨c, hs, hc, hall, hno⟩ | ⟨hs, l₁, hl₁, hconflict⟩
  · rw [hs]
    refine ⟨fun _ => ?_, fun _ => rfl⟩
    rintro ⟨_, l₁, hl₁, h⟩
    rw [List.prefix_nil.mp hl₁] at h
    exact not_conflicted_nil h
  · rw [hs, (leader_eq_some_iff hname).mpr ⟨hc, hall⟩]
    refine ⟨fun _ => ?_, fun _ => rfl⟩
    rintro ⟨_, l₁, hl₁, h⟩
    exact hno l₁ hl₁ h
  · have hne : l ≠ [] := by
      rintro rfl
      rw [List.prefix_nil.mp hl₁] at hconflict
      exact not_conflicted_nil hconflict
    rw [hs, Standing.kept_rejected, eq_comm, leader_eq_none_iff hname hne]
    constructor
    · exact fun h hsuperseded => hsuperseded.1 h
    · intro h
      by_contra hnot
      exact h ⟨hnot, l₁, hl₁, hconflict⟩

end Leader

end Branch.Lib.Latest
