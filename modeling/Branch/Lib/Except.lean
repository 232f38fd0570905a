import Mathlib.Data.List.Forall2

/-!
Computations that fail with an error, and what is left of them when nobody looks at the
error.
-/

namespace Branch.Lib

section

variable {ε α β : Type} {x : Except ε α}

theorem bind_eq_ok {f : α → Except ε β} {b : β} :
    (x >>= f) = .ok b ↔ ∃ a, x = .ok a ∧ f a = .ok b := by
  cases x with
  | error err =>
    constructor
    · rintro ⟨⟩
    · rintro ⟨a, ⟨⟩, _⟩
  | ok a =>
    constructor
    · exact fun h => ⟨a, rfl, h⟩
    · rintro ⟨a, ⟨⟩, h⟩
      exact h

theorem mapError_eq_ok {ε' : Type} {f : ε → ε'} {a : α} :
    x.mapError f = .ok a ↔ x = .ok a := by
  cases x with
  | error err => simp [Except.mapError]
  | ok b => simp [Except.mapError]

theorem map_eq_ok {f : α → β} {b : β} :
    x.map f = .ok b ↔ ∃ a, x = .ok a ∧ f a = b := by
  cases x with
  | error err => simp [Except.map]
  | ok a => simp [Except.map]

theorem ite_error_eq_ok {p : Prop} [Decidable p] {err : ε} {a : α} :
    (if p then .error err else x) = .ok a ↔ ¬ p ∧ x = .ok a := by
  split <;> simp [*]

/-- Two computations that do not return different values. -/
def Agree (x y : Except ε α) : Prop := ∀ a b, x = .ok a → y = .ok b → a = b

theorem Agree.refl (x : Except ε α) : Agree x x :=
  fun _ _ ha hb => Except.ok.inj (ha.symm.trans hb)

theorem Agree.bind {x y : Except ε α} {f g : α → Except ε β} (h : Agree x y)
    (hrest : ∀ a, Agree (f a) (g a)) : Agree (x >>= f) (y >>= g) := by
  intro b b' hb hb'
  obtain ⟨a, hx, hf⟩ := bind_eq_ok.mp hb
  obtain ⟨a', hy, hg⟩ := bind_eq_ok.mp hb'
  obtain rfl := h a a' hx hy
  exact hrest a b b' hf hg

theorem agree_unit (x y : Except ε Unit) : Agree x y := fun _ _ _ _ => rfl

theorem exists_of_isOk (h : x.isOk = true) : ∃ a, x = .ok a := by
  cases x with
  | error err => cases h
  | ok a => exact ⟨a, rfl⟩

theorem exists_unit {p : Unit → Prop} : (∃ u, p u) ↔ p () :=
  ⟨fun ⟨_, h⟩ => h, fun h => ⟨(), h⟩⟩

theorem throw_eq_ok {err : ε} {a : α} : (throw err : Except ε α) = .ok a ↔ False := by
  constructor
  · rintro ⟨⟩
  · exact False.elim

theorem pure_eq_ok {a b : α} : (pure a : Except ε α) = .ok b ↔ a = b :=
  ⟨Except.ok.inj, congrArg Except.ok⟩

theorem ite_eq_ok {p : Prop} [Decidable p] {x y : Except ε α} {a : α} :
    (if p then x else y) = .ok a ↔ (p ∧ x = .ok a) ∨ (¬ p ∧ y = .ok a) := by
  split <;> simp [*]

theorem mapM_eq_ok_iff {f : α → Except ε β} {l : List α} {bs : List β} :
    l.mapM f = .ok bs ↔ List.Forall₂ (fun a b => f a = .ok b) l bs := by
  induction l generalizing bs with
  | nil =>
    rw [List.mapM_nil, List.forall₂_nil_left_iff]
    constructor
    · intro h
      exact (Except.ok.inj h).symm
    · rintro rfl
      rfl
  | cons a l ih =>
    rw [List.mapM_cons, List.forall₂_cons_left_iff, bind_eq_ok]
    constructor
    · rintro ⟨b, hb, h⟩
      obtain ⟨bs', hbs', heq⟩ := bind_eq_ok.mp h
      obtain rfl := Except.ok.inj heq
      exact ⟨b, bs', hb, ih.mp hbs', rfl⟩
    · rintro ⟨b, bs', hb, hbs', rfl⟩
      exact ⟨b, hb, bind_eq_ok.mpr ⟨bs', ih.mpr hbs', rfl⟩⟩

@[simp] theorem toOption_ok (a : α) : (Except.ok a : Except ε α).toOption = some a := rfl

@[simp] theorem toOption_error (err : ε) :
    (Except.error err : Except ε α).toOption = none := rfl

@[simp] theorem toOption_pure (a : α) : (pure a : Except ε α).toOption = some a := rfl

@[simp] theorem toOption_throw (err : ε) : (throw err : Except ε α).toOption = none := rfl

@[simp] theorem toOption_bind (x : Except ε α) (f : α → Except ε β) :
    (x >>= f).toOption = x.toOption.bind fun a => (f a).toOption := by
  cases x <;> rfl

@[simp] theorem toOption_map (f : α → β) (x : Except ε α) :
    (f <$> x).toOption = x.toOption.map f := by
  cases x <;> rfl

@[simp] theorem toOption_ite (p : Prop) [Decidable p] (x y : Except ε α) :
    (if p then x else y).toOption = if p then x.toOption else y.toOption :=
  apply_ite Except.toOption p x y

@[simp] theorem bind_ite_none (p : Prop) [Decidable p] (a : α) (f : α → Option β) :
    (if p then none else some a).bind f = if p then none else f a := by
  split <;> rfl

@[simp] theorem map_ite_none (p : Prop) [Decidable p] (a : α) (f : α → β) :
    (if p then none else some a).map f = if p then none else some (f a) := by
  split <;> rfl

theorem toOption_eq_some_iff {a : α} : x.toOption = some a ↔ x = .ok a := by
  cases x with
  | error err => simp
  | ok a => simp

end

section

variable {ε β : Type} (p : Prop) [Decidable p] (err : ε)

def throwIf : Except ε Unit := if p then .error err else .ok ()

variable {p err} in
@[simp] theorem throwIf_eq_ok {u : Unit} : throwIf p err = .ok u ↔ ¬ p := by
  unfold throwIf
  split <;> simp [*]

variable {p err} in
theorem throwIf_bind_eq_ok {f : Unit → Except ε β} {b : β} :
    (throwIf p err >>= f) = .ok b ↔ ¬ p ∧ f () = .ok b := by
  rw [bind_eq_ok]
  constructor
  · rintro ⟨u, hu, h⟩
    exact ⟨throwIf_eq_ok.mp hu, h⟩
  · rintro ⟨hp, h⟩
    exact ⟨(), throwIf_eq_ok.mpr hp, h⟩

@[simp] theorem toOption_throwIf_bind (f : Unit → Option β) :
    (throwIf p err).toOption.bind f = if p then none else f () := by
  unfold throwIf
  split <;> rfl

@[simp] theorem toOption_throwIf_map (f : Unit → β) :
    (throwIf p err).toOption.map f = if p then none else some (f ()) := by
  unfold throwIf
  split <;> rfl

end

end Branch.Lib
