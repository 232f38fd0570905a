import Mathlib.Data.List.Induction
import Mathlib.Tactic.Tauto

/-!
Runs of a deterministic machine over lists of events, and the induction rules
for properties that every step, or every step allowed by a guard, keeps.
-/

namespace Branch.Lib.Trace

universe u v

variable {State : Type u} {Event : Type v}

/-- The state reached from `s` by performing the events in order. -/
def run (step : State → Event → State) (s : State) (events : List Event) : State :=
  events.foldl step s

@[simp] theorem run_nil (step : State → Event → State) (s : State) :
    run step s [] = s := rfl

@[simp] theorem run_cons (step : State → Event → State) (s : State)
    (e : Event) (events : List Event) :
    run step s (e :: events) = run step (step s e) events := rfl

theorem run_append (step : State → Event → State) (s : State)
    (xs ys : List Event) :
    run step s (xs ++ ys) = run step (run step s xs) ys :=
  List.foldl_append

@[simp] theorem run_snoc (step : State → Event → State) (s : State)
    (xs : List Event) (e : Event) :
    run step s (xs ++ [e]) = step (run step s xs) e := by
  rw [run_append]
  rfl

/-- Each event of the run satisfies `allowed` in the state that it meets. -/
def Meets (step : State → Event → State) (allowed : State → Event → Prop) :
    State → List Event → Prop
  | _, [] => True
  | s, e :: events => allowed s e ∧ Meets step allowed (step s e) events

def decidableMeets (step : State → Event → State) (allowed : State → Event → Prop)
    [∀ s e, Decidable (allowed s e)] :
    (s : State) → (events : List Event) → Decidable (Meets step allowed s events)
  | _, [] => .isTrue trivial
  | s, e :: events =>
    have := decidableMeets step allowed (step s e) events
    inferInstanceAs (Decidable (_ ∧ _))

instance (step : State → Event → State) (allowed : State → Event → Prop)
    [∀ s e, Decidable (allowed s e)] (s : State) (events : List Event) :
    Decidable (Meets step allowed s events) :=
  decidableMeets step allowed s events

theorem meets_append (step : State → Event → State)
    (allowed : State → Event → Prop) (s : State) (xs ys : List Event) :
    Meets step allowed s (xs ++ ys) ↔
      Meets step allowed s xs ∧ Meets step allowed (run step s xs) ys := by
  induction xs generalizing s with
  | nil => simp [Meets]
  | cons e xs ih => simp [Meets, ih, and_assoc]

theorem meets_snoc (step : State → Event → State)
    (allowed : State → Event → Prop) (s : State) (xs : List Event) (e : Event) :
    Meets step allowed s (xs ++ [e]) ↔
      Meets step allowed s xs ∧ allowed (run step s xs) e := by
  rw [meets_append]
  simp [Meets]

theorem meets_and (step : State → Event → State) (p q : State → Event → Prop) (s : State)
    (events : List Event) :
    Meets step (fun s e => p s e ∧ q s e) s events ↔
      Meets step p s events ∧ Meets step q s events := by
  induction events generalizing s with
  | nil => simp [Meets]
  | cons e events ih =>
    simp only [Meets, ih]
    tauto

theorem meets_forall {ι : Sort*} (step : State → Event → State)
    (p : ι → State → Event → Prop) (s : State) (events : List Event) :
    Meets step (fun s e => ∀ i, p i s e) s events ↔ ∀ i, Meets step (p i) s events := by
  induction events generalizing s with
  | nil => simp [Meets]
  | cons e events ih => simp only [Meets, ih, forall_and]

theorem meets_of_forall {step : State → Event → State} {allowed : State → Event → Prop}
    (h : ∀ s e, allowed s e) (s : State) (events : List Event) :
    Meets step allowed s events := by
  induction events generalizing s with
  | nil => trivial
  | cons e events ih => exact ⟨h s e, ih (step s e)⟩

variable {P : State → Prop}

theorem invariant_of_meets {step : State → Event → State}
    {allowed : State → Event → Prop}
    (hstep : ∀ s e, P s → allowed s e → P (step s e))
    {s : State} {events : List Event}
    (hs : P s) (hrun : Meets step allowed s events) :
    P (run step s events) := by
  induction events generalizing s with
  | nil => exact hs
  | cons e events ih => exact ih (hstep s e hs hrun.1) hrun.2

theorem invariant {step : State → Event → State}
    (hstep : ∀ s e, P s → P (step s e))
    {s : State} (hs : P s) (events : List Event) :
    P (run step s events) := by
  induction events generalizing s with
  | nil => exact hs
  | cons e events ih => exact ih (hstep s e hs)

theorem meets_of_meets {step : State → Event → State}
    {allowed property : State → Event → Prop}
    (hstep : ∀ s e, P s → allowed s e → P (step s e) ∧ property s e)
    {s : State} {events : List Event} (hs : P s) (hrun : Meets step allowed s events) :
    Meets step property s events := by
  induction events generalizing s with
  | nil => trivial
  | cons e events ih =>
    obtain ⟨hnext, hproperty⟩ := hstep s e hs hrun.1
    exact ⟨hproperty, ih hnext hrun.2⟩

theorem meets_iff_prefixes (step : State → Event → State)
    (allowed : State → Event → Prop) (s : State) (events : List Event) :
    Meets step allowed s events ↔
      ∀ xs e ys, events = xs ++ e :: ys → allowed (run step s xs) e := by
  constructor
  · rintro h xs e ys rfl
    exact ((meets_append step allowed s xs (e :: ys)).mp h).2.1
  · induction events generalizing s with
    | nil => exact fun _ => trivial
    | cons e events ih =>
      intro h
      refine ⟨h [] e events rfl, ih (step s e) ?_⟩
      rintro xs e' ys rfl
      exact h (e :: xs) e' ys rfl

theorem forall_prefix_iff_meets {step : State → Event → State}
    {s : State} (hs : P s) (events : List Event) :
    (∀ xs, xs <+: events → P (run step s xs)) ↔
      Meets step (fun s e => P (step s e)) s events := by
  induction events generalizing s with
  | nil =>
    refine ⟨fun _ => trivial, fun _ xs hxs => ?_⟩
    rw [List.prefix_nil.mp hxs]
    exact hs
  | cons e events ih =>
    constructor
    · intro h
      have hfirst : P (step s e) := h [e] (by simp)
      exact ⟨hfirst, (ih hfirst).mp fun xs hxs =>
        h (e :: xs) (List.cons_prefix_cons.mpr ⟨rfl, hxs⟩)⟩
    · rintro ⟨hfirst, hrest⟩ xs hxs
      cases xs with
      | nil => exact hs
      | cons e' xs =>
        obtain ⟨rfl, htail⟩ := List.cons_prefix_cons.mp hxs
        exact (ih hfirst).mpr hrest xs htail

theorem meets_congr_of_meets {step : State → Event → State}
    {property allowed : State → Event → Prop}
    (hstep : ∀ s e, P s → allowed s e → P (step s e))
    (hguard : ∀ s e, P s → (property s e ↔ allowed s e))
    {s : State} (hs : P s) (events : List Event) :
    Meets step property s events ↔ Meets step allowed s events := by
  induction events generalizing s with
  | nil => exact Iff.rfl
  | cons e events ih =>
    constructor
    · rintro ⟨hproperty, hrest⟩
      have hallowed := (hguard s e hs).mp hproperty
      exact ⟨hallowed, (ih (hstep s e hs hallowed)).mp hrest⟩
    · rintro ⟨hallowed, hrest⟩
      exact ⟨(hguard s e hs).mpr hallowed, (ih (hstep s e hs hallowed)).mpr hrest⟩

theorem meets_congr {step : State → Event → State}
    {allowed allowed' : State → Event → Prop}
    (hstep : ∀ s e, P s → P (step s e))
    (hguard : ∀ s e, P s → (allowed s e ↔ allowed' s e))
    {s : State} (hs : P s) (events : List Event) :
    Meets step allowed s events ↔ Meets step allowed' s events :=
  meets_congr_of_meets (fun s e h _ => hstep s e h) hguard hs events

/-- The events so far, with one more. A guard on this machine sees all that came before. -/
def record (past : List Event) (e : Event) : List Event := past ++ [e]

section Held

variable {step : State → Event → State} {accepts : State → Event → Prop} {held : State → Prop}

/-- A property that a run comes to have is entered by one of its steps and holds since. -/
theorem exists_entry {s : State} {events : List Event} (hs : ¬ held s)
    (h : held (run step s events)) :
    ∃ xs e ys, events = xs ++ e :: ys ∧ ¬ held (run step s xs) ∧
      ∀ zs, zs <+: ys → held (run step s (xs ++ e :: zs)) := by
  induction events using List.reverseRecOn with
  | nil => exact absurd h hs
  | append_singleton events e ih =>
    by_cases hheld : held (run step s events)
    · obtain ⟨xs, e', ys, rfl, hentry, hsince⟩ := ih hheld
      refine ⟨xs, e', ys ++ [e], by simp, hentry, ?_⟩
      intro zs hzs
      rcases List.prefix_concat_iff.mp hzs with rfl | hzs
      · rw [← List.cons_append, ← List.append_assoc]
        exact h
      · exact hsince zs hzs
    · refine ⟨events, e, [], rfl, hheld, ?_⟩
      intro zs hzs
      rw [List.prefix_nil.mp hzs]
      exact h

/-- Between two steps that accept comes a state in which nothing is held. -/
def OnceWhile (step : State → Event → State) (accepts : State → Event → Prop)
    (held : State → Prop) (s : State) (events : List Event) : Prop :=
  ∀ xs e ys e' zs, events = xs ++ e :: (ys ++ e' :: zs) →
    accepts (run step s xs) e → accepts (run step s (xs ++ e :: ys)) e' →
      ∃ zs, zs <+: ys ∧ ¬ held (run step s (xs ++ e :: zs))

theorem OnceWhile.mono {accepts' : State → Event → Prop} {s : State} {events : List Event}
    (h : OnceWhile step accepts held s events) (hle : ∀ s e, accepts' s e → accepts s e) :
    OnceWhile step accepts' held s events :=
  fun xs e ys e' zs heq hfirst hsecond =>
    h xs e ys e' zs heq (hle _ _ hfirst) (hle _ _ hsecond)

/-- When only a step that accepts makes something held, steps accept once while it is held
if and only if they accept nothing that is held. -/
theorem onceWhile_iff_meets {s : State} (events : List Event)
    (henter : ∀ s e, ¬ held s → held (step s e) → accepts s e) (hs : ¬ held s) :
    OnceWhile step accepts held s events ↔
      Meets step (fun s e => accepts s e → ¬ held s) s events := by
  rw [meets_iff_prefixes]
  constructor
  · rintro h xs e' zs rfl haccepts hheld
    obtain ⟨xs, e, ys, rfl, hentry, hsince⟩ := exists_entry hs hheld
    have hfirst : accepts (run step s xs) e := by
      have hnow := hsince [] List.nil_prefix
      rw [run_snoc] at hnow
      exact henter _ _ hentry hnow
    obtain ⟨zs', hinit, hnot⟩ := h xs e ys e' zs (by simp) hfirst haccepts
    exact hnot (hsince zs' hinit)
  · rintro h xs e ys e' zs rfl _ hsecond
    exact ⟨ys, List.prefix_refl ys, h (xs ++ e :: ys) e' zs (by simp) hsecond⟩

end Held

section Output

variable {Out : Type*}

def outputs (step : State → Event → State × Out) : State → List Event → List Out
  | _, [] => []
  | s, e :: events => (step s e).2 :: outputs step (step s e).1 events

variable {allowed : State → Event → Prop}

theorem not_outputs_of_meets {step : State → Event → State × Out}
    {R : State → Prop} {p : Out → Prop}
    (hstay : ∀ s e, R s → allowed s e → R (step s e).1)
    (hnever : ∀ s e, R s → allowed s e → ¬ p (step s e).2)
    {s : State} {events : List Event} (hs : R s)
    (hrun : Meets (fun s e => (step s e).1) allowed s events) :
    ∀ out ∈ outputs step s events, ¬ p out := by
  induction events generalizing s with
  | nil => exact fun out hout => absurd hout List.not_mem_nil
  | cons e events ih =>
    intro out hout
    rcases List.mem_cons.mp hout with rfl | hout
    · exact hnever s e hs hrun.1
    · exact ih (hstay s e hs hrun.1) hrun.2 out hout

theorem pairwise_outputs_of_meets {step : State → Event → State × Out}
    {R : State → Prop} {p q : Out → Prop}
    (henter : ∀ s e, allowed s e → q (step s e).2 → R (step s e).1)
    (hstay : ∀ s e, R s → allowed s e → R (step s e).1)
    (hnever : ∀ s e, R s → allowed s e → ¬ p (step s e).2)
    {s : State} {events : List Event}
    (hrun : Meets (fun s e => (step s e).1) allowed s events) :
    (outputs step s events).Pairwise fun out out' => q out → ¬ p out' := by
  induction events generalizing s with
  | nil => exact List.Pairwise.nil
  | cons e events ih =>
    refine List.Pairwise.cons ?_ (ih hrun.2)
    intro out hout hq
    exact not_outputs_of_meets hstay hnever (henter s e hrun.1 hq) hrun.2 out hout

/-- A machine whose terminal phases stay keeps the phase that ends it, and gives nothing of a kind
that no terminal phase gives behind what only a terminal phase leaves. -/
theorem absorbs_of_meets {Phase : Type*} {step : State → Event → State × Out}
    {phase : State → Phase} {R : State → Prop} {p q : Out → Prop}
    (hsame : ∀ s s', phase s' = phase s → R s → R s')
    (hstay : ∀ s e, R s → allowed s e → phase (step s e).1 = phase s ∧ ¬ p (step s e).2)
    (henter : ∀ s e, allowed s e → q (step s e).2 → R (step s e).1)
    {s : State} {events : List Event}
    (hrun : Meets (fun s e => (step s e).1) allowed s events) :
    (∀ xs ys, events = xs ++ ys → R (run (fun s e => (step s e).1) s xs) →
      phase (run (fun s e => (step s e).1) s events) =
        phase (run (fun s e => (step s e).1) s xs)) ∧
    (outputs step s events).Pairwise fun out out' => q out → ¬ p out' := by
  constructor
  · rintro xs ys rfl hterminal
    rw [run_append]
    refine (invariant_of_meets (P := fun s' => phase s' = phase _ ∧ R s') ?_ ⟨rfl, hterminal⟩
      ((meets_append _ _ _ _ _).mp hrun).2).1
    rintro s' e ⟨hphase, hr⟩ hallowed
    have hphase' := (hstay s' e hr hallowed).1
    exact ⟨hphase'.trans hphase, hsame _ _ hphase' hr⟩
  · exact pairwise_outputs_of_meets henter
      (fun s e hr hallowed => hsame _ _ (hstay s e hr hallowed).1 hr)
      (fun s e hr hallowed => (hstay s e hr hallowed).2) hrun

end Output

end Branch.Lib.Trace
