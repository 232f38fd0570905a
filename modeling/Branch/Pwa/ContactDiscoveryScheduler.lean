import Mathlib.Data.Int.Notation
import Mathlib.Data.List.Induction

/-!
The timer by which a page looks for contacts: one attempt after the other, each of which arms
the timer again when it ends.
-/

namespace Branch.Pwa.DiscoveryScheduler

section Model

structure Timeout (P : Type) where
  id : Nat
  delay : ℤ
  generation : Nat
  ports : P

structure Attempt (P : Type) where
  generation : Nat
  ports : P

structure ContactDiscoveryScheduler (P : Type) where
  timer : Option Nat
  stopped : Bool
  generation : Nat
  running : Bool
  ports : Option P
  timeouts : List (Timeout P)
  nextTimeout : Nat
  attempts : List (Attempt P)

variable {P : Type}

namespace ContactDiscoveryScheduler

def new : ContactDiscoveryScheduler P where
  timer := none
  stopped := true
  generation := 0
  running := false
  ports := none
  timeouts := []
  nextTimeout := 0
  attempts := []

def clearTimeout (s : ContactDiscoveryScheduler P) : ContactDiscoveryScheduler P :=
  { s with
    timeouts := s.timeouts.filter fun timeout => s.timer ≠ some timeout.id
    timer := none }

def schedule (s : ContactDiscoveryScheduler P) (ports : P) (delay : ℤ) :
    ContactDiscoveryScheduler P :=
  { s with
    timer := some s.nextTimeout
    timeouts := s.timeouts ++
      [{ id := s.nextTimeout, delay := max 0 delay, generation := s.generation, ports }]
    nextTimeout := s.nextTimeout + 1 }

def stop (s : ContactDiscoveryScheduler P) : ContactDiscoveryScheduler P :=
  { s.clearTimeout with stopped := true, generation := s.generation + 1, ports := none }

def start (s : ContactDiscoveryScheduler P) (ports : P) : ContactDiscoveryScheduler P :=
  let s := { s.stop with stopped := false, ports := some ports }
  if s.running then s else s.schedule ports 0

def wake (s : ContactDiscoveryScheduler P) : ContactDiscoveryScheduler P :=
  if s.stopped || s.running then s
  else
    match s.ports with
    | none => s
    | some ports => s.clearTimeout.schedule ports 0

end ContactDiscoveryScheduler

inductive Action (P : Type) where
  | start (ports : P)
  | stop
  | wake
  /-- The timeout with this id is over. -/
  | fire (id : Nat)
  /-- The attempt at this position ends, well or not; `nextDelay` of its ports has an answer. -/
  | complete (position : Nat) (nextDelay : Option ℤ)

inductive Output where
  | began
  | evaluated (nextDelay : Option ℤ)
  deriving DecidableEq

/-- The callback of a timeout, up to where the attempt is awaited. -/
def fire (s : ContactDiscoveryScheduler P) (timeout : Timeout P) :
    ContactDiscoveryScheduler P × List Output :=
  let s := { s with
    timer := none, timeouts := s.timeouts.filter fun other => other.id ≠ timeout.id }
  if s.stopped || timeout.generation != s.generation then (s, [])
  else if s.running then (s, [])
  else
    ({ s with
      running := true
      attempts := s.attempts ++ [{ generation := timeout.generation, ports := timeout.ports }] },
      [.began])

/-- What an attempt does last, with the answer of its ports if they are asked. -/
def complete (s : ContactDiscoveryScheduler P) (attempt : Attempt P) (nextDelay : Option ℤ) :
    ContactDiscoveryScheduler P × List Output :=
  let s := { s with running := false }
  if s.stopped then (s, [])
  else if attempt.generation = s.generation then
    match nextDelay with
    | none => (s, [.evaluated none])
    | some next => (s.schedule attempt.ports (max 0 next), [.evaluated (some next)])
  else
    match s.ports with
    | none => (s, [])
    | some ports => (s.schedule ports 0, [])

def step (s : ContactDiscoveryScheduler P) :
    Action P → ContactDiscoveryScheduler P × List Output
  | .start ports => (s.start ports, [])
  | .stop => (s.stop, [])
  | .wake => (s.wake, [])
  | .fire id =>
    match s.timeouts.find? fun timeout => timeout.id = id with
    | none => (s, [])
    | some timeout => fire s timeout
  | .complete position nextDelay =>
    match s.attempts[position]? with
    | none => (s, [])
    | some attempt =>
      complete { s with attempts := s.attempts.eraseIdx position } attempt nextDelay

structure History (P : Type) where
  scheduler : ContactDiscoveryScheduler P
  events : List (Action P × List Output)

def History.record (h : History P) (action : Action P) : History P where
  scheduler := (step h.scheduler action).1
  events := h.events ++ [(action, (step h.scheduler action).2)]

def history (actions : List (Action P)) : History P :=
  actions.foldl History.record { scheduler := .new, events := [] }

end Model

section Consistent

variable {P : Type} {s : ContactDiscoveryScheduler P}

/-- There is one timeout at most, which is the one of the handle and of the present generation.
It is not there while an attempt runs, and there is one attempt at most. -/
structure Consistent (s : ContactDiscoveryScheduler P) : Prop where
  handle : s.timeouts.map Timeout.id = s.timer.toList
  current : ∀ timeout ∈ s.timeouts, timeout.generation = s.generation ∧ s.stopped = false
  quiet : s.running = true → s.timer = none
  single : s.attempts.length = s.running.toNat
  ports : s.stopped = false → s.ports.isSome = true

theorem consistent_new : Consistent (.new : ContactDiscoveryScheduler P) where
  handle := rfl
  current := List.forall_mem_nil _
  quiet := fun _ => rfl
  single := rfl
  ports := Bool.noConfusion

theorem Consistent.timeouts_of_timer (h : Consistent s) (htimer : s.timer = none) :
    s.timeouts = [] := by
  have hhandle := h.handle
  rw [htimer, Option.toList_none, List.map_eq_nil_iff] at hhandle
  exact hhandle

theorem Consistent.timer_of_timeouts (h : Consistent s) (htimeouts : s.timeouts = []) :
    s.timer = none := by
  have hhandle := h.handle
  rw [htimeouts, List.map_nil] at hhandle
  cases htimer : s.timer with
  | none => rfl
  | some id => rw [htimer] at hhandle; cases hhandle

theorem Consistent.timeouts_clearTimeout (h : Consistent s) : s.clearTimeout.timeouts = [] := by
  refine List.filter_eq_nil_iff.mpr fun timeout hmem => ?_
  have hid := List.mem_map_of_mem (f := Timeout.id) hmem
  rw [h.handle, Option.mem_toList] at hid
  simp [hid]

theorem Consistent.running_of_attempts {attempt : Attempt P} (h : Consistent s)
    (hmem : attempt ∈ s.attempts) : s.running = true ∧ s.attempts = [attempt] := by
  have hsingle := h.single
  cases hrunning : s.running with
  | false =>
    rw [hrunning, Bool.toNat_false, List.length_eq_zero_iff] at hsingle
    rw [hsingle] at hmem
    cases hmem
  | true =>
    rw [hrunning, Bool.toNat_true, List.length_eq_one_iff] at hsingle
    obtain ⟨other, hattempts⟩ := hsingle
    rw [hattempts, List.mem_singleton] at hmem
    exact ⟨rfl, by rw [hattempts, hmem]⟩

theorem Consistent.attempts_eq_nil (h : Consistent s) (hrunning : s.running = false) :
    s.attempts = [] := by
  have hsingle := h.single
  rw [hrunning, Bool.toNat_false, List.length_eq_zero_iff] at hsingle
  exact hsingle

theorem Consistent.schedule (h : Consistent s) (htimeouts : s.timeouts = [])
    (hstopped : s.stopped = false) (hrunning : s.running = false) (ports : P) (delay : ℤ) :
    Consistent (s.schedule ports delay) where
  handle := by simp [ContactDiscoveryScheduler.schedule, htimeouts]
  current := by simp [ContactDiscoveryScheduler.schedule, htimeouts, hstopped]
  quiet := by simp [ContactDiscoveryScheduler.schedule, hrunning]
  single := h.single
  ports := h.ports

theorem Consistent.clearTimeout (h : Consistent s) : Consistent s.clearTimeout where
  handle := by
    rw [h.timeouts_clearTimeout]
    rfl
  current := by
    rw [h.timeouts_clearTimeout]
    exact List.forall_mem_nil _
  quiet := fun _ => rfl
  single := h.single
  ports := h.ports

theorem Consistent.stop (h : Consistent s) : Consistent s.stop where
  handle := h.clearTimeout.handle
  current := by
    change ∀ timeout ∈ s.clearTimeout.timeouts, _
    rw [h.timeouts_clearTimeout]
    exact List.forall_mem_nil _
  quiet := fun _ => rfl
  single := h.single
  ports := Bool.noConfusion

theorem Consistent.start (h : Consistent s) (ports : P) : Consistent (s.start ports) := by
  have hrestarted : Consistent { s.stop with stopped := false, ports := some ports } :=
    { handle := h.stop.handle
      current := by
        change ∀ timeout ∈ s.clearTimeout.timeouts, _
        rw [h.timeouts_clearTimeout]
        exact List.forall_mem_nil _
      quiet := fun _ => rfl
      single := h.single
      ports := fun _ => rfl }
  unfold ContactDiscoveryScheduler.start
  dsimp only
  split
  next => exact hrestarted
  next hrunning =>
    exact hrestarted.schedule h.timeouts_clearTimeout rfl (Bool.eq_false_iff.mpr hrunning) _ _

theorem Consistent.wake (h : Consistent s) : Consistent s.wake := by
  unfold ContactDiscoveryScheduler.wake
  split
  next => exact h
  next hawake =>
    rw [Bool.or_eq_true, not_or, Bool.not_eq_true, Bool.not_eq_true] at hawake
    split
    next => exact h
    next => exact h.clearTimeout.schedule h.timeouts_clearTimeout hawake.1 hawake.2 _ _

theorem Consistent.fire_eq {timeout : Timeout P} (h : Consistent s)
    (hmem : timeout ∈ s.timeouts) :
    fire s timeout = ({ s with
      timer := none
      timeouts := []
      running := true
      attempts := [{ generation := timeout.generation, ports := timeout.ports }] }, [.began]) ∧
      s.stopped = false := by
  obtain ⟨hgeneration, hstopped⟩ := h.current timeout hmem
  have hid := List.mem_map_of_mem (f := Timeout.id) hmem
  have hhandle := h.handle
  rw [hhandle, Option.mem_toList] at hid
  have hrunning : s.running = false := by
    cases hrunning : s.running with
    | false => rfl
    | true => rw [h.quiet hrunning] at hid; cases hid
  have hothers : s.timeouts.filter (fun other => other.id ≠ timeout.id) = [] := by
    refine List.filter_eq_nil_iff.mpr fun other hother => ?_
    have hother' := List.mem_map_of_mem (f := Timeout.id) hother
    rw [hhandle, Option.mem_toList, hid] at hother'
    simp [Option.some.inj hother']
  refine ⟨?_, hstopped⟩
  simp only [fire, hstopped, hgeneration, hrunning, h.attempts_eq_nil hrunning, hothers,
    bne_self_eq_false, Bool.or_self, Bool.false_eq_true, if_false, List.nil_append]

theorem Consistent.fire {timeout : Timeout P} (h : Consistent s) (hmem : timeout ∈ s.timeouts) :
    Consistent (fire s timeout).1 := by
  obtain ⟨heq, -⟩ := h.fire_eq hmem
  rw [heq]
  exact
    { handle := rfl
      current := List.forall_mem_nil _
      quiet := fun _ => rfl
      single := rfl
      ports := h.ports }

theorem Consistent.ended {attempt : Attempt P} {position : Nat} (h : Consistent s)
    (hget : s.attempts[position]? = some attempt) :
    Consistent { s with attempts := s.attempts.eraseIdx position, running := false } ∧
      s.timeouts = [] := by
  obtain ⟨hrunning, hattempts⟩ := h.running_of_attempts (List.mem_of_getElem? hget)
  have htimeouts := h.timeouts_of_timer (h.quiet hrunning)
  have hposition : position = 0 := by
    have hlt := (List.getElem?_eq_some_iff.mp hget).1
    rw [hattempts, List.length_singleton] at hlt
    omega
  refine ⟨?_, htimeouts⟩
  exact
    { handle := h.handle
      current := h.current
      quiet := Bool.noConfusion
      single := by rw [hattempts, hposition]; rfl
      ports := h.ports }

theorem Consistent.complete {attempt : Attempt P} {position : Nat} (h : Consistent s)
    (hget : s.attempts[position]? = some attempt) (nextDelay : Option ℤ) :
    Consistent (complete { s with attempts := s.attempts.eraseIdx position } attempt
      nextDelay).1 := by
  obtain ⟨hended, htimeouts⟩ := h.ended hget
  unfold DiscoveryScheduler.complete
  dsimp only
  split
  next => exact hended
  next hstopped =>
    rw [Bool.not_eq_true] at hstopped
    split
    next =>
      cases nextDelay with
      | none => exact hended
      | some next => exact hended.schedule htimeouts hstopped rfl _ _
    next =>
      split
      next => exact hended
      next => exact hended.schedule htimeouts hstopped rfl _ _

theorem step_fire (s : ContactDiscoveryScheduler P) (id : Nat) :
    step s (.fire id) = (s, []) ∨
      ∃ timeout ∈ s.timeouts, step s (.fire id) = fire s timeout := by
  cases hfind : s.timeouts.find? fun timeout => timeout.id = id with
  | none => exact .inl (by simp only [step, hfind])
  | some timeout =>
    exact .inr ⟨timeout, List.mem_of_find?_eq_some hfind, by simp only [step, hfind]⟩

theorem step_complete (s : ContactDiscoveryScheduler P) (position : Nat)
    (nextDelay : Option ℤ) :
    step s (.complete position nextDelay) = (s, []) ∨
      ∃ attempt, s.attempts[position]? = some attempt ∧ step s (.complete position nextDelay) =
        complete { s with attempts := s.attempts.eraseIdx position } attempt nextDelay := by
  cases hget : s.attempts[position]? with
  | none => exact .inl (by simp only [step, hget])
  | some attempt => exact .inr ⟨attempt, rfl, by simp only [step, hget]⟩

theorem Consistent.step (h : Consistent s) (action : Action P) :
    Consistent (step s action).1 := by
  cases action with
  | start ports => exact h.start ports
  | stop => exact h.stop
  | wake => exact h.wake
  | fire id =>
    rcases step_fire s id with heq | ⟨timeout, hmem, heq⟩
    · rw [heq]
      exact h
    · rw [heq]
      exact h.fire hmem
  | complete position nextDelay =>
    rcases step_complete s position nextDelay with heq | ⟨attempt, hget, heq⟩
    · rw [heq]
      exact h
    · rw [heq]
      exact h.complete hget nextDelay

end Consistent

section Orderly

variable {P : Type} {s : ContactDiscoveryScheduler P} {action : Action P}

def Action.starts : Action P → Bool
  | start _ => true
  | _ => false

/-- Whether an action has a timeout armed for a scheduler that is started and idle. -/
def Action.rouses : Action P → Bool
  | start _ | wake => true
  | _ => false

def Output.isEvaluation : Output → Bool
  | began => false
  | evaluated _ => true

/-- Ports have been asked for the next delay and have had none, and since then they have not been
asked, and the scheduler has neither been started nor woken. -/
def Resting (events : List (Action P × List Output)) : Prop :=
  ∃ before action after, events = before ++ (action, [.evaluated none]) :: after ∧
    ∀ event ∈ after, event.1.rouses = false ∧ ∀ output ∈ event.2, output.isEvaluation = false

structure Orderly (h : History P) : Prop where
  single : h.scheduler.attempts.length ≤ 1
  halted : ∀ before outputs after, h.events = before ++ (.stop, outputs) :: after →
    (∀ event ∈ after, event.1.starts = false) → ∀ event ∈ after, .began ∉ event.2
  resting : h.scheduler.stopped = false → h.scheduler.attempts = [] →
    h.scheduler.timeouts = [] → Resting h.events

theorem step_of_stopped (h : Consistent s) (hstopped : s.stopped = true)
    (hstarts : action.starts = false) :
    (step s action).1.stopped = true ∧ .began ∉ (step s action).2 := by
  cases action with
  | start ports => cases hstarts
  | stop => exact ⟨rfl, List.not_mem_nil⟩
  | wake =>
    have hwake : s.wake = s := by
      rw [ContactDiscoveryScheduler.wake, hstopped, Bool.true_or, if_pos rfl]
    rw [step, hwake]
    exact ⟨hstopped, List.not_mem_nil⟩
  | fire id =>
    rcases step_fire s id with heq | ⟨timeout, hmem, heq⟩
    · rw [heq]
      exact ⟨hstopped, List.not_mem_nil⟩
    · exact absurd (h.current timeout hmem).2 (by rw [hstopped]; exact Bool.noConfusion)
  | complete position nextDelay =>
    rcases step_complete s position nextDelay with heq | ⟨attempt, -, heq⟩
    · rw [heq]
      exact ⟨hstopped, List.not_mem_nil⟩
    · rw [heq]
      simp [complete, hstopped]

/-- A scheduler without an attempt and without a timeout has just been told that there is no next
delay, or it was like that before. -/
theorem step_of_idle (h : Consistent s) (hstopped : (step s action).1.stopped = false)
    (hrunning : (step s action).1.running = false) (htimer : (step s action).1.timer = none) :
    (step s action).2 = [.evaluated none] ∨
      (step s action).2 = [] ∧ action.rouses = false ∧ s.stopped = false ∧
        s.running = false ∧ s.timer = none := by
  cases action with
  | start ports =>
    have hstart : (step s (.start ports)).1 = s.start ports := rfl
    rw [hstart, ContactDiscoveryScheduler.start] at hrunning htimer
    dsimp only at hrunning htimer
    split at htimer
    next hbusy => rw [if_pos hbusy] at hrunning; exact absurd hbusy (by rw [hrunning]; simp)
    next => cases htimer
  | stop => cases hstopped
  | wake =>
    have hwake : (step s (.wake : Action P)).1 = s.wake := rfl
    rw [hwake, ContactDiscoveryScheduler.wake] at hstopped hrunning htimer
    split at htimer
    next hidle =>
      rw [if_pos hidle] at hstopped hrunning
      simp [hstopped, hrunning] at hidle
    next hawake =>
      rw [Bool.or_eq_true, not_or, Bool.not_eq_true] at hawake
      obtain ⟨ports, hports⟩ := Option.isSome_iff_exists.mp (h.ports hawake.1)
      rw [hports] at htimer
      cases htimer
  | fire id =>
    rcases step_fire s id with heq | ⟨timeout, hmem, heq⟩
    · rw [heq] at hstopped hrunning htimer ⊢
      exact .inr ⟨rfl, rfl, hstopped, hrunning, htimer⟩
    · rw [heq, (h.fire_eq hmem).1] at hrunning
      cases hrunning
  | complete position nextDelay =>
    rcases step_complete s position nextDelay with heq | ⟨attempt, hget, heq⟩
    · rw [heq] at hstopped hrunning htimer ⊢
      exact .inr ⟨rfl, rfl, hstopped, hrunning, htimer⟩
    · rw [heq] at hstopped htimer ⊢
      unfold complete at hstopped htimer ⊢
      dsimp only at hstopped htimer ⊢
      split at htimer
      next hwas => rw [if_pos hwas] at hstopped; exact absurd hwas (by rw [hstopped]; simp)
      next hwas =>
        rw [if_neg hwas]
        split at htimer
        next hsame =>
          rw [if_pos hsame]
          cases nextDelay with
          | none => exact .inl rfl
          | some next => cases htimer
        next =>
          obtain ⟨ports, hports⟩ :=
            Option.isSome_iff_exists.mp (h.ports (Bool.not_eq_true _ ▸ hwas))
          rw [hports] at htimer
          cases htimer

structure Recorded (h : History P) : Prop where
  consistent : Consistent h.scheduler
  halted : ∀ before outputs after, h.events = before ++ (.stop, outputs) :: after →
    (∀ event ∈ after, event.1.starts = false) →
      h.scheduler.stopped = true ∧ ∀ event ∈ after, .began ∉ event.2
  resting : h.scheduler.stopped = false → h.scheduler.running = false →
    h.scheduler.timer = none → Resting h.events

theorem Resting.snoc {events : List (Action P × List Output)} (h : Resting events)
    (hrouses : action.rouses = false) : Resting (events ++ [(action, [])]) := by
  obtain ⟨before, last, after, rfl, hafter⟩ := h
  refine ⟨before, last, after ++ [(action, [])], by simp, fun event hevent => ?_⟩
  rcases List.mem_append.mp hevent with hevent | hevent
  · exact hafter event hevent
  · rw [List.mem_singleton.mp hevent]
    exact ⟨hrouses, List.forall_mem_nil _⟩

theorem Recorded.record {h : History P} (hr : Recorded h) (action : Action P) :
    Recorded (h.record action) where
  consistent := hr.consistent.step action
  halted := by
    intro before outputs after hevents hafter
    rcases List.eq_nil_or_concat after with rfl | ⟨earlier, last, rfl⟩
    · -- it is the action itself that stops
      obtain ⟨-, hlast⟩ := List.append_inj' hevents rfl
      obtain ⟨rfl, -⟩ := Prod.mk.inj (List.cons.inj hlast).1
      exact ⟨rfl, List.forall_mem_nil _⟩
    · rw [List.concat_eq_append, ← List.cons_append, ← List.append_assoc] at hevents
      obtain ⟨hbefore, hlast⟩ := List.append_inj' hevents rfl
      obtain rfl := (List.cons.inj hlast).1
      rw [List.concat_eq_append] at hafter ⊢
      obtain ⟨hstopped, hbegan⟩ := hr.halted before outputs earlier hbefore
        fun event hevent => hafter event (List.mem_append_left _ hevent)
      obtain ⟨hstopped', hbegan'⟩ := step_of_stopped hr.consistent hstopped
        (hafter _ (List.mem_append_right _ (List.mem_singleton_self _)))
      refine ⟨hstopped', fun event hevent => ?_⟩
      rcases List.mem_append.mp hevent with hevent | hevent
      · exact hbegan event hevent
      · rw [List.mem_singleton.mp hevent]
        exact hbegan'
  resting := by
    intro hstopped hrunning htimer
    rcases step_of_idle hr.consistent hstopped hrunning htimer with
      hnull | ⟨hnone, hrouses, hstopped', hrunning', htimer'⟩
    · exact ⟨h.events, action, [], by rw [History.record, hnull], List.forall_mem_nil _⟩
    · rw [History.record, hnone]
      exact (hr.resting hstopped' hrunning' htimer').snoc hrouses

theorem recorded_history (actions : List (Action P)) : Recorded (history actions) := by
  induction actions using List.reverseRecOn with
  | nil =>
    exact
      { consistent := consistent_new
        halted := fun before outputs after h => by simp [history] at h
        resting := Bool.noConfusion }
  | append_singleton actions action ih =>
    rw [history, List.foldl_append]
    exact ih.record action

/-- Whatever happens to a scheduler, it has one attempt at a time, begins none between a stop and
the next start, and is at rest only where there was nothing to wait for. -/
theorem orderly_history (actions : List (Action P)) : Orderly (history actions) where
  single := by
    rw [(recorded_history actions).consistent.single]
    exact Bool.toNat_le _
  halted := fun before outputs after hevents hafter =>
    ((recorded_history actions).halted before outputs after hevents hafter).2
  resting := by
    intro hstopped hattempts htimeouts
    have hr := recorded_history actions
    have hsingle := hr.consistent.single
    rw [hattempts, List.length_nil] at hsingle
    refine hr.resting hstopped ?_ (hr.consistent.timer_of_timeouts htimeouts)
    exact Bool.toNat_eq_zero.mp hsingle.symm

end Orderly

end Branch.Pwa.DiscoveryScheduler
