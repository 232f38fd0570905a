import Branch.Lib.ListModify
import Branch.Wss.FederatedLookups

/-!
The parallel probes of one lookup of a peer: the calling part, its workers and the channels
between them, in any order of their steps. Probes and candidates go by their place among the
eligible candidates.
-/

namespace Branch.Wss.FederatedProbes

open Branch.Lib

def maxConcurrentFederationProbes : Nat := 3

/-- A worker takes jobs until there are no more, and hands in the result of each. -/
inductive Worker where
  | idle
  | probing (candidate : Nat)
  | sending (candidate : Nat) (ok : Bool)
  | left
  deriving DecidableEq

/-- Where the calling part is: before the workers are started, in front of the first jobs, of
the next result, with a result, in front of one more job, and with the workers still to end. -/
inductive Main where
  | start
  | fill
  | receive
  | judge (candidate : Nat) (ok : Bool)
  | refill
  | send
  | join (selected : Option Nat)
  | returned (selected : Option Nat)
  deriving DecidableEq

inductive Event where
  | started (candidate : Nat)
  | completed (candidate : Nat) (ok : Bool)
  | judged (candidate : Nat) (ok : Bool)
  | cancelled
  deriving DecidableEq

/-- `jobs` holds nothing, `results` as many results as there are workers. `log` has the last
event in front. -/
structure State where
  main : Main := .start
  workers : List Worker := []
  next : Nat := 0
  inflight : Nat := 0
  results : List (Nat × Bool) := []
  closed : Bool := false
  cancelled : Bool := false
  log : List Event := []
  deriving DecidableEq

/-- The caller gives up, the calling part goes on, a worker takes the job that is offered, its
probe ends, it hands in the result, or it finds that there are no more jobs. -/
inductive Action where
  | cancel
  | main
  | take (worker : Nat)
  | complete (worker : Nat) (ok : Bool)
  | deliver (worker : Nat)
  | leave (worker : Nat)
  deriving DecidableEq

def workerCount (eligible : Nat) : Nat := min maxConcurrentFederationProbes eligible

/-- The calling part stands in front of `jobs <- eligible[next]`. -/
def Offers (eligible : Nat) (s : State) : Prop :=
  s.main = .send ∨
    s.main = .fill ∧ s.next < eligible ∧ s.inflight < workerCount eligible

instance (eligible : Nat) (s : State) : Decidable (Offers eligible s) :=
  inferInstanceAs (Decidable (_ ∨ _))

/-- The next part of the calling part, if it does not wait. -/
def mainStep (eligible : Nat) (s : State) : Option State :=
  match s.main with
  | .start =>
    if eligible = 0 ∨ s.cancelled then some { s with main := .returned none }
    else some { s with main := .fill, workers := List.replicate (workerCount eligible) .idle }
  | .fill =>
    if s.next < eligible ∧ s.inflight < workerCount eligible then none
    else some { s with main := .receive }
  | .receive =>
    if s.inflight = 0 then some { s with main := .join none, closed := true }
    else
      match s.results with
      | [] => none
      | (candidate, ok) :: results =>
        some { s with main := .judge candidate ok, results, inflight := s.inflight - 1 }
  | .judge candidate ok =>
    let log := .judged candidate ok :: s.log
    if ok ∧ ¬ s.cancelled then
      some { s with main := .join (some candidate), closed := true, log }
    else some { s with main := .refill, log }
  | .refill =>
    if s.next < eligible ∧ ¬ s.cancelled then some { s with main := .send }
    else some { s with main := .receive }
  | .send => none
  | .join selected =>
    if ∀ worker ∈ s.workers, worker = .left then some { s with main := .returned selected }
    else none
  | .returned _ => none

/-- A step, if it can be done. A probe may end with either result, cancelled or not. -/
def step (eligible : Nat) (s : State) : Action → Option State
  | .cancel =>
    if s.cancelled then none
    else some { s with cancelled := true, log := .cancelled :: s.log }
  | .main => mainStep eligible s
  | .take worker =>
    if s.workers[worker]? = some .idle ∧ Offers eligible s then
      some { s with
        main := if s.main = .send then .receive else .fill
        workers := s.workers.set worker (.probing s.next)
        next := s.next + 1
        inflight := s.inflight + 1
        log := .started s.next :: s.log }
    else none
  | .complete worker ok =>
    match s.workers[worker]? with
    | some (.probing candidate) =>
      some { s with
        workers := s.workers.set worker (.sending candidate ok)
        log := .completed candidate ok :: s.log }
    | _ => none
  | .deliver worker =>
    match s.workers[worker]? with
    | some (.sending candidate ok) =>
      if s.results.length < workerCount eligible then
        some { s with
          workers := s.workers.set worker .idle
          results := s.results ++ [(candidate, ok)] }
      else none
    | _ => none
  | .leave worker =>
    if s.workers[worker]? = some .idle ∧ s.closed then
      some { s with workers := s.workers.set worker .left }
    else none

inductive Run (eligible : Nat) : List Action → State → Prop
  | init : Run eligible [] {}
  | step {actions : List Action} {s s' : State} {action : Action} (h : Run eligible actions s)
      (hstep : step eligible s action = some s') : Run eligible (actions ++ [action]) s'

section Steps

variable {eligible : Nat} {s s' : State}

inductive Change (eligible : Nat) (s : State) : State → Prop
  | cancel (hlive : s.cancelled = false) :
      Change eligible s { s with cancelled := true, log := .cancelled :: s.log }
  | giveUp (hmain : s.main = .start) (hgive : eligible = 0 ∨ s.cancelled = true) :
      Change eligible s { s with main := .returned none }
  | begin (hmain : s.main = .start) (hsome : eligible ≠ 0) :
      Change eligible s
        { s with main := .fill, workers := List.replicate (workerCount eligible) .idle }
  | filled (hmain : s.main = .fill)
      (hfull : s.next < eligible → workerCount eligible ≤ s.inflight) :
      Change eligible s { s with main := .receive }
  | noneLeft (hmain : s.main = .receive) (hnone : s.inflight = 0) :
      Change eligible s { s with main := .join none, closed := true }
  | receive (hmain : s.main = .receive) {candidate : Nat} {ok : Bool}
      {results : List (Nat × Bool)} (hresults : s.results = (candidate, ok) :: results)
      (hinflight : s.inflight ≠ 0) :
      Change eligible s
        { s with main := .judge candidate ok, results, inflight := s.inflight - 1 }
  | select {candidate : Nat} (hmain : s.main = .judge candidate true)
      (hlive : s.cancelled = false) :
      Change eligible s
        { s with main := .join (some candidate), closed := true
                 log := .judged candidate true :: s.log }
  | discard {candidate : Nat} {ok : Bool} (hmain : s.main = .judge candidate ok)
      (hbad : ok = true → s.cancelled = true) :
      Change eligible s { s with main := .refill, log := .judged candidate ok :: s.log }
  | offer (hmain : s.main = .refill) (hnext : s.next < eligible) :
      Change eligible s { s with main := .send }
  | onward (hmain : s.main = .refill) (hend : s.next < eligible → s.cancelled = true) :
      Change eligible s { s with main := .receive }
  | ended {selected : Option Nat} (hmain : s.main = .join selected)
      (hleft : ∀ worker ∈ s.workers, worker = .left) :
      Change eligible s { s with main := .returned selected }
  | take {worker : Nat} (hidle : s.workers[worker]? = some .idle) (hoffers : Offers eligible s) :
      Change eligible s
        { s with main := if s.main = .send then .receive else .fill
                 workers := s.workers.set worker (.probing s.next)
                 next := s.next + 1
                 inflight := s.inflight + 1
                 log := .started s.next :: s.log }
  | complete {worker candidate : Nat} {ok : Bool}
      (hprobing : s.workers[worker]? = some (.probing candidate)) :
      Change eligible s
        { s with workers := s.workers.set worker (.sending candidate ok)
                 log := .completed candidate ok :: s.log }
  | deliver {worker candidate : Nat} {ok : Bool}
      (hsending : s.workers[worker]? = some (.sending candidate ok))
      (hroom : s.results.length < workerCount eligible) :
      Change eligible s
        { s with workers := s.workers.set worker .idle
                 results := s.results ++ [(candidate, ok)] }
  | leave {worker : Nat} (hidle : s.workers[worker]? = some .idle) (hclosed : s.closed = true) :
      Change eligible s { s with workers := s.workers.set worker .left }

theorem change_of_mainStep (h : mainStep eligible s = some s') : Change eligible s s' := by
  cases hmain : s.main with
  | start =>
    simp only [mainStep, hmain] at h
    split at h
    · rename_i hgive
      obtain rfl := Option.some.inj h
      exact .giveUp hmain hgive
    · rename_i hgo
      obtain rfl := Option.some.inj h
      exact .begin hmain fun hzero => hgo (.inl hzero)
  | fill =>
    simp only [mainStep, hmain, Option.ite_none_left_eq_some] at h
    obtain ⟨hfull, h⟩ := h
    obtain rfl := Option.some.inj h
    exact .filled hmain fun hnext => by omega
  | receive =>
    simp only [mainStep, hmain] at h
    split at h
    · rename_i hnone
      obtain rfl := Option.some.inj h
      exact .noneLeft hmain hnone
    · rename_i hinflight
      cases hresults : s.results with
      | nil =>
        rw [hresults] at h
        cases h
      | cons result results =>
        rw [hresults] at h
        obtain rfl := Option.some.inj h
        exact .receive hmain hresults hinflight
  | judge candidate ok =>
    simp only [mainStep, hmain] at h
    split at h
    · rename_i hgood
      obtain rfl := Option.some.inj h
      obtain ⟨rfl, hlive⟩ := hgood
      exact .select hmain (by simpa using hlive)
    · rename_i hbad
      obtain rfl := Option.some.inj h
      exact .discard hmain fun hok => by simpa [hok] using hbad
  | refill =>
    simp only [mainStep, hmain] at h
    split at h
    · rename_i hmore
      obtain rfl := Option.some.inj h
      exact .offer hmain hmore.1
    · rename_i hend
      obtain rfl := Option.some.inj h
      exact .onward hmain fun hnext => by simpa [hnext] using hend
  | send => simp [mainStep, hmain] at h
  | join selected =>
    simp only [mainStep, hmain, Option.ite_none_right_eq_some] at h
    obtain ⟨hleft, h⟩ := h
    obtain rfl := Option.some.inj h
    exact .ended hmain hleft
  | returned selected => simp [mainStep, hmain] at h

theorem change_of_step {action : Action} (h : step eligible s action = some s') :
    Change eligible s s' := by
  cases action with
  | cancel =>
    simp only [step, Option.ite_none_left_eq_some] at h
    obtain ⟨hlive, h⟩ := h
    obtain rfl := Option.some.inj h
    exact .cancel (by simpa using hlive)
  | main => exact change_of_mainStep h
  | take worker =>
    simp only [step, Option.ite_none_right_eq_some] at h
    obtain ⟨⟨hidle, hoffers⟩, h⟩ := h
    obtain rfl := Option.some.inj h
    exact .take hidle hoffers
  | complete worker ok =>
    simp only [step] at h
    split at h
    · rename_i candidate hprobing
      obtain rfl := Option.some.inj h
      exact .complete hprobing
    · cases h
  | deliver worker =>
    simp only [step] at h
    split at h
    · rename_i candidate ok hsending
      rw [Option.ite_none_right_eq_some] at h
      obtain ⟨hroom, h⟩ := h
      obtain rfl := Option.some.inj h
      exact .deliver hsending hroom
    · cases h
  | leave worker =>
    simp only [step, Option.ite_none_right_eq_some] at h
    obtain ⟨⟨hidle, hclosed⟩, h⟩ := h
    obtain rfl := Option.some.inj h
    exact .leave hidle hclosed

end Steps

theorem run_of_foldlM {eligible : Nat} {actions : List Action} {s : State}
    (h : actions.foldlM (step eligible) {} = some s) : Run eligible actions s := by
  induction actions using List.reverseRecOn generalizing s with
  | nil =>
    obtain rfl := Option.some.inj h
    exact .init
  | append_singleton actions action ih =>
    rw [List.foldlM_append] at h
    obtain ⟨s', hs', hstep⟩ := Option.bind_eq_some_iff.mp h
    exact .step (ih hs') (by simpa using hstep)

section Balance

variable {eligible : Nat} {s s' : State}

def Worker.load : Worker → Nat
  | .probing _ => 1
  | .sending _ _ => 1
  | _ => 0

def busy (s : State) : Nat := (s.workers.map Worker.load).sum

def Staffed (eligible : Nat) (s : State) : Prop :=
  s.workers.length = workerCount eligible ∧ .left ∉ s.workers ∧ s.closed = false

def Phase (eligible : Nat) (s : State) : Main → Prop
  | .start => s.workers = [] ∧ s.next = 0 ∧ s.inflight = 0 ∧ s.closed = false
  | .fill => Staffed eligible s
  | .receive =>
    Staffed eligible s ∧ (s.cancelled = false → s.next < eligible → s.inflight ≠ 0)
  | .judge _ _ => Staffed eligible s ∧ s.inflight < workerCount eligible
  | .refill => Staffed eligible s ∧ s.inflight < workerCount eligible
  | .send => Staffed eligible s ∧ s.inflight < workerCount eligible ∧ s.next < eligible
  | .join none =>
    s.closed = true ∧ s.inflight = 0 ∧ (s.cancelled = false → s.next = eligible)
  | .join (some _) => s.closed = true
  | .returned none => s.inflight = 0 ∧ (s.cancelled = false → s.next = eligible)
  | .returned (some _) => True

/-- The calling part counts the jobs of the workers and the results on their way. -/
structure Balanced (eligible : Nat) (s : State) : Prop where
  inflight : busy s + s.results.length = s.inflight
  inflight_le : s.inflight ≤ workerCount eligible
  next_le : s.next ≤ eligible
  workers_le : s.workers.length ≤ workerCount eligible
  phase : Phase eligible s s.main

theorem busy_set {s : State} {i : Nat} {worker worker' : Worker}
    (h : s.workers[i]? = some worker) :
    ((s.workers.set i worker').map Worker.load).sum + worker.load = busy s + worker'.load :=
  sum_map_set h Worker.load

theorem workerCount_pos (h : eligible ≠ 0) : 0 < workerCount eligible := by
  unfold workerCount maxConcurrentFederationProbes
  omega

theorem Staffed.set (h : Staffed eligible s) (i : Nat) (worker : Worker)
    (hstay : worker ≠ .left) :
    (s.workers.set i worker).length = workerCount eligible ∧ .left ∉ s.workers.set i worker := by
  refine ⟨by rw [List.length_set, h.1], fun hleft => ?_⟩
  rcases List.mem_or_eq_of_mem_set hleft with hleft | heq
  · exact h.2.1 hleft
  · exact hstay heq.symm

theorem Phase.keep {m : Main} (h : Phase eligible s m)
    (hstaffed : Staffed eligible s → Staffed eligible s')
    (hworkers : s.workers = [] → s'.workers = []) (hnext : s'.next = s.next)
    (hinflight : s'.inflight = s.inflight) (hclosed : s'.closed = s.closed)
    (hcancelled : s'.cancelled = false → s.cancelled = false) : Phase eligible s' m := by
  cases m with
  | start =>
    exact ⟨hworkers h.1, hnext.trans h.2.1, hinflight.trans h.2.2.1, hclosed.trans h.2.2.2⟩
  | fill => exact hstaffed h
  | receive =>
    refine ⟨hstaffed h.1, fun hlive hmore => ?_⟩
    rw [hinflight]
    exact h.2 (hcancelled hlive) (hnext ▸ hmore)
  | judge candidate ok => exact ⟨hstaffed h.1, hinflight ▸ h.2⟩
  | refill => exact ⟨hstaffed h.1, hinflight ▸ h.2⟩
  | send => exact ⟨hstaffed h.1, hinflight ▸ h.2.1, hnext ▸ h.2.2⟩
  | join selected =>
    cases selected with
    | none =>
      refine ⟨hclosed.trans h.1, hinflight.trans h.2.1, fun hlive => ?_⟩
      exact hnext.trans (h.2.2 (hcancelled hlive))
    | some candidate => exact hclosed.trans h
  | returned selected =>
    cases selected with
    | none => exact ⟨hinflight.trans h.1, fun hlive => hnext.trans (h.2 (hcancelled hlive))⟩
    | some candidate => trivial

theorem Balanced.change (h : Balanced eligible s) (hc : Change eligible s s') :
    Balanced eligible s' := by
  have hphase := h.phase
  have hinflightLe := h.inflight_le
  cases hc with
  | cancel hlive =>
    refine ⟨h.inflight, h.inflight_le, h.next_le, h.workers_le, ?_⟩
    exact hphase.keep id id rfl rfl rfl (fun hlive' => by cases hlive')
  | giveUp hmain hgive =>
    rw [hmain] at hphase
    refine ⟨h.inflight, h.inflight_le, h.next_le, h.workers_le, hphase.2.2.1, fun hlive => ?_⟩
    rcases hgive with hzero | hcancelled
    · exact hphase.2.1.trans hzero.symm
    · exact absurd (hcancelled.symm.trans hlive) (by decide)
  | begin hmain hsome =>
    rw [hmain] at hphase
    obtain ⟨hworkers, hnext, hinflight, hclosed⟩ := hphase
    have hsum := h.inflight
    rw [hinflight] at hsum
    refine ⟨?_, h.inflight_le, h.next_le, List.length_replicate.le, List.length_replicate, ?_,
      hclosed⟩
    · show ((List.replicate (workerCount eligible) Worker.idle).map Worker.load).sum +
        s.results.length = s.inflight
      simp only [List.map_replicate, List.sum_replicate_nat, Worker.load, Nat.mul_zero]
      omega
    · intro hleft
      cases List.eq_of_mem_replicate hleft
  | filled hmain hfull =>
    rw [hmain] at hphase
    refine ⟨h.inflight, h.inflight_le, h.next_le, h.workers_le, hphase, fun _ hmore => ?_⟩
    have := hfull hmore
    have := workerCount_pos (show eligible ≠ 0 by omega)
    show s.inflight ≠ 0
    omega
  | noneLeft hmain hnone =>
    rw [hmain] at hphase
    refine ⟨h.inflight, h.inflight_le, h.next_le, h.workers_le, rfl, hnone, fun hlive => ?_⟩
    show s.next = eligible
    by_contra hne
    have hle := h.next_le
    exact hphase.2 hlive (by omega) hnone
  | @receive hmain candidate ok results hresults hinflight =>
    rw [hmain] at hphase
    have hsum := h.inflight
    rw [hresults, List.length_cons] at hsum
    refine ⟨?_, ?_, h.next_le, h.workers_le, hphase.1, ?_⟩
    · show busy s + results.length = s.inflight - 1
      omega
    · show s.inflight - 1 ≤ _
      omega
    · show s.inflight - 1 < _
      omega
  | select hmain hlive =>
    exact ⟨h.inflight, h.inflight_le, h.next_le, h.workers_le, rfl⟩
  | discard hmain hbad =>
    rw [hmain] at hphase
    exact ⟨h.inflight, h.inflight_le, h.next_le, h.workers_le, hphase⟩
  | offer hmain hnext =>
    rw [hmain] at hphase
    exact ⟨h.inflight, h.inflight_le, h.next_le, h.workers_le, hphase.1, hphase.2, hnext⟩
  | onward hmain hend =>
    rw [hmain] at hphase
    refine ⟨h.inflight, h.inflight_le, h.next_le, h.workers_le, hphase.1, ?_⟩
    intro hlive hmore
    exact absurd ((hend hmore).symm.trans hlive) (by decide)
  | @ended selected hmain hleft =>
    rw [hmain] at hphase
    refine ⟨h.inflight, h.inflight_le, h.next_le, h.workers_le, ?_⟩
    cases selected with
    | none => exact hphase.2
    | some candidate => trivial
  | @take worker hidle hoffers =>
    have hload := @busy_set _ _ _ (.probing s.next) hidle
    have hsum := h.inflight
    simp only [Worker.load, Nat.add_zero] at hload
    have hstaffed : Staffed eligible s ∧ s.inflight < workerCount eligible ∧
        s.next < eligible := by
      rcases hoffers with hmain | ⟨hmain, hmore, hroom⟩
      · rw [hmain] at hphase
        exact hphase
      · rw [hmain] at hphase
        exact ⟨hphase, hroom, hmore⟩
    obtain ⟨hstaffed, hroom, hmore⟩ := hstaffed
    refine ⟨?_, hroom, hmore, ?_, ?_⟩
    · show ((s.workers.set worker (.probing s.next)).map Worker.load).sum + s.results.length =
        s.inflight + 1
      omega
    · rw [List.length_set]
      exact h.workers_le
    · have hstaffed' := hstaffed.set worker (.probing s.next) (by simp)
      rcases hoffers with hmain | ⟨hmain, _⟩
      · rw [hmain]
        exact ⟨⟨hstaffed'.1, hstaffed'.2, hstaffed.2.2⟩, fun _ _ => Nat.succ_ne_zero _⟩
      · rw [hmain]
        exact ⟨hstaffed'.1, hstaffed'.2, hstaffed.2.2⟩
  | @complete worker candidate ok hprobing =>
    have hload := @busy_set _ _ _ (.sending candidate ok) hprobing
    have hsum := h.inflight
    simp only [Worker.load] at hload
    refine ⟨?_, h.inflight_le, h.next_le, ?_, ?_⟩
    · show ((s.workers.set worker (.sending candidate ok)).map Worker.load).sum +
        s.results.length = s.inflight
      omega
    · rw [List.length_set]
      exact h.workers_le
    · refine hphase.keep (fun hstaffed => ?_) (fun hnil => ?_) rfl rfl rfl id
      · have hset := hstaffed.set worker (.sending candidate ok) (by simp)
        exact ⟨hset.1, hset.2, hstaffed.2.2⟩
      · simp [hnil]
  | @deliver worker candidate ok hsending hroom =>
    have hload := @busy_set _ _ _ .idle hsending
    have hsum := h.inflight
    simp only [Worker.load] at hload
    refine ⟨?_, h.inflight_le, h.next_le, ?_, ?_⟩
    · show ((s.workers.set worker .idle).map Worker.load).sum +
        (s.results ++ [(candidate, ok)]).length = s.inflight
      rw [List.length_append, List.length_singleton]
      omega
    · rw [List.length_set]
      exact h.workers_le
    · refine hphase.keep (fun hstaffed => ?_) (fun hnil => ?_) rfl rfl rfl id
      · have hset := hstaffed.set worker .idle (by decide)
        exact ⟨hset.1, hset.2, hstaffed.2.2⟩
      · simp [hnil]
  | @leave worker hidle hclosed =>
    have hload := @busy_set _ _ _ .left hidle
    have hsum := h.inflight
    simp only [Worker.load] at hload
    refine ⟨?_, h.inflight_le, h.next_le, ?_, ?_⟩
    · show ((s.workers.set worker .left).map Worker.load).sum + s.results.length = s.inflight
      omega
    · rw [List.length_set]
      exact h.workers_le
    · refine hphase.keep (fun hstaffed => ?_) (fun hnil => ?_) rfl rfl rfl id
      · exact absurd (hclosed.symm.trans hstaffed.2.2) (by decide)
      · simp [hnil]

theorem Run.balanced {actions : List Action} (h : Run eligible actions s) :
    Balanced eligible s := by
  induction h with
  | init =>
    exact ⟨rfl, Nat.zero_le _, Nat.zero_le _, Nat.zero_le _, rfl, rfl, rfl, rfl⟩
  | step _ hstep ih => exact ih.change (change_of_step hstep)

end Balance

section Termination

variable {eligible : Nat} {s s' : State}

def Worker.weight : Worker → Nat
  | .probing _ => 8
  | .sending _ _ => 7
  | .idle => 1
  | .left => 0

def Main.weight : Main → Nat
  | .start => 11
  | .fill => 7
  | .judge _ _ => 6
  | .refill => 5
  | .send => 4
  | .receive => 2
  | .join _ => 1
  | .returned _ => 0

/-- What is still to be done, each part with the parts that follow from it. -/
def measure (eligible : Nat) (s : State) : Nat :=
  s.main.weight + (s.workers.map Worker.weight).sum + 5 * s.results.length +
    10 * (eligible - s.next) + if s.cancelled then 0 else 1

theorem weight_set {s : State} {i : Nat} {worker worker' : Worker}
    (h : s.workers[i]? = some worker) :
    ((s.workers.set i worker').map Worker.weight).sum + worker.weight =
      (s.workers.map Worker.weight).sum + worker'.weight :=
  sum_map_set h Worker.weight

theorem measure_change (h : Balanced eligible s) (hc : Change eligible s s') :
    measure eligible s' < measure eligible s := by
  have hphase := h.phase
  cases hc with
  | cancel hlive =>
    simp only [measure, hlive, if_true, Bool.false_eq_true, if_false]
    omega
  | giveUp hmain hgive => simp only [measure, hmain, Main.weight]; omega
  | begin hmain hsome =>
    rw [hmain] at hphase
    have hcount : workerCount eligible ≤ 3 := Nat.min_le_left _ _
    simp only [measure, hmain, Main.weight, hphase.1, List.map_replicate,
      List.sum_replicate_nat, Worker.weight, Nat.mul_one, List.map_nil, List.sum_nil]
    omega
  | filled hmain hfull => simp only [measure, hmain, Main.weight]; omega
  | noneLeft hmain hnone => simp only [measure, hmain, Main.weight]; omega
  | receive hmain hresults hinflight =>
    simp only [measure, hmain, Main.weight, hresults, List.length_cons]
    omega
  | select hmain hlive => simp only [measure, hmain, Main.weight]; omega
  | discard hmain hbad => simp only [measure, hmain, Main.weight]; omega
  | offer hmain hnext => simp only [measure, hmain, Main.weight]; omega
  | onward hmain hend => simp only [measure, hmain, Main.weight]; omega
  | ended hmain hleft => simp only [measure, hmain, Main.weight]; omega
  | @take worker hidle hoffers =>
    have hweight := @weight_set _ _ _ (.probing s.next) hidle
    simp only [Worker.weight] at hweight
    have hmain : (if s.main = .send then Main.receive else Main.fill).weight ≤
        s.main.weight ∧ s.next < eligible := by
      rcases hoffers with hmain | ⟨hmain, hmore, _⟩
      · rw [hmain] at hphase
        simpa [hmain, Main.weight] using hphase.2.2
      · simpa [hmain, Main.weight] using hmore
    simp only [measure]
    omega
  | @complete worker candidate ok hprobing =>
    have hweight := @weight_set _ _ _ (.sending candidate ok) hprobing
    simp only [Worker.weight] at hweight
    simp only [measure]
    omega
  | @deliver worker candidate ok hsending hroom =>
    have hweight := @weight_set _ _ _ .idle hsending
    simp only [Worker.weight] at hweight
    simp only [measure, List.length_append, List.length_singleton]
    omega
  | @leave worker hidle hclosed =>
    have hweight := @weight_set _ _ _ .left hidle
    simp only [Worker.weight] at hweight
    simp only [measure]
    omega

theorem Run.length_le {actions : List Action} (h : Run eligible actions s) :
    actions.length + measure eligible s ≤ 12 + 10 * eligible := by
  induction h with
  | init =>
    have hsum : (([] : List Worker).map Worker.weight).sum = 0 := rfl
    simp only [measure, Main.weight, hsum, List.length_nil, Bool.false_eq_true, if_false]
    omega
  | step hrun hstep ih =>
    have hlt := measure_change hrun.balanced (change_of_step hstep)
    rw [List.length_append, List.length_singleton]
    omega

end Termination

section Progress

variable {eligible : Nat} {s : State}

theorem exists_idle {workers : List Worker} (hleft : .left ∉ workers)
    (hbusy : (workers.map Worker.load).sum < workers.length) :
    ∃ i : Nat, workers[i]? = some .idle := by
  induction workers with
  | nil => simp at hbusy
  | cons worker workers ih =>
    rw [List.mem_cons, not_or] at hleft
    rw [List.map_cons, List.sum_cons, List.length_cons] at hbusy
    cases worker with
    | idle => exact ⟨0, rfl⟩
    | left => exact absurd rfl hleft.1
    | probing candidate =>
      simp only [Worker.load] at hbusy
      obtain ⟨i, hi⟩ := ih hleft.2 (by omega)
      exact ⟨i + 1, hi⟩
    | sending candidate ok =>
      simp only [Worker.load] at hbusy
      obtain ⟨i, hi⟩ := ih hleft.2 (by omega)
      exact ⟨i + 1, hi⟩

theorem busy_pos {worker : Worker} (h : worker ∈ s.workers) (hload : worker.load ≠ 0) :
    0 < busy s :=
  List.sum_pos_iff_exists_pos_nat.mpr
    ⟨worker.load, List.mem_map_of_mem h, Nat.pos_of_ne_zero hload⟩

/-- A worker with a job can go on: there is room for its result. -/
theorem Balanced.exists_step_of_busy (h : Balanced eligible s) {worker : Worker} {i : Nat}
    (hget : s.workers[i]? = some worker) (hload : worker.load ≠ 0) :
    ∃ action, action ≠ .cancel ∧ (step eligible s action).isSome := by
  cases worker with
  | idle => exact absurd rfl hload
  | left => exact absurd rfl hload
  | probing candidate =>
    refine ⟨.complete i true, by simp, ?_⟩
    simp only [step, hget, Option.isSome_some]
  | sending candidate ok =>
    have hpos := busy_pos (List.mem_of_getElem? hget) hload
    have hsum := h.inflight
    have hinflight := h.inflight_le
    have hlength : s.results.length < workerCount eligible := by omega
    refine ⟨.deliver i, by simp, ?_⟩
    simp only [step, hget, if_pos hlength, Option.isSome_some]

theorem Balanced.exists_take (h : Balanced eligible s) (hoffers : Offers eligible s)
    (hstaffed : Staffed eligible s) (hroom : s.inflight < workerCount eligible) :
    ∃ action, action ≠ .cancel ∧ (step eligible s action).isSome := by
  have hsum := h.inflight
  have hlength := hstaffed.1
  obtain ⟨i, hidle⟩ := exists_idle hstaffed.2.1 (show busy s < s.workers.length by omega)
  refine ⟨.take i, by simp, ?_⟩
  simp only [step, if_pos (And.intro hidle hoffers), Option.isSome_some]

theorem Balanced.progress (h : Balanced eligible s)
    (hreturned : ∀ selected, s.main ≠ .returned selected) :
    ∃ action, action ≠ .cancel ∧ (step eligible s action).isSome := by
  have hphase := h.phase
  cases hmain : s.main with
  | start =>
    refine ⟨.main, by decide, ?_⟩
    simp only [step, mainStep, hmain]
    split <;> rfl
  | fill =>
    rw [hmain] at hphase
    by_cases hmore : s.next < eligible ∧ s.inflight < workerCount eligible
    · exact h.exists_take (.inr ⟨hmain, hmore⟩) hphase hmore.2
    · refine ⟨.main, by decide, ?_⟩
      simp only [step, mainStep, hmain, if_neg hmore, Option.isSome_some]
  | receive =>
    by_cases hnone : s.inflight = 0
    · refine ⟨.main, by decide, ?_⟩
      simp only [step, mainStep, hmain, if_pos hnone, Option.isSome_some]
    cases hresults : s.results with
    | cons result results =>
      refine ⟨.main, by decide, ?_⟩
      simp only [step, mainStep, hmain, hresults, if_neg hnone, Option.isSome_some]
    | nil =>
      have hsum := h.inflight
      rw [hresults, List.length_nil] at hsum
      obtain ⟨load, hmem, hload⟩ :=
        List.sum_pos_iff_exists_pos_nat.mp (show 0 < busy s by omega)
      obtain ⟨worker, hworker, rfl⟩ := List.mem_map.mp hmem
      obtain ⟨i, hget⟩ := List.mem_iff_getElem?.mp hworker
      exact h.exists_step_of_busy hget hload.ne'
  | judge candidate ok =>
    refine ⟨.main, by decide, ?_⟩
    simp only [step, mainStep, hmain]
    split <;> rfl
  | refill =>
    refine ⟨.main, by decide, ?_⟩
    simp only [step, mainStep, hmain]
    split <;> rfl
  | send =>
    rw [hmain] at hphase
    exact h.exists_take (.inl hmain) hphase.1 hphase.2.1
  | join selected =>
    rw [hmain] at hphase
    have hclosed : s.closed = true := by
      cases selected with
      | none => exact hphase.1
      | some candidate => exact hphase
    by_cases hleft : ∀ worker ∈ s.workers, worker = .left
    · refine ⟨.main, by decide, ?_⟩
      simp only [step, mainStep, hmain, if_pos hleft, Option.isSome_some]
    push Not at hleft
    obtain ⟨worker, hworker, hne⟩ := hleft
    obtain ⟨i, hget⟩ := List.mem_iff_getElem?.mp hworker
    cases worker with
    | left => exact absurd rfl hne
    | idle =>
      refine ⟨.leave i, by simp, ?_⟩
      simp only [step, if_pos (And.intro hget hclosed), Option.isSome_some]
    | probing candidate => exact h.exists_step_of_busy hget (Nat.succ_ne_zero 0)
    | sending candidate ok => exact h.exists_step_of_busy hget (Nat.succ_ne_zero 0)
  | returned selected => exact absurd hmain (hreturned selected)

end Progress

section Log

variable {eligible : Nat} {s s' : State}

def Event.started? : Event → Option Nat
  | .started candidate => some candidate
  | _ => none

def Main.selected : Main → Option Nat
  | .join selected => selected
  | .returned selected => selected
  | _ => none

def Before (event : Event) (log : List Event) : Prop :=
  ∃ later earlier, log = later ++ event :: earlier ∧ .cancelled ∉ earlier

theorem before_cons {event event' : Event} {log : List Event} :
    Before event (event' :: log) ↔ event' = event ∧ .cancelled ∉ log ∨ Before event log := by
  constructor
  · rintro ⟨later, earlier, heq, hlive⟩
    cases later with
    | nil =>
      obtain ⟨rfl, rfl⟩ := List.cons.inj heq
      exact .inl ⟨rfl, hlive⟩
    | cons event'' later =>
      obtain ⟨rfl, rfl⟩ := List.cons.inj heq
      exact .inr ⟨later, earlier, rfl, hlive⟩
  · rintro (⟨rfl, hlive⟩ | ⟨later, earlier, rfl, hlive⟩)
    · exact ⟨[], log, rfl, hlive⟩
    · exact ⟨event' :: later, earlier, rfl, hlive⟩

theorem before_cons_of_ne {event event' : Event} {log : List Event} (hne : event' ≠ event) :
    Before event (event' :: log) ↔ Before event log := by
  rw [before_cons]
  exact ⟨fun h => h.resolve_left fun ⟨heq, _⟩ => hne heq, .inr⟩

theorem before_of_mem {event : Event} {log : List Event} (h : event ∈ log)
    (hlive : .cancelled ∉ log) : Before event log := by
  obtain ⟨later, earlier, rfl⟩ := List.append_of_mem h
  exact ⟨later, earlier, rfl, fun hearlier => hlive (by simp [hearlier])⟩

theorem Before.mem {event : Event} {log : List Event} (h : Before event log) : event ∈ log := by
  obtain ⟨later, earlier, rfl, _⟩ := h
  simp

def Held (s : State) (candidate : Nat) (ok : Bool) : Prop :=
  .sending candidate ok ∈ s.workers ∨ (candidate, ok) ∈ s.results ∨
    s.main = .judge candidate ok ∨ .judged candidate ok ∈ s.log

structure Told (s : State) : Prop where
  started : s.log.filterMap Event.started? = (List.range s.next).reverse
  cancelled : s.cancelled = true ↔ .cancelled ∈ s.log
  completed (candidate : Nat) (ok : Bool) :
    .completed candidate ok ∈ s.log ↔ Held s candidate ok
  selected (candidate : Nat) :
    s.main.selected = some candidate ↔ Before (.judged candidate true) s.log
  succeeded (candidate : Nat) :
    s.main.selected = some candidate → Before (.completed candidate true) s.log

theorem Told.not_cancelled (h : Told s) (hlive : s.cancelled = false) : .cancelled ∉ s.log :=
  fun hmem => absurd (hlive.symm.trans (h.cancelled.mpr hmem)) (by decide)

theorem sending_mem_set {i : Nat} {worker worker' : Worker}
    (hget : s.workers[i]? = some worker) {candidate : Nat} {ok : Bool}
    (hne : worker ≠ .sending candidate ok) (hne' : worker' ≠ .sending candidate ok) :
    .sending candidate ok ∈ s.workers ↔ .sending candidate ok ∈ s.workers.set i worker' := by
  have h := @eq_or_mem_set_iff _ _ _ _ worker' hget (.sending candidate ok)
  rw [or_iff_right hne.symm, or_iff_right hne'.symm] at h
  exact h.symm

theorem Told.moved (h : Told s) {m : Main} (hselected : m.selected = s.main.selected)
    (hjudge : ∀ candidate ok, s.main ≠ .judge candidate ok ∧ m ≠ .judge candidate ok)
    (closed : Bool) : Told { s with main := m, closed } := by
  refine ⟨h.started, h.cancelled, fun candidate ok => ?_, fun candidate => ?_,
    fun candidate hsome => ?_⟩
  · rw [h.completed, Held, Held, or_iff_right (hjudge candidate ok).1,
      or_iff_right (hjudge candidate ok).2]
  · show m.selected = _ ↔ _
    rw [hselected]
    exact h.selected candidate
  · exact h.succeeded candidate (hselected ▸ hsome)

theorem Told.workers (h : Told s) {workers : List Worker} (hworkers : ∀ candidate ok,
    .sending candidate ok ∈ s.workers ↔ .sending candidate ok ∈ workers) :
    Told { s with workers } := by
  refine ⟨h.started, h.cancelled, fun candidate ok => ?_, h.selected, h.succeeded⟩
  rw [h.completed, Held, Held, hworkers]

theorem Told.judged (h : Told s) {candidate : Nat} {ok : Bool}
    (hmain : s.main = .judge candidate ok) {m : Main} (hm : ∀ c o, m ≠ .judge c o)
    (hselected : ∀ c, m.selected = some c ↔ c = candidate ∧ ok = true ∧ s.cancelled = false)
    (closed : Bool) :
    Told { s with main := m, closed, log := .judged candidate ok :: s.log } := by
  have hnone (c : Nat) : ¬ Before (.judged c true) s.log := by
    rw [← h.selected, hmain]
    simp [Main.selected]
  refine ⟨h.started, ?_, fun c o => ?_, fun c => ?_, fun c hsome => ?_⟩
  · rw [h.cancelled, List.mem_cons]
    simp
  · have hcompleted := h.completed c o
    rw [Held, hmain] at hcompleted
    rw [List.mem_cons, or_iff_right (by simp), hcompleted, Held, or_iff_right (hm c o),
      List.mem_cons]
    simp only [Main.judge.injEq, Event.judged.injEq, eq_comm]
  · show m.selected = _ ↔ _
    rw [hselected, before_cons, or_iff_left (hnone c), ← h.cancelled]
    simp only [Event.judged.injEq, Bool.not_eq_true]
    constructor
    · rintro ⟨rfl, hok, hlive⟩
      exact ⟨⟨rfl, hok⟩, hlive⟩
    · rintro ⟨⟨rfl, hok⟩, hlive⟩
      exact ⟨rfl, hok, hlive⟩
  · obtain ⟨rfl, rfl, hlive⟩ := (hselected c).mp hsome
    rw [before_cons_of_ne (by simp)]
    refine before_of_mem ?_ (h.not_cancelled hlive)
    exact (h.completed c true).mpr (.inr (.inr (.inl hmain)))

theorem Told.change (h : Told s) (hb : Balanced eligible s) (hc : Change eligible s s') :
    Told s' := by
  cases hc with
  | cancel hlive =>
    refine ⟨h.started, by simp, fun candidate ok => ?_, fun candidate => ?_,
      fun candidate hsome => ?_⟩
    · rw [List.mem_cons, or_iff_right (by simp), h.completed, Held, Held, List.mem_cons,
        @or_iff_right (.judged candidate ok = Event.cancelled) _ (by simp)]
    · rw [before_cons_of_ne (by simp)]
      exact h.selected candidate
    · rw [before_cons_of_ne (by simp)]
      exact h.succeeded candidate hsome
  | giveUp hmain hgive =>
    exact h.moved (by simp [hmain, Main.selected]) (by simp [hmain]) s.closed
  | begin hmain hsome =>
    have hphase := hb.phase
    rw [hmain] at hphase
    have hmoved : Told { s with main := .fill } :=
      h.moved (by simp [hmain, Main.selected]) (by simp [hmain]) s.closed
    refine hmoved.workers fun candidate ok => ?_
    simp [hphase.1]
  | filled hmain hfull =>
    exact h.moved (by simp [hmain, Main.selected]) (by simp [hmain]) s.closed
  | noneLeft hmain hnone => exact h.moved (by simp [hmain, Main.selected]) (by simp [hmain]) true
  | @receive hmain candidate ok results hresults hinflight =>
    refine ⟨h.started, h.cancelled, fun c o => ?_, fun c => ?_, fun c hsome => ?_⟩
    · rw [h.completed, Held, Held, hresults, hmain, List.mem_cons]
      simp only [Main.judge.injEq, Prod.mk.injEq, reduceCtorEq, false_or]
      tauto
    · rw [← h.selected, hmain]
      simp [Main.selected]
    · cases hsome
  | select hmain hlive =>
    exact h.judged hmain (by simp) (by simp [Main.selected, hlive, eq_comm]) true
  | discard hmain hbad =>
    refine h.judged hmain (by simp) (fun c => ?_) s.closed
    simp only [Main.selected, reduceCtorEq, false_iff]
    rintro ⟨rfl, hok, hlive⟩
    exact absurd ((hbad hok).symm.trans hlive) (by decide)
  | offer hmain hnext => exact h.moved (by simp [hmain, Main.selected]) (by simp [hmain]) s.closed
  | onward hmain hend => exact h.moved (by simp [hmain, Main.selected]) (by simp [hmain]) s.closed
  | ended hmain hleft => exact h.moved (by simp [hmain, Main.selected]) (by simp [hmain]) s.closed
  | @take worker hidle hoffers =>
    have hworkers (c : Nat) (o : Bool) := @sending_mem_set _ _ _ (.probing s.next) hidle c o
      (by simp) (by simp)
    have hmain : s.main = .send ∨ s.main = .fill := hoffers.imp_right And.left
    have hselected : s.main.selected = none := by
      rcases hmain with hmain | hmain <;> rw [hmain] <;> rfl
    have hselected' : (if s.main = .send then Main.receive else Main.fill).selected = none := by
      split <;> rfl
    refine ⟨?_, by rw [h.cancelled, List.mem_cons]; simp, fun c o => ?_, fun c => ?_,
      fun c hsome => ?_⟩
    · show (.started s.next :: s.log).filterMap Event.started? =
        (List.range (s.next + 1)).reverse
      rw [@List.filterMap_cons_some _ _ Event.started? (.started s.next) _ s.next rfl, h.started,
        List.range_succ, List.reverse_append]
      rfl
    · rw [List.mem_cons, or_iff_right (by simp), h.completed, Held, Held, ← hworkers,
        List.mem_cons, @or_iff_right (.judged c o = Event.started _) _ (by simp)]
      rcases hmain with hmain | hmain <;> simp [hmain]
    · rw [before_cons_of_ne (by simp), ← h.selected, hselected]
      exact iff_of_eq (congrArg (· = some c) hselected')
    · exact absurd (hselected'.symm.trans hsome) (by simp)
  | @complete worker candidate ok hprobing =>
    refine ⟨?_, by rw [h.cancelled, List.mem_cons]; simp, fun c o => ?_, fun c => ?_,
      fun c hsome => ?_⟩
    · rw [List.filterMap_cons_none rfl, h.started]
    · have hset := @eq_or_mem_set_iff _ _ _ _ (.sending candidate ok) hprobing (.sending c o)
      rw [or_iff_right (by simp)] at hset
      rw [List.mem_cons, h.completed, Held, Held, hset, List.mem_cons,
        @or_iff_right (.judged c o = Event.completed _ _) _ (by simp)]
      simp only [Worker.sending.injEq, Event.completed.injEq, or_assoc]
    · rw [before_cons_of_ne (by simp)]
      exact h.selected c
    · exact before_cons.mpr (.inr (h.succeeded c hsome))
  | @deliver worker candidate ok hsending hroom =>
    refine ⟨h.started, h.cancelled, fun c o => ?_, h.selected, h.succeeded⟩
    have hset := @eq_or_mem_set_iff _ _ _ _ .idle hsending (.sending c o)
    rw [@or_iff_right (.sending c o = Worker.idle) _ (by simp)] at hset
    rw [h.completed, Held, Held, ← hset, List.mem_append, List.mem_singleton]
    simp only [Worker.sending.injEq, Prod.mk.injEq]
    tauto
  | leave hidle hclosed =>
    exact h.workers fun candidate ok => sending_mem_set hidle (by simp) (by simp)

theorem Run.told {actions : List Action} (h : Run eligible actions s) : Told s := by
  induction h with
  | init =>
    refine ⟨rfl, by simp, fun c o => ?_, fun c => ?_, fun c hsome => ?_⟩
    · simp [Held]
    · refine ⟨fun hsome => ?_, fun hbefore => ?_⟩
      · cases hsome
      · cases hbefore.mem
    · cases hsome
  | step hrun hstep ih => exact ih.change hrun.balanced (change_of_step hstep)

structure Begun (s : State) : Prop where
  probing (candidate : Nat) : .probing candidate ∈ s.workers → candidate < s.next
  completed (candidate : Nat) (ok : Bool) : .completed candidate ok ∈ s.log → candidate < s.next

theorem Begun.change (h : Begun s) (hc : Change eligible s s') : Begun s' := by
  cases hc with
  | cancel hlive => exact ⟨h.probing, fun c o hmem => h.completed c o (by simpa using hmem)⟩
  | giveUp hmain hgive => exact ⟨h.probing, h.completed⟩
  | begin hmain hsome =>
    refine ⟨fun c hmem => ?_, h.completed⟩
    cases List.eq_of_mem_replicate hmem
  | filled hmain hfull => exact ⟨h.probing, h.completed⟩
  | noneLeft hmain hnone => exact ⟨h.probing, h.completed⟩
  | receive hmain hresults hinflight => exact ⟨h.probing, h.completed⟩
  | select hmain hlive => exact ⟨h.probing, fun c o hmem => h.completed c o (by simpa using hmem)⟩
  | discard hmain hbad => exact ⟨h.probing, fun c o hmem => h.completed c o (by simpa using hmem)⟩
  | offer hmain hnext => exact ⟨h.probing, h.completed⟩
  | onward hmain hend => exact ⟨h.probing, h.completed⟩
  | ended hmain hleft => exact ⟨h.probing, h.completed⟩
  | take hidle hoffers =>
    refine ⟨fun c hmem => ?_, fun c o hmem => ?_⟩
    · rcases List.mem_or_eq_of_mem_set hmem with hold | heq
      · exact Nat.lt_succ_of_lt (h.probing c hold)
      · rw [Worker.probing.inj heq]
        exact Nat.lt_succ_self _
    · exact Nat.lt_succ_of_lt (h.completed c o (by simpa using hmem))
  | complete hprobing =>
    refine ⟨fun c hmem => ?_, fun c o hmem => ?_⟩
    · rcases List.mem_or_eq_of_mem_set hmem with hold | heq
      · exact h.probing c hold
      · cases heq
    · rcases List.mem_cons.mp hmem with heq | hold
      · rw [(Event.completed.inj heq).1]
        exact h.probing _ (List.mem_of_getElem? hprobing)
      · exact h.completed c o hold
  | deliver hsending hroom =>
    refine ⟨fun c hmem => ?_, h.completed⟩
    rcases List.mem_or_eq_of_mem_set hmem with hold | heq
    · exact h.probing c hold
    · cases heq
  | leave hidle hclosed =>
    refine ⟨fun c hmem => ?_, h.completed⟩
    rcases List.mem_or_eq_of_mem_set hmem with hold | heq
    · exact h.probing c hold
    · cases heq

theorem Run.begun {actions : List Action} (h : Run eligible actions s) : Begun s := by
  induction h with
  | init =>
    refine ⟨fun c hmem => ?_, fun c o hmem => ?_⟩
    · cases hmem
    · cases hmem
  | step _ hstep ih => exact ih.change (change_of_step hstep)

theorem Run.isSome_iff_completed {actions : List Action} (h : Run eligible actions s)
    {selected : Option Nat} (hmain : s.main = .returned selected) (hlive : .cancelled ∉ s.log) :
    selected.isSome ↔ ∃ candidate, .completed candidate true ∈ s.log := by
  have htold := h.told
  have hselected : s.main.selected = selected := congrArg Main.selected hmain
  constructor
  · intro hsome
    obtain ⟨candidate, rfl⟩ := Option.isSome_iff_exists.mp hsome
    exact ⟨candidate, (htold.succeeded candidate hselected).mem⟩
  · rintro ⟨candidate, hcompleted⟩
    cases selected with
    | some candidate' => rfl
    | none =>
      -- nothing is in flight, so that the result was looked at
      have hphase := h.balanced.phase
      have hsum := h.balanced.inflight
      rw [hmain] at hphase
      rw [hphase.1] at hsum
      rcases (htold.completed candidate true).mp hcompleted with hheld | hheld | hheld | hheld
      · have := busy_pos hheld (Nat.succ_ne_zero 0)
        omega
      · have := List.length_pos_of_mem hheld
        omega
      · cases hmain.symm.trans hheld
      · have hbefore := (htold.selected candidate).mpr (before_of_mem hheld hlive)
        cases hselected.symm.trans hbefore

end Log

def Worker.isProbing : Worker → Bool
  | .probing _ => true
  | _ => false

def answer (eligible : List FederationCandidate) (selected : Option Nat) :
    Option FederationCandidate :=
  selected.bind (eligible[·]?)

theorem eligible_sublist (backoff : Backoff) (now : Int) (candidates : List FederationCandidate) :
    (backoff.eligible now candidates).2.Sublist candidates := by
  induction candidates generalizing backoff with
  | nil => exact .slnil
  | cons candidate candidates ih =>
    simp only [Backoff.eligible]
    split
    · exact (ih _).cons candidate
    · exact (ih _).cons_cons candidate

/-- A lookup of a peer ends, asks each of the candidates that it may ask at most once and three
at a time, and has a forwarder if it took the result of a probe that went well before the
caller gave up; it is a forwarder to the relay of such a probe. -/
theorem probeFederatedPeer_spec (backoff : Backoff) (now : Int)
    (candidates : List FederationCandidate) {actions : List Action} {s : State}
    (h : Run (backoff.eligible now candidates).2.length actions s) :
    actions.length ≤ 12 + 10 * candidates.length ∧
      ((∀ selected, s.main ≠ .returned selected) → ∃ action, action ≠ .cancel ∧
        (step (backoff.eligible now candidates).2.length s action).isSome) ∧
      (s.log.filterMap Event.started?).Nodup ∧
      (∀ i ∈ s.log.filterMap Event.started?, i < (backoff.eligible now candidates).2.length) ∧
      s.workers.countP Worker.isProbing ≤ 3 ∧
      ∀ selected, s.main = .returned selected →
        ((answer (backoff.eligible now candidates).2 selected).isSome ↔
          ∃ i, Before (.judged i true) s.log) ∧
        (.cancelled ∉ s.log → ((answer (backoff.eligible now candidates).2 selected).isSome ↔
          ∃ i, .completed i true ∈ s.log)) ∧
        ∀ candidate, answer (backoff.eligible now candidates).2 selected = some candidate →
          candidate ∈ candidates ∧ ∃ i, (backoff.eligible now candidates).2[i]? = some candidate ∧
            Before (.completed i true) s.log := by
  have hsublist := eligible_sublist backoff now candidates
  generalize (backoff.eligible now candidates).2 = eligible at h hsublist ⊢
  have htold := h.told
  have hbalanced := h.balanced
  have hnext := hbalanced.next_le
  refine ⟨?_, hbalanced.progress, ?_, fun i hi => ?_, ?_, fun selected hmain => ?_⟩
  · have hlength := h.length_le
    have hle := hsublist.length_le
    omega
  · rw [htold.started]
    exact List.nodup_reverse.mpr List.nodup_range
  · rw [htold.started, List.mem_reverse, List.mem_range] at hi
    omega
  · calc s.workers.countP Worker.isProbing
        ≤ s.workers.length := List.countP_le_length
      _ ≤ workerCount eligible.length := hbalanced.workers_le
      _ ≤ 3 := Nat.min_le_left _ _
  · have hselected : s.main.selected = selected := congrArg Main.selected hmain
    have hget (i : Nat) (hi : selected = some i) : i < eligible.length := by
      have hcompleted := (htold.succeeded i (hselected.trans hi)).mem
      have := h.begun.completed i true hcompleted
      omega
    have hanswer : (answer eligible selected).isSome ↔ selected.isSome := by
      cases selected with
      | none => rfl
      | some i => simp [answer, hget i rfl]
    refine ⟨?_, fun hlive => hanswer.trans (h.isSome_iff_completed hmain hlive),
      fun candidate hcandidate => ?_⟩
    · rw [hanswer, ← hselected, Option.isSome_iff_exists]
      exact exists_congr htold.selected
    · obtain ⟨i, hi, hcandidate⟩ := Option.bind_eq_some_iff.mp hcandidate
      refine ⟨hsublist.mem (List.mem_of_getElem? hcandidate), i, hcandidate, ?_⟩
      exact htold.succeeded i (hselected.trans hi)

/-- One candidate, whose probe goes well. -/
theorem probeFederatedPeer_spec_one :
    let candidate : FederationCandidate := ⟨"wss://relay", [1], "uEiA", 0, "key", 60⟩
    let s : State := ⟨.returned (some 0), [.left], 1, 0, [], true, false,
      [.judged 0 true, .completed 0 true, .started 0]⟩
    (∃ actions, Run 1 actions s) ∧
      (answer (Backoff.eligible Table.empty 0 [candidate]).2 (some 0)).isSome := by
  intro candidate s
  have hrun : (([.main, .take 0, .main, .complete 0 true, .deliver 0, .main, .main, .leave 0,
      .main] : List Action).foldlM (step 1) {}) = some s := by decide
  have hspec := probeFederatedPeer_spec Table.empty 0 [candidate] (run_of_foldlM hrun)
  have hanswer := (hspec.2.2.2.2.2 (some 0) rfl).2.1 (by decide)
  exact ⟨⟨_, run_of_foldlM hrun⟩, hanswer.mpr ⟨0, by decide⟩⟩

/-- The caller gives up when the probe went well and before its result is looked at. -/
theorem not_isSome_iff_completed_before :
    ¬ ∀ (eligible : Nat) (actions : List Action) (s : State) (selected : Option Nat),
      Run eligible actions s → s.main = .returned selected →
        (selected.isSome ↔ ∃ i, Before (.completed i true) s.log) := by
  intro h
  have hrun : (([.main, .take 0, .main, .complete 0 true, .cancel, .deliver 0, .main, .main,
      .main, .main, .leave 0, .main] : List Action).foldlM (step 1) {}) =
      some ⟨.returned none, [.left], 1, 0, [], true, true,
        [.judged 0 true, .cancelled, .completed 0 true, .started 0]⟩ := by decide
  have hiff := h 1 _ _ none (run_of_foldlM hrun) rfl
  have hnone := hiff.mpr ⟨0, [.judged 0 true, .cancelled], [.started 0], rfl, by decide⟩
  cases hnone

end Branch.Wss.FederatedProbes
