import Branch.Lib.RollingWindow
import Branch.Lib.Table
import Branch.Lib.Trace
import Branch.Wss.Handler

/-!
The directory of the contact discovery, whose request windows are filed under the sessions and
go with the announcements of these.
-/

namespace Branch.Wss

open Branch.Lib
open Branch.Lib.RollingWindow (Paced inWindow recent)
open Branch.Relay (PeerID SessionID Time)

/-- The lookups that a session may make within a window, and the probes that it may get. -/
def contactRequestLimit : Nat := 4

structure ContactTargets where
  bySession : Table SessionID ContactTarget
  selected : SessionID

structure ContactDiscovery where
  byBranch : Table String ContactTargets := Table.empty
  bySession : Table SessionID String := Table.empty
  lookups : Table SessionID (Table String Time) := Table.empty
  probes : Table SessionID (List Time) := Table.empty

namespace ContactDiscovery

variable (state : ContactDiscovery)

/-- `choice` stands for the order in which the map of the targets is iterated. -/
def removeTarget (targets : ContactTargets) (sessionID : SessionID) (choice : Nat) :
    ContactTargets :=
  let bySession := targets.bySession.erase sessionID
  { bySession
    selected :=
      if targets.selected = sessionID then
        bySession.keys.getD (choice % bySession.size) targets.selected
      else targets.selected }

def removeLocked (sessionID : SessionID) (choice : Nat) : ContactDiscovery :=
  let state :=
    match state.bySession.get? sessionID with
    | none => state
    | some branchID =>
      let targets := removeTarget ((state.byBranch.get? branchID).getD ⟨Table.empty, ""⟩) sessionID
        choice
      { state with
        byBranch :=
          if targets.bySession.size = 0 then state.byBranch.erase branchID
          else state.byBranch.insert branchID targets
        bySession := state.bySession.erase sessionID }
  { state with
    lookups := state.lookups.erase sessionID
    probes := state.probes.erase sessionID }

def announce (sessionID : SessionID) (branchID : String) (peerID : PeerID) (discoverable : Bool)
    (choice : Nat) : ContactDiscovery :=
  let state := state.removeLocked sessionID choice
  if discoverable then
    let targets := (state.byBranch.get? branchID).getD ⟨Table.empty, ""⟩
    { state with
      byBranch := state.byBranch.insert branchID
        ⟨targets.bySession.insert sessionID ⟨sessionID, peerID⟩, sessionID⟩
      bySession := state.bySession.insert sessionID branchID }
  else state

def entries (requester : SessionID) (now : Time) : Table String Time :=
  ((state.lookups.get? requester).getD Table.empty).filter fun _ observedAt =>
    recent contactDiscoveryWindow now observedAt

def kept (target : SessionID) (now : Time) : List Time :=
  ((state.probes.get? target).getD []).filter (recent contactDiscoveryWindow now)

def selectedTarget (branchID : String) : Option ContactTarget :=
  (state.byBranch.get? branchID).bind fun targets => targets.bySession.get? targets.selected

def reserve (requester : SessionID) (requestID branchID : String) (now : Time) :
    ContactDiscovery × Option ContactTarget :=
  let entries := state.entries requester now
  -- The map of an earlier lookup is pruned in place.
  let pruned := { state with lookups := state.lookups.modify requester fun _ => entries }
  if contactRequestLimit ≤ entries.size then (pruned, none)
  else if (entries.get? requestID).isSome then (pruned, none)
  else
    match state.selectedTarget branchID with
    | none => (pruned, none)
    | some target =>
      let kept := state.kept target.sessionID now
      if contactRequestLimit ≤ kept.length then
        ({ pruned with probes := state.probes.insert target.sessionID kept }, none)
      else
        ({ pruned with
            lookups := state.lookups.insert requester (entries.insert requestID now)
            probes := state.probes.insert target.sessionID (kept ++ [now]) }, some target)

theorem reserve_eq_some {state : ContactDiscovery} {requester : SessionID}
    {requestID branchID : String} {now : Time} {target : ContactTarget}
    (h : (state.reserve requester requestID branchID now).2 = some target) :
    (state.entries requester now).size < contactRequestLimit ∧
      state.selectedTarget branchID = some target ∧
      (state.kept target.sessionID now).length < contactRequestLimit := by
  unfold reserve at h
  dsimp only at h
  split at h
  · cases h
  · rename_i hentries
    split at h
    · cases h
    · split at h
      · cases h
      · rename_i found hfound
        split at h
        · cases h
        · rename_i hkept
          obtain rfl := Option.some.inj h
          exact ⟨by omega, hfound, by omega⟩

section Records

variable {state : ContactDiscovery}

theorem removeLocked_lookups (state : ContactDiscovery) (sessionID : SessionID) (choice : Nat) :
    (state.removeLocked sessionID choice).lookups = state.lookups.erase sessionID := by
  unfold removeLocked
  split <;> rfl

theorem removeLocked_probes (state : ContactDiscovery) (sessionID : SessionID) (choice : Nat) :
    (state.removeLocked sessionID choice).probes = state.probes.erase sessionID := by
  unfold removeLocked
  split <;> rfl

theorem announce_records (state : ContactDiscovery) (sessionID : SessionID) (branchID : String)
    (peerID : PeerID) (discoverable : Bool) (choice : Nat) :
    (state.announce sessionID branchID peerID discoverable choice).lookups =
        state.lookups.erase sessionID ∧
      (state.announce sessionID branchID peerID discoverable choice).probes =
        state.probes.erase sessionID := by
  rw [← removeLocked_lookups state sessionID choice, ← removeLocked_probes state sessionID choice]
  unfold announce
  cases discoverable with
  | false => exact ⟨rfl, rfl⟩
  | true => exact ⟨rfl, rfl⟩

theorem entries_of_lookups {state' : ContactDiscovery} {requester : SessionID} {now later : Time}
    (hnow : now ≤ later)
    (h : state'.lookups = state.lookups.modify requester fun _ => state.entries requester now)
    (sessionID : SessionID) : state'.entries sessionID later = state.entries sessionID later := by
  rw [entries, entries, h, Table.get?_modify]
  split
  · rename_i heq
    subst heq
    cases hlookups : state.lookups.get? sessionID with
    | none => rfl
    | some window =>
      rw [Option.map_some, Option.getD_some, Option.getD_some, entries, hlookups,
        Option.getD_some]
      exact Table.filter_filter window fun _ _ => RollingWindow.recent_of_le hnow
  · rfl

theorem reserve_entries (state : ContactDiscovery) (requester : SessionID)
    (requestID branchID : String) {now later : Time} (hnow : now ≤ later) (sessionID : SessionID) :
    ((state.reserve requester requestID branchID now).1.entries sessionID later).size =
      (state.entries sessionID later).size +
        if (state.reserve requester requestID branchID now).2.isSome ∧ requester = sessionID ∧
          recent contactDiscoveryWindow later now = true then 1 else 0 := by
  unfold reserve
  dsimp only
  split
  · rw [entries_of_lookups hnow rfl]
    rfl
  · split
    · rw [entries_of_lookups hnow rfl]
      rfl
    · rename_i hfresh
      split
      · rw [entries_of_lookups hnow rfl]
        rfl
      · split
        · rw [entries_of_lookups hnow rfl]
          rfl
        · simp only [Option.isSome_some, true_and]
          rw [entries, Table.get?_insert]
          by_cases hrequester : sessionID = requester
          · subst hrequester
            have hpruned := Table.filter_filter ((state.lookups.get? sessionID).getD Table.empty)
              (p := fun _ => recent contactDiscoveryWindow now)
              (q := fun _ => recent contactDiscoveryWindow later)
              fun _ _ => RollingWindow.recent_of_le hnow
            rw [if_pos rfl, Option.getD_some,
              Table.size_filter_insert now _ (Option.not_isSome_iff_eq_none.mp hfresh)]
            rw [entries, hpruned]
            simp only [true_and]
            rfl
          · rw [if_neg hrequester, if_neg (fun h => hrequester h.1.symm), Nat.add_zero]
            rfl

theorem kept_insert {state' : ContactDiscovery} {target : SessionID} {now later : Time}
    {times : List Time} (hnow : now ≤ later)
    (h : state'.probes = state.probes.insert target (state.kept target now ++ times))
    (sessionID : SessionID) :
    state'.kept sessionID later = state.kept sessionID later ++
      if sessionID = target then times.filter (recent contactDiscoveryWindow later) else [] := by
  rw [kept, kept, h, Table.get?_insert]
  split
  · rename_i heq
    subst heq
    rw [Option.getD_some, List.filter_append, kept, List.filter_filter]
    congr 1
    refine List.filter_congr fun time _ => ?_
    cases hrecent : recent contactDiscoveryWindow later time with
    | false => rfl
    | true => rw [RollingWindow.recent_of_le hnow hrecent]; rfl
  · exact (List.append_nil _).symm

theorem reserve_kept (state : ContactDiscovery) (requester : SessionID)
    (requestID branchID : String) {now later : Time} (hnow : now ≤ later) (sessionID : SessionID) :
    ((state.reserve requester requestID branchID now).1.kept sessionID later).length =
      (state.kept sessionID later).length +
        if (state.reserve requester requestID branchID now).2.any
            (fun target => target.sessionID = sessionID) ∧
          recent contactDiscoveryWindow later now = true then 1 else 0 := by
  unfold reserve
  dsimp only
  split
  · rfl
  · split
    · rfl
    · split
      · rfl
      · rename_i target _
        split
        · rw [kept_insert hnow (by rw [List.append_nil])]
          simp
        · rw [kept_insert hnow rfl, List.length_append]
          congr 1
          by_cases htarget : target.sessionID = sessionID
          · subst htarget
            cases hrecent : recent contactDiscoveryWindow later now <;> simp [hrecent]
          · rw [if_neg (Ne.symm htarget), if_neg (by simp [htarget])]
            rfl

end Records

end ContactDiscovery

structure Grant where
  requester : SessionID
  target : SessionID
  observedAt : Time

/-- What the attachments do with the directory. A session is removed when its attachment ends
or a probe cannot be written to it. -/
inductive ContactEvent
  | announce (sessionID : SessionID) (branchID : String) (peerID : PeerID) (discoverable : Bool)
      (choice : Nat)
  | remove (sessionID : SessionID) (choice : Nat)
  | lookup (requester : SessionID) (requestID branchID : String) (now : Time)

/-- The directory with the lookups that were granted, in order, and the times of all lookups. -/
structure ContactService where
  directory : ContactDiscovery := {}
  granted : List Grant := []
  observed : List Time := []

namespace ContactService

variable (service : ContactService)

def step : ContactEvent → ContactService
  | .announce sessionID branchID peerID discoverable choice =>
    { service with
      directory := service.directory.announce sessionID branchID peerID discoverable choice }
  | .remove sessionID choice =>
    { service with directory := service.directory.removeLocked sessionID choice }
  | .lookup requester requestID branchID now =>
    let (directory, target) := service.directory.reserve requester requestID branchID now
    { directory
      granted := service.granted ++
        (target.map fun target => ⟨requester, target.sessionID, now⟩).toList
      observed := now :: service.observed }

/-- When the lookups were granted that a session has a part in. -/
def grantTimes (part : Grant → SessionID) (sessionID : SessionID) : List Time :=
  (service.granted.filter fun grant => part grant = sessionID).map Grant.observedAt

def lookupTimes (requester : SessionID) : List Time := service.grantTimes Grant.requester requester

def probeTimes (target : SessionID) : List Time := service.grantTimes Grant.target target

/-- No window of a minute holds more lookups of a session, or more probes of a target, than the
limit. -/
def WithinLimits : Prop :=
  ∀ (sessionID : SessionID) (last : Time),
    (service.lookupTimes sessionID).countP (inWindow contactDiscoveryWindow last) ≤
        contactRequestLimit ∧
      (service.probeTimes sessionID).countP (inWindow contactDiscoveryWindow last) ≤
        contactRequestLimit

/-- Every lookup that the requester was granted within the last minute is still on its record,
and so is every probe of the target. -/
def NothingLost : ContactEvent → Prop
  | .lookup requester _ branchID now =>
    (service.lookupTimes requester).countP (recent contactDiscoveryWindow now) ≤
        (service.directory.entries requester now).size ∧
      ∀ target, service.directory.selectedTarget branchID = some target →
        (service.probeTimes target.sessionID).countP (recent contactDiscoveryWindow now) ≤
          (service.directory.kept target.sessionID now).length
  | _ => True

variable {service : ContactService}

/-- Each grant came while fewer than the limit of the earlier ones were recent. -/
structure AllPaced (service : ContactService) : Prop where
  lookups : ∀ requester,
    Paced contactDiscoveryWindow contactRequestLimit (service.lookupTimes requester)
  probes : ∀ target,
    Paced contactDiscoveryWindow contactRequestLimit (service.probeTimes target)

theorem allPaced_empty : AllPaced {} where
  lookups := fun _ => .nil
  probes := fun _ => .nil

theorem AllPaced.withinLimits (h : AllPaced service) : service.WithinLimits :=
  fun sessionID last =>
    ⟨(h.lookups sessionID).countP_le last, (h.probes sessionID).countP_le last⟩

theorem grantTimes_snoc (part : Grant → SessionID) (sessionID : SessionID)
    (directory : ContactDiscovery) (grant : Grant) (observed : List Time) :
    grantTimes { directory, granted := service.granted ++ [grant], observed } part sessionID =
      service.grantTimes part sessionID ++
        if part grant = sessionID then [grant.observedAt] else [] := by
  rw [grantTimes, List.filter_append, List.map_append, ← grantTimes]
  split
  · rename_i hpart
    simp [hpart]
  · rename_i hpart
    simp [hpart]

theorem paced_grant {part : Grant → SessionID} {directory : ContactDiscovery}
    (grant : Grant) {observed : List Time}
    (h : ∀ sessionID,
      Paced contactDiscoveryWindow contactRequestLimit (service.grantTimes part sessionID))
    (hlimit : (service.grantTimes part (part grant)).countP
      (recent contactDiscoveryWindow grant.observedAt) < contactRequestLimit)
    (sessionID : SessionID) :
    Paced contactDiscoveryWindow contactRequestLimit
      (grantTimes { directory, granted := service.granted ++ [grant], observed } part
        sessionID) := by
  rw [grantTimes_snoc]
  split
  · rename_i hpart
    subst hpart
    exact .snoc (h (part grant)) hlimit
  · rw [List.append_nil]
    exact h sessionID

theorem allPaced_step (h : AllPaced service) {event : ContactEvent}
    (hlost : service.NothingLost event) : AllPaced (service.step event) := by
  cases event with
  | announce sessionID branchID peerID discoverable choice => exact ⟨h.lookups, h.probes⟩
  | remove sessionID choice => exact ⟨h.lookups, h.probes⟩
  | lookup requester requestID branchID now =>
    obtain ⟨hlookups, hprobes⟩ := hlost
    rw [step]
    dsimp only
    cases hreserve : (service.directory.reserve requester requestID branchID now).2 with
    | none =>
      rw [Option.map_none, Option.toList_none, List.append_nil]
      exact ⟨h.lookups, h.probes⟩
    | some target =>
      obtain ⟨hentries, hselected, hkept⟩ := ContactDiscovery.reserve_eq_some hreserve
      let grant : Grant := ⟨requester, target.sessionID, now⟩
      exact ⟨paced_grant grant h.lookups (hlookups.trans_lt hentries),
        paced_grant grant h.probes ((hprobes target hselected).trans_lt hkept)⟩

/-- In a run in which each lookup finds the records of the last minute complete, no session is
granted, and no target gets, more than the limit in any minute. -/
theorem withinLimits_run (events : List ContactEvent)
    (hlost : Trace.Meets step NothingLost {} events) :
    (Trace.run step {} events).WithinLimits := by
  have hpaced : AllPaced (Trace.run step {} events) :=
    Trace.invariant_of_meets (P := AllPaced) (fun _ _ h hevent => allPaced_step h hevent)
      allPaced_empty hlost
  exact hpaced.withinLimits

section Undisturbed

/-- A session that has had a part in a grant neither announces again nor is removed, and the
clock does not run backwards. -/
def Undisturbed (service : ContactService) : ContactEvent → Prop
  | .announce sessionID _ _ _ _ | .remove sessionID _ =>
    service.lookupTimes sessionID = [] ∧ service.probeTimes sessionID = []
  | .lookup _ _ _ now => ∀ time ∈ service.observed, time ≤ now

def Complete (service : ContactService) : Prop :=
  ∀ (sessionID : SessionID) (later : Time), (∀ time ∈ service.observed, time ≤ later) →
    (service.lookupTimes sessionID).countP (recent contactDiscoveryWindow later) ≤
        (service.directory.entries sessionID later).size ∧
      (service.probeTimes sessionID).countP (recent contactDiscoveryWindow later) ≤
        (service.directory.kept sessionID later).length

theorem Complete.nothingLost (h : service.Complete) {event : ContactEvent}
    (hevent : service.Undisturbed event) : service.NothingLost event := by
  cases event with
  | announce sessionID branchID peerID discoverable choice => trivial
  | remove sessionID choice => trivial
  | lookup requester requestID branchID now =>
    exact ⟨(h requester now hevent).1, fun target _ => (h target.sessionID now hevent).2⟩

theorem Complete.erase (h : service.Complete) {sessionID : SessionID}
    (hlookupTimes : service.lookupTimes sessionID = [])
    (hprobeTimes : service.probeTimes sessionID = []) {directory : ContactDiscovery}
    (hlookups : directory.lookups = service.directory.lookups.erase sessionID)
    (hprobes : directory.probes = service.directory.probes.erase sessionID) :
    Complete { service with directory } := by
  intro sessionID' later hlater
  by_cases hsession : sessionID' = sessionID
  · subst hsession
    constructor
    · show (service.lookupTimes sessionID').countP _ ≤ _
      rw [hlookupTimes]
      exact Nat.zero_le _
    · show (service.probeTimes sessionID').countP _ ≤ _
      rw [hprobeTimes]
      exact Nat.zero_le _
  · obtain ⟨hentries, hkept⟩ := h sessionID' later hlater
    rw [ContactDiscovery.entries, ContactDiscovery.kept, hlookups, hprobes,
      Table.get?_erase_of_ne _ hsession, Table.get?_erase_of_ne _ hsession]
    exact ⟨hentries, hkept⟩

theorem countP_ite (p : Time → Bool) (q : Prop) [Decidable q] (now : Time) :
    (if q then [now] else []).countP p = if q ∧ p now = true then 1 else 0 := by
  by_cases hq : q
  · simp [hq, List.countP_singleton]
  · simp [hq]

theorem complete_step (h : service.Complete) {event : ContactEvent}
    (hevent : service.Undisturbed event) : (service.step event).Complete := by
  cases event with
  | announce sessionID branchID peerID discoverable choice =>
    obtain ⟨hlookups, hprobes⟩ := service.directory.announce_records sessionID branchID peerID
      discoverable choice
    exact h.erase hevent.1 hevent.2 hlookups hprobes
  | remove sessionID choice =>
    exact h.erase hevent.1 hevent.2 (service.directory.removeLocked_lookups sessionID choice)
      (service.directory.removeLocked_probes sessionID choice)
  | lookup requester requestID branchID now =>
    intro sessionID later hlater
    obtain ⟨hnow, hlater⟩ := List.forall_mem_cons.mp hlater
    obtain ⟨hentries, hkept⟩ := h sessionID later hlater
    rw [step]
    dsimp only
    rw [service.directory.reserve_entries requester requestID branchID hnow,
      service.directory.reserve_kept requester requestID branchID hnow]
    cases (service.directory.reserve requester requestID branchID now).2 with
    | none =>
      rw [Option.map_none, Option.toList_none, List.append_nil]
      exact ⟨hentries.trans (Nat.le_add_right _ _), hkept.trans (Nat.le_add_right _ _)⟩
    | some target =>
      rw [Option.map_some, Option.toList_some, lookupTimes, probeTimes, grantTimes_snoc,
        grantTimes_snoc, List.countP_append, List.countP_append]
      refine ⟨Nat.add_le_add hentries (Nat.le_of_eq ?_), Nat.add_le_add hkept
        (Nat.le_of_eq ?_)⟩
      · rw [countP_ite]
        simp only [Option.isSome_some, true_and]
      · rw [countP_ite]
        simp only [Option.any_some, decide_eq_true_eq]

theorem nothingLost_of_undisturbed (events : List ContactEvent)
    (h : Trace.Meets step Undisturbed {} events) : Trace.Meets step NothingLost {} events :=
  Trace.meets_of_meets (P := Complete)
    (fun _ _ hcomplete hevent => ⟨complete_step hcomplete hevent, hcomplete.nothingLost hevent⟩)
    (fun _ _ _ => ⟨Nat.zero_le _, Nat.zero_le _⟩) h

end Undisturbed

section Announcements

def announces (sessionID : SessionID) : ContactEvent :=
  .announce sessionID sessionID sessionID true 0

theorem withinLimits_run_oneLookup :
    (Trace.run step {} [announces "bob", .lookup "alice" "request" "bob" 0]).WithinLimits := by
  refine withinLimits_run _ (nothingLost_of_undisturbed _ ⟨⟨rfl, rfl⟩, ?_, trivial⟩)
  rintro time ⟨⟩

/-- A requester that announces itself between its lookups gets a fifth one granted. -/
def announcedBetween : List ContactEvent :=
  [announces "bob", announces "carol", .lookup "alice" "first" "bob" 0,
    .lookup "alice" "second" "bob" 1, .lookup "alice" "third" "bob" 2,
    .lookup "alice" "fourth" "bob" 3, announces "alice", .lookup "alice" "fifth" "carol" 4]

theorem not_withinLimits_announcedBetween :
    ¬ ∀ events : List ContactEvent, (Trace.run step {} events).WithinLimits := by
  intro h
  have hcount : ((Trace.run step {} announcedBetween).lookupTimes "alice").countP
      (inWindow contactDiscoveryWindow 4) = 5 := by decide +kernel
  have hle := (h announcedBetween "alice" 4).1
  rw [hcount] at hle
  exact absurd hle (by decide)

end Announcements

end ContactService

end Branch.Wss
