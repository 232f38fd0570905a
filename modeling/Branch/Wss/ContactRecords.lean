import Branch.Wss.ContactDiscovery

/-!
The two indexes of the contact directory, over its sessions and over the BranchIDs that they
announced.
-/

namespace Branch.Wss

open Branch.Lib
open Branch.Relay (PeerID SessionID Time)

namespace ContactDiscovery

def target? (state : ContactDiscovery) (branchID : String) (sessionID : SessionID) :
    Option ContactTarget :=
  (state.byBranch.get? branchID).bind fun targets => targets.bySession.get? sessionID

/-- The indexes are inverse to each other, and what is selected is there. -/
structure Consistent (state : ContactDiscovery) : Prop where
  inverse : ∀ sessionID branchID, state.bySession.get? sessionID = some branchID ↔
    (state.target? branchID sessionID).isSome
  named : ∀ branchID sessionID target, state.target? branchID sessionID = some target →
    target.sessionID = sessionID
  selected : ∀ branchID targets, state.byBranch.get? branchID = some targets →
    (targets.bySession.get? targets.selected).isSome

/-- One session is gone with all that was filed under it, and nothing else. -/
structure RemovesOnly (state : ContactDiscovery) (sessionID : SessionID)
    (state' : ContactDiscovery) : Prop where
  bySession : ∀ sessionID', state'.bySession.get? sessionID' =
    if sessionID' = sessionID then none else state.bySession.get? sessionID'
  target : ∀ branchID sessionID', state'.target? branchID sessionID' =
    if sessionID' = sessionID then none else state.target? branchID sessionID'
  lookups : ∀ sessionID', state'.lookups.get? sessionID' =
    if sessionID' = sessionID then none else state.lookups.get? sessionID'
  probes : ∀ sessionID', state'.probes.get? sessionID' =
    if sessionID' = sessionID then none else state.probes.get? sessionID'
  selected : ∀ branchID targets, state.byBranch.get? branchID = some targets →
    targets.selected ≠ sessionID → ∃ targets', state'.byBranch.get? branchID = some targets' ∧
      targets'.selected = targets.selected

section Removal

variable {state : ContactDiscovery}

theorem consistent_empty : Consistent {} where
  inverse := fun sessionID branchID => by simp [target?]
  named := fun branchID sessionID target h => by simp [target?] at h
  selected := fun branchID targets h => by simp at h

variable {sessionID : SessionID}

theorem Consistent.target?_eq_none (h : state.Consistent)
    {branchID : String} (hne : state.bySession.get? sessionID ≠ some branchID) :
    state.target? branchID sessionID = none :=
  Option.not_isSome_iff_eq_none.mp fun hsome => hne ((h.inverse sessionID branchID).mpr hsome)

theorem Consistent.exists_targets (h : state.Consistent)
    {branchID : String} (hsession : state.bySession.get? sessionID = some branchID) :
    ∃ targets target, state.byBranch.get? branchID = some targets ∧
      targets.bySession.get? sessionID = some target := by
  obtain ⟨target, htarget⟩ :=
    Option.isSome_iff_exists.mp ((h.inverse sessionID branchID).mp hsession)
  obtain ⟨targets, htargets, htarget⟩ := Option.bind_eq_some_iff.mp htarget
  exact ⟨targets, target, htargets, htarget⟩

theorem removeLocked_of_none {choice : Nat}
    (h : state.bySession.get? sessionID = none) :
    (state.removeLocked sessionID choice).byBranch = state.byBranch ∧
      (state.removeLocked sessionID choice).bySession = state.bySession := by
  unfold removeLocked
  rw [h]
  exact ⟨rfl, rfl⟩

theorem removeLocked_of_some {choice : Nat} {branchID : String}
    {targets : ContactTargets} (h : state.bySession.get? sessionID = some branchID)
    (htargets : state.byBranch.get? branchID = some targets) :
    (state.removeLocked sessionID choice).byBranch =
        (if (targets.bySession.erase sessionID).size = 0 then state.byBranch.erase branchID
         else state.byBranch.insert branchID (removeTarget targets sessionID choice)) ∧
      (state.removeLocked sessionID choice).bySession = state.bySession.erase sessionID := by
  unfold removeLocked
  rw [h]
  dsimp only
  rw [htargets]
  exact ⟨rfl, rfl⟩

theorem get?_eq_none_of_size_eq_zero {K V : Type} [DecidableEq K] {t : Table K V}
    (h : t.size = 0) (k : K) : t.get? k = none := by
  refine Option.not_isSome_iff_eq_none.mp fun hsome => ?_
  have hpos := List.length_pos_of_mem (Table.mem_keys_iff.mpr hsome)
  rw [Table.length_keys] at hpos
  omega

theorem byBranch_removeLocked (choice : Nat) {branchID : String}
    {targets : ContactTargets} (h : state.bySession.get? sessionID = some branchID)
    (htargets : state.byBranch.get? branchID = some targets) (branchID' : String) :
    (state.removeLocked sessionID choice).byBranch.get? branchID' =
      if branchID' = branchID then
        if (targets.bySession.erase sessionID).size = 0 then none
        else some (removeTarget targets sessionID choice)
      else state.byBranch.get? branchID' := by
  rw [(removeLocked_of_some h htargets).1]
  split
  · rw [Table.get?_erase]
  · rw [Table.get?_insert]

theorem Consistent.target?_removeLocked (h : state.Consistent) (sessionID : SessionID)
    (choice : Nat) (branchID : String) (sessionID' : SessionID) :
    (state.removeLocked sessionID choice).target? branchID sessionID' =
      if sessionID' = sessionID then none else state.target? branchID sessionID' := by
  cases hsession : state.bySession.get? sessionID with
  | none =>
    rw [target?, (removeLocked_of_none hsession).1]
    split
    · rename_i heq
      rw [heq]
      exact h.target?_eq_none (by rw [hsession]; simp)
    · rfl
  | some announced =>
    obtain ⟨targets, target, htargets, htarget⟩ := h.exists_targets hsession
    rw [target?, byBranch_removeLocked choice hsession htargets]
    by_cases hbranch : branchID = announced
    · subst hbranch
      rw [if_pos rfl, target?, htargets, Option.bind_some]
      have herase := Table.get?_erase targets.bySession sessionID sessionID'
      split
      · rename_i hzero
        rw [← herase, get?_eq_none_of_size_eq_zero hzero]
        rfl
      · exact herase
    · rw [if_neg hbranch]
      split
      · rename_i heq
        have hnone : state.target? branchID sessionID = none :=
          h.target?_eq_none (by rw [hsession]; simpa using Ne.symm hbranch)
        rw [heq]
        exact hnone
      · rfl

theorem Consistent.bySession_removeLocked (h : state.Consistent) (sessionID : SessionID)
    (choice : Nat) (sessionID' : SessionID) :
    (state.removeLocked sessionID choice).bySession.get? sessionID' =
      if sessionID' = sessionID then none else state.bySession.get? sessionID' := by
  cases hsession : state.bySession.get? sessionID with
  | none =>
    rw [(removeLocked_of_none hsession).2]
    split
    · rename_i heq
      rw [heq, hsession]
    · rfl
  | some branchID =>
    obtain ⟨targets, _, htargets, _⟩ := h.exists_targets hsession
    rw [(removeLocked_of_some hsession htargets).2, Table.get?_erase]

theorem isSome_selected_removeTarget {targets : ContactTargets}
    (choice : Nat) (hselected : (targets.bySession.get? targets.selected).isSome)
    (hsize : (targets.bySession.erase sessionID).size ≠ 0) :
    ((removeTarget targets sessionID choice).bySession.get?
      (removeTarget targets sessionID choice).selected).isSome := by
  simp only [removeTarget]
  split
  · rw [← Table.mem_keys_iff]
    have hlt : choice % (targets.bySession.erase sessionID).size <
        (targets.bySession.erase sessionID).keys.length := by
      rw [Table.length_keys]
      exact Nat.mod_lt _ (Nat.pos_of_ne_zero hsize)
    rw [List.getD_eq_getElem?_getD, List.getElem?_eq_getElem hlt]
    exact List.getElem_mem hlt
  · rename_i hne
    rw [Table.get?_erase_of_ne _ hne]
    exact hselected

theorem Consistent.removeLocked (h : state.Consistent) (sessionID : SessionID) (choice : Nat) :
    (state.removeLocked sessionID choice).Consistent := by
  refine ⟨fun sessionID' branchID => ?_, fun branchID sessionID' target htarget => ?_,
    fun branchID targets htargets => ?_⟩
  · rw [h.bySession_removeLocked, h.target?_removeLocked]
    split
    · simp
    · exact h.inverse sessionID' branchID
  · rw [h.target?_removeLocked] at htarget
    split at htarget
    · cases htarget
    · exact h.named branchID sessionID' target htarget
  · cases hsession : state.bySession.get? sessionID with
    | none =>
      rw [(removeLocked_of_none hsession).1] at htargets
      exact h.selected branchID targets htargets
    | some announced =>
      obtain ⟨targets', _, htargets', _⟩ := h.exists_targets hsession
      rw [byBranch_removeLocked choice hsession htargets'] at htargets
      split at htargets
      · split at htargets
        · cases htargets
        · rename_i hsize
          obtain rfl := Option.some.inj htargets
          exact isSome_selected_removeTarget choice (h.selected announced targets' htargets')
            hsize
      · exact h.selected branchID targets htargets

theorem Consistent.removesOnly (h : state.Consistent) (sessionID : SessionID) (choice : Nat) :
    state.RemovesOnly sessionID (state.removeLocked sessionID choice) := by
  refine ⟨h.bySession_removeLocked sessionID choice, h.target?_removeLocked sessionID choice,
    fun sessionID' => ?_, fun sessionID' => ?_, fun branchID targets htargets hne => ?_⟩
  · rw [removeLocked_lookups, Table.get?_erase]
  · rw [removeLocked_probes, Table.get?_erase]
  · cases hsession : state.bySession.get? sessionID with
    | none =>
      rw [(removeLocked_of_none hsession).1]
      exact ⟨targets, htargets, rfl⟩
    | some announced =>
      obtain ⟨targets', _, htargets', _⟩ := h.exists_targets hsession
      rw [byBranch_removeLocked choice hsession htargets']
      split
      · rename_i heq
        subst heq
        obtain rfl := Option.some.inj (htargets.symm.trans htargets')
        have hsize : (targets.bySession.erase sessionID).size ≠ 0 := by
          intro hzero
          have hselected := h.selected branchID targets htargets
          rw [← Table.get?_erase_of_ne targets.bySession hne,
            get?_eq_none_of_size_eq_zero hzero] at hselected
          cases hselected
        rw [if_neg hsize]
        exact ⟨_, rfl, if_neg hne⟩
      · exact ⟨targets, htargets, rfl⟩

end Removal

section Steps

variable {state : ContactDiscovery}

theorem target?_file (state : ContactDiscovery) (sessionID : SessionID) (branchID : String)
    (peerID : PeerID) (branchID' : String) (sessionID' : SessionID) :
    target? { state with
      byBranch := state.byBranch.insert branchID
        ⟨((state.byBranch.get? branchID).getD ⟨Table.empty, ""⟩).bySession.insert sessionID
          ⟨sessionID, peerID⟩, sessionID⟩
      bySession := state.bySession.insert sessionID branchID } branchID' sessionID' =
    if branchID' = branchID ∧ sessionID' = sessionID then some ⟨sessionID, peerID⟩
    else state.target? branchID' sessionID' := by
  have hbefore : ((state.byBranch.get? branchID).getD ⟨Table.empty, ""⟩).bySession.get? sessionID' =
      state.target? branchID sessionID' := by
    rw [target?]
    cases state.byBranch.get? branchID with
    | none => exact Table.get?_empty sessionID'
    | some targets => rfl
  rw [target?]
  dsimp only
  rw [Table.get?_insert]
  by_cases hbranch : branchID' = branchID
  · subst hbranch
    rw [if_pos rfl, Option.bind_some, Table.get?_insert, hbefore]
    simp
  · rw [if_neg hbranch, if_neg fun hboth => hbranch hboth.1]
    rfl

theorem Consistent.file (h : state.Consistent) {sessionID : SessionID}
    (hnone : state.bySession.get? sessionID = none) (branchID : String) (peerID : PeerID) :
    Consistent { state with
      byBranch := state.byBranch.insert branchID
        ⟨((state.byBranch.get? branchID).getD ⟨Table.empty, ""⟩).bySession.insert sessionID
          ⟨sessionID, peerID⟩, sessionID⟩
      bySession := state.bySession.insert sessionID branchID } := by
  have htarget := state.target?_file sessionID branchID peerID
  refine ⟨fun sessionID' branchID' => ?_, fun branchID' sessionID' target hfound => ?_,
    fun branchID' targets htargets => ?_⟩
  · rw [htarget, Table.get?_insert]
    by_cases hsession : sessionID' = sessionID
    · subst hsession
      rw [if_pos rfl, h.target?_eq_none (by rw [hnone]; simp)]
      by_cases hbranch : branchID' = branchID
      · simp [hbranch]
      · simp [hbranch, Ne.symm hbranch]
    · rw [if_neg hsession, if_neg fun hboth => hsession hboth.2]
      exact h.inverse sessionID' branchID'
  · rw [htarget] at hfound
    split at hfound
    · rename_i hboth
      obtain rfl := Option.some.inj hfound
      exact hboth.2.symm
    · exact h.named branchID' sessionID' target hfound
  · rw [Table.get?_insert] at htargets
    split at htargets
    · obtain rfl := Option.some.inj htargets
      simp
    · exact h.selected branchID' targets htargets

theorem Consistent.announce (h : state.Consistent) (sessionID : SessionID) (branchID : String)
    (peerID : PeerID) (discoverable : Bool) (choice : Nat) :
    (state.announce sessionID branchID peerID discoverable choice).Consistent := by
  have hremoved := h.removeLocked sessionID choice
  rw [ContactDiscovery.announce]
  cases discoverable with
  | false => exact hremoved
  | true =>
    refine hremoved.file ?_ branchID peerID
    rw [h.bySession_removeLocked, if_pos rfl]

theorem reserve_indexes (state : ContactDiscovery) (requester : SessionID)
    (requestID branchID : String) (now : Time) :
    (state.reserve requester requestID branchID now).1.byBranch = state.byBranch ∧
      (state.reserve requester requestID branchID now).1.bySession = state.bySession := by
  unfold reserve
  dsimp only
  split
  · exact ⟨rfl, rfl⟩
  · split
    · exact ⟨rfl, rfl⟩
    · split
      · exact ⟨rfl, rfl⟩
      · split
        · exact ⟨rfl, rfl⟩
        · exact ⟨rfl, rfl⟩

theorem Consistent.of_indexes {state' : ContactDiscovery} (h : state.Consistent)
    (hbranch : state'.byBranch = state.byBranch) (hsession : state'.bySession = state.bySession) :
    state'.Consistent := by
  have htarget : state'.target? = state.target? := by
    funext branchID sessionID
    rw [target?, target?, hbranch]
  refine ⟨?_, ?_, ?_⟩
  · rw [hsession, htarget]
    exact h.inverse
  · rw [htarget]
    exact h.named
  · rw [hbranch]
    exact h.selected

end Steps

end ContactDiscovery

namespace ContactService

theorem consistent_step {service : ContactService} (h : service.directory.Consistent)
    (event : ContactEvent) : (service.step event).directory.Consistent := by
  cases event with
  | announce sessionID branchID peerID discoverable choice =>
    exact h.announce sessionID branchID peerID discoverable choice
  | remove sessionID choice => exact h.removeLocked sessionID choice
  | lookup requester requestID branchID now =>
    obtain ⟨hbranch, hsession⟩ :=
      service.directory.reserve_indexes requester requestID branchID now
    exact h.of_indexes hbranch hsession

/-- Whatever the attachments did, the directory is consistent, and a removal of a session takes
its own record and nothing of another one. -/
theorem directory_consistent (events : List ContactEvent) :
    (Trace.run step {} events).directory.Consistent ∧
      ∀ sessionID choice, (Trace.run step {} events).directory.RemovesOnly sessionID
        ((Trace.run step {} events).directory.removeLocked sessionID choice) := by
  have h : (Trace.run step {} events).directory.Consistent :=
    Trace.invariant (P := fun service : ContactService => service.directory.Consistent)
      (fun _ event h => consistent_step h event) ContactDiscovery.consistent_empty events
  exact ⟨h, h.removesOnly⟩

/-- The BranchID that each session last asked to be found by, and its peer. -/
abbrev Announcements := SessionID → Option (String × PeerID)

/-- The directory as it is meant: an announcement stands until the session's next one or its
removal. -/
def Announcements.step (said : Announcements) : ContactEvent → Announcements
  | .announce sessionID branchID peerID discoverable _ =>
    Function.update said sessionID (if discoverable then some (branchID, peerID) else none)
  | .remove sessionID _ => Function.update said sessionID none
  | .lookup _ _ _ _ => said

structure Refines (service : ContactService) (said : Announcements) : Prop where
  consistent : service.directory.Consistent
  target : ∀ branchID sessionID target, service.directory.target? branchID sessionID = some target ↔
    said sessionID = some (branchID, target.peerID) ∧ target.sessionID = sessionID

theorem refines_empty : Refines {} fun _ => none :=
  ⟨ContactDiscovery.consistent_empty, by simp [ContactDiscovery.target?]⟩

theorem Refines.remove {service : ContactService} {said : Announcements}
    (h : service.Refines said) (sessionID : SessionID) (choice : Nat) :
    Refines { service with directory := service.directory.removeLocked sessionID choice }
      (Function.update said sessionID none) := by
  refine ⟨h.consistent.removeLocked sessionID choice, fun branchID sessionID' target => ?_⟩
  rw [h.consistent.target?_removeLocked, Function.update_apply]
  split
  · simp
  · exact h.target branchID sessionID' target

theorem Refines.step {service : ContactService} {said : Announcements} (h : service.Refines said)
    (event : ContactEvent) : (service.step event).Refines (said.step event) := by
  refine ⟨consistent_step h.consistent event, ?_⟩
  cases event with
  | announce sessionID branchID peerID discoverable choice =>
    have hremoved := h.remove sessionID choice
    cases discoverable with
    | false => exact hremoved.target
    | true =>
      intro branchID' sessionID' target
      refine (iff_of_eq (congrArg (· = some target) (ContactDiscovery.target?_file _ sessionID
        branchID peerID branchID' sessionID'))).trans ?_
      have hother := hremoved.target branchID' sessionID' target
      by_cases hsession : sessionID' = sessionID
      · subst hsession
        by_cases hbranch : branchID' = branchID
        · obtain ⟨targetID, targetPeer⟩ := target
          simp [Announcements.step, hbranch, and_comm, @eq_comm _ targetID]
        · simpa [Announcements.step, hbranch, Ne.symm hbranch] using hother
      · simpa [Announcements.step, hsession] using hother
  | remove sessionID choice => exact (h.remove sessionID choice).target
  | lookup requester requestID branchID now =>
    intro branchID' sessionID' target
    have hindexes := service.directory.reserve_indexes requester requestID branchID now
    refine Iff.trans ?_ (h.target branchID' sessionID' target)
    rw [ContactDiscovery.target?, ContactDiscovery.target?, ← hindexes.1]
    rfl

/-- After any run the directory has the standing announcements and nothing else, and a lookup
is granted for a session that is to be found by this very BranchID. -/
theorem directory_refines (events : List ContactEvent) :
    Refines (Trace.run step {} events) (Trace.run Announcements.step (fun _ => none) events) ∧
      ∀ requester requestID branchID now target,
        ((Trace.run step {} events).directory.reserve requester requestID branchID now).2 =
            some target →
          Trace.run Announcements.step (fun _ => none) events target.sessionID =
            some (branchID, target.peerID) := by
  have h : Refines (Trace.run step {} events)
      (Trace.run Announcements.step (fun _ => none) events) :=
    List.foldl_rel refines_empty fun event _ _ _ h => h.step event
  refine ⟨h, fun requester requestID branchID now target hreserve => ?_⟩
  obtain ⟨_, hselected, _⟩ := ContactDiscovery.reserve_eq_some hreserve
  obtain ⟨targets, htargets, htarget⟩ := Option.bind_eq_some_iff.mp hselected
  have hfound := (h.target branchID targets.selected target).mp
    (Option.bind_eq_some_iff.mpr ⟨targets, htargets, htarget⟩)
  rw [hfound.2]
  exact hfound.1

end ContactService

end Branch.Wss
