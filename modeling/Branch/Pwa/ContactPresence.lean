import Branch.Lib.InsertionMap

/-!
What a tab knows of the presence of its contacts: the pings it has sent and the pongs, or other
traffic, that came back. It is bounded, and the entry that has not changed for longest goes.
-/

namespace Branch.Pwa.Presence

open Branch.Lib

section Slice

def maxContactPresenceEntries : Nat := 64

inductive ContactPresenceStatus where
  | unknown
  | checking
  | available
  deriving DecidableEq

inductive ContactPresenceEvidence where
  | encryptedPong
  | encryptedLiveTraffic
  deriving DecidableEq

structure ContactPresence where
  status : ContactPresenceStatus
  evidence : Option ContactPresenceEvidence
  updatedAt : Nat
  lastProbeAt : Option Nat
  pendingPingId : Option String
  deriving DecidableEq

abbrev ContactPresenceById := InsertionMap String ContactPresence

/-- The first of the entries that have not changed for longest. -/
def oldest? (m : ContactPresenceById) : Option (String × ContactPresence) :=
  match m.entries with
  | [] => none
  | first :: rest => some (rest.foldl
      (fun selected candidate =>
        if candidate.2.updatedAt < selected.2.updatedAt then candidate else selected) first)

def evicted? (m : ContactPresenceById) : Option (String × ContactPresence) :=
  if m.size ≤ maxContactPresenceEntries then none else oldest? m

def boundedPresenceMap (m : ContactPresenceById) : ContactPresenceById :=
  match evicted? m with
  | none => m
  | some oldest => m.delete oldest.1

/-- What a fresh ping makes of an entry. One that is available stays so. -/
def begun (current : Option ContactPresence) (pingId : String) (now : Nat) : ContactPresence :=
  match current.filter fun current => current.status = .available with
  | some current => { current with lastProbeAt := some now, pendingPingId := some pingId }
  | none =>
    { status := .checking, evidence := none, updatedAt := now, lastProbeAt := some now
      pendingPingId := some pingId }

def withPing (m : ContactPresenceById) (contactId pingId : String) (now : Nat) :
    ContactPresenceById :=
  m.set contactId (begun (m.get? contactId) pingId now)

def beginContactPresencePing (m : ContactPresenceById) (contactId pingId : String) (now : Nat) :
    ContactPresenceById :=
  boundedPresenceMap (withPing m contactId pingId now)

def acceptContactPresencePong (m : ContactPresenceById) (contactId pingId : String) (now : Nat) :
    ContactPresenceById :=
  match m.get? contactId with
  | none => m
  | some current =>
    if current.pendingPingId ≠ some pingId then m
    else m.set contactId
      { current with
        status := .available, evidence := some .encryptedPong, updatedAt := now
        pendingPingId := none }

def withTraffic (m : ContactPresenceById) (contactId : String) (now : Nat) : ContactPresenceById :=
  m.set contactId
    { status := .available, evidence := some .encryptedLiveTraffic, updatedAt := now
      lastProbeAt := (m.get? contactId).bind ContactPresence.lastProbeAt, pendingPingId := none }

def confirmContactPresenceFromLiveTraffic (m : ContactPresenceById) (contactId : String)
    (now : Nat) : ContactPresenceById :=
  boundedPresenceMap (withTraffic m contactId now)

def expireContactPresencePing (m : ContactPresenceById) (contactId pingId : String) (now : Nat) :
    ContactPresenceById :=
  match m.get? contactId with
  | none => m
  | some current =>
    if current.pendingPingId ≠ some pingId then m
    else m.set contactId
      (if current.status = .checking then
        { current with status := .unknown, evidence := none, updatedAt := now, pendingPingId := none }
      else { current with pendingPingId := none })

def expireContactPresence (m : ContactPresenceById) (contactId : String) (updatedAt now : Nat) :
    ContactPresenceById :=
  match m.get? contactId with
  | none => m
  | some current =>
    if current.updatedAt ≠ updatedAt then m
    else m.set contactId
      { current with status := .unknown, evidence := none, updatedAt := now, pendingPingId := none }

end Slice

section Outstanding

variable {m : ContactPresenceById} {contactId pingId : String}

def Outstanding (m : ContactPresenceById) (contactId pingId : String) : Prop :=
  ∃ current, m.get? contactId = some current ∧ current.pendingPingId = some pingId

/-- A contact is available, and the last that showed it was a pong. -/
def ShownByPong (m : ContactPresenceById) (contactId : String) : Prop :=
  ∃ current, m.get? contactId = some current ∧ current.status = .available ∧
    current.evidence = some .encryptedPong

theorem get?_of_boundedPresenceMap {presence : ContactPresence}
    (h : (boundedPresenceMap m).get? contactId = some presence) :
    m.get? contactId = some presence := by
  unfold boundedPresenceMap at h
  split at h
  · exact h
  · exact (InsertionMap.get?_delete_eq_some_iff.mp h).2

theorem get?_confirmContactPresence {now : Nat} {presence : ContactPresence}
    (h : (confirmContactPresenceFromLiveTraffic m contactId now).get? contactId =
      some presence) :
    presence.pendingPingId = none ∧ presence.evidence = some .encryptedLiveTraffic := by
  have hget := get?_of_boundedPresenceMap h
  rw [withTraffic, InsertionMap.get?_set_self] at hget
  obtain rfl := Option.some.inj hget
  exact ⟨rfl, rfl⟩

theorem acceptContactPresencePong_confirm (now later : Nat) :
    acceptContactPresencePong (confirmContactPresenceFromLiveTraffic m contactId now) contactId
      pingId later = confirmContactPresenceFromLiveTraffic m contactId now := by
  unfold acceptContactPresencePong
  split
  · rfl
  · rename_i current hget
    rw [if_pos]
    rw [(get?_confirmContactPresence hget).1]
    exact (Option.some_ne_none pingId).symm

theorem not_shownByPong_confirm (now : Nat) :
    ¬ ShownByPong (confirmContactPresenceFromLiveTraffic m contactId now) contactId := by
  rintro ⟨current, hget, -, hevidence⟩
  rw [(get?_confirmContactPresence hget).2] at hevidence
  cases hevidence

end Outstanding

section Recall

variable {m : ContactPresenceById} {contactId other : String} {time now : Nat}

/-- The map knows that a contact has been probed at a time, or later. -/
def Recalls (m : ContactPresenceById) (contactId : String) (time : Nat) : Prop :=
  ∃ current probed, m.get? contactId = some current ∧ current.lastProbeAt = some probed ∧
    time ≤ probed

theorem Recalls.set (h : Recalls m contactId time) (presence : ContactPresence)
    (hprobe : ∀ current probed, m.get? other = some current → current.lastProbeAt = some probed →
      ∃ probed', presence.lastProbeAt = some probed' ∧ probed ≤ probed') :
    Recalls (m.set other presence) contactId time := by
  obtain ⟨current, probed, hget, hlast, hle⟩ := h
  by_cases hne : contactId = other
  · subst hne
    obtain ⟨probed', hlast', hle'⟩ := hprobe current probed hget hlast
    exact ⟨presence, probed', InsertionMap.get?_set_self _ _ _, hlast', Nat.le_trans hle hle'⟩
  · exact ⟨current, probed, by rw [InsertionMap.get?_set_of_ne hne]; exact hget, hlast, hle⟩

theorem Recalls.boundedPresenceMap (h : Recalls m contactId time)
    (hkept : ∀ e, evicted? m = some e → e.1 ≠ contactId) :
    Recalls (boundedPresenceMap m) contactId time := by
  obtain ⟨current, probed, hget, hlast, hle⟩ := h
  refine ⟨current, probed, ?_, hlast, hle⟩
  unfold Presence.boundedPresenceMap
  split
  · exact hget
  · rename_i oldest hevicted
    exact InsertionMap.get?_delete_eq_some_iff.mpr ⟨(hkept oldest hevicted).symm, hget⟩

theorem lastProbeAt_begun (current : Option ContactPresence) (pingId : String) (now : Nat) :
    (begun current pingId now).lastProbeAt = some now := by
  unfold begun
  split <;> rfl

theorem recalls_withPing (m : ContactPresenceById) (contactId pingId : String) (now : Nat) :
    Recalls (withPing m contactId pingId now) contactId now :=
  ⟨_, now, InsertionMap.get?_set_self _ _ _, lastProbeAt_begun _ _ _, Nat.le_refl now⟩

theorem Recalls.withPing (h : Recalls m contactId time) (hnow : time ≤ now)
    (pingId : String) : Recalls (withPing m other pingId now) contactId time := by
  by_cases hne : contactId = other
  · subst hne
    exact ⟨_, now, InsertionMap.get?_set_self _ _ _, lastProbeAt_begun _ _ _, hnow⟩
  · obtain ⟨current, probed, hget, hlast, hle⟩ := h
    exact ⟨current, probed, by rw [Presence.withPing, InsertionMap.get?_set_of_ne hne]; exact hget,
      hlast, hle⟩

theorem Recalls.withTraffic (h : Recalls m contactId time) (other : String) (now : Nat) :
    Recalls (withTraffic m other now) contactId time :=
  h.set _ fun current probed hget hlast =>
    ⟨probed, by rw [hget]; exact hlast, Nat.le_refl probed⟩

theorem Recalls.acceptContactPresencePong (h : Recalls m contactId time) (other pingId : String)
    (now : Nat) : Recalls (acceptContactPresencePong m other pingId now) contactId time := by
  unfold Presence.acceptContactPresencePong
  split
  · exact h
  · rename_i current hget
    split
    · exact h
    · refine h.set _ fun current' probed hget' hlast => ⟨probed, ?_, Nat.le_refl probed⟩
      obtain rfl := Option.some.inj (hget.symm.trans hget')
      exact hlast

theorem Recalls.expireContactPresencePing (h : Recalls m contactId time) (other pingId : String)
    (now : Nat) : Recalls (expireContactPresencePing m other pingId now) contactId time := by
  unfold Presence.expireContactPresencePing
  split
  · exact h
  · rename_i current hget
    split
    · exact h
    · refine h.set _ fun current' probed hget' hlast => ⟨probed, ?_, Nat.le_refl probed⟩
      obtain rfl := Option.some.inj (hget.symm.trans hget')
      split <;> exact hlast

theorem Recalls.expireContactPresence (h : Recalls m contactId time) (other : String)
    (updatedAt now : Nat) :
    Recalls (expireContactPresence m other updatedAt now) contactId time := by
  unfold Presence.expireContactPresence
  split
  · exact h
  · rename_i current hget
    split
    · exact h
    · refine h.set _ fun current' probed hget' hlast => ⟨probed, ?_, Nat.le_refl probed⟩
      obtain rfl := Option.some.inj (hget.symm.trans hget')
      exact hlast

end Recall

end Branch.Pwa.Presence
