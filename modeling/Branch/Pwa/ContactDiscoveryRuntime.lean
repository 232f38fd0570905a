import Branch.Lib.InsertionMap
import Branch.Pwa.ContactDiscoveryScheduler

/-!
What an attempt to find a contact does, and when the next one is due: the ports that the page
gives to the timer.
-/

namespace Branch.Pwa.DiscoveryRuntime

open Branch.Lib

section Model

def retryEveryMs : ℤ := 60000

def maxLookupsPerSessionMinute : Nat := 4

structure ContactDiscoveryRow where
  branchId : String
  displayName : Option String
  lastCheckedAt : Option ℤ
  retryRequestedAt : ℤ

structure Identity where
  hpkePublicKey : String

structure LookupRequest where
  requestId : String
  expiresAt : ℤ

structure PendingRequest where
  branchId : String
  expiresAt : ℤ

/-- What the two ports read and write: the store, the session and the variables of the module. -/
structure Runtime where
  relaySessionClient : Option Nat
  /-- The client that the runtime was started with. -/
  client : Nat
  supportsContactDiscovery : Bool
  allowContactDiscovery : Bool
  identity : Option Identity
  localIdentityKeys : Bool
  contactDiscoveries : List ContactDiscoveryRow
  lookupTimes : List ℤ
  pendingRequests : InsertionMap String PendingRequest
  transportTrace : List String

def nextEligibleAt (row : ContactDiscoveryRow) : ℤ :=
  match row.lastCheckedAt with
  | none => row.retryRequestedAt
  | some lastCheckedAt =>
    if row.retryRequestedAt > lastCheckedAt then row.retryRequestedAt
    else lastCheckedAt + retryEveryMs

def isEligible (row : ContactDiscoveryRow) (now : ℤ) : Bool := nextEligibleAt row ≤ now

namespace Runtime

def trimLookupTimes (s : Runtime) (now : ℤ) : Runtime :=
  { s with lookupTimes := s.lookupTimes.filter fun at' => now - at' < retryEveryMs }

def checkedContactDiscovery (s : Runtime) (branchId : String) (now : ℤ) : Runtime :=
  { s with
    contactDiscoveries := s.contactDiscoveries.map fun row =>
      if row.branchId = branchId then { row with lastCheckedAt := some now } else row }

/-- Whether the session of the runtime is the live one and may look contacts up. -/
def active (s : Runtime) : Bool :=
  s.relaySessionClient = some s.client && s.supportsContactDiscovery && s.allowContactDiscovery

end Runtime

/-- An attempt, with the lookup that it has sent. The client fails where it throws. -/
def attemptDiscovery (lookupContact : String → String → Except String LookupRequest)
    (s : Runtime) (now : ℤ) : Runtime × Option LookupRequest :=
  if s.relaySessionClient ≠ some s.client ∨ s.supportsContactDiscovery = false then (s, none)
  else if s.allowContactDiscovery = false then (s, none)
  else
    match s.identity with
    | none => (s, none)
    | some identity =>
      if s.localIdentityKeys = false then (s, none)
      else
        let s := s.trimLookupTimes now
        if maxLookupsPerSessionMinute ≤ s.lookupTimes.length then (s, none)
        else
          match s.contactDiscoveries.find? fun candidate =>
              candidate.displayName.isNone && isEligible candidate now with
          | none => (s, none)
          | some row =>
            match lookupContact row.branchId identity.hpkePublicKey with
            | .error _ =>
              ({ s with
                transportTrace := s.transportTrace ++ ["contact discovery: lookup not sent"] },
                none)
            | .ok request =>
              let s := { s with
                pendingRequests := s.pendingRequests.set request.requestId
                  { branchId := row.branchId, expiresAt := request.expiresAt }
                lookupTimes := s.lookupTimes ++ [now] }
              (s.checkedContactDiscovery row.branchId now, some request)

def nextDiscoveryDelay (s : Runtime) (now : ℤ) : Runtime × Option ℤ :=
  if s.relaySessionClient ≠ some s.client ∨ s.supportsContactDiscovery = false ∨
      s.allowContactDiscovery = false then (s, none)
  else
    let s := s.trimLookupTimes now
    let unresolved := s.contactDiscoveries.filter fun row => row.displayName.isNone
    if unresolved.isEmpty then (s, none)
    else if maxLookupsPerSessionMinute ≤ s.lookupTimes.length then
      match s.lookupTimes.head? with
      | none => (s, some 0)
      | some oldest => (s, some (max 0 (oldest + retryEveryMs - now)))
    else
      (s, (unresolved.map fun row => max 0 (nextEligibleAt row - now)).min?)

end Model

section Delay

variable {lookupContact : String → String → Except String LookupRequest} {s : Runtime} {now : ℤ}

/-- Whether an attempt has what it needs to send a lookup. One that has not does not come to count
the lookups of the last minute. -/
def Runtime.hasIdentity (s : Runtime) : Bool := s.identity.isSome && s.localIdentityKeys

/-- The lookups of the last minute after an attempt that has sent none. -/
def Runtime.recentLookups (s : Runtime) (now later : ℤ) : List ℤ :=
  ((if s.hasIdentity then s.trimLookupTimes now else s).trimLookupTimes later).lookupTimes

/-- There is nothing to look up for now: contacts are not looked up at all, or enough of them have
been, or no contact is due. -/
def Runtime.Waits (s : Runtime) (now later : ℤ) : Prop :=
  s.active = false ∨ maxLookupsPerSessionMinute ≤ (s.recentLookups now later).length ∨
    ∀ row ∈ s.contactDiscoveries, row.displayName = none → isEligible row later = false

theorem Runtime.active_eq_true_iff : s.active = true ↔ s.relaySessionClient = some s.client ∧
    s.supportsContactDiscovery = true ∧ s.allowContactDiscovery = true := by
  simp only [Runtime.active, Bool.and_eq_true, decide_eq_true_eq, and_assoc]

theorem Runtime.active_eq_false_iff : s.active = false ↔ s.relaySessionClient ≠ some s.client ∨
    s.supportsContactDiscovery = false ∨ s.allowContactDiscovery = false := by
  rw [← Bool.not_eq_true, active_eq_true_iff, not_and_or, not_and_or, Bool.not_eq_true,
    Bool.not_eq_true]

/-- An attempt that has sent nothing has changed nothing but the times that it counts and what it
reports. -/
theorem attemptDiscovery_of_none (hactive : s.active = true)
    (h : (attemptDiscovery lookupContact s now).2 = none) :
    ∃ transportTrace, (attemptDiscovery lookupContact s now).1 =
      { if s.hasIdentity then s.trimLookupTimes now else s with transportTrace } := by
  obtain ⟨hclient, hsupports, hallow⟩ := Runtime.active_eq_true_iff.mp hactive
  rw [attemptDiscovery, if_neg (by simp [hclient, hsupports]), if_neg (by simp [hallow])] at h ⊢
  cases hidentity : s.identity with
  | none =>
    have hready : s.hasIdentity = false := by simp [Runtime.hasIdentity, hidentity]
    exact ⟨s.transportTrace, by rw [hready]; rfl⟩
  | some identity =>
    rw [hidentity] at h
    dsimp only at h ⊢
    by_cases hkeys : s.localIdentityKeys = false
    · have hready : s.hasIdentity = false := by simp [Runtime.hasIdentity, hkeys]
      exact ⟨s.transportTrace, by rw [if_pos hkeys, hready]; rfl⟩
    · rw [if_neg hkeys] at h ⊢
      have hready : s.hasIdentity = true := by simpa [Runtime.hasIdentity, hidentity] using hkeys
      rw [if_pos hready]
      split
      next => exact ⟨_, rfl⟩
      next hroom =>
        rw [if_neg hroom] at h
        split
        next => exact ⟨_, rfl⟩
        next row hfind =>
          rw [hfind] at h
          dsimp only at h
          split
          next => exact ⟨_, rfl⟩
          next request hrequest =>
            rw [hrequest] at h
            cases h

theorem min_delay_pos_iff {rows : List ContactDiscoveryRow} (hrows : rows ≠ []) :
    (∀ delay, (rows.map fun row => max 0 (nextEligibleAt row - now)).min? = some delay →
        0 < delay) ↔
      ∀ row ∈ rows, isEligible row now = false := by
  have hdue : ∀ row, 0 < max 0 (nextEligibleAt row - now) ↔ isEligible row now = false := by
    intro row
    simp only [isEligible, decide_eq_false_iff_not]
    omega
  have hsome : ((rows.map fun row => max 0 (nextEligibleAt row - now)).min?).isSome = true := by
    rw [List.isSome_min?_iff]
    simpa using hrows
  obtain ⟨least, hleast⟩ := Option.isSome_iff_exists.mp hsome
  obtain ⟨hmem, hle⟩ := List.min?_eq_some_iff.mp hleast
  rw [hleast]
  constructor
  · intro hpos row hrow
    rw [← hdue]
    exact Int.lt_of_lt_of_le (hpos least rfl) (hle _ (List.mem_map_of_mem hrow))
  · rintro hall _ ⟨⟩
    obtain ⟨row, hrow, heq⟩ := List.mem_map.mp hmem
    rw [← heq, hdue]
    exact hall row hrow

/-- The delay that the ports give is nothing, or a time from now, exactly while there is nothing
to look up. -/
theorem delay_pos_iff (s : Runtime) (now : ℤ) :
    (∀ delay, (nextDiscoveryDelay s now).2 = some delay → 0 < delay) ↔
      s.active = false ∨
        maxLookupsPerSessionMinute ≤ (s.trimLookupTimes now).lookupTimes.length ∨
        ∀ row ∈ s.contactDiscoveries, row.displayName = none → isEligible row now = false := by
  by_cases hactive : s.active = true
  · obtain ⟨hclient, hsupports, hallow⟩ := Runtime.active_eq_true_iff.mp hactive
    rw [nextDiscoveryDelay, if_neg (by simp [hclient, hsupports, hallow]), hactive]
    simp only [Bool.true_eq_false, false_or]
    have hunresolved : (∀ row ∈ s.contactDiscoveries, row.displayName = none →
        isEligible row now = false) ↔ ∀ row ∈ s.contactDiscoveries.filter
          fun row => row.displayName.isNone, isEligible row now = false := by
      simp only [List.mem_filter, Option.isNone_iff_eq_none, and_imp]
    rw [hunresolved]
    change (∀ delay, (if (s.contactDiscoveries.filter _).isEmpty then _ else _ :
      Runtime × Option ℤ).2 = some delay → 0 < delay) ↔ _
    by_cases hempty : s.contactDiscoveries.filter (fun row => row.displayName.isNone) = []
    · rw [if_pos (by rw [hempty]; rfl), hempty]
      exact iff_of_true (fun _ h => nomatch h) (.inr (List.forall_mem_nil _))
    · rw [if_neg (by rwa [List.isEmpty_iff])]
      by_cases hfull : maxLookupsPerSessionMinute ≤ (s.trimLookupTimes now).lookupTimes.length
      · rw [if_pos hfull]
        refine iff_of_true ?_ (.inl hfull)
        cases htimes : (s.trimLookupTimes now).lookupTimes with
        | nil =>
          rw [htimes] at hfull
          exact absurd hfull (by decide)
        | cons oldest times =>
          -- the oldest of the times that are kept is less than a minute ago
          rintro _ ⟨⟩
          have hmem : oldest ∈ (s.trimLookupTimes now).lookupTimes := by
            rw [htimes]
            exact List.mem_cons_self
          have hrecent := of_decide_eq_true (List.mem_filter.mp hmem).2
          omega
      · rw [if_neg hfull, or_iff_right hfull]
        exact min_delay_pos_iff hempty
  · rw [Bool.not_eq_true] at hactive
    rw [nextDiscoveryDelay, if_pos (Runtime.active_eq_false_iff.mp hactive)]
    exact iff_of_true (fun _ h => nomatch h) (.inl hactive)

/-- After an attempt that has sent nothing the timer waits, or is left alone, exactly while there
is nothing to look up. -/
theorem delay_pos_iff_of_attempt (lookupContact : String → String → Except String LookupRequest)
    (s : Runtime) (now later : ℤ) (h : (attemptDiscovery lookupContact s now).2 = none) :
    (∀ delay, (nextDiscoveryDelay (attemptDiscovery lookupContact s now).1 later).2 = some delay →
      0 < delay) ↔ s.Waits now later := by
  by_cases hactive : s.active = true
  · obtain ⟨transportTrace, heq⟩ := attemptDiscovery_of_none hactive h
    rw [heq, delay_pos_iff, Runtime.Waits]
    by_cases hready : s.hasIdentity = true
    · simp only [Runtime.recentLookups, hready, if_true]
      rfl
    · simp only [Runtime.recentLookups, hready, Bool.false_eq_true, if_false]
      rfl
  · rw [Bool.not_eq_true] at hactive
    have heq : attemptDiscovery lookupContact s now = (s, none) := by
      rw [attemptDiscovery]
      rcases Runtime.active_eq_false_iff.mp hactive with hclient | hsupports | hallow
      · rw [if_pos (.inl hclient)]
      · rw [if_pos (.inr hsupports)]
      · rw [if_pos hallow, ite_self]
    rw [heq, delay_pos_iff, Runtime.Waits]
    simp only [hactive, true_or]

/-- A contact is due, and the socket of the live session is about to close. -/
def closing : Runtime where
  relaySessionClient := some 1
  client := 1
  supportsContactDiscovery := true
  allowContactDiscovery := true
  identity := some { hpkePublicKey := "key" }
  localIdentityKeys := true
  contactDiscoveries :=
    [{ branchId := "branch", displayName := none, lastCheckedAt := none, retryRequestedAt := 0 }]
  lookupTimes := []
  pendingRequests := .empty
  transportTrace := []

theorem delay_pos_of_closing_checked :
    (attemptDiscovery (fun _ _ => .error "relay socket is not open")
      { closing with contactDiscoveries := [] } 1000).2 = none ∧
      ∀ delay, (nextDiscoveryDelay (attemptDiscovery
        (fun _ _ => .error "relay socket is not open")
        { closing with contactDiscoveries := [] } 1000).1 1000).2 = some delay → 0 < delay :=
  ⟨rfl, (delay_pos_iff_of_attempt _ _ _ _ rfl).mpr (.inr (.inr (List.forall_mem_nil _)))⟩

theorem closing_spins :
    (attemptDiscovery (fun _ _ => .error "relay socket is not open") closing 1000).2 = none ∧
      (nextDiscoveryDelay (attemptDiscovery (fun _ _ => .error "relay socket is not open")
        closing 1000).1 1000).2 = some 0 := by
  decide +kernel

end Delay

end Branch.Pwa.DiscoveryRuntime
