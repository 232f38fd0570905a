import Branch.Lib.Trace
import Branch.Pwa.ContactPresence
import Branch.Pwa.Tab

/-!
The timer that pings the contacts of an attached tab, one after the other.
-/

namespace Branch.Pwa.Presence

open Branch.Lib

section Model

def presenceRenewIntervalMs : Nat := 20000

def presencePingTimeoutMs : Nat := 8000

def presenceAvailableTtlMs : Nat := 60000

def backgroundProbeGapMs : Nat := 350

def backgroundIdleDelayMs : Nat := 1000

def maxContactsExaminedPerCycle : Nat := 64

/-- The runtime of one attachment. It is there until it is stopped. -/
structure PresenceRuntime where
  id : Nat
  client : Nat
  /-- When the timer is over, if there is one. -/
  timer : Option Nat
  cursor : Nat
  deriving DecidableEq

structure PingSend where
  runtime : Nat
  contactId : String
  pingId : String
  deriving DecidableEq

structure Ping where
  contactId : String
  time : Nat
  deriving DecidableEq

structure PresenceTab where
  /-- `Date.now()`, which does not go back. -/
  now : Nat
  contacts : List Contact
  identity : Option String
  attached : Bool
  presence : ContactPresenceById
  relaySessionClient : Option Nat
  hasAttachedRelaySession : Bool
  runtime : Option PresenceRuntime
  runtimes : Nat
  sends : List PingSend
  /-- All pings of the runtimes so far. -/
  pings : List Ping

def expireStale (now : Nat) (m : ContactPresenceById) (entry : String × ContactPresence) :
    ContactPresenceById :=
  let m :=
    match entry.2.pendingPingId, entry.2.lastProbeAt with
    | some pingId, some lastProbeAt =>
      if presencePingTimeoutMs ≤ now - lastProbeAt then
        expireContactPresencePing m entry.1 pingId now
      else m
    | _, _ => m
  if entry.2.status = .available ∧ presenceAvailableTtlMs ≤ now - entry.2.updatedAt then
    expireContactPresence m entry.1 entry.2.updatedAt now
  else m

def expireStalePresence (m : ContactPresenceById) (now : Nat) : ContactPresenceById :=
  m.entries.foldl (expireStale now) m

def eligible (presence : Option ContactPresence) (contact : Contact) (now : Nat) : Bool :=
  contact.peerId.isSome && contact.hpkePublicKey.isSome &&
    presence.all fun presence => presence.pendingPingId.isNone &&
      presence.lastProbeAt.all fun lastProbeAt => !(now - lastProbeAt < presenceRenewIntervalMs)

/-- The next contact to be pinged, and where the scan goes on. -/
def nextEligibleContact (contacts : List Contact) (presenceById : ContactPresenceById)
    (cursor now : Nat) : Option Contact × Nat :=
  let examined := min contacts.length maxContactsExaminedPerCycle
  let found := (List.range examined).findSome? fun offset =>
    let index := (cursor + offset) % contacts.length
    (contacts[index]?.filter fun contact =>
      eligible (presenceById.get? contact.contactId) contact now).map fun contact =>
        (contact, (index + 1) % contacts.length)
  match found with
  | some (contact, cursor) => (some contact, cursor)
  | none => (none, (cursor + examined) % contacts.length)

namespace PresenceTab

def schedule (s : PresenceTab) (delayMs : Nat) : PresenceTab :=
  { s with runtime := s.runtime.map fun r => { r with timer := some (s.now + delayMs) } }

def stopContactPresenceRuntime (s : PresenceTab) : PresenceTab := { s with runtime := none }

def startContactPresenceRuntime (s : PresenceTab) (client : Nat) : PresenceTab :=
  { s.stopContactPresenceRuntime with
    runtime := some { id := s.runtimes, client, timer := some s.now, cursor := 0 }
    runtimes := s.runtimes + 1 }

def reachable (s : PresenceTab) (contactId : String) : Bool :=
  match s.contacts.find? fun candidate => candidate.contactId = contactId with
  | none => false
  | some contact => s.identity.isSome && contact.peerId.isSome && contact.hpkePublicKey.isSome &&
    s.hasAttachedRelaySession

/-- A ping by hand or of the runtime, up to where its sending is awaited. -/
def probeContactPresence (s : PresenceTab) (contactId pingId : String) : PresenceTab :=
  if s.reachable contactId then
    { s with presence := beginContactPresencePing s.presence contactId pingId s.now }
  else s

/-- Whether a run of the runtime comes to look for a contact. -/
def runs (s : PresenceTab) (r : PresenceRuntime) : Bool :=
  s.relaySessionClient = some r.client && s.identity.isSome && s.attached && !s.contacts.isEmpty

def run (s : PresenceTab) (r : PresenceRuntime) (pingId : String) : PresenceTab :=
  if s.relaySessionClient ≠ some r.client then { s with runtime := some { r with timer := none } }
  else
    let s := { s with
      presence := expireStalePresence s.presence s.now
      runtime := some { r with timer := none } }
    if s.runs r = false then s
    else
      match nextEligibleContact s.contacts s.presence r.cursor s.now with
      | (none, cursor) =>
        { s with runtime := some { r with timer := none, cursor } }.schedule backgroundIdleDelayMs
      | (some contact, cursor) =>
        let s := { s with runtime := some { r with timer := none, cursor } }
        if s.reachable contact.contactId then
          { s.probeContactPresence contact.contactId pingId with
            sends := s.sends ++ [{ runtime := r.id, contactId := contact.contactId, pingId }]
            pings := s.pings ++ [{ contactId := contact.contactId, time := s.now }] }
        else s.schedule backgroundProbeGapMs

def settle (s : PresenceTab) (send : PingSend) (sent : Bool) : PresenceTab :=
  let s :=
    if sent then s
    else { s with
      presence := expireContactPresencePing s.presence send.contactId send.pingId s.now }
  if s.runtime.any fun r => r.id = send.runtime then s.schedule backgroundProbeGapMs else s

end PresenceTab

inductive PresenceEvent where
  | wait (ms : Nat)
  | start (client : Nat)
  | stop
  | session (client : Option Nat) (attached : Bool)
  /-- The store has other contacts, another identity or another status of the attachment. -/
  | store (contacts : List Contact) (identity : Option String) (attached : Bool)
  | probe (contactId pingId : String)
  | expirePing (contactId pingId : String)
  | traffic (contactId : String)
  | pong (contactId pingId : String)
  /-- The timer is over; a ping that the run sends has this id. -/
  | fire (pingId : String)
  /-- The sending at this position ends. -/
  | settle (position : Nat) (sent : Bool)

def step (s : PresenceTab) : PresenceEvent → PresenceTab
  | .wait ms => { s with now := s.now + ms }
  | .start client => s.startContactPresenceRuntime client
  | .stop => s.stopContactPresenceRuntime
  | .session relaySessionClient hasAttachedRelaySession =>
    { s with relaySessionClient, hasAttachedRelaySession }
  | .store contacts identity attached => { s with contacts, identity, attached }.schedule 0
  | .probe contactId pingId => s.probeContactPresence contactId pingId
  | .expirePing contactId pingId =>
    { s with presence := expireContactPresencePing s.presence contactId pingId s.now }
  | .traffic contactId =>
    { s with presence := confirmContactPresenceFromLiveTraffic s.presence contactId s.now }
  | .pong contactId pingId =>
    { s with presence := acceptContactPresencePong s.presence contactId pingId s.now }
  | .fire pingId =>
    match s.runtime with
    | none => s
    | some r =>
      match r.timer with
      | none => s
      | some time => if time ≤ s.now then s.run r pingId else s
  | .settle position sent =>
    match s.sends[position]? with
    | none => s
    | some send => { s with sends := s.sends.eraseIdx position }.settle send sent

def opened : PresenceTab where
  now := 0
  contacts := []
  identity := none
  attached := false
  presence := .empty
  relaySessionClient := none
  hasAttachedRelaySession := false
  runtime := none
  runtimes := 0
  sends := []
  pings := []

end Model

section Pacing

variable {s : PresenceTab}

/-- One ping is on its way at a time, and no contact is pinged twice within the interval. -/
structure Paced (s : PresenceTab) : Prop where
  single : s.sends.length ≤ 1
  apart : s.pings.Pairwise fun earlier later =>
    earlier.contactId = later.contactId → earlier.time + presenceRenewIntervalMs ≤ later.time

def PresenceTab.due (s : PresenceTab) (r : PresenceRuntime) : Option Contact :=
  if s.runs r then
    (nextEligibleContact s.contacts (expireStalePresence s.presence s.now) r.cursor s.now).1.filter
      fun contact => s.reachable contact.contactId
  else none

/-- The bound on the map drops the entry of a contact that was pinged within the interval. -/
def forgets (m : ContactPresenceById) (pings : List Ping) (now : Nat) : Bool :=
  (evicted? m).any fun e =>
    pings.any fun ping => ping.contactId = e.1 && now < ping.time + presenceRenewIntervalMs

/-- No run begins to send a ping while another is on its way, and what is dropped of the presence
of contacts was not pinged within the interval. -/
def undisturbed (s : PresenceTab) : PresenceEvent → Bool
  | .probe contactId pingId =>
    !s.reachable contactId || !forgets (withPing s.presence contactId pingId s.now) s.pings s.now
  | .traffic contactId => !forgets (withTraffic s.presence contactId s.now) s.pings s.now
  | .fire pingId =>
    match (s.runtime.filter fun r => r.timer.any (· ≤ s.now)).bind s.due with
    | none => true
    | some contact => s.sends.isEmpty &&
      !forgets (withPing (expireStalePresence s.presence s.now) contact.contactId pingId s.now)
        (s.pings ++ [{ contactId := contact.contactId, time := s.now }]) s.now
  | _ => true

theorem run_of_due_none {r : PresenceRuntime} (pingId : String) (h : s.due r = none) :
    ∃ presence runtime, s.run r pingId = { s with presence, runtime } ∧
      (presence = s.presence ∨ presence = expireStalePresence s.presence s.now) := by
  unfold PresenceTab.run
  split
  · exact ⟨_, _, rfl, .inl rfl⟩
  · dsimp only
    split
    · exact ⟨_, _, rfl, .inr rfl⟩
    · rename_i hruns
      have hruns : s.runs r = true := Bool.not_eq_false _ ▸ hruns
      split
      · exact ⟨_, _, rfl, .inr rfl⟩
      · rename_i contact cursor hnext
        rw [if_neg]
        · exact ⟨_, _, rfl, .inr rfl⟩
        · intro hreachable
          have hreachable : s.reachable contact.contactId = true := hreachable
          rw [PresenceTab.due, if_pos hruns, hnext, Option.filter_some, if_pos hreachable] at h
          cases h

theorem run_of_due_some {r : PresenceRuntime} {contact : Contact} (pingId : String)
    (h : s.due r = some contact) :
    ∃ runtime, s.run r pingId =
      { s with
        presence := beginContactPresencePing (expireStalePresence s.presence s.now)
          contact.contactId pingId s.now
        runtime
        sends := s.sends ++ [{ runtime := r.id, contactId := contact.contactId, pingId }]
        pings := s.pings ++ [{ contactId := contact.contactId, time := s.now }] } := by
  unfold PresenceTab.due at h
  split at h
  · rename_i hruns
    have hclient : ¬ s.relaySessionClient ≠ some r.client := by
      simp only [PresenceTab.runs, Bool.and_eq_true, decide_eq_true_eq] at hruns
      exact not_not.mpr hruns.1.1.1
    obtain ⟨hnext, hreachable⟩ := Option.filter_eq_some_iff.mp h
    unfold PresenceTab.run
    rw [if_neg hclient]
    dsimp only
    rw [if_neg (by rw [Bool.not_eq_false]; exact hruns)]
    split
    · rename_i cursor heq
      rw [heq] at hnext
      cases hnext
    · rename_i contact' cursor heq
      rw [heq] at hnext
      obtain rfl := Option.some.inj hnext
      have hreachable' : ∀ presence runtime, PresenceTab.reachable
          { s with presence, runtime } contact'.contactId = true := fun _ _ => hreachable
      refine ⟨some { r with timer := none, cursor }, ?_⟩
      rw [if_pos (hreachable' _ _), PresenceTab.probeContactPresence, if_pos (hreachable' _ _)]
  · cases h

theorem time_le_of_due {r : PresenceRuntime} {contact : Contact} {time : Nat}
    (h : s.due r = some contact)
    (hrecalls : Recalls (expireStalePresence s.presence s.now) contact.contactId time) :
    time + presenceRenewIntervalMs ≤ s.now := by
  unfold PresenceTab.due at h
  split at h
  · have hnext := (Option.filter_eq_some_iff.mp h).1
    unfold nextEligibleContact at hnext
    dsimp only at hnext
    split at hnext
    · rename_i contact' cursor hfound
      obtain rfl := Option.some.inj hnext
      obtain ⟨offset, -, hsome⟩ := List.exists_of_findSome?_eq_some hfound
      obtain ⟨contact, hfilter, heq⟩ := Option.map_eq_some_iff.mp hsome
      obtain rfl := (Prod.mk.inj heq).1
      have heligible := (Option.filter_eq_some_iff.mp hfilter).2
      obtain ⟨current, probed, hget, hlast, hle⟩ := hrecalls
      have hover : presenceRenewIntervalMs ≤ s.now - probed := by
        simp only [eligible, hget, hlast, Option.all_some, Bool.and_eq_true, Bool.not_eq_true',
          decide_eq_false_iff_not, Nat.not_lt] at heligible
        exact heligible.2.2
      unfold presenceRenewIntervalMs at hover ⊢
      omega
    · cases hnext
  · cases h

/-- What has been pinged is known, until the interval is over. -/
structure Good (s : PresenceTab) : Prop where
  paced : Paced s
  past : ∀ ping ∈ s.pings, ping.time ≤ s.now
  recalled : ∀ ping ∈ s.pings, ping.time + presenceRenewIntervalMs ≤ s.now ∨
    Recalls s.presence ping.contactId ping.time

theorem Recalls.expireStalePresence {m : ContactPresenceById} {contactId : String} {time : Nat}
    (h : Recalls m contactId time) (now : Nat) :
    Recalls (expireStalePresence m now) contactId time := by
  refine List.foldlRecOn (motive := fun m => Recalls m contactId time) m.entries (expireStale now)
    h fun m' h' entry _ => ?_
  unfold expireStale
  have hping : Recalls (match entry.2.pendingPingId, entry.2.lastProbeAt with
      | some pingId, some lastProbeAt =>
        if presencePingTimeoutMs ≤ now - lastProbeAt then
          Presence.expireContactPresencePing m' entry.1 pingId now
        else m'
      | _, _ => m') contactId time := by
    split
    · split
      · exact h'.expireContactPresencePing _ _ _
      · exact h'
    · exact h'
  dsimp only
  split
  · exact hping.expireContactPresence _ _ _
  · exact hping

theorem Recalls.of_not_forgets {m : ContactPresenceById} {pings : List Ping} {ping : Ping}
    {now : Nat} (h : Recalls m ping.contactId ping.time) (hmem : ping ∈ pings)
    (hkept : forgets m pings now = false) :
    ping.time + presenceRenewIntervalMs ≤ now ∨
      Recalls (Presence.boundedPresenceMap m) ping.contactId ping.time := by
  by_cases hdropped : ∃ e, evicted? m = some e ∧ e.1 = ping.contactId
  · obtain ⟨e, hevicted, heq⟩ := hdropped
    refine .inl (Nat.le_of_not_lt fun hlt => ?_)
    have hforgets : forgets m pings now = true := by
      rw [forgets, hevicted, Option.any_some, List.any_eq_true]
      exact ⟨ping, hmem, by simp [heq, hlt]⟩
    rw [hforgets] at hkept
    cases hkept
  · exact .inr (h.boundedPresenceMap fun e hevicted heq => hdropped ⟨e, hevicted, heq⟩)

theorem Good.change {presence : ContactPresenceById} (h : Good s)
    (hpresence : ∀ ping ∈ s.pings, Recalls s.presence ping.contactId ping.time →
      ping.time + presenceRenewIntervalMs ≤ s.now ∨
        Recalls presence ping.contactId ping.time)
    (runtime : Option PresenceRuntime) : Good { s with presence, runtime } where
  paced := ⟨h.paced.single, h.paced.apart⟩
  past := h.past
  recalled := fun ping hmem => (h.recalled ping hmem).elim .inl (hpresence ping hmem)

theorem Good.congr {s' : PresenceTab} (h : Good s) (hnow : s'.now = s.now)
    (hpresence : s'.presence = s.presence) (hsends : s'.sends.length ≤ s.sends.length)
    (hpings : s'.pings = s.pings) : Good s' where
  paced := ⟨Nat.le_trans hsends h.paced.single, hpings ▸ h.paced.apart⟩
  past := by
    rw [hpings, hnow]
    exact h.past
  recalled := by
    rw [hpings, hnow, hpresence]
    exact h.recalled

theorem Good.fire {r : PresenceRuntime} (h : Good s) (hruntime : s.runtime = some r)
    (htimer : r.timer.any (· ≤ s.now) = true) (pingId : String) (hundisturbed : undisturbed s (.fire pingId) = true) :
    Good (s.run r pingId) := by
  have hstale : ∀ ping ∈ s.pings, ping.time + presenceRenewIntervalMs ≤ s.now ∨
      Recalls (Presence.expireStalePresence s.presence s.now) ping.contactId ping.time :=
    fun ping hmem => (h.recalled ping hmem).imp_right fun hr => hr.expireStalePresence s.now
  cases hdue : s.due r with
  | none =>
    obtain ⟨presence, runtime, heq, hpresence⟩ := run_of_due_none pingId hdue
    rw [heq]
    refine h.change (fun ping hmem hr => .inr ?_) runtime
    rcases hpresence with rfl | rfl
    · exact hr
    · exact hr.expireStalePresence s.now
  | some contact =>
    obtain ⟨runtime, heq⟩ := run_of_due_some pingId hdue
    have hguard := hundisturbed
    simp only [undisturbed, hruntime, Option.filter_some, htimer, if_true, Option.bind_some,
      hdue, Bool.and_eq_true, List.isEmpty_iff, Bool.not_eq_true'] at hguard
    obtain ⟨hidle, hkept⟩ := hguard
    have hlong : ∀ ping ∈ s.pings, ping.contactId = contact.contactId →
        ping.time + presenceRenewIntervalMs ≤ s.now := by
      intro ping hmem hsame
      rcases hstale ping hmem with hover | hr
      · exact hover
      · exact time_le_of_due hdue (hsame ▸ hr)
    rw [heq]
    exact
      { paced :=
          { single := by
              rw [hidle]
              exact Nat.le_refl 1
            apart := by
              refine List.pairwise_append.mpr ⟨h.paced.apart, List.pairwise_singleton _ _, ?_⟩
              intro ping hmem last hlast hsame
              rw [List.mem_singleton.mp hlast] at hsame ⊢
              exact hlong ping hmem hsame }
        past := by
          intro ping hmem
          rcases List.mem_append.mp hmem with hmem | hmem
          · exact h.past ping hmem
          · rw [List.mem_singleton.mp hmem]
        recalled := by
          intro ping hmem
          have hrecalls : ping.time + presenceRenewIntervalMs ≤ s.now ∨
              Recalls (Presence.withPing (Presence.expireStalePresence s.presence s.now)
                contact.contactId pingId s.now) ping.contactId ping.time := by
            rcases List.mem_append.mp hmem with hmem | hmem
            · exact (hstale ping hmem).imp_right fun hr => hr.withPing (h.past ping hmem) pingId
            · rw [List.mem_singleton.mp hmem]
              exact .inr (recalls_withPing _ _ _ _)
          exact hrecalls.elim .inl fun hr => hr.of_not_forgets hmem hkept }

theorem Good.schedule (h : Good s) (delayMs : Nat) : Good (s.schedule delayMs) :=
  h.congr rfl rfl (Nat.le_refl _) rfl

theorem Good.settle (h : Good s) (send : PingSend) (sent : Bool) : Good (s.settle send sent) := by
  unfold PresenceTab.settle
  cases sent with
  | true =>
    simp only [if_true]
    split
    · exact h.schedule _
    · exact h
  | false =>
    have hexpired := h.change (fun ping _ hr =>
      .inr (hr.expireContactPresencePing send.contactId send.pingId s.now)) s.runtime
    simp only [Bool.false_eq_true, if_false]
    split
    · exact hexpired.schedule _
    · exact hexpired

theorem Good.step (h : Good s) (event : PresenceEvent)
    (hundisturbed : undisturbed s event = true) : Good (step s event) := by
  cases event with
  | wait ms =>
    exact
      { paced := ⟨h.paced.single, h.paced.apart⟩
        past := fun ping hmem => Nat.le_add_right_of_le (h.past ping hmem)
        recalled := fun ping hmem => (h.recalled ping hmem).imp_left Nat.le_add_right_of_le }
  | start client => exact h.congr rfl rfl (Nat.le_refl _) rfl
  | stop => exact h.congr rfl rfl (Nat.le_refl _) rfl
  | session client attached => exact h.congr rfl rfl (Nat.le_refl _) rfl
  | store contacts identity attached => exact h.congr rfl rfl (Nat.le_refl _) rfl
  | probe contactId pingId =>
    change Good (s.probeContactPresence contactId pingId)
    unfold PresenceTab.probeContactPresence
    split
    · rename_i hreachable
      simp only [undisturbed, hreachable, Bool.not_true, Bool.false_or,
        Bool.not_eq_true'] at hundisturbed
      exact h.change (fun ping hmem hr =>
        (hr.withPing (h.past ping hmem) pingId).of_not_forgets hmem hundisturbed) s.runtime
    · exact h
  | expirePing contactId pingId =>
    exact h.change (fun ping _ hr => .inr (hr.expireContactPresencePing _ _ _)) s.runtime
  | traffic contactId =>
    simp only [undisturbed, Bool.not_eq_true'] at hundisturbed
    exact h.change (fun ping hmem hr =>
      (hr.withTraffic contactId s.now).of_not_forgets hmem hundisturbed) s.runtime
  | pong contactId pingId =>
    exact h.change (fun ping _ hr => .inr (hr.acceptContactPresencePong _ _ _)) s.runtime
  | fire pingId =>
    unfold Presence.step
    cases hruntime : s.runtime with
    | none => exact h
    | some r =>
      dsimp only
      split
      · exact h
      · rename_i time htime
        split
        · rename_i hle
          exact h.fire hruntime (by simp [htime, hle]) pingId hundisturbed
        · exact h
  | settle position sent =>
    cases hget : s.sends[position]? with
    | none =>
      simp only [Presence.step, hget]
      exact h
    | some send =>
      simp only [Presence.step, hget]
      have hleft : Good { s with sends := s.sends.eraseIdx position } :=
        h.congr rfl rfl (List.length_eraseIdx_le s.sends position) rfl
      exact hleft.settle send sent

def presentContacts : List Contact :=
  [{ contactId := "alice", peerId := some "peerA", hpkePublicKey := some "keyA" },
   { contactId := "bob", peerId := some "peerB", hpkePublicKey := some "keyB" }]

/-- A tab with two contacts whose runtime has sent the first ping. -/
def firstPing : List PresenceEvent :=
  [.session (some 1) true, .store presentContacts (some "self") true, .start 1, .fire "ping1"]

end Pacing

end Branch.Pwa.Presence
