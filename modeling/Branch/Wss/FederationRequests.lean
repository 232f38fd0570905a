import Branch.Lib.LeaseWindow
import Branch.Lib.Trace
import Branch.Wss.DiscoveredFederation
import Branch.Wss.Handler

/-!
The requests for identity records that came from other relays a short while ago. All of them
share one bounded window.
-/

namespace Branch.Wss

open Branch.Lib
open Branch.Relay (PeerID Time)

def maxFederationRequestEntries : Nat := 64

def federationRequestLifetime : Int := 60000000000

structure FederationRequestKey where
  origin : PeerID
  requestID : String
  deriving DecidableEq

abbrev FederationRequestWindow := LeaseWindow FederationRequestKey

def RangeOrder (α : Type) := { order : List α → List α // ∀ entries, (order entries).Perm entries }

/-- One round of the search for the entry that expires first. -/
def older (oldest existing : FederationRequestKey × Time) : FederationRequestKey × Time :=
  if oldest.2 = zeroTime ∨ existing.2 < oldest.2 then existing else oldest

def oldestRequest (entries : List (FederationRequestKey × Time)) : FederationRequestKey × Time :=
  entries.foldl older (⟨"", ""⟩, zeroTime)

def FederationRequestWindow.reserve (window : FederationRequestWindow)
    (order : RangeOrder (FederationRequestKey × Time)) (origin : PeerID) (requestID : String)
    (now : Time) : FederationRequestWindow × Bool :=
  let window := window.expire now
  let key := ⟨origin, requestID⟩
  if (window.leases.get? key).isSome then (window, false)
  else
    let window :=
      if maxFederationRequestEntries ≤ window.leases.size then
        window.giveUp (oldestRequest (order.1 window.leases.toList)).1
      else window
    (window.grant federationRequestLifetime key now, true)

section Request

variable (env : Environment) (attached : Attached) (frame : TypedFrame)

/-- The request that `handleIdentityWant` reserves, if it comes so far. -/
def federationRequest : Option FederationRequestKey :=
  if ¬ attached.federationAttachment then none
  else
    match asString (frame.get? "branch_id"), numericField (frame.get? "sequence"),
        numericField (frame.get? "hop_limit"), asString (frame.get? "request_id") with
    | some _, some _, some hopLimit, some requestID =>
      if asString (frame.get? "origin_relay_key") = some attached.authenticatedPeerID ∧
          hopLimit ≤ 1 then
        some ⟨attached.authenticatedPeerID, requestID⟩
      else none
    | _, _, _, _ => none

variable {env attached frame}

theorem assertString_eq_ok {value : Option Json} {text : String}
    (h : assertString value = .ok text) : asString value = some text := by
  unfold assertString at h
  split at h
  · exact congrArg some (Except.ok.inj h)
  · cases h

theorem acceptedHopLimit_eq_ok {hopLimit taken : Nat} (hfederation : attached.federationAttachment)
    (h : acceptedHopLimit env attached frame hopLimit = .ok taken) :
    ∃ requestID, asString (frame.get? "request_id") = some requestID ∧
      asString (frame.get? "origin_relay_key") = some attached.authenticatedPeerID ∧
      hopLimit ≤ 1 ∧ env.reserveRequest attached.authenticatedPeerID requestID = true := by
  unfold acceptedHopLimit at h
  rw [if_pos hfederation] at h
  split at h
  · cases h
  · rename_i horigin
    split at h
    · cases h
    · rename_i requestID hrequest
      split at h
      · cases h
      · rename_i hhop
        split at h
        · cases h
        · rename_i hreserve
          exact ⟨requestID, hrequest, not_not.mp horigin, Nat.le_of_not_lt hhop,
            not_not.mp hreserve⟩

theorem reserved_of_answered {written : List Written}
    (hfederation : attached.federationAttachment)
    (h : handleIdentityWant env attached frame = .ok written) :
    ∃ request, federationRequest attached frame = some request ∧
      env.reserveRequest request.origin request.requestID = true := by
  unfold handleIdentityWant at h
  obtain ⟨branchID, hbranch, h⟩ := bind_eq_ok.mp h
  have hbranch := assertString_eq_ok hbranch
  split at h
  · cases h
  · rename_i sequence hsequence
    split at h
    · cases h
    · rename_i hopLimit hhop
      obtain ⟨taken, htaken, -⟩ := bind_eq_ok.mp h
      obtain ⟨requestID, hrequest, horigin, hle, hreserve⟩ :=
        acceptedHopLimit_eq_ok hfederation htaken
      refine ⟨⟨attached.authenticatedPeerID, requestID⟩, ?_, hreserve⟩
      rw [federationRequest, if_neg (not_not.mpr hfederation), hbranch, hsequence, hhop, hrequest]
      exact if_pos ⟨horigin, hle⟩

end Request

section Oldest

variable {entries : List (FederationRequestKey × Time)}

theorem foldl_older {oldest : FederationRequestKey × Time} (holdest : zeroTime < oldest.2)
    (hentries : ∀ entry ∈ entries, zeroTime < entry.2) :
    entries.foldl older oldest ∈ oldest :: entries ∧
      ∀ entry ∈ oldest :: entries, (entries.foldl older oldest).2 ≤ entry.2 := by
  induction entries generalizing oldest with
  | nil => simp
  | cons entry entries ih =>
    rw [List.forall_mem_cons] at hentries
    rw [List.foldl_cons]
    by_cases hlt : entry.2 < oldest.2
    · rw [older, if_pos (.inr hlt)]
      obtain ⟨hmem, hle⟩ := ih hentries.1 hentries.2
      have hfirst := hle entry List.mem_cons_self
      refine ⟨List.mem_cons_of_mem oldest hmem, ?_⟩
      rw [List.forall_mem_cons]
      exact ⟨hfirst.trans hlt.le, hle⟩
    · have hnot : ¬ (oldest.2 = zeroTime ∨ entry.2 < oldest.2) := by
        rintro (heq | hless)
        · rw [heq] at holdest
          exact lt_irrefl _ holdest
        · exact hlt hless
      rw [older, if_neg hnot]
      obtain ⟨hmem, hle⟩ := ih holdest hentries.2
      rw [List.forall_mem_cons] at hle
      refine ⟨?_, ?_⟩
      · rcases List.mem_cons.mp hmem with heq | hmem
        · rw [heq]
          exact List.mem_cons_self
        · exact List.mem_cons_of_mem oldest (List.mem_cons_of_mem entry hmem)
      · rw [List.forall_mem_cons, List.forall_mem_cons]
        exact ⟨hle.1, hle.1.trans (not_lt.mp hlt), hle.2⟩

theorem oldestRequest_spec (hne : entries ≠ []) (hentries : ∀ entry ∈ entries, zeroTime < entry.2) :
    oldestRequest entries ∈ entries ∧ ∀ entry ∈ entries, (oldestRequest entries).2 ≤ entry.2 := by
  cases entries with
  | nil => exact absurd rfl hne
  | cons entry entries =>
    rw [List.forall_mem_cons] at hentries
    rw [oldestRequest, List.foldl_cons, older, if_pos (.inl rfl)]
    exact foldl_older hentries.1 hentries.2

end Oldest

namespace FederationRequestWindow

variable {window : FederationRequestWindow} {clock now : Time}

/-- What holds of the window of a relay whose clock stands at a time. -/
structure Sound (clock : Time) (window : FederationRequestWindow) : Prop where
  lasting : window.Lasting federationRequestLifetime maxFederationRequestEntries clock
  spaced : LeaseWindow.Spaced federationRequestLifetime (maxFederationRequestEntries ≤ ·)
    window.granted
  size : window.leases.size ≤ maxFederationRequestEntries
  clock : zeroTime ≤ clock
  expires : ∀ key expiresAt, window.leases.get? key = some expiresAt → zeroTime < expiresAt

theorem sound_empty : Sound zeroTime {} where
  lasting := LeaseWindow.lasting_empty _ _ _
  spaced := .nil
  size := Nat.zero_le _
  clock := le_rfl
  expires key expiresAt hget := by
    rw [show ({} : FederationRequestWindow).leases.get? key = none from Table.get?_empty key]
      at hget
    cases hget

theorem Sound.expire (h : window.Sound clock) (hnow : clock ≤ now) :
    Sound now (window.expire now) where
  lasting := h.lasting.expire hnow
  spaced := h.spaced
  size := (Table.size_filter_le _ _).trans h.size
  clock := h.clock.trans hnow
  expires key expiresAt hget := h.expires key expiresAt (Table.get?_filter_eq_some.mp hget).1

theorem Sound.grant {rest : FederationRequestWindow} {key : FederationRequestKey}
    (h : window.Sound now) (hnone : window.leases.get? key = none)
    (hgranted : rest.granted = window.granted)
    (hlasting : (rest.grant federationRequestLifetime key now).Lasting
      federationRequestLifetime maxFederationRequestEntries now)
    (hrest : ∀ k expiresAt, rest.leases.get? k = some expiresAt →
      window.leases.get? k = some expiresAt)
    (hsize : rest.leases.size < maxFederationRequestEntries) :
    Sound now (rest.grant federationRequestLifetime key now) where
  lasting := hlasting
  spaced := by
    rw [LeaseWindow.grant, hgranted]
    exact .snoc h.spaced fun time hmem => h.lasting.again hnone hmem
  size := by
    change (rest.leases.insert key _).size ≤ _
    rw [Table.size_insert_of_get?_eq_none]
    · exact Nat.succ_le_of_lt hsize
    · cases hget : rest.leases.get? key with
      | none => rfl
      | some expiresAt =>
        rw [hrest key expiresAt hget] at hnone
        cases hnone
  clock := h.clock
  expires k expiresAt hget := by
    change (rest.leases.insert key (now + federationRequestLifetime)).get? k = _ at hget
    rw [Table.get?_insert] at hget
    split at hget
    · obtain rfl := Option.some.inj hget
      exact lt_of_le_of_lt h.clock (Int.lt_add_of_pos_right now (by decide))
    · exact h.expires k expiresAt (hrest k expiresAt hget)

theorem Sound.reserve (h : window.Sound clock) (hnow : clock ≤ now)
    (order : RangeOrder (FederationRequestKey × Time)) (origin : PeerID) (requestID : String) :
    Sound now (window.reserve order origin requestID now).1 := by
  have hexpired := h.expire hnow
  unfold FederationRequestWindow.reserve
  dsimp only
  split
  · exact hexpired
  · rename_i hheld
    rw [Bool.not_eq_true, Option.isSome_eq_false_iff, Option.isNone_iff_eq_none] at hheld
    by_cases hfull : maxFederationRequestEntries ≤ (window.expire now).leases.size
    · rw [if_pos hfull]
      -- the order of the range decides only between requests that expire together
      have hperm := order.2 (window.expire now).leases.toList
      have hmem : ∀ entry, entry ∈ order.1 (window.expire now).leases.toList ↔
          (window.expire now).leases.get? entry.1 = some entry.2 := by
        rintro ⟨key, expiresAt⟩
        rw [hperm.mem_iff, Table.mem_toList_iff]
      have hne : order.1 (window.expire now).leases.toList ≠ [] := by
        intro hnil
        have hlength := hperm.length_eq
        rw [hnil, Table.toList, List.length_map] at hlength
        rw [Table.size, ← hlength] at hfull
        exact absurd hfull (by decide)
      obtain ⟨hfound, hfirst⟩ := oldestRequest_spec hne fun entry hentry =>
        hexpired.expires entry.1 entry.2 ((hmem entry).mp hentry)
      have hvictim := (hmem _).mp hfound
      refine hexpired.grant hheld rfl ?_ ?_ ?_
      · exact hexpired.lasting.replace hheld hvictim
          (fun key expiresAt hget => hfirst (key, expiresAt) ((hmem _).mpr hget)) hfull
      · exact fun key expiresAt hget => (Table.get?_eq_some_of_get?_erase hget).2
      · have hkey : (oldestRequest (order.1 (window.expire now).leases.toList)).1 ∈
            (window.expire now).leases.keys := by
          rw [Table.mem_keys_iff, hvictim]
          rfl
        have hsize := hexpired.size
        have herase := Table.size_erase_of_mem hkey
        change ((window.expire now).leases.erase _).size < _
        omega
    · rw [if_neg hfull]
      exact hexpired.grant hheld rfl hexpired.lasting.grant (fun _ _ hget => hget)
        (Nat.lt_of_not_le hfull)

end FederationRequestWindow

/-- A want that an attachment sent, with what the rest of the relay answers. -/
structure FederationWant where
  env : Environment
  attached : Attached
  frame : TypedFrame
  order : RangeOrder (FederationRequestKey × Time)

structure FederationRequests where
  window : FederationRequestWindow := {}
  clock : Time := zeroTime

namespace FederationRequests

variable (requests : FederationRequests) (want : FederationWant)

/-- What `handleIdentityWant` answers with this window. -/
def handle : Except Fault (List Written) :=
  handleIdentityWant
    { want.env with
      reserveRequest := fun origin requestID =>
        (requests.window.reserve want.order origin requestID want.env.now).2 }
    want.attached want.frame

def next : FederationRequests :=
  match federationRequest want.attached want.frame with
  | none => requests
  | some request =>
    { window :=
        (requests.window.reserve want.order request.origin request.requestID want.env.now).1
      clock := want.env.now }

def InTime : Prop := requests.clock ≤ want.env.now

instance : Decidable (requests.InTime want) :=
  inferInstanceAs (Decidable (requests.clock ≤ want.env.now))

variable {requests want}

theorem granted_of_handle {written : List Written}
    (hfederation : want.attached.federationAttachment) (h : requests.handle want = .ok written) :
    ∃ request, federationRequest want.attached want.frame = some request ∧
      (requests.next want).window.granted =
        requests.window.granted ++ [(request, want.env.now)] := by
  obtain ⟨request, hrequest, hreserve⟩ := reserved_of_answered hfederation h
  refine ⟨request, hrequest, ?_⟩
  rw [next, hrequest]
  unfold FederationRequestWindow.reserve at hreserve ⊢
  dsimp only at hreserve ⊢
  split at hreserve
  · cases hreserve
  · rename_i hheld
    rw [if_neg hheld]
    split
    · rfl
    · rfl

theorem sound_next (h : requests.window.Sound requests.clock) (hnow : requests.InTime want) :
    (requests.next want).window.Sound (requests.next want).clock := by
  unfold next
  split
  · exact h
  · exact h.reserve hnow _ _ _

/-- Whenever wants are handled one after the other, the window is bounded, each want of another
relay that is answered was granted, and a request is granted again only when its lifetime passed
or enough others were granted since. -/
def KeepsApart (enough : Nat → Prop) : Prop :=
  ∀ wants, Trace.Meets next InTime {} wants →
    let requests := Trace.run next {} wants
    requests.window.leases.size ≤ maxFederationRequestEntries ∧
      LeaseWindow.Spaced federationRequestLifetime enough requests.window.granted ∧
      ∀ want written, want.attached.federationAttachment → requests.handle want = .ok written →
        ∃ request, federationRequest want.attached want.frame = some request ∧
          (requests.next want).window.granted =
            requests.window.granted ++ [(request, want.env.now)]

/-- As many other requests as there is room for displace a request. -/
theorem keepsApart_full : KeepsApart fun others => maxFederationRequestEntries ≤ others := by
  intro wants hwants
  have hsound : (Trace.run next {} wants).window.Sound (Trace.run next {} wants).clock :=
    Trace.invariant_of_meets (P := fun requests => requests.window.Sound requests.clock)
      (fun _ _ h hnow => sound_next h hnow) FederationRequestWindow.sound_empty hwants
  exact ⟨hsound.size, hsound.spaced, fun _ _ hfederation h => granted_of_handle hfederation h⟩

section Sample

def sampleWantEnvironment (now : Time) : Environment where
  now := now
  writeFails := false
  random _ := none
  reserve _ _ := none
  announcePresence _ := none
  heartbeat := none
  lookup _ := false
  lookupLocal _ := false
  lookupFederatedPeer _ := false
  rendezvous _ _ := none
  announceFederatedPeer _ := none
  rendezvousAgain _ _ := none
  sendDelivery _ _ _ := none
  reserveRequest _ _ := true
  identityContacts := false
  identityRecords _ _ := []
  acceptRecord _ _ := false

def sampleWant (origin : PeerID) (requestID : String) (seconds : Nat) : FederationWant where
  env := sampleWantEnvironment (seconds * 1000000000)
  attached := ⟨"session", origin, true, false⟩
  frame := Fields.ofList [("branch_id", .string "branch"), ("sequence", jsonNat 1),
    ("hop_limit", jsonNat 1), ("origin_relay_key", .string origin),
    ("request_id", .string requestID)]
  order := ⟨id, fun _ => .rfl⟩

/-- One relay asks, then another asks as often as there is room, then the first asks again. -/
def displacedWants : List (PeerID × String × Nat) :=
  ("A", "request", 1) ::
    (List.range maxFederationRequestEntries).map (fun i => ("B", toString i, 2)) ++
    [("A", "request", 3)]

def displaced : List FederationWant :=
  displacedWants.map fun want => sampleWant want.1 want.2.1 want.2.2

theorem next_sampleWant (requests : FederationRequests) (want : PeerID × String × Nat) :
    requests.next (sampleWant want.1 want.2.1 want.2.2) =
      ⟨(requests.window.reserve ⟨id, fun _ => .rfl⟩ want.1 want.2.1 (want.2.2 * 1000000000)).1,
        want.2.2 * 1000000000⟩ := by
  have hrequest : federationRequest (sampleWant want.1 want.2.1 want.2.2).attached
      (sampleWant want.1 want.2.1 want.2.2).frame = some ⟨want.1, want.2.1⟩ := by
    have hone : numericField (some (jsonNat 1)) = some 1 := by decide +kernel
    simp [federationRequest, sampleWant, Fields.ofList, Fields.get?_insert, asString, hone]
  rw [next, hrequest]
  rfl

theorem meets_sampleWants {wants : List (PeerID × String × Nat)} {requests : FederationRequests}
    (h : (requests.clock :: wants.map fun want => (want.2.2 : Time) * 1000000000).IsChain (· ≤ ·)) :
    Trace.Meets next InTime requests
      (wants.map fun want => sampleWant want.1 want.2.1 want.2.2) := by
  induction wants generalizing requests with
  | nil => trivial
  | cons want wants ih =>
    obtain ⟨hnow, hrest⟩ := List.isChain_cons_cons.mp h
    refine ⟨hnow, ?_⟩
    rw [next_sampleWant]
    exact ih hrest

theorem meets_displaced : Trace.Meets next InTime {} displaced :=
  meets_sampleWants (by decide +kernel)

theorem granted_displaced :
    let granted := (Trace.run next {} displaced).window.granted
    (⟨"A", "request"⟩, 1000000000) ∈ granted.dropLast ∧
      granted.getLast? = some (⟨"A", "request"⟩, 3000000000) := by
  unfold Trace.run displaced
  simp only [List.foldl_map, next_sampleWant]
  decide +kernel

end Sample

/-- The second request comes two seconds behind the first. -/
theorem not_keepsApart_displaced : ¬ KeepsApart fun _ => False := by
  intro h
  obtain ⟨-, hspaced, -⟩ := h displaced meets_displaced
  obtain ⟨hfirst, hlast⟩ := granted_displaced
  rw [← List.dropLast_append_getLast? _ hlast] at hspaced
  rcases hspaced.again 1000000000 hfirst with hle | hfalse
  · exact absurd hle (by decide)
  · exact hfalse

end FederationRequests

end Branch.Wss
