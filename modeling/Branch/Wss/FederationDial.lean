import Branch.Wss.DiscoveredFederation

/-!
The addresses that a relay dials for the endpoint of another relay, beside the addresses
that are reachable from everywhere.
-/

namespace Branch.Wss

open Branch.Lib

/-! ### The blocks of the address space -/

/-- The blocks of IPv4 addresses that are special or name more than one host. -/
def specialBlocks4 : List (BitVec 32 × Nat) :=
  [(0x00000000, 8), (0x0a000000, 8), (0x64400000, 10), (0x7f000000, 8), (0xa9fe0000, 16),
    (0xac100000, 12), (0xc0000000, 24), (0xc0000200, 24), (0xc0a80000, 16), (0xc6120000, 15),
    (0xc6336400, 24), (0xcb007100, 24), (0xe0000000, 4), (0xf0000000, 4)]

/-- The same of IPv6: unspecified, loopback, benchmarking, documentation, unique local,
link-local and multicast. -/
def specialBlocks6 : List (BitVec 128 × Nat) :=
  [(0, 128), (1, 128), (0x20010002000000000000000000000000, 48),
    (0x20010db8000000000000000000000000, 32), (0x3fff0000000000000000000000000000, 20),
    (0xfc000000000000000000000000000000, 7), (0xfe800000000000000000000000000000, 10),
    (0xff000000000000000000000000000000, 8)]

def Special4 (n : BitVec 32) : Prop :=
  ∃ block ∈ specialBlocks4, inPrefix4 block.1 block.2 n

def Special6 (n : BitVec 128) : Prop :=
  ∃ block ∈ specialBlocks6, inPrefix6 block.1 block.2 n

def isNAT64 (n : BitVec 128) : Prop := inPrefix6 0x0064ff9b000000000000000000000000 96 n
def is6to4 (n : BitVec 128) : Prop := inPrefix6 0x20020000000000000000000000000000 16 n

/-- An address of one host that can be reached from everywhere, whatever form the address
is written in. -/
def GloballyReachable (address : Addr) : Prop :=
  match address.unmap with
  | .ip4 n => ¬ Special4 n
  | .ip6 n _ =>
    ¬ Special6 n ∧ (isNAT64 n → ¬ Special4 (n.setWidth 32)) ∧
      (is6to4 n → ¬ Special4 ((n >>> 80).setWidth 32))

/-- What the check of addresses knows nothing of: the reserved block 240.0.0.0/4, also
within NAT64, 6to4, two blocks of IPv6, and the prefixes when a zone follows the address. -/
def Overlooked (address : Addr) : Prop :=
  match address.unmap with
  | .ip4 n => inPrefix4 0xf0000000 4 n
  | .ip6 n zone =>
    inPrefix6 0x20010002000000000000000000000000 48 n ∨
      inPrefix6 0x3fff0000000000000000000000000000 20 n ∨
      (is6to4 n ∧ Special4 ((n >>> 80).setWidth 32)) ∨
      (isNAT64 n ∧ inPrefix4 0xf0000000 4 (n.setWidth 32)) ∨
      (zone ≠ "" ∧ (n = 0 ∨ inPrefix6 0x20010db8000000000000000000000000 32 n ∨
        (isNAT64 n ∧ Special4 (n.setWidth 32))))

theorem special4_iff {n : BitVec 32} (h : privateOrSpecialAddress4 n = false) :
    Special4 n ↔ inPrefix4 0xf0000000 4 n = true := by
  simp [privateOrSpecialAddress4, Addr.isSpecial, Addr.isGlobalUnicast, Addr.isPrivate,
    Addr.isLoopback, Addr.isLinkLocalUnicast, Addr.isMulticast, inPrefix4] at h
  simp [Special4, specialBlocks4, inPrefix4]
  tauto

theorem special4_of_reserved {n : BitVec 32} (h : inPrefix4 0xf0000000 4 n = true) : Special4 n :=
  ⟨(0xf0000000, 4), by simp [specialBlocks4], h⟩

theorem isLoopback_ip6 (n : BitVec 128) (zone : String) :
    (Addr.ip6 n zone).isLoopback = inPrefix6 1 128 n := by
  simp [Addr.isLoopback, inPrefix6]

theorem isPrivate_ip6 (n : BitVec 128) (zone : String) :
    (Addr.ip6 n zone).isPrivate = inPrefix6 0xfc000000000000000000000000000000 7 n := by
  have hblock : (0xfc000000000000000000000000000000 : BitVec 128) >>> (128 - 7) = 0xfc >>> 1 := by
    decide
  rw [inPrefix6, hblock, Addr.isPrivate]

theorem isLinkLocalUnicast_ip6 (n : BitVec 128) (zone : String) :
    (Addr.ip6 n zone).isLinkLocalUnicast =
      inPrefix6 0xfe800000000000000000000000000000 10 n := by
  have hblock :
      (0xfe800000000000000000000000000000 : BitVec 128) >>> (128 - 10) = 0xfe80 >>> 6 := by
    decide
  rw [inPrefix6, hblock, Addr.isLinkLocalUnicast]

theorem isMulticast_ip6 (n : BitVec 128) (zone : String) :
    (Addr.ip6 n zone).isMulticast = inPrefix6 0xff000000000000000000000000000000 8 n := by
  have hblock : (0xff000000000000000000000000000000 : BitVec 128) >>> (128 - 8) = 0xff := by
    decide
  rw [inPrefix6, hblock, Addr.isMulticast]

theorem special6_iff {n : BitVec 128} {zone : String}
    (h : (Addr.ip6 n zone).isSpecial = false) :
    Special6 n ↔ n = 0 ∨ inPrefix6 0x20010002000000000000000000000000 48 n = true ∨
      inPrefix6 0x20010db8000000000000000000000000 32 n = true ∨
      inPrefix6 0x3fff0000000000000000000000000000 20 n = true := by
  have hunspecified : inPrefix6 0 128 n = true ↔ n = 0 := by simp [inPrefix6]
  simp only [Addr.isSpecial, Addr.isGlobalUnicast, Bool.or_eq_false_iff, isLoopback_ip6,
    isPrivate_ip6, isLinkLocalUnicast_ip6, isMulticast_ip6] at h
  obtain ⟨⟨⟨⟨⟨⟨-, hprivate⟩, hloopback⟩, hlink⟩, -⟩, hmulticast⟩, -⟩ := h
  simp only [Special6, specialBlocks6, List.exists_mem_cons_iff, List.not_mem_nil, false_and,
    exists_false, or_false, hunspecified, hloopback, hprivate, hlink, hmulticast,
    Bool.false_eq_true, false_or]

theorem not_documentation_of_isNAT64 {n : BitVec 128} (h : isNAT64 n) :
    ¬ inPrefix6 0x20010db8000000000000000000000000 32 n = true := by
  intro hdocumentation
  simp only [isNAT64, inPrefix6, decide_eq_true_eq] at h hdocumentation
  have hfirst : n >>> (128 - 32) = (n >>> (128 - 96)) >>> 64 := by
    rw [← BitVec.shiftRight_add]
  rw [h, hdocumentation] at hfirst
  revert hfirst
  decide

/-- The check keeps away from every address that is not reachable from everywhere, but for
what it overlooks. -/
theorem globallyReachable_iff {address : Addr} (h : privateOrSpecialAddress address = false) :
    GloballyReachable address ↔ ¬ Overlooked address := by
  unfold privateOrSpecialAddress at h
  unfold GloballyReachable Overlooked
  cases hunmap : address.unmap with
  | ip4 n =>
    simp only [hunmap] at h ⊢
    rw [special4_iff h]
  | ip6 n zone =>
    simp only [hunmap] at h ⊢
    split at h
    · cases h
    · rename_i hspecial
      rw [special6_iff (by simpa using hspecial)]
      have hreserved := special4_of_reserved (n := n.setWidth 32)
      have hdisjoint := not_documentation_of_isNAT64 (n := n)
      have hsome : isNAT64 n → zone = "" → (Special4 (n.setWidth 32) ↔
          inPrefix4 0xf0000000 4 (n.setWidth 32) = true) := by
        intro hnat hzone
        unfold isNAT64 at hnat
        rw [if_neg (not_not_intro hzone), if_pos hnat] at h
        exact special4_iff h
      have hnone : ¬ isNAT64 n → zone = "" →
          ¬ inPrefix6 0x20010db8000000000000000000000000 32 n = true := by
        intro hnat hzone
        unfold isNAT64 at hnat
        rw [if_neg (not_not_intro hzone), if_neg hnat] at h
        exact Bool.eq_false_iff.mp h
      have hnonzero : zone = "" → ¬ n = 0 := by
        rintro hzone rfl
        exact hspecial (by simp [Addr.isSpecial, Addr.isUnspecified, hzone])
      -- what is left is a matter of propositions
      clear h hspecial hunmap
      generalize (inPrefix6 0x20010db8000000000000000000000000 32 n = true) = documentation at *
      generalize (inPrefix6 0x3fff0000000000000000000000000000 20 n = true) = newer at *
      generalize (inPrefix6 0x20010002000000000000000000000000 48 n = true) = benchmarking at *
      generalize (inPrefix4 0xf0000000 4 (n.setWidth 32) = true) = reserved at *
      generalize isNAT64 n = nat at *
      generalize is6to4 n = tunnel at *
      generalize Special4 (n.setWidth 32) = special at *
      generalize Special4 ((n >>> 80).setWidth 32) = tunnelled at *
      generalize (n = 0) = zero at *
      grind

@[simp]
theorem unmap_unmap (address : Addr) : address.unmap.unmap = address.unmap := by
  cases address with
  | ip4 n => rfl
  | ip6 n zone =>
    by_cases hmapped : n >>> 32 = 0xffff
    · simp [Addr.unmap, hmapped]
    · simp only [Addr.unmap, if_neg hmapped]

@[simp]
theorem privateOrSpecialAddress_unmap (address : Addr) :
    privateOrSpecialAddress address.unmap = privateOrSpecialAddress address := by
  rw [privateOrSpecialAddress, unmap_unmap, privateOrSpecialAddress]

@[simp]
theorem globallyReachable_unmap (address : Addr) :
    GloballyReachable address.unmap ↔ GloballyReachable address := by
  rw [GloballyReachable, unmap_unmap, GloballyReachable]

/-! ### Resolving and dialling -/

/-- `FederationEndpointPolicy{}`. -/
def FederationEndpointPolicy.production : FederationEndpointPolicy :=
  { allowInsecureWS := false, allowPrivateAddresses := false }

/-- The loop through the answer of the resolver, with the addresses so far. -/
def collectAddresses (policy : FederationEndpointPolicy) :
    List Addr → List Addr → Option (List Addr)
  | addresses, [] => if addresses = [] then none else some addresses
  | addresses, address :: rest =>
    let address := address.unmap
    if ¬ policy.allowPrivateAddresses ∧ privateOrSpecialAddress address then none
    else if address ∈ addresses then collectAddresses policy addresses rest
    else collectAddresses policy (addresses ++ [address]) rest

section

variable (urlParse : String → Option FederationURL) (parseAddr : String → Option Addr)
  (lookupNetIP : String → Option (List Addr))

def resolveFederationAddresses (host : String) (policy : FederationEndpointPolicy) :
    Option (List Addr) :=
  match parseAddr host with
  | some address =>
    let address := address.unmap
    if ¬ policy.allowPrivateAddresses ∧ privateOrSpecialAddress address then none
    else some [address]
  | none =>
    match lookupNetIP host with
    | none => none
    | some resolved =>
      if resolved.length = 0 ∨ maxFederationPeers < resolved.length then none
      else collectAddresses policy [] resolved

/-- What the transport of a client keeps for its `DialContext`. -/
structure FederationHTTPClient where
  addresses : List Addr
  port : String
  deriving DecidableEq

def federationHTTPClient (endpoint : String) (policy : FederationEndpointPolicy) :
    Option FederationHTTPClient := do
  let parsed ← urlParse endpoint
  let addresses ← resolveFederationAddresses parseAddr lookupNetIP parsed.hostname policy
  return { addresses := addresses, port := parsed.port }

/-- The addresses that `DialContext` tries, one after the other until a connection
succeeds. -/
def dialContext (connects : Addr → Bool) : List Addr → List Addr
  | [] => []
  | address :: rest =>
    if connects address then [address] else address :: dialContext connects rest

def dialledFor (endpoint : String) (policy : FederationEndpointPolicy)
    (connects : Addr → Bool) : List Addr :=
  match federationHTTPClient urlParse parseAddr lookupNetIP endpoint policy with
  | none => []
  | some client => dialContext connects client.addresses

/-- The addresses that a host stands for: the literal address, or what the resolver
answers. -/
def offered (host : String) : List Addr :=
  match parseAddr host with
  | some address => [address]
  | none => (lookupNetIP host).getD []

/-- The cleaning of an endpoint and the resolving of its host say the same of a literal
address. -/
def LiteralsJudgedAlike (policy : FederationEndpointPolicy) : Prop :=
  ∀ (raw : String) (parsed : FederationURL) (address : Addr),
    urlParse (String.ofList (Text.strip Protocol.isSpace raw.toList)) = some parsed →
    parseAddr parsed.hostname = some address →
    (∀ cleaned, cleanFederationEndpoint urlParse parseAddr raw policy = .ok cleaned →
      resolveFederationAddresses parseAddr lookupNetIP parsed.hostname policy =
        some [address.unmap]) ∧
    (cleanFederationEndpoint urlParse parseAddr raw policy = .error privateFederationAddress →
      resolveFederationAddresses parseAddr lookupNetIP parsed.hostname policy = none)

end

/-! ### What comes of the loop -/

section

variable {policy : FederationEndpointPolicy}

theorem collectAddresses_eq_none (hpolicy : policy.allowPrivateAddresses = false)
    {addresses resolved : List Addr} {address : Addr} (hmem : address ∈ resolved)
    (hspecial : privateOrSpecialAddress address = true) :
    collectAddresses policy addresses resolved = none := by
  induction resolved generalizing addresses with
  | nil => cases hmem
  | cons head rest ih =>
    rw [collectAddresses]
    simp only [privateOrSpecialAddress_unmap, hpolicy]
    rcases List.mem_cons.mp hmem with rfl | hrest
    · simp [hspecial]
    · split
      · rfl
      · split
        · exact ih hrest
        · exact ih hrest

theorem exists_collectAddresses {resolved : List Addr} (addresses : List Addr)
    (hnonempty : addresses ++ resolved ≠ [])
    (hpublic : ∀ address ∈ resolved, privateOrSpecialAddress address = false) :
    ∃ found, collectAddresses policy addresses resolved = some found ∧
      ∀ address, address ∈ found ↔
        address ∈ addresses ∨ ∃ raw ∈ resolved, raw.unmap = address := by
  induction resolved generalizing addresses with
  | nil =>
    have hne : addresses ≠ [] := by simpa using hnonempty
    exact ⟨addresses, by rw [collectAddresses, if_neg hne], by simp⟩
  | cons head rest ih =>
    have hhead := hpublic head List.mem_cons_self
    have hrest : ∀ address ∈ rest, privateOrSpecialAddress address = false :=
      fun address hmem => hpublic address (List.mem_cons_of_mem _ hmem)
    rw [collectAddresses]
    simp only [privateOrSpecialAddress_unmap, hhead, Bool.false_eq_true, and_false, if_false]
    split
    · rename_i hseen
      obtain ⟨found, heq, hfound⟩ := ih addresses (by
        intro hnil
        rw [List.append_eq_nil_iff] at hnil
        rw [hnil.1] at hseen
        cases hseen) hrest
      refine ⟨found, heq, fun address => ?_⟩
      rw [hfound, List.exists_mem_cons_iff]
      constructor
      · rintro (h | h)
        · exact .inl h
        · exact .inr (.inr h)
      · rintro (h | rfl | h)
        · exact .inl h
        · exact .inl hseen
        · exact .inr h
    · obtain ⟨found, heq, hfound⟩ := ih (addresses ++ [head.unmap]) (by simp) hrest
      refine ⟨found, heq, fun address => ?_⟩
      rw [hfound, List.exists_mem_cons_iff, List.mem_append, List.mem_singleton, or_assoc,
        eq_comm]

end

section

variable (urlParse : String → Option FederationURL) (parseAddr : String → Option Addr)
  (lookupNetIP : String → Option (List Addr))

/-- A host has addresses to dial when none of the few it stands for is special, and these
are the ones dialled. -/
theorem resolveFederationAddresses_production (host : String) :
    (resolveFederationAddresses parseAddr lookupNetIP host .production = none ∧
      (offered parseAddr lookupNetIP host = [] ∨
        maxFederationPeers < (offered parseAddr lookupNetIP host).length ∨
        ∃ address ∈ offered parseAddr lookupNetIP host,
          privateOrSpecialAddress address = true)) ∨
    ∃ found, resolveFederationAddresses parseAddr lookupNetIP host .production = some found ∧
      (offered parseAddr lookupNetIP host).length ≤ maxFederationPeers ∧
      (∀ address ∈ offered parseAddr lookupNetIP host,
        privateOrSpecialAddress address = false) ∧
      ∀ address, address ∈ found ↔
        ∃ raw ∈ offered parseAddr lookupNetIP host, raw.unmap = address := by
  unfold resolveFederationAddresses offered
  cases parseAddr host with
  | some address =>
    cases hspecial : privateOrSpecialAddress address with
    | true => simp [hspecial, FederationEndpointPolicy.production]
    | false =>
      refine .inr ⟨[address.unmap], by simp [hspecial], ?_, by simpa using hspecial, ?_⟩
      · exact (by decide : 1 ≤ maxFederationPeers)
      · intro other
        simp [eq_comm]
  | none =>
    cases lookupNetIP host with
    | none => simp
    | some resolved =>
      simp only [Option.getD_some]
      by_cases hbounds : resolved.length = 0 ∨ maxFederationPeers < resolved.length
      · rw [if_pos hbounds]
        rcases hbounds with hempty | hlong
        · exact .inl ⟨rfl, .inl (List.length_eq_zero_iff.mp hempty)⟩
        · exact .inl ⟨rfl, .inr (.inl hlong)⟩
      · rw [if_neg hbounds]
        push Not at hbounds
        by_cases hpublic : ∀ address ∈ resolved, privateOrSpecialAddress address = false
        · obtain ⟨found, heq, hfound⟩ := @exists_collectAddresses .production resolved []
            (by simpa using hbounds.1) hpublic
          exact .inr ⟨found, heq, hbounds.2, hpublic, by simpa using hfound⟩
        · push Not at hpublic
          obtain ⟨address, hmem, hspecial⟩ := hpublic
          have hspecial : privateOrSpecialAddress address = true := by simpa using hspecial
          exact .inl ⟨collectAddresses_eq_none rfl hmem hspecial,
            .inr (.inr ⟨address, hmem, hspecial⟩)⟩

theorem mem_of_mem_dialContext {connects : Addr → Bool} {addresses : List Addr} {address : Addr}
    (h : address ∈ dialContext connects addresses) : address ∈ addresses := by
  induction addresses with
  | nil => exact h
  | cons head rest ih =>
    rw [dialContext] at h
    split at h
    · exact List.mem_cons.mpr (.inl (List.mem_singleton.mp h))
    · rcases List.mem_cons.mp h with rfl | hrest
      · exact List.mem_cons_self
      · exact List.mem_cons_of_mem _ (ih hrest)

theorem dialContext_false (addresses : List Addr) :
    dialContext (fun _ => false) addresses = addresses := by
  induction addresses with
  | nil => rfl
  | cons head rest ih => simp [dialContext, ih]

theorem throwIf_bind_eq_error {ε β : Type} {p : Prop} [Decidable p] {err e : ε}
    {f : Unit → Except ε β} :
    (throwIf p err >>= f) = .error e ↔ (p ∧ err = e) ∨ (¬ p ∧ f () = .error e) := by
  unfold throwIf
  split <;> simp [*, bind, Except.bind]

theorem throwIf_bind_of_ne {ε β : Type} {p : Prop} [Decidable p] {err e : ε}
    {f : Unit → Except ε β} (hne : err ≠ e) (h : (throwIf p err >>= f) = .error e) :
    f () = .error e :=
  (throwIf_bind_eq_error.mp h).elim (fun hp => absurd hp.2 hne) And.right

/-- The cleaning refuses a literal address as private exactly when it is special, if the
rest of the endpoint passes. -/
theorem cleanFederationEndpoint_literal {raw : String} {parsed : FederationURL} {address : Addr}
    (hparse : urlParse (String.ofList (Text.strip Protocol.isSpace raw.toList)) = some parsed)
    (haddr : parseAddr parsed.hostname = some address) :
    (∀ cleaned, cleanFederationEndpoint urlParse parseAddr raw .production = .ok cleaned →
      privateOrSpecialAddress address = false) ∧
    (cleanFederationEndpoint urlParse parseAddr raw .production =
      .error privateFederationAddress → privateOrSpecialAddress address = true) := by
  unfold cleanFederationEndpoint
  simp only [hparse, haddr]
  constructor
  · intro cleaned h
    obtain ⟨-, h⟩ := throwIf_bind_eq_ok.mp h
    obtain ⟨-, h⟩ := throwIf_bind_eq_ok.mp h
    obtain ⟨-, h⟩ := throwIf_bind_eq_ok.mp h
    obtain ⟨-, h⟩ := throwIf_bind_eq_ok.mp h
    obtain ⟨-, h⟩ := throwIf_bind_eq_ok.mp h
    obtain ⟨hpublic, -⟩ := throwIf_bind_eq_ok.mp h
    by_contra hspecial
    exact hpublic ⟨address, rfl, by simp [FederationEndpointPolicy.production],
      by simpa using hspecial⟩
  · intro h
    have h := throwIf_bind_of_ne (by decide) h
    have h := throwIf_bind_of_ne (by decide) h
    have h := throwIf_bind_of_ne (by decide) h
    have h := throwIf_bind_of_ne (by decide) h
    have h := throwIf_bind_of_ne (by decide) h
    rcases throwIf_bind_eq_error.mp h with ⟨⟨found, hfound, -, hspecial⟩, -⟩ | ⟨-, h⟩
    · obtain rfl := Option.some.inj hfound
      exact hspecial
    · cases h

theorem literalsJudgedAlike : LiteralsJudgedAlike urlParse parseAddr lookupNetIP .production := by
  intro raw parsed address hparse haddr
  have hresolve : resolveFederationAddresses parseAddr lookupNetIP parsed.hostname .production =
      if privateOrSpecialAddress address then none else some [address.unmap] := by
    simp [resolveFederationAddresses, haddr, FederationEndpointPolicy.production]
  obtain ⟨haccepted, hrefused⟩ := cleanFederationEndpoint_literal urlParse parseAddr hparse haddr
  rw [hresolve]
  constructor
  · intro cleaned hclean
    simp [haccepted cleaned hclean]
  · intro hclean
    simp [hrefused hclean]

/-- Under the default policy every address dialled for an endpoint is reachable from
everywhere, and literal addresses are judged alike, exactly when no address that the host
stands for is overlooked, or nothing is dialled because one of them is special or they are
too many. -/
theorem dialled_globallyReachable_iff (endpoint : String) :
    ((∀ connects, ∀ address ∈
        dialledFor urlParse parseAddr lookupNetIP endpoint .production connects,
        GloballyReachable address) ∧
      LiteralsJudgedAlike urlParse parseAddr lookupNetIP .production) ↔
    ∀ parsed, urlParse endpoint = some parsed →
      (offered parseAddr lookupNetIP parsed.hostname).length ≤ maxFederationPeers →
      (∀ address ∈ offered parseAddr lookupNetIP parsed.hostname,
        privateOrSpecialAddress address = false) →
      ∀ address ∈ offered parseAddr lookupNetIP parsed.hostname, ¬ Overlooked address := by
  rw [and_iff_left (literalsJudgedAlike urlParse parseAddr lookupNetIP)]
  cases hparse : urlParse endpoint with
  | none => simp [dialledFor, federationHTTPClient, hparse]
  | some parsed =>
    simp only [Option.some.injEq, forall_eq']
    rcases resolveFederationAddresses_production parseAddr lookupNetIP parsed.hostname with
      ⟨hnone, hrefused⟩ | ⟨found, hsome, hlength, hpublic, hfound⟩
    · refine iff_of_true ?_ ?_
      · simp [dialledFor, federationHTTPClient, hparse, hnone]
      · intro hlength hpublic address hmem
        rcases hrefused with hempty | hlong | ⟨special, hspecial, htrue⟩
        · rw [hempty] at hmem
          cases hmem
        · omega
        · rw [hpublic special hspecial] at htrue
          cases htrue
    · have hdialled : ∀ connects,
          dialledFor urlParse parseAddr lookupNetIP endpoint .production connects =
            dialContext connects found := by
        intro connects
        simp [dialledFor, federationHTTPClient, hparse, hsome]
      constructor
      · intro hreach _ _ address hmem
        rw [← globallyReachable_iff (hpublic address hmem), ← globallyReachable_unmap]
        apply hreach fun _ => false
        rw [hdialled, dialContext_false, hfound]
        exact ⟨address, hmem, rfl⟩
      · intro hoverlooked connects address hmem
        rw [hdialled] at hmem
        obtain ⟨raw, hraw, rfl⟩ := (hfound address).mp (mem_of_mem_dialContext hmem)
        rw [globallyReachable_unmap, globallyReachable_iff (hpublic raw hraw)]
        exact hoverlooked hlength hpublic raw hraw

end

/-- A name that the resolver answers with 240.0.0.1 is dialled there. -/
theorem not_dialled_globallyReachable :
    ¬ ∀ (urlParse : String → Option FederationURL) (parseAddr : String → Option Addr)
      (lookupNetIP : String → Option (List Addr)) (endpoint : String),
      (∀ connects, ∀ address ∈
        dialledFor urlParse parseAddr lookupNetIP endpoint .production connects,
        GloballyReachable address) ∧
      LiteralsJudgedAlike urlParse parseAddr lookupNetIP .production := by
  intro h
  let parsed : FederationURL :=
    { scheme := "wss", hostname := "relay.example.test", hasUser := false, fragment := "",
      port := "443", host := "relay.example.test:443", path := "/relay/v0", rawQuery := "",
      string := "wss://relay.example.test:443/relay/v0" }
  have hdialled := (h (fun value => if value = parsed.string then some parsed else none)
    (fun _ => none) (fun host => if host = parsed.hostname then some [.ip4 0xf0000001] else none)
    parsed.string).1 (fun _ => false) (.ip4 0xf0000001) (by decide)
  exact hdialled ⟨(0xf0000000, 4), by decide, by decide⟩

end Branch.Wss
