import Branch.Agreement.BootstrapBeacon
import Branch.Core.IdentityContact

/-!
The identity contacts that the relay and the client accept.
-/

namespace Branch.Agreement

open Branch.Lib
open Branch.Protocol (SignedEvent ValidationReason CborMap IdentityContactRouteHint
  IdentityContactPayload)

section RouteHints

structure HintFields (v : Cbor) (hint : IdentityContactRouteHint) : Prop where
  value : ∃ m, v = .map m ∧ (∀ entry ∈ m, entry.1 ∈ Protocol.routeHintKeys) ∧
    m.lookup "transport" = some (.text hint.transport) ∧
    m.lookup "uri" = some (.text hint.uri) ∧
    m.lookup "relay_public_key" = some (.text hint.relayPublicKey) ∧
    m.lookup "profile_multihash" = some (.text hint.profileMultihash) ∧
    m.lookup "priority" = some (.uint hint.priority)
  transport : ShortText hint.transport
  transport_le : hint.transport.utf8ByteSize ≤ 32
  transport_pattern : Protocol.transportPattern hint.transport = true
  uri : ShortText hint.uri
  uri_le : hint.uri.utf8ByteSize ≤ 512
  relayPublicKey : ShortText hint.relayPublicKey
  key_length : ∃ key, Base64.decodeChars hint.relayPublicKey.toList = some key ∧ key.length = 32
  profileMultihash : ShortText hint.profileMultihash
  priority_le : hint.priority ≤ Core.maxSafeInteger

def hintRank (hint : IdentityContactRouteHint) : String × Nat :=
  (hint.transport ++ "\x00" ++ hint.uri ++ "\x00" ++ hint.relayPublicKey, hint.priority)

variable (urlParse : String → Option Protocol.ParsedURL) (newURL : String → Option Core.URLParts)

structure RelayHint (hint : IdentityContactRouteHint) : Prop where
  uri : hint.transport = "wss" → Protocol.validateBootstrapWSSURI urlParse hint.uri = true
  profileMultihash_le : hint.profileMultihash.utf8ByteSize ≤ 128

structure ClientHint (hint : IdentityContactRouteHint) : Prop where
  uri : hint.transport = "wss" → Core.validateWssEndpointUri newURL hint.uri = true
  key_unbroken : ∀ c ∈ hint.relayPublicKey.toList, ¬ Base64.LineBreak c

variable {urlParse newURL}

theorem relay_keyLength_iff {key : String} :
    (¬ ∀ data ∈ Base64.decodeChars key.toList, data.length ≠ 32) ↔
      ∃ data, Base64.decodeChars key.toList = some data ∧ data.length = 32 := by
  push Not
  rfl

theorem client_readRelayPublicKey_eq_ok_iff {m : CborMap} {key : String} :
    Core.readRelayPublicKey m = .ok key ↔
      m.lookup "relay_public_key" = some (.text key) ∧ ShortText key ∧
        (∃ data, Base64.decodeChars key.toList = some data ∧ data.length = 32) ∧
        ∀ c ∈ key.toList, ¬ Base64.LineBreak c := by
  simp only [Core.readRelayPublicKey, bind_eq_ok, throwIf_eq_ok, client_requiredText_eq_ok_iff,
    Core.decodeBase64URL_eq_ok_iff, Base64.decodeStrict_eq_some_iff_decodeChars, not_not]
  constructor
  · rintro ⟨_, ⟨hlookup, hshort⟩, data, ⟨_, hdecode, hunbroken⟩, _, hlength, heq⟩
    obtain rfl := Except.ok.inj heq
    exact ⟨hlookup, hshort, ⟨data, hdecode, hlength⟩, hunbroken⟩
  · rintro ⟨hlookup, hshort, ⟨data, hdecode, hlength⟩, hunbroken⟩
    refine ⟨key, ⟨hlookup, hshort⟩, data, ⟨?_, hdecode, hunbroken⟩, (), hlength, rfl⟩
    exact fun hnil => hshort.1 (String.toList_eq_nil_iff.mp hnil)

theorem relay_readRouteHintsFrom_eq_ok_iff {seen : List String} {previous : Option Nat}
    {values : List Cbor} {hints : List IdentityContactRouteHint} :
    Protocol.readRouteHintsFrom urlParse seen previous values = .ok hints ↔
      List.Forall₂ HintFields values hints ∧
        InSequence seen (floorOf previous) (hints.map hintRank) ∧
        ∀ hint ∈ hints, RelayHint urlParse hint := by
  induction values generalizing seen previous hints with
  | nil => exact nil_eq_ok_iff
  | cons v values ih =>
    simp only [Protocol.readRouteHintsFrom, bind_eq_ok, throwIf_eq_ok, mapError_eq_ok,
      Protocol.cborMap_eq_ok_iff, Protocol.cborRejectUnknown_eq_ok_iff,
      Protocol.cborText_eq_ok_iff, Protocol.cborUint_eq_ok_iff, timestamp_le_iff, ih,
      List.forall₂_cons_left_iff, relay_keyLength_iff]
    push Not
    constructor
    · rintro ⟨m, rfl, _, hknown, transport, ⟨htransport, hshort⟩, _, ⟨hsize, hpattern⟩, uri,
        ⟨huri, hshortUri⟩, _, husize, _, hwss, key, ⟨hkey, hshortKey⟩, _, hkeyLength, profile,
        ⟨hprofile, hshortProfile⟩, _, hprofileLe, priority, ⟨hpriority, hple⟩, _, hfloor, _,
        hseen, rest, ⟨hrest, hsequence, hhints⟩, heq⟩
      obtain rfl := Except.ok.inj heq
      refine ⟨⟨⟨transport, uri, key, profile, priority⟩, rest,
        ⟨⟨m, rfl, hknown, htransport, huri, hkey, hprofile, hpriority⟩, hshort, hsize, hpattern,
        hshortUri, husize, hshortKey, hkeyLength, hshortProfile, hple⟩, hrest, rfl⟩,
        ⟨hseen, ?_, hsequence⟩, List.forall_mem_cons.mpr ⟨⟨hwss, hprofileLe⟩, hhints⟩⟩
      cases previous with
      | none => show (-1 : Int) ≤ priority; omega
      | some p => exact Int.ofNat_le.mpr (hfloor p rfl)
    · rintro ⟨⟨hint, rest, hfields, hrest, rfl⟩, ⟨hseen, hfloor, hsequence⟩, hhints⟩
      obtain ⟨m, rfl, hknown, htransport, huri, hkey, hprofile, hpriority⟩ := hfields.value
      obtain ⟨hhint, hhints⟩ := List.forall_mem_cons.mp hhints
      refine ⟨m, rfl, (), hknown, _, ⟨htransport, hfields.transport⟩, (),
        ⟨hfields.transport_le, hfields.transport_pattern⟩, _, ⟨huri, hfields.uri⟩, (),
        hfields.uri_le, (), hhint.uri, _, ⟨hkey, hfields.relayPublicKey⟩, (),
        hfields.key_length, _, ⟨hprofile, hfields.profileMultihash⟩, (),
        hhint.profileMultihash_le, _, ⟨hpriority, hfields.priority_le⟩, (), ?_, (), hseen, rest,
        ⟨hrest, hsequence, hhints⟩, rfl⟩
      rintro p rfl
      exact Int.ofNat_le.mp hfloor

theorem client_readRouteHintsFrom_eq_ok_iff {seen : List String} {previous : Int}
    {values : List Cbor} {hints : List IdentityContactRouteHint} :
    Core.readRouteHintsFrom newURL seen previous values = .ok hints ↔
      List.Forall₂ HintFields values hints ∧
        InSequence seen previous (hints.map hintRank) ∧
        ∀ hint ∈ hints, ClientHint newURL hint := by
  induction values generalizing seen previous hints with
  | nil => exact nil_eq_ok_iff
  | cons v values ih =>
    simp only [Core.readRouteHintsFrom, bind_eq_ok, throwIf_eq_ok,
      Core.readCborMap_eq_ok_iff, Core.rejectUnknownEntries_eq_ok_iff,
      client_requiredText_eq_ok_iff, Core.requiredUint_eq_ok_iff,
      client_readRelayPublicKey_eq_ok_iff, ih, List.forall₂_cons_left_iff]
    push Not
    constructor
    · rintro ⟨m, rfl, _, hknown, transport, ⟨htransport, hshort⟩, _, ⟨hsize, hpattern⟩, uri,
        ⟨huri, hshortUri⟩, _, husize, key, ⟨hkey, hshortKey, hkeyLength, hunbroken⟩, profile,
        ⟨hprofile, hshortProfile⟩, priority, ⟨hpriority, hple⟩, _, hfloor, _, hseen, _, hwss,
        rest, ⟨hrest, hsequence, hhints⟩, heq⟩
      obtain rfl := Except.ok.inj heq
      exact ⟨⟨⟨transport, uri, key, profile, priority⟩, rest,
        ⟨⟨m, rfl, hknown, htransport, huri, hkey, hprofile, hpriority⟩, hshort, hsize, hpattern,
        hshortUri, husize, hshortKey, hkeyLength, hshortProfile, hple⟩, hrest, rfl⟩,
        ⟨hseen, hfloor, hsequence⟩, List.forall_mem_cons.mpr ⟨⟨hwss, hunbroken⟩, hhints⟩⟩
    · rintro ⟨⟨hint, rest, hfields, hrest, rfl⟩, ⟨hseen, hfloor, hsequence⟩, hhints⟩
      obtain ⟨m, rfl, hknown, htransport, huri, hkey, hprofile, hpriority⟩ := hfields.value
      obtain ⟨hhint, hhints⟩ := List.forall_mem_cons.mp hhints
      exact ⟨m, rfl, (), hknown, _, ⟨htransport, hfields.transport⟩, (),
        ⟨hfields.transport_le, hfields.transport_pattern⟩, _, ⟨huri, hfields.uri⟩, (),
        hfields.uri_le, _, ⟨hkey, hfields.relayPublicKey, hfields.key_length,
        hhint.key_unbroken⟩, _, ⟨hprofile, hfields.profileMultihash⟩, _,
        ⟨hpriority, hfields.priority_le⟩, (), hfloor, (), hseen, (), hhint.uri, rest,
        ⟨hrest, hsequence, hhints⟩, rfl⟩

end RouteHints

section Aliases

/-- The texts under the key of the aliases, before they are brought into their normal form. -/
structure AliasTexts (m : CborMap) (texts : List String) : Prop where
  value : m.lookup "aliases" = some (.array (texts.map .text))
  count_le : texts.length ≤ 8
  short : ∀ s ∈ texts, ShortText s

/-- The aliases that the relay makes of texts, which stand in order. -/
structure RelayAliases (texts aliases : List String) : Prop where
  normal : aliases = texts.map Protocol.normalizeAlias
  valid : ∀ s ∈ aliases, Protocol.validAlias s = true
  nodup : aliases.Nodup
  ordered : ByteOrdered aliases

/-- The aliases that the client makes of texts, which it puts in order. -/
structure ClientAliases (texts aliases : List String) : Prop where
  normal : aliases = Core.sortTexts (texts.map Core.normalizeAlias)
  size : ∀ s ∈ texts, (Core.normalizeAlias s).utf8ByteSize ≤ Core.maxIdentityAliasBytes
  pattern : ∀ s ∈ texts, Protocol.identityAliasPattern (Core.normalizeAlias s) = true
  nodup : aliases.Nodup

theorem relay_readIdentityAliases_eq_ok_iff {m : CborMap} {aliases : List String}
    (hshort : ∀ texts : List String, m.lookup "aliases" = some (.array (texts.map .text)) →
      ∀ s ∈ texts, ShortText s) :
    Protocol.readIdentityAliases m = .ok aliases ↔
      ∃ texts, AliasTexts m texts ∧ RelayAliases texts aliases := by
  simp only [Protocol.readIdentityAliases, bind_eq_ok, mapError_eq_ok,
    Protocol.cborRequired_eq_ok_iff]
  constructor
  · rintro ⟨v, hlookup, h⟩
    cases v with
    | array values =>
      obtain ⟨hcount, h⟩ := throwIf_bind_eq_ok.mp h
      obtain ⟨texts, rfl, hnormal, hvalid, _, hnodup, horder⟩ :=
        relay_readOrderedTexts_eq_ok_iff.mp h
      rw [List.length_map, Nat.not_lt] at hcount
      exact ⟨texts, ⟨hlookup, hcount, hshort texts hlookup⟩, hnormal, hvalid, hnodup,
        byteOrdered_cons_empty.mp horder⟩
    | _ => cases h
  · rintro ⟨texts, h, haliases⟩
    refine ⟨_, h.value, throwIf_bind_eq_ok.mpr ⟨?_, ?_⟩⟩
    · rw [List.length_map, Nat.not_lt]
      exact h.count_le
    · exact relay_readOrderedTexts_eq_ok_iff.mpr ⟨texts, rfl, haliases.normal, haliases.valid,
        by simp, haliases.nodup, byteOrdered_cons_empty.mpr haliases.ordered⟩

theorem client_readAlias_eq_ok_iff {value s : String} :
    Core.readAlias value = .ok s ↔
      s = Core.normalizeAlias value ∧ s.utf8ByteSize ≤ Core.maxIdentityAliasBytes ∧
        Protocol.identityAliasPattern s = true := by
  simp only [Core.readAlias, throwIf_bind_eq_ok]
  push Not
  constructor
  · rintro ⟨hbound, heq⟩
    obtain rfl := Except.ok.inj heq
    exact ⟨rfl, hbound⟩
  · rintro ⟨rfl, hbound⟩
    exact ⟨hbound, rfl⟩

theorem client_readAliasList_eq_ok_iff {texts aliases : List String} :
    texts.mapM Core.readAlias = .ok aliases ↔
      aliases = texts.map Core.normalizeAlias ∧
        (∀ s ∈ texts, (Core.normalizeAlias s).utf8ByteSize ≤ Core.maxIdentityAliasBytes) ∧
        ∀ s ∈ texts, Protocol.identityAliasPattern (Core.normalizeAlias s) = true := by
  rw [mapM_eq_ok_iff]
  simp only [client_readAlias_eq_ok_iff]
  induction texts generalizing aliases with
  | nil => simp
  | cons s texts ih =>
    simp only [List.forall₂_cons_left_iff, ih, List.map_cons, List.forall_mem_cons]
    constructor
    · rintro ⟨_, _, ⟨rfl, hsize, hpattern⟩, ⟨rfl, hsizes, hpatterns⟩, rfl⟩
      exact ⟨rfl, ⟨hsize, hsizes⟩, hpattern, hpatterns⟩
    · rintro ⟨rfl, ⟨hsize, hsizes⟩, hpattern, hpatterns⟩
      exact ⟨_, _, ⟨rfl, hsize, hpattern⟩, ⟨rfl, hsizes, hpatterns⟩, rfl⟩

theorem client_alias_char {c : Char}
    (h : Protocol.isAliasChar c = true ∨ c = '.' ∨ c = '_' ∨ c = '-') :
    Core.isSpace c = false ∧ Core.toLowerCase c = [c] := by
  have hrange : ('a' ≤ c ∧ c ≤ 'z') ∨ ('0' ≤ c ∧ c ≤ '9') ∨ c = '.' ∨ c = '_' ∨ c = '-' := by
    simpa [Protocol.isAliasChar, or_assoc] using h
  have hnat : (97 ≤ c.toNat ∧ c.toNat ≤ 122) ∨ (48 ≤ c.toNat ∧ c.toNat ≤ 57) ∨
      c.toNat = 46 ∨ c.toNat = 95 ∨ c.toNat = 45 := by
    rcases hrange with ⟨hlow, hhigh⟩ | ⟨hlow, hhigh⟩ | rfl | rfl | rfl
    · exact .inl ⟨hlow, hhigh⟩
    · exact .inr (.inl ⟨hlow, hhigh⟩)
    · exact .inr (.inr (.inl rfl))
    · exact .inr (.inr (.inr (.inl rfl)))
    · exact .inr (.inr (.inr (.inr rfl)))
  constructor
  · simp only [Core.isSpace, Bool.or_eq_false_iff, Bool.and_eq_false_iff, decide_eq_false_iff_not]
    omega
  · have hupper : ¬ ('A' ≤ c ∧ c ≤ 'Z') := by
      rintro ⟨hlow, hhigh⟩
      have hlow' : 65 ≤ c.toNat := hlow
      have hhigh' : c.toNat ≤ 90 := hhigh
      omega
    rw [Core.toLowerCase, if_neg hupper, if_neg (by omega), if_neg (by omega)]

theorem client_normalizeAlias_eq_self {s : String}
    (h : Protocol.identityAliasPattern s = true) : Core.normalizeAlias s = s := by
  have hall : ∀ c ∈ s.toList, Protocol.isAliasChar c = true ∨ c = '.' ∨ c = '_' ∨ c = '-' := by
    unfold Protocol.identityAliasPattern at h
    split at h
    · rename_i hnil
      simp [hnil]
    · rename_i c cs hcons
      rw [hcons]
      simp only [Bool.and_eq_true, List.all_eq_true, Bool.or_eq_true, decide_eq_true_eq] at h
      refine List.forall_mem_cons.mpr ⟨.inl h.1.1.1, fun c hc => ?_⟩
      simpa [or_assoc] using h.2 c hc
  have hstrip := Text.strip_eq_self fun c hc => (client_alias_char (hall c hc)).1
  have hlower : s.toList.flatMap Core.toLowerCase = s.toList.flatMap fun c => [c] :=
    List.flatMap_congr fun c hc => (client_alias_char (hall c hc)).2
  rw [Core.normalizeAlias, hstrip, hlower, List.flatMap_singleton', String.ofList_toList]

theorem client_readAliasEntries_eq_ok_iff {values : List Cbor} {aliases : List String} :
    (values.mapM fun entry => do
        let text ← Core.readText entry "alias"
        Core.readAlias text) = .ok aliases ↔
      ∃ texts : List String, values = texts.map .text ∧ (∀ s ∈ texts, ShortText s) ∧
        texts.mapM Core.readAlias = .ok aliases := by
  simp only [mapM_eq_ok_iff, bind_eq_ok, Core.readText_eq_ok_iff]
  induction values generalizing aliases with
  | nil =>
    rw [List.forall₂_nil_left_iff]
    constructor
    · rintro rfl
      exact ⟨[], rfl, by simp, .nil⟩
    · rintro ⟨texts, hvalues, _, haliases⟩
      obtain rfl : texts = [] := by simpa using hvalues.symm
      exact List.forall₂_nil_left_iff.mp haliases
  | cons v values ih =>
    simp only [List.forall₂_cons_left_iff, ih]
    constructor
    · rintro ⟨s, rest, ⟨text, ⟨rfl, hshort⟩, hread⟩, ⟨texts, rfl, hshorts, hreads⟩, rfl⟩
      exact ⟨text :: texts, rfl, List.forall_mem_cons.mpr ⟨hshort, hshorts⟩,
        .cons hread hreads⟩
    · rintro ⟨texts, hvalues, hshort, hreads⟩
      cases texts with
      | nil => simp at hvalues
      | cons text texts =>
        simp only [List.map_cons, List.cons.injEq] at hvalues
        obtain ⟨rfl, rfl⟩ := hvalues
        obtain ⟨s, rest, hread, hrest, rfl⟩ := List.forall₂_cons_left_iff.mp hreads
        obtain ⟨hshort, hshorts⟩ := List.forall_mem_cons.mp hshort
        exact ⟨s, rest, ⟨text, ⟨rfl, hshort⟩, hread⟩, ⟨texts, rfl, hshorts, hrest⟩, rfl⟩

theorem client_readAliases_eq_ok_iff {v : Cbor} {aliases : List String} :
    Core.readAliases v = .ok aliases ↔
      ∃ texts : List String, v = .array (texts.map .text) ∧ texts.length ≤ 8 ∧
        (∀ s ∈ texts, ShortText s) ∧ ClientAliases texts aliases := by
  have hagain : ∀ {texts : List String},
      (∀ s ∈ texts, Protocol.identityAliasPattern (Core.normalizeAlias s) = true) →
      (texts.map Core.normalizeAlias).map Core.normalizeAlias =
        texts.map Core.normalizeAlias := by
    intro texts hpattern
    rw [List.map_map]
    exact List.map_congr_left fun s hs => client_normalizeAlias_eq_self (hpattern s hs)
  constructor
  · intro h
    cases v with
    | array values =>
      obtain ⟨hcount, h⟩ := throwIf_bind_eq_ok.mp h
      obtain ⟨normal, hnormal, h⟩ := bind_eq_ok.mp h
      obtain ⟨texts, rfl, hshort, hread⟩ := client_readAliasEntries_eq_ok_iff.mp hnormal
      obtain ⟨rfl, hsize, hpattern⟩ := client_readAliasList_eq_ok_iff.mp hread
      obtain ⟨again, hread, h⟩ := bind_eq_ok.mp h
      obtain ⟨rfl, _, _⟩ := client_readAliasList_eq_ok_iff.mp hread
      obtain ⟨hnodup, heq⟩ := throwIf_bind_eq_ok.mp h
      obtain rfl := Except.ok.inj heq
      rw [List.length_map, Nat.not_lt] at hcount
      rw [hagain hpattern] at hnodup ⊢
      exact ⟨texts, rfl, hcount, hshort, rfl, hsize, hpattern, not_not.mp hnodup⟩
    | _ => cases h
  · rintro ⟨texts, rfl, hcount, hshort, h⟩
    have hpattern := h.pattern
    obtain rfl := h.normal
    refine throwIf_bind_eq_ok.mpr ⟨?_, bind_eq_ok.mpr
      ⟨texts.map Core.normalizeAlias, ?_, bind_eq_ok.mpr
      ⟨texts.map Core.normalizeAlias, ?_, throwIf_bind_eq_ok.mpr
      ⟨not_not.mpr h.nodup, rfl⟩⟩⟩⟩
    · rw [List.length_map, Nat.not_lt]
      exact hcount
    · exact client_readAliasEntries_eq_ok_iff.mpr ⟨texts, rfl, hshort,
        client_readAliasList_eq_ok_iff.mpr ⟨rfl, h.size, hpattern⟩⟩
    · refine client_readAliasList_eq_ok_iff.mpr ⟨(hagain hpattern).symm, ?_, ?_⟩
      · intro s hs
        obtain ⟨text, htext, rfl⟩ := List.mem_map.mp hs
        rw [client_normalizeAlias_eq_self (hpattern text htext)]
        exact h.size text htext
      · intro s hs
        obtain ⟨text, htext, rfl⟩ := List.mem_map.mp hs
        rw [client_normalizeAlias_eq_self (hpattern text htext)]
        exact hpattern text htext

end Aliases

section BranchID

theorem branchID_wire (digest : Vector UInt8 32) :
    (Protocol.branchIDPrefix ++ Base64.encode (0x12 :: 0x20 :: digest.toList)).toList =
      Protocol.branchIDPrefix.toList ++ Base64.encodeBytes (0x12 :: 0x20 :: digest.toList) := by
  rw [String.toList_append, Base64.encode, String.toList_ofList]

theorem relay_parseBranchID_branchID (digest : Vector UInt8 32) :
    Protocol.parseBranchID
      (Protocol.branchIDPrefix ++ Base64.encode (0x12 :: 0x20 :: digest.toList)) = true := by
  have hdecode := Base64.decodeStrict_encodeBytes (0x12 :: 0x20 :: digest.toList)
  have hlenient := (Base64.decodeStrict_eq_some_iff_decodeChars.mp hdecode).1
  rw [Protocol.parseBranchID, branchID_wire, List.drop_left, hlenient]
  simp

theorem client_parseBranchID_branchID (digest : Vector UInt8 32) :
    Core.parseBranchID
      (Core.branchIDPrefix ++ Base64.encode (0x12 :: 0x20 :: digest.toList)) = .ok () := by
  have hdecode := Base64.decodeStrict_encodeBytes (0x12 :: 0x20 :: digest.toList)
  have hlist := branchID_wire digest
  have hinit : Core.branchIDPrefix = Protocol.branchIDPrefix := rfl
  have hlength : Protocol.branchIDPrefix.length = Protocol.branchIDPrefix.toList.length := rfl
  refine throwIf_bind_eq_ok.mpr ⟨?_, bind_eq_ok.mpr
    ⟨0x12 :: 0x20 :: digest.toList, ?_, throwIf_eq_ok.mpr ?_⟩⟩
  · rw [hinit, hlist]
    exact not_not.mpr (List.prefix_append _ _)
  · rw [hinit, hlist, hlength, List.drop_left]
    refine Core.decodeBase64URL_eq_ok_iff.mpr ⟨?_, hdecode⟩
    exact Base64.encodeBytes_ne_nil (List.cons_ne_nil _ _)
  · simp

end BranchID

section ContactPayload

/-- The fields of the payload of a contact, wherever they stand, but for what becomes of the
aliases. -/
structure ContactFields (supported : List String) (m : CborMap)
    (payload : IdentityContactPayload (Option String)) : Prop where
  known : ∀ entry ∈ m, entry.1 ∈ Protocol.identityPayloadKeys
  branchID : m.lookup "branch_id" = some (.text payload.branchID)
  branchID_short : ShortText payload.branchID
  protocolVersions : TextSet m "protocol_versions" 8 payload.protocolVersions
  protocol_mem : Protocol.protocolID ∈ payload.protocolVersions
  profileMultihashes : TextSet m "profile_multihashes" 8 payload.profileMultihashes
  profile : Protocol.hasSupportedProfile payload.profileMultihashes supported = true
  contactID : m.lookup "contact_id" = some (.bytes payload.contactID)
  contactID_length : payload.contactID.length = 32
  sequence : m.lookup "sequence" = some (.uint payload.sequence)
  sequence_le : payload.sequence ≤ Core.maxSafeInteger
  issuedAt : m.lookup "issued_at" = some (.uint payload.issuedAt)
  issuedAt_le : payload.issuedAt ≤ Core.maxSafeInteger
  expiresAt : m.lookup "expires_at" = some (.uint payload.expiresAt)
  expiresAt_le : payload.expiresAt ≤ Core.maxSafeInteger
  displayName : m.lookup "display_name" = payload.displayName.map .text
  displayName_short : ∀ name ∈ payload.displayName, ShortText name ∧ name.utf8ByteSize ≤ 96
  routeHints : ∃ values, m.lookup "route_hints" = some (.array values) ∧
    List.Forall₂ HintFields values payload.routeHints
  hints_le : payload.routeHints.length ≤ Protocol.maxIdentityContactRouteHint
  hints_sequence : InSequence [] (-1) (payload.routeHints.map hintRank)

variable (urlParse : String → Option Protocol.ParsedURL) (newURL : String → Option Core.URLParts)

structure RelayContactPayload (texts : List String)
    (payload : IdentityContactPayload (Option String)) : Prop where
  protocolVersions : ByteOrdered payload.protocolVersions
  profileMultihashes : ByteOrdered payload.profileMultihashes
  aliases : RelayAliases texts payload.aliases
  routeHints : ∀ hint ∈ payload.routeHints, RelayHint urlParse hint

structure ClientContactPayload (m : CborMap) (texts : List String)
    (payload : IdentityContactPayload (Option String)) : Prop where
  protocolVersions : UnitOrdered payload.protocolVersions
  versions_size : ∀ s ∈ payload.protocolVersions, s.utf8ByteSize ≤ Core.maxIdentityAliasBytes
  profileMultihashes : UnitOrdered payload.profileMultihashes
  profiles_size : ∀ s ∈ payload.profileMultihashes, s.utf8ByteSize ≤ Core.maxIdentityAliasBytes
  aliases : ClientAliases texts payload.aliases
  routeHints : ∀ hint ∈ payload.routeHints, ClientHint newURL hint
  unmarked : ∀ s ∈ (Cbor.map m).texts, ¬ Utf8.Marked s

/-- The relay has the empty text for a name that is missing. -/
def relayPayload (payload : IdentityContactPayload (Option String)) :
    IdentityContactPayload String :=
  { payload with displayName := payload.displayName.getD "" }

variable {urlParse newURL} {supported : List String} {m : CborMap} {texts : List String}
  {payload : IdentityContactPayload (Option String)} {payloadBytes : List UInt8}

theorem HintFields.plain {v : Cbor} {hint : IdentityContactRouteHint}
    (h : HintFields v hint) (hwire : Cbor.Wire sharedRules v) :
    Cbor.Plain (· ≠ "") 1 Core.maxSafeInteger v := by
  obtain ⟨m, rfl, hknown, htransport, huri, hkey, hprofile, hpriority⟩ := h.value
  have hnodup := nodup_keys hwire
  rw [Cbor.plain_map]
  rintro ⟨key, v⟩ hentry
  have hmem := hknown _ hentry
  have hne : ∀ key ∈ Protocol.routeHintKeys, key ≠ "" := by decide
  refine ⟨hne key hmem, ?_⟩
  simp only [Protocol.routeHintKeys, List.mem_cons, List.not_mem_nil, or_false] at hmem
  rcases hmem with rfl | rfl | rfl | rfl | rfl
  · obtain rfl := value_of_lookup hnodup hentry htransport
    exact Cbor.plain_text.mpr h.transport.1
  · obtain rfl := value_of_lookup hnodup hentry huri
    exact Cbor.plain_text.mpr h.uri.1
  · obtain rfl := value_of_lookup hnodup hentry hkey
    exact Cbor.plain_text.mpr h.relayPublicKey.1
  · obtain rfl := value_of_lookup hnodup hentry hprofile
    exact Cbor.plain_text.mpr h.profileMultihash.1
  · obtain rfl := value_of_lookup hnodup hentry hpriority
    exact Cbor.plain_uint.mpr h.priority_le

variable {hints : List IdentityContactRouteHint}

theorem plain_hints {values : List Cbor}
    (h : List.Forall₂ HintFields values hints)
    (hwire : ∀ v ∈ values, Cbor.Wire sharedRules v) :
    Cbor.Plain (· ≠ "") 2 Core.maxSafeInteger (.array values) := by
  rw [Cbor.plain_array]
  induction h with
  | nil => simp
  | cons hfields hrest ih =>
    rw [List.forall_mem_cons] at hwire ⊢
    exact ⟨hfields.plain hwire.1, ih hwire.2⟩

theorem AliasTexts.plain (h : AliasTexts m texts) {maxUint : Nat} :
    Cbor.Plain (· ≠ "") 1 maxUint (.array (texts.map .text)) := by
  rw [Cbor.plain_array]
  intro v hv
  obtain ⟨s, hs, rfl⟩ := List.mem_map.mp hv
  exact Cbor.plain_text.mpr (h.short s hs).1

theorem ContactFields.plain (h : ContactFields supported m payload) (haliases : AliasTexts m texts)
    (hwire : Cbor.Wire sharedRules (.map m)) :
    Cbor.Plain (· ≠ "") 3 Core.maxSafeInteger (.map m) := by
  have hnodup := nodup_keys hwire
  rw [Cbor.plain_map]
  rintro ⟨key, v⟩ hentry
  have hknown := h.known _ hentry
  have hne : ∀ key ∈ Protocol.identityPayloadKeys, key ≠ "" := by decide
  refine ⟨hne key hknown, ?_⟩
  simp only [Protocol.identityPayloadKeys, List.mem_cons, List.not_mem_nil, or_false] at hknown
  rcases hknown with rfl | rfl | rfl | rfl | rfl | rfl | rfl | rfl | rfl | rfl
  · obtain rfl := value_of_lookup hnodup hentry h.contactID
    exact Cbor.plain_bytes
  · obtain rfl := value_of_lookup hnodup hentry h.branchID
    exact Cbor.plain_text.mpr h.branchID_short.1
  · obtain rfl := value_of_lookup hnodup hentry h.sequence
    exact Cbor.plain_uint.mpr h.sequence_le
  · obtain rfl := value_of_lookup hnodup hentry h.issuedAt
    exact Cbor.plain_uint.mpr h.issuedAt_le
  · obtain rfl := value_of_lookup hnodup hentry h.expiresAt
    exact Cbor.plain_uint.mpr h.expiresAt_le
  · have hlookup := (Cbor.lookup_eq_some_iff hnodup).mpr hentry
    rw [h.displayName] at hlookup
    obtain ⟨name, hname, rfl⟩ := Option.map_eq_some_iff.mp hlookup
    exact Cbor.plain_text.mpr (h.displayName_short name hname).1.1
  · obtain rfl := value_of_lookup hnodup hentry haliases.value
    exact haliases.plain.mono (by omega)
  · obtain rfl := value_of_lookup hnodup hentry h.protocolVersions.value
    exact h.protocolVersions.plain.mono (by omega)
  · obtain rfl := value_of_lookup hnodup hentry h.profileMultihashes.value
    exact h.profileMultihashes.plain.mono (by omega)
  · obtain ⟨values, hvalues, hhints⟩ := h.routeHints
    obtain rfl := value_of_lookup hnodup hentry hvalues
    refine plain_hints hhints ?_
    cases wire_of_lookup hwire hvalues with
    | array hlength hitems => exact hitems

theorem relay_readDisplayName_eq_ok_iff {name : String} :
    Protocol.readDisplayName m = .ok name ↔
      ∃ found : Option String, m.lookup "display_name" = found.map .text ∧
        (∀ s ∈ found, ShortText s ∧ s.utf8ByteSize ≤ 96) ∧ found.getD "" = name := by
  refine optional_eq_ok_iff (Option.getD · "") ?_
  simp only [bind_eq_ok, mapError_eq_ok, Protocol.cborText_eq_ok_iff, throwIf_eq_ok, Nat.not_lt,
    pure_eq_ok, exists_const, and_assoc, Option.getD_some, ShortText]

theorem client_readDisplayName_eq_ok_iff {found : Option String} :
    Core.readDisplayName m = .ok found ↔
      m.lookup "display_name" = found.map .text ∧
        ∀ s ∈ found, ShortText s ∧ s.utf8ByteSize ≤ 96 := by
  refine (optional_eq_ok_iff id ?_).trans exists_eq_right_right
  simp only [bind_eq_ok, client_requiredText_eq_ok_iff, throwIf_eq_ok, Nat.not_lt, pure_eq_ok,
    exists_const, and_assoc, id]
  rfl

theorem relay_readIdentityRouteHints_eq_ok_iff :
    Protocol.readIdentityRouteHints urlParse m = .ok hints ↔
      (∃ values, m.lookup "route_hints" = some (.array values) ∧
          List.Forall₂ HintFields values hints) ∧
        hints.length ≤ Protocol.maxIdentityContactRouteHint ∧
        InSequence [] (-1) (hints.map hintRank) ∧ ∀ hint ∈ hints, RelayHint urlParse hint := by
  simp only [Protocol.readIdentityRouteHints, bind_eq_ok, mapError_eq_ok,
    Protocol.cborRequired_eq_ok_iff]
  constructor
  · rintro ⟨v, hlookup, h⟩
    cases v with
    | array values =>
      obtain ⟨hcount, h⟩ := throwIf_bind_eq_ok.mp h
      obtain ⟨hfields, hsequence, hhints⟩ := relay_readRouteHintsFrom_eq_ok_iff.mp h
      rw [hfields.length_eq, Nat.not_lt] at hcount
      exact ⟨⟨values, hlookup, hfields⟩, hcount, hsequence, hhints⟩
    | _ => cases h
  · rintro ⟨⟨values, hlookup, hfields⟩, hcount, hsequence, hhints⟩
    refine ⟨_, hlookup, throwIf_bind_eq_ok.mpr ⟨?_, ?_⟩⟩
    · rw [hfields.length_eq, Nat.not_lt]
      exact hcount
    · exact relay_readRouteHintsFrom_eq_ok_iff.mpr ⟨hfields, hsequence, hhints⟩

theorem client_readRouteHints_eq_ok_iff {v : Cbor} :
    Core.readRouteHints newURL v = .ok hints ↔
      (∃ values, v = .array values ∧ List.Forall₂ HintFields values hints) ∧
        hints.length ≤ Protocol.maxIdentityContactRouteHint ∧
        InSequence [] (-1) (hints.map hintRank) ∧ ∀ hint ∈ hints, ClientHint newURL hint := by
  constructor
  · intro h
    cases v with
    | array values =>
      obtain ⟨hcount, h⟩ := throwIf_bind_eq_ok.mp h
      obtain ⟨hfields, hsequence, hhints⟩ := client_readRouteHintsFrom_eq_ok_iff.mp h
      rw [hfields.length_eq, Nat.not_lt] at hcount
      exact ⟨⟨values, rfl, hfields⟩, hcount, hsequence, hhints⟩
    | _ => cases h
  · rintro ⟨⟨values, rfl, hfields⟩, hcount, hsequence, hhints⟩
    refine throwIf_bind_eq_ok.mpr ⟨?_, ?_⟩
    · rw [hfields.length_eq, Nat.not_lt]
      exact hcount
    · exact client_readRouteHintsFrom_eq_ok_iff.mpr ⟨hfields, hsequence, hhints⟩

theorem shortText_of_relay_accepts {v : Cbor}
    (h : Protocol.decodeDeterministicCBOR payloadBytes = .ok v) : ∀ s ∈ v.texts, ShortText s := by
  obtain ⟨hcanonical, _, hempty⟩ := relay_accepts_iff.mp h
  intro s hs
  exact ⟨fun heq => hempty (heq ▸ hs), (hcanonical.2.1.textOk s hs).2⟩

theorem relay_readIdentityContactPayload_eq_ok_iff
    (hsize : payloadBytes.length ≤ Protocol.maxDecodedCBORBytes)
    {result : IdentityContactPayload String} :
    Protocol.readIdentityContactPayload urlParse payloadBytes supported = .ok result ↔
      ∃ m texts payload, Canonical payloadBytes (.map m) ∧ ContactFields supported m payload ∧
        AliasTexts m texts ∧ RelayContactPayload urlParse texts payload ∧
        Protocol.parseBranchID payload.branchID = true ∧ result = relayPayload payload := by
  simp only [Protocol.readIdentityContactPayload, bind_eq_ok, throwIf_eq_ok, mapError_eq_ok,
    Protocol.cborMap_eq_ok_iff, Protocol.cborRejectUnknown_eq_ok_iff, Protocol.cborText_eq_ok_iff,
    relay_readOrderedTextSet_eq_ok_iff, relay_cborBytes_size, Protocol.cborUint_eq_ok_iff,
    timestamp_le_iff, relay_readDisplayName_eq_ok_iff, relay_readIdentityRouteHints_eq_ok_iff]
  push Not
  constructor
  · rintro ⟨_, _, v, hdecode, m, rfl, _, hknown, branchID, ⟨hbranch, hbranchShort⟩, _, hparse,
      versions, ⟨hversions, hversionOrder⟩, profiles, ⟨hprofiles, hprofileOrder⟩, _,
      ⟨hprotocol, hprofile⟩, contactID, ⟨hcontact, hcontactLength⟩, sequence, ⟨hseq, hseqLe⟩,
      issued, ⟨hissued, hissuedLe⟩, expires, ⟨hexpires, hexpiresLe⟩, name,
      ⟨found, hname, hnameShort, rfl⟩, aliases, haliases, hints,
      ⟨hhints, hhintsLe, hsequence, hhintOk⟩, heq⟩
    obtain rfl := Except.ok.inj heq
    have hcanonical := (relay_accepts_iff.mp hdecode).1
    have hshort : ∀ texts : List String, m.lookup "aliases" = some (.array (texts.map .text)) →
        ∀ s ∈ texts, ShortText s := by
      intro texts hlookup s hs
      have hentry := (Cbor.lookup_eq_some_iff (nodup_keys hcanonical.2.1)).mp hlookup
      refine shortText_of_relay_accepts hdecode s (Cbor.mem_textsEntries.mpr
        ⟨_, hentry, .inr (Cbor.mem_textsItems.mpr ⟨.text s, List.mem_map_of_mem hs, ?_⟩)⟩)
      exact List.mem_singleton.mpr rfl
    obtain ⟨texts, htexts, haliases⟩ := (relay_readIdentityAliases_eq_ok_iff hshort).mp haliases
    refine ⟨m, texts, ⟨contactID, branchID, sequence, issued, expires, found, aliases, versions,
      profiles, hints⟩, hcanonical, ?_, htexts,
      ⟨hversionOrder, hprofileOrder, haliases, hhintOk⟩, hparse, rfl⟩
    exact {
      known := hknown, branchID := hbranch, branchID_short := hbranchShort,
      protocolVersions := hversions, protocol_mem := hprotocol, profileMultihashes := hprofiles,
      profile := hprofile, contactID := hcontact, contactID_length := hcontactLength,
      sequence := hseq, sequence_le := hseqLe, issuedAt := hissued, issuedAt_le := hissuedLe,
      expiresAt := hexpires, expiresAt_le := hexpiresLe, displayName := hname,
      displayName_short := hnameShort, routeHints := hhints, hints_le := hhintsLe,
      hints_sequence := hsequence }
  · rintro ⟨m, texts, payload, hcanonical, h, htexts, hrelay, hparse, rfl⟩
    have hplain := h.plain htexts hcanonical.2.1
    have hdecode := (relay_decodes_plain (hplain.mono (by omega))).mpr hcanonical
    have hshort : ∀ texts' : List String, m.lookup "aliases" = some (.array (texts'.map .text)) →
        ∀ s ∈ texts', ShortText s := by
      intro texts' hlookup s hs
      rw [htexts.value] at hlookup
      obtain hmap := Cbor.array.inj (Option.some.inj hlookup)
      obtain ⟨t, ht, heq⟩ := List.mem_map.mp (hmap ▸ List.mem_map_of_mem hs :
        Cbor.text s ∈ texts.map Cbor.text)
      obtain rfl := Cbor.text.inj heq
      exact htexts.short t ht
    exact ⟨(), hsize, _, hdecode, m, rfl, (), h.known, _, ⟨h.branchID, h.branchID_short⟩, (),
      hparse, _, ⟨h.protocolVersions, hrelay.protocolVersions⟩, _,
      ⟨h.profileMultihashes, hrelay.profileMultihashes⟩, (), ⟨h.protocol_mem, h.profile⟩, _,
      ⟨h.contactID, h.contactID_length⟩, _, ⟨h.sequence, h.sequence_le⟩, _,
      ⟨h.issuedAt, h.issuedAt_le⟩, _, ⟨h.expiresAt, h.expiresAt_le⟩, _,
      ⟨payload.displayName, h.displayName, h.displayName_short, rfl⟩, _,
      (relay_readIdentityAliases_eq_ok_iff hshort).mpr ⟨texts, htexts, hrelay.aliases⟩, _,
      ⟨h.routeHints, h.hints_le, h.hints_sequence, hrelay.routeHints⟩, rfl⟩

theorem client_identityTextArray_eq_ok_iff {key : String} {maxItems : Nat}
    {items : List String} :
    Core.readOrderedUniqueTextArray Core.maxIdentityAliasBytes m key maxItems = .ok items ↔
      TextSet m key maxItems items ∧ UnitOrdered items ∧
        ∀ s ∈ items, s.utf8ByteSize ≤ Core.maxIdentityAliasBytes :=
  client_readOrderedUniqueTextArray_eq_ok_iff (by decide)

theorem client_readIdentityPayload_eq_ok_iff
    (hsize : payloadBytes.length ≤ Protocol.maxDecodedCBORBytes) :
    Core.readIdentityPayload newURL payloadBytes supported = .ok payload ↔
      ∃ m texts, Canonical payloadBytes (.map m) ∧ ContactFields supported m payload ∧
        AliasTexts m texts ∧ ClientContactPayload newURL m texts payload ∧
        Core.parseBranchID payload.branchID = .ok () := by
  simp only [Core.readIdentityPayload, bind_eq_ok, throwIf_eq_ok, Core.decodeCborForValidation,
    mapError_eq_ok, Core.readCborMap_eq_ok_iff, Core.rejectUnknownEntries_eq_ok_iff,
    client_requiredText_eq_ok_iff, client_identityTextArray_eq_ok_iff,
    client_requiredBytes_size, Core.requiredUint_eq_ok_iff,
    client_requiredTimestamp_eq_ok_iff, client_readDisplayName_eq_ok_iff,
    Core.getRequiredEntry_eq_ok_iff, client_readAliases_eq_ok_iff,
    client_readRouteHints_eq_ok_iff]
  push Not
  constructor
  · rintro ⟨_, _, v, hdecode, m, rfl, _, hknown, branchID, ⟨hbranch, hbranchShort⟩, _, hparse,
      versions, ⟨hversions, hversionOrder, hversionSize⟩, profiles,
      ⟨hprofiles, hprofileOrder, hprofileSize⟩, _, ⟨hprotocol, hprofile⟩, contactID,
      ⟨hcontact, hcontactLength⟩, sequence, ⟨hseq, hseqLe⟩, issued, ⟨hissued, hissuedLe⟩,
      expires, ⟨hexpires, hexpiresLe⟩, name, ⟨hname, hnameShort⟩, _, hlookup, aliases,
      ⟨texts, rfl, hcount, hshort, haliases⟩, _, hhintLookup, hints,
      ⟨⟨values, rfl, hhints⟩, hhintsLe, hsequence, hhintOk⟩, heq⟩
    obtain rfl := Except.ok.inj heq
    obtain ⟨hcanonical, _, hunmarked⟩ := client_accepts_iff.mp hdecode
    exact ⟨m, texts, hcanonical, {
      known := hknown, branchID := hbranch, branchID_short := hbranchShort,
      protocolVersions := hversions, protocol_mem := hprotocol, profileMultihashes := hprofiles,
      profile := hprofile, contactID := hcontact, contactID_length := hcontactLength,
      sequence := hseq, sequence_le := hseqLe, issuedAt := hissued, issuedAt_le := hissuedLe,
      expiresAt := hexpires, expiresAt_le := hexpiresLe, displayName := hname,
      displayName_short := hnameShort, routeHints := ⟨values, hhintLookup, hhints⟩,
      hints_le := hhintsLe, hints_sequence := hsequence }, ⟨hlookup, hcount, hshort⟩, {
      protocolVersions := hversionOrder, versions_size := hversionSize,
      profileMultihashes := hprofileOrder, profiles_size := hprofileSize, aliases := haliases,
      routeHints := hhintOk, unmarked := hunmarked }, hparse⟩
  · rintro ⟨m, texts, hcanonical, h, htexts, hclient, hparse⟩
    have hplain := (h.plain htexts hcanonical.2.1).2.1
    have hdecode := client_accepts_iff.mpr ⟨hcanonical, hplain, hclient.unmarked⟩
    obtain ⟨values, hlookup, hfields⟩ := h.routeHints
    exact ⟨(), hsize, _, hdecode, m, rfl, (), h.known, _, ⟨h.branchID, h.branchID_short⟩, (),
      hparse, _, ⟨h.protocolVersions, hclient.protocolVersions, hclient.versions_size⟩, _,
      ⟨h.profileMultihashes, hclient.profileMultihashes, hclient.profiles_size⟩, (),
      ⟨h.protocol_mem, h.profile⟩, _, ⟨h.contactID, h.contactID_length⟩, _,
      ⟨h.sequence, h.sequence_le⟩, _, ⟨h.issuedAt, h.issuedAt_le⟩, _,
      ⟨h.expiresAt, h.expiresAt_le⟩, _, ⟨h.displayName, h.displayName_short⟩, _, htexts.value, _,
      ⟨texts, rfl, htexts.count_le, htexts.short, hclient.aliases⟩, _, hlookup, _,
      ⟨⟨values, rfl, hfields⟩, h.hints_le, h.hints_sequence, hclient.routeHints⟩, rfl⟩

end ContactPayload

section Contact

variable (urlParse : String → Option Protocol.ParsedURL) (newURL : String → Option Core.URLParts)
  (verify : List UInt8 → List UInt8 → List UInt8 → Bool) (clock now : Int)
  (minimumSequence : Nat) (input : List UInt8)

/-- The contact that the bytes of a signed event hold, with the map of its payload and the
texts of its aliases, as far as both sides ask the same. -/
structure Contact (signed : List UInt8) (m : CborMap) (texts : List String)
    (contact : SignedEvent (IdentityContactPayload (Option String))) : Prop where
  signed_eq : contact.signedEventBytes = signed
  opened : Opened verify Protocol.eventIdentityAnnounce signed contact.envelope
    contact.signatureInputBytes
  canonical : Canonical contact.envelope.payloadBytes (.map m)
  payload : ContactFields [Protocol.developmentProfileMultihash] m contact.payload
  aliases : AliasTexts m texts
  expiry : contact.payload.expiresAt = contact.envelope.expiresAt
  issued : contact.payload.issuedAt ≤ contact.envelope.createdAt
  sequence : minimumSequence ≤ contact.payload.sequence
  branchID : Protocol.branchIDFromPublicKey contact.envelope.sender.publicKey =
    some contact.payload.branchID

def relayEvent (contact : SignedEvent (IdentityContactPayload (Option String))) :
    SignedEvent (IdentityContactPayload String) :=
  { contact with payload := relayPayload contact.payload }

def relayContact : Option (SignedEvent (IdentityContactPayload String)) :=
  (Protocol.validateBranchTextIdentityContact urlParse verify clock input
    { nowUnix := now, minimumSequence := minimumSequence }).toOption

/-- What the client makes of it. Bytes that are no text do not come before its validator. -/
def clientContact : Option (SignedEvent (IdentityContactPayload (Option String))) :=
  (Utf8.text? input).bind fun wrapper =>
    (Core.validateBranchTextIdentityContact newURL verify clock wrapper
      { now := some now, minimumSequence := some minimumSequence }).toOption

variable {urlParse newURL verify clock now minimumSequence input} {signed : List UInt8}

theorem shortText_eventIdentityAnnounce : ShortText Protocol.eventIdentityAnnounce :=
  ⟨by decide, by decide⟩

theorem parse_of_branchIDFromPublicKey {publicKey : List UInt8} {branchID : String}
    (h : Protocol.branchIDFromPublicKey publicKey = some branchID) :
    Protocol.parseBranchID branchID = true ∧ Core.parseBranchID branchID = .ok () := by
  rw [Protocol.branchIDFromPublicKey, Option.ite_none_left_eq_some] at h
  obtain ⟨_, heq⟩ := h
  obtain rfl := Option.some.inj heq
  exact ⟨relay_parseBranchID_branchID _, client_parseBranchID_branchID _⟩

theorem client_branchIDFromPublicKey {publicKey : List UInt8} {branchID : String}
    (hlength : publicKey.length = 32) :
    Core.branchIDFromPublicKey publicKey = .ok branchID ↔
      Protocol.branchIDFromPublicKey publicKey = some branchID := by
  rw [Core.branchIDFromPublicKey, Protocol.branchIDFromPublicKey, if_neg (not_not.mpr hlength),
    if_neg (not_not.mpr hlength), Except.ok.injEq, Option.some.injEq]
  rfl

theorem relay_readSignedIdentityContact_eq_ok_iff {skew : Int}
    {result : SignedEvent (IdentityContactPayload String)} :
    Protocol.readSignedIdentityContact urlParse verify now skew
        [Protocol.developmentProfileMultihash] minimumSequence signed = .ok result ↔
      ∃ m texts contact, Contact verify minimumSequence signed m texts contact ∧
        Timely now skew contact.envelope ∧ RelayContactPayload urlParse texts contact.payload ∧
        result = relayEvent contact := by
  constructor
  · intro h
    obtain ⟨⟨envelope, signatureInput⟩, hopen, h⟩ := bind_eq_ok.mp h
    obtain ⟨relayed, hpayload, h⟩ := bind_eq_ok.mp h
    obtain ⟨hexpiry, h⟩ := throwIf_bind_eq_ok.mp h
    obtain ⟨hissued, h⟩ := throwIf_bind_eq_ok.mp h
    obtain ⟨hsequence, h⟩ := throwIf_bind_eq_ok.mp h
    obtain ⟨hopened, htimely⟩ :=
      (relay_openSignedEvent_eq_ok_iff shortText_eventIdentityAnnounce).mp hopen
    obtain ⟨m, texts, payload, hcanonical, hfields, htexts, hrelay, _, rfl⟩ :=
      (relay_readIdentityContactPayload_eq_ok_iff hopened.payload_le).mp hpayload
    cases hbranch : Protocol.branchIDFromPublicKey envelope.sender.publicKey with
    | none =>
      rw [hbranch] at h
      cases h
    | some expected =>
      rw [hbranch] at h
      obtain ⟨hsame, heq⟩ := throwIf_bind_eq_ok.mp h
      obtain rfl := Except.ok.inj heq
      obtain rfl := not_not.mp hsame
      have hminimum : minimumSequence ≤ payload.sequence := by
        have : ¬ (0 < minimumSequence ∧ payload.sequence < minimumSequence) := hsequence
        omega
      exact ⟨m, texts, ⟨signed, signatureInput, envelope, payload⟩,
        ⟨rfl, hopened, hcanonical, hfields, htexts, not_not.mp hexpiry, Nat.not_lt.mp hissued,
        hminimum, hbranch⟩, htimely, hrelay, rfl⟩
  · rintro ⟨m, texts, contact, h, htimely, hrelay, rfl⟩
    obtain rfl := h.signed_eq
    have hsequence := h.sequence
    refine bind_eq_ok.mpr ⟨(contact.envelope, contact.signatureInputBytes), ?_, ?_⟩
    · exact (relay_openSignedEvent_eq_ok_iff shortText_eventIdentityAnnounce).mpr
        ⟨h.opened, htimely⟩
    refine bind_eq_ok.mpr ⟨relayPayload contact.payload, ?_, ?_⟩
    · exact (relay_readIdentityContactPayload_eq_ok_iff h.opened.payload_le).mpr
        ⟨m, texts, contact.payload, h.canonical, h.payload, h.aliases, hrelay,
          (parse_of_branchIDFromPublicKey h.branchID).1, rfl⟩
    refine throwIf_bind_eq_ok.mpr ⟨not_not.mpr h.expiry, throwIf_bind_eq_ok.mpr
      ⟨Nat.not_lt.mpr h.issued, throwIf_bind_eq_ok.mpr ⟨?_, ?_⟩⟩⟩
    · show ¬ (0 < minimumSequence ∧ contact.payload.sequence < minimumSequence)
      omega
    · rw [h.branchID]
      exact throwIf_bind_eq_ok.mpr ⟨not_not.mpr rfl, rfl⟩

theorem client_readSignedIdentityContact_eq_ok_iff {skew : Int}
    {contact : SignedEvent (IdentityContactPayload (Option String))} :
    Core.readSignedIdentityContact newURL verify now skew
        [Protocol.developmentProfileMultihash] (some minimumSequence) signed = .ok contact ↔
      ∃ m texts, Contact verify minimumSequence signed m texts contact ∧
        Timely now skew contact.envelope ∧
        ClientContactPayload newURL m texts contact.payload := by
  have hmark : ¬ Utf8.Marked Protocol.eventIdentityAnnounce := by decide
  constructor
  · intro h
    obtain ⟨⟨envelope, signatureInput⟩, hopen, h⟩ := bind_eq_ok.mp h
    obtain ⟨payload, hpayload, h⟩ := bind_eq_ok.mp h
    obtain ⟨hexpiry, h⟩ := throwIf_bind_eq_ok.mp h
    obtain ⟨hissued, h⟩ := throwIf_bind_eq_ok.mp h
    obtain ⟨hsequence, h⟩ := throwIf_bind_eq_ok.mp h
    obtain ⟨expected, hbranch, h⟩ := bind_eq_ok.mp h
    obtain ⟨hsame, heq⟩ := throwIf_bind_eq_ok.mp h
    obtain rfl := Except.ok.inj heq
    obtain rfl := not_not.mp hsame
    obtain ⟨hopened, htimely⟩ :=
      (client_openSignedEvent_eq_ok_iff shortText_eventIdentityAnnounce hmark).mp hopen
    obtain ⟨m, texts, hcanonical, hfields, htexts, hclient, _⟩ :=
      (client_readIdentityPayload_eq_ok_iff hopened.payload_le).mp hpayload
    have hminimum : minimumSequence ≤ payload.sequence :=
      Nat.not_lt.mp fun hlt => hsequence ⟨minimumSequence, rfl, hlt⟩
    exact ⟨m, texts, ⟨rfl, hopened, hcanonical, hfields, htexts, not_not.mp hexpiry,
      Nat.not_lt.mp hissued, hminimum,
      (client_branchIDFromPublicKey hopened.publicKey_length).mp hbranch⟩, htimely, hclient⟩
  · rintro ⟨m, texts, h, htimely, hclient⟩
    obtain rfl := h.signed_eq
    have hlength := h.opened.publicKey_length
    refine bind_eq_ok.mpr ⟨(contact.envelope, contact.signatureInputBytes), ?_, ?_⟩
    · exact (client_openSignedEvent_eq_ok_iff shortText_eventIdentityAnnounce hmark).mpr
        ⟨h.opened, htimely⟩
    refine bind_eq_ok.mpr ⟨contact.payload, ?_, ?_⟩
    · exact (client_readIdentityPayload_eq_ok_iff h.opened.payload_le).mpr
        ⟨m, texts, h.canonical, h.payload, h.aliases, hclient,
          (parse_of_branchIDFromPublicKey h.branchID).2⟩
    refine throwIf_bind_eq_ok.mpr ⟨not_not.mpr h.expiry, throwIf_bind_eq_ok.mpr
      ⟨Nat.not_lt.mpr h.issued, throwIf_bind_eq_ok.mpr ⟨?_, bind_eq_ok.mpr
      ⟨contact.payload.branchID, (client_branchIDFromPublicKey hlength).mpr h.branchID,
      throwIf_bind_eq_ok.mpr ⟨not_not.mpr rfl, rfl⟩⟩⟩⟩⟩
    rintro ⟨minimum, hmem, hlt⟩
    obtain rfl := Option.some.inj hmem
    exact Nat.not_lt.mpr h.sequence hlt

theorem relayContact_eq_some_iff {result : SignedEvent (IdentityContactPayload String)} :
    relayContact urlParse verify clock now minimumSequence input = some result ↔
      ∃ signed, Spelled input signed ∧
        Protocol.readSignedIdentityContact urlParse verify (relayNow clock now) 300
          [Protocol.developmentProfileMultihash] minimumSequence signed = .ok result := by
  rw [relayContact, toOption_eq_some_iff, Protocol.validateBranchTextIdentityContact,
    throwIf_bind_eq_ok, not_not]
  constructor
  · rintro ⟨hinit, h⟩
    cases hdecode : Base64.decodeChars (Protocol.wrapperBody input) with
    | none =>
      rw [hdecode] at h
      cases h
    | some signed =>
      rw [hdecode] at h
      obtain ⟨hwrapping, _⟩ := relay_wrapping_iff.mp ⟨hinit, rfl, hdecode⟩
      exact ⟨signed, ⟨_, hwrapping, hdecode⟩, h⟩
  · rintro ⟨signed, ⟨body, hwrapping, hdecode⟩, h⟩
    obtain ⟨hinit, hbody, _⟩ := relay_wrapping_iff.mpr ⟨hwrapping, hdecode⟩
    refine ⟨hinit, ?_⟩
    rw [hbody, hdecode]
    exact h

theorem clientContact_eq_some_iff
    {contact : SignedEvent (IdentityContactPayload (Option String))} :
    clientContact newURL verify clock now minimumSequence input = some contact ↔
      ∃ signed, Wrapped input signed ∧ input.length ≤ Protocol.maxDraftEnvelopeBytes ∧
        Core.readSignedIdentityContact newURL verify now 300
          [Protocol.developmentProfileMultihash] (some minimumSequence) signed =
            .ok contact := by
  rw [clientContact, Option.bind_eq_some_iff]
  simp only [toOption_eq_some_iff, Core.validateBranchTextIdentityContact, mapError_eq_ok,
    throwIf_bind_eq_ok, not_not]
  exact client_wrapped_bind_iff

theorem injective_map_text : Function.Injective (List.map Cbor.text) :=
  List.map_injective_iff.mpr fun _ _ => Cbor.text.inj

theorem Contact.unique {m m' : CborMap} {texts texts' : List String}
    {contact contact' : SignedEvent (IdentityContactPayload (Option String))}
    (h : Contact verify minimumSequence signed m texts contact)
    (h' : Contact verify minimumSequence signed m' texts' contact')
    (heq : relayEvent contact = relayEvent contact') :
    m = m' ∧ texts = texts' ∧ contact = contact' := by
  have henvelope : contact.envelope = contact'.envelope := congrArg (·.envelope) heq
  have hcanonical' := h'.canonical
  rw [← henvelope] at hcanonical'
  obtain rfl := Cbor.map.inj (h.canonical.unique hcanonical')
  have htexts : texts = texts' := by
    have hlookup := h.aliases.value.symm.trans h'.aliases.value
    exact injective_map_text (Cbor.array.inj (Option.some.inj hlookup))
  have hname : contact.payload.displayName = contact'.payload.displayName :=
    Option.map_injective (fun _ _ => Cbor.text.inj)
      (h.payload.displayName.symm.trans h'.payload.displayName)
  refine ⟨rfl, htexts, ?_⟩
  obtain ⟨_, _, _, ⟨_, _, _, _, _, name, _, _, _, _⟩⟩ := contact
  obtain ⟨_, _, _, ⟨_, _, _, _, _, name', _, _, _, _⟩⟩ := contact'
  simp only [relayEvent, relayPayload, SignedEvent.mk.injEq,
    IdentityContactPayload.mk.injEq] at heq
  dsimp only at hname
  simp only [SignedEvent.mk.injEq, IdentityContactPayload.mk.injEq]
  exact ⟨heq.1, heq.2.1, heq.2.2.1, heq.2.2.2.1, heq.2.2.2.2.1, heq.2.2.2.2.2.1,
    heq.2.2.2.2.2.2.1, heq.2.2.2.2.2.2.2.1, hname, heq.2.2.2.2.2.2.2.2.2⟩

variable (urlParse newURL verify clock now minimumSequence input)

/-- Both reject the wrapper, or both accept it and return the same. -/
def ContactVerdictsAgree : Prop :=
  relayContact urlParse verify clock now minimumSequence input =
    (clientContact newURL verify clock now minimumSequence input).map relayEvent

/-- The verdicts differ on a contact where what only the relay asks and what only the client
asks do not come out alike. -/
theorem contactVerdictsAgree_iff :
    ContactVerdictsAgree urlParse newURL verify clock now minimumSequence input ↔
      ∀ signed m texts contact, Spelled input signed →
        Contact verify minimumSequence signed m texts contact →
        ((Timely (relayNow clock now) 300 contact.envelope ∧
            RelayContactPayload urlParse texts contact.payload) ↔
          (Wrapped input signed ∧ input.length ≤ Protocol.maxDraftEnvelopeBytes ∧
            Timely now 300 contact.envelope ∧
            ClientContactPayload newURL m texts contact.payload)) := by
  constructor
  · intro h signed m texts contact hspelled hcontact
    have hsame : ∀ result,
        relayContact urlParse verify clock now minimumSequence input = some result ↔
          (clientContact newURL verify clock now minimumSequence input).map relayEvent =
            some result := fun result => by rw [h]
    simp only [Option.map_eq_some_iff, relayContact_eq_some_iff, clientContact_eq_some_iff,
      relay_readSignedIdentityContact_eq_ok_iff,
      client_readSignedIdentityContact_eq_ok_iff] at hsame
    constructor
    · rintro ⟨htimely, hrelay⟩
      obtain ⟨contact', ⟨signed', hwrapped, hsize, m', texts', hcontact', hclient⟩, heq⟩ :=
        (hsame _).mp ⟨signed, hspelled, m, texts, contact, hcontact, htimely, hrelay, rfl⟩
      obtain rfl := hspelled.unique hwrapped.spelled
      obtain ⟨rfl, rfl, rfl⟩ := hcontact.unique hcontact' heq.symm
      exact ⟨hwrapped, hsize, hclient⟩
    · rintro ⟨hwrapped, hsize, hclient⟩
      obtain ⟨signed', hspelled', m', texts', contact', hcontact', htimely, hrelay, heq⟩ :=
        (hsame _).mpr ⟨contact, ⟨signed, hwrapped, hsize, m, texts, hcontact, hclient⟩, rfl⟩
      obtain rfl := hspelled.unique hspelled'
      obtain ⟨rfl, rfl, rfl⟩ := hcontact.unique hcontact' heq
      exact ⟨htimely, hrelay⟩
  · intro h
    apply Option.ext
    intro result
    simp only [Option.map_eq_some_iff, relayContact_eq_some_iff, clientContact_eq_some_iff,
      relay_readSignedIdentityContact_eq_ok_iff, client_readSignedIdentityContact_eq_ok_iff]
    constructor
    · rintro ⟨signed, hspelled, m, texts, contact, hcontact, htimely, hrelay, rfl⟩
      obtain ⟨hwrapped, hsize, hclient⟩ :=
        (h signed m texts contact hspelled hcontact).mp ⟨htimely, hrelay⟩
      exact ⟨contact, ⟨signed, hwrapped, hsize, m, texts, hcontact, hclient⟩, rfl⟩
    · rintro ⟨contact, ⟨signed, hwrapped, hsize, m, texts, hcontact, hclient⟩, rfl⟩
      obtain ⟨htimely, hrelay⟩ := (h signed m texts contact hwrapped.spelled hcontact).mpr
        ⟨hwrapped, hsize, hclient⟩
      exact ⟨signed, hwrapped.spelled, m, texts, contact, hcontact, htimely, hrelay, rfl⟩

end Contact

section Sample

def sampleContact (aliases : List String) : Cbor :=
  sampleEvent Protocol.eventIdentityAnnounce (.map [
    ("aliases", .array (aliases.map .text)), ("sequence", .uint 1),
    ("branch_id", .text "br1.EiD7Pwh2K2th429FTVFaVvjJMWfve3RNtugSIxuAKJ3yEQ"),
    ("issued_at", .uint 100), ("contact_id", .bytes (.replicate 32 0)),
    ("expires_at", .uint 200), ("route_hints", .array []),
    ("protocol_versions", .array [.text Protocol.protocolID]),
    ("profile_multihashes", .array [.text Protocol.developmentProfileMultihash])])

theorem relay_rejects_unordered_aliases :
    (Protocol.readSignedIdentityContact sampleUrlParse (fun _ _ _ => true) 150 300
      [Protocol.developmentProfileMultihash] 0
      (Cbor.encode (sampleContact ["bob", "alice"]))).toOption.isSome = false := by
  decide +kernel

theorem client_accepts_unordered_aliases :
    (Core.readSignedIdentityContact sampleNewURL (fun _ _ _ => true) 150 300
      [Protocol.developmentProfileMultihash] (some 0)
      (Cbor.encode (sampleContact ["bob", "alice"]))).toOption.isSome = true := by
  decide +kernel

/-- The relay rejects aliases out of order, the client puts them in order. -/
theorem not_contactVerdictsAgree_unordered_aliases :
    ¬ ContactVerdictsAgree sampleUrlParse sampleNewURL (fun _ _ _ => true) 0 150 0
      (wrapperOf (sampleContact ["bob", "alice"])) := by
  intro h
  obtain ⟨contact, hclient⟩ := Option.isSome_iff_exists.mp client_accepts_unordered_aliases
  have hwrapped := wrapped_wrapperOf (sampleContact ["bob", "alice"])
  have hsize : (wrapperOf (sampleContact ["bob", "alice"])).length ≤
      Protocol.maxDraftEnvelopeBytes := by decide +kernel
  have hsome : clientContact sampleNewURL (fun _ _ _ => true) 0 150 0
      (wrapperOf (sampleContact ["bob", "alice"])) = some contact :=
    clientContact_eq_some_iff.mpr ⟨_, hwrapped, hsize, toOption_eq_some_iff.mp hclient⟩
  rw [ContactVerdictsAgree, hsome, Option.map_some, relayContact_eq_some_iff] at h
  obtain ⟨signed, hspelled, hrelay⟩ := h
  obtain rfl := hspelled.unique hwrapped.spelled
  have hrejected := relay_rejects_unordered_aliases
  rw [show relayNow 0 150 = 150 from rfl] at hrelay
  rw [hrelay] at hrejected
  cases hrejected

end Sample

end Branch.Agreement
