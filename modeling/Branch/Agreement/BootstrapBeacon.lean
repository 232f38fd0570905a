import Branch.Agreement.SignedEvent
import Branch.Core.BootstrapBeacon

/-!
The bootstrap beacons that the relay and the client accept.
-/

namespace Branch.Agreement

open Branch.Lib
open Branch.Protocol (SignedEvent ValidationReason CborMap BootstrapRelayEndpoint
  BootstrapBeaconPayload)

section Endpoints

structure EndpointFields (v : Cbor) (endpoint : BootstrapRelayEndpoint) : Prop where
  value : ∃ m, v = .map m ∧ (∀ entry ∈ m, entry.1 ∈ Protocol.endpointKeys) ∧
    m.lookup "transport" = some (.text endpoint.transport) ∧
    m.lookup "uri" = some (.text endpoint.uri) ∧
    m.lookup "priority" = some (.uint endpoint.priority)
  transport : ShortText endpoint.transport
  transport_le : endpoint.transport.utf8ByteSize ≤ 32
  transport_pattern : Protocol.transportPattern endpoint.transport = true
  uri : ShortText endpoint.uri
  uri_le : endpoint.uri.utf8ByteSize ≤ 512
  priority_le : endpoint.priority ≤ Core.maxSafeInteger

def endpointRank (endpoint : BootstrapRelayEndpoint) : String × Nat :=
  (endpoint.transport ++ "\x00" ++ endpoint.uri, endpoint.priority)

variable (urlParse : String → Option Protocol.ParsedURL) (newURL : String → Option Core.URLParts)

def RelayUri (endpoint : BootstrapRelayEndpoint) : Prop :=
  endpoint.transport = "wss" → Protocol.validateBootstrapWSSURI urlParse endpoint.uri = true

def ClientUri (endpoint : BootstrapRelayEndpoint) : Prop :=
  endpoint.transport = "wss" → Core.validateWssEndpointUri newURL endpoint.uri = true

variable {urlParse newURL}

def floorOf (previous : Option Nat) : Int := previous.elim (-1) Nat.cast

theorem relay_readBootstrapEndpoints_eq_ok_iff {seen : List String} {previous : Option Nat}
    {values : List Cbor} {endpoints : List BootstrapRelayEndpoint} :
    Protocol.readBootstrapEndpoints urlParse seen previous values = .ok endpoints ↔
      List.Forall₂ EndpointFields values endpoints ∧
        InSequence seen (floorOf previous) (endpoints.map endpointRank) ∧
        ∀ endpoint ∈ endpoints, RelayUri urlParse endpoint := by
  induction values generalizing seen previous endpoints with
  | nil => exact nil_eq_ok_iff
  | cons v values ih =>
    simp only [Protocol.readBootstrapEndpoints, bind_eq_ok, throwIf_eq_ok, mapError_eq_ok,
      Protocol.cborMap_eq_ok_iff, Protocol.cborRejectUnknown_eq_ok_iff,
      Protocol.cborText_eq_ok_iff, Protocol.cborUint_eq_ok_iff, timestamp_le_iff, ih,
      List.forall₂_cons_left_iff]
    push Not
    constructor
    · rintro ⟨m, rfl, _, hknown, transport, ⟨htransport, hshort⟩, _, ⟨hsize, hpattern⟩, uri,
        ⟨huri, hshortUri⟩, _, husize, priority, ⟨hpriority, hple⟩, _, hfloor, _, hseen, _, hwss,
        rest, ⟨hrest, hsequence, huris⟩, heq⟩
      obtain rfl := Except.ok.inj heq
      refine ⟨⟨⟨transport, uri, priority⟩, rest, ⟨⟨m, rfl, hknown, htransport, huri, hpriority⟩,
        hshort, hsize, hpattern, hshortUri, husize, hple⟩, hrest, rfl⟩, ⟨hseen, ?_, hsequence⟩,
        List.forall_mem_cons.mpr ⟨hwss, huris⟩⟩
      cases previous with
      | none => show (-1 : Int) ≤ priority; omega
      | some p => exact Int.ofNat_le.mpr (hfloor p rfl)
    · rintro ⟨⟨endpoint, rest, hfields, hrest, rfl⟩, ⟨hseen, hfloor, hsequence⟩, huris⟩
      obtain ⟨m, rfl, hknown, htransport, huri, hpriority⟩ := hfields.value
      obtain ⟨hwss, huris⟩ := List.forall_mem_cons.mp huris
      refine ⟨m, rfl, (), hknown, _, ⟨htransport, hfields.transport⟩, (),
        ⟨hfields.transport_le, hfields.transport_pattern⟩, _, ⟨huri, hfields.uri⟩, (),
        hfields.uri_le, _, ⟨hpriority, hfields.priority_le⟩, (), ?_, (), hseen, (), hwss, rest,
        ⟨hrest, hsequence, huris⟩, rfl⟩
      rintro p rfl
      exact Int.ofNat_le.mp hfloor

theorem client_readRelayEndpointsFrom_eq_ok_iff {seen : List String} {previous : Int}
    {values : List Cbor} {endpoints : List BootstrapRelayEndpoint} :
    Core.readRelayEndpointsFrom newURL seen previous values = .ok endpoints ↔
      List.Forall₂ EndpointFields values endpoints ∧
        InSequence seen previous (endpoints.map endpointRank) ∧
        ∀ endpoint ∈ endpoints, ClientUri newURL endpoint := by
  induction values generalizing seen previous endpoints with
  | nil => exact nil_eq_ok_iff
  | cons v values ih =>
    simp only [Core.readRelayEndpointsFrom, bind_eq_ok, throwIf_eq_ok,
      Core.readCborMap_eq_ok_iff, Core.rejectUnknownEntries_eq_ok_iff,
      client_requiredText_eq_ok_iff, Core.requiredUint, Core.getRequiredEntry_eq_ok_iff,
      Core.readUint_eq_ok_iff, ih, List.forall₂_cons_left_iff]
    push Not
    constructor
    · rintro ⟨m, rfl, _, hknown, transport, ⟨htransport, hshort⟩, _, ⟨hsize, hpattern⟩, uri,
        ⟨huri, hshortUri⟩, _, husize, priority, ⟨_, hpriority, rfl, hple⟩, _, hfloor, _, hseen,
        _, hwss, rest, ⟨hrest, hsequence, huris⟩, heq⟩
      obtain rfl := Except.ok.inj heq
      exact ⟨⟨⟨transport, uri, priority⟩, rest, ⟨⟨m, rfl, hknown, htransport, huri, hpriority⟩,
        hshort, hsize, hpattern, hshortUri, husize, hple⟩, hrest, rfl⟩,
        ⟨hseen, hfloor, hsequence⟩, List.forall_mem_cons.mpr ⟨hwss, huris⟩⟩
    · rintro ⟨⟨endpoint, rest, hfields, hrest, rfl⟩, ⟨hseen, hfloor, hsequence⟩, huris⟩
      obtain ⟨m, rfl, hknown, htransport, huri, hpriority⟩ := hfields.value
      obtain ⟨hwss, huris⟩ := List.forall_mem_cons.mp huris
      exact ⟨m, rfl, (), hknown, _, ⟨htransport, hfields.transport⟩, (),
        ⟨hfields.transport_le, hfields.transport_pattern⟩, _, ⟨huri, hfields.uri⟩, (),
        hfields.uri_le, _, ⟨_, hpriority, rfl, hfields.priority_le⟩, (), hfloor, (), hseen, (),
        hwss, rest, ⟨hrest, hsequence, huris⟩, rfl⟩

end Endpoints

section PublicValues

def PublicValue (depth : Nat) (v : Cbor) : Prop :=
  Core.validateBoundedPublicValue depth v = .ok ()

variable {depth : Nat}

theorem client_validateBoundedItems_eq_ok_iff {values : List Cbor} {u : Unit} :
    Core.validateBoundedItems depth values = .ok u ↔ ∀ v ∈ values, PublicValue depth v := by
  induction values with
  | nil => simp [Core.validateBoundedItems]
  | cons v values ih =>
    simp only [Core.validateBoundedItems, bind_eq_ok, ih, List.forall_mem_cons]
    constructor
    · rintro ⟨_, hv, hvalues⟩
      exact ⟨hv, hvalues⟩
    · rintro ⟨hv, hvalues⟩
      exact ⟨(), hv, hvalues⟩

theorem client_validateBoundedEntries_eq_ok_iff {entries : List (String × Cbor)} {u : Unit} :
    Core.validateBoundedEntries depth entries = .ok u ↔
      ∀ entry ∈ entries, ShortText entry.1 ∧ PublicValue depth entry.2 := by
  induction entries with
  | nil => simp [Core.validateBoundedEntries]
  | cons entry entries ih =>
    simp only [Core.validateBoundedEntries, bind_eq_ok, Core.readText_eq_ok_iff, ih,
      List.forall_mem_cons]
    constructor
    · rintro ⟨s, ⟨heq, hkey⟩, _, hv, hentries⟩
      obtain rfl := Cbor.text.inj heq
      exact ⟨⟨hkey, hv⟩, hentries⟩
    · rintro ⟨⟨hkey, hv⟩, hentries⟩
      exact ⟨entry.1, ⟨rfl, hkey⟩, (), hv, hentries⟩

theorem publicValue_uint {depth n : Nat} :
    PublicValue depth (.uint n) ↔ depth ≤ 3 ∧ n ≤ Core.maxSafeInteger := by
  simp only [PublicValue, Core.validateBoundedPublicValue, bind_eq_ok, throwIf_eq_ok,
    Core.readUint_eq_ok_iff, Nat.not_lt]
  simp [pure, Except.pure]

theorem publicValue_text {s : String} :
    PublicValue depth (.text s) ↔ depth ≤ 3 ∧ ShortText s := by
  simp only [PublicValue, Core.validateBoundedPublicValue, bind_eq_ok, throwIf_eq_ok,
    Core.readText_eq_ok_iff, Nat.not_lt]
  simp [ShortText, Core.maxCborTextBytes, Protocol.maxDraftStringBytes, pure, Except.pure]

theorem publicValue_bytes {data : List UInt8} :
    PublicValue depth (.bytes data) ↔
      depth ≤ 3 ∧ data.length ≠ 0 ∧ data.length ≤ Protocol.maxDecodedCBORBytes := by
  simp only [PublicValue, Core.validateBoundedPublicValue, bind_eq_ok, throwIf_eq_ok,
    Core.readBytes_eq_ok_iff, Nat.not_lt]
  simp [Core.maxCborBytes, Protocol.maxDecodedCBORBytes, pure, Except.pure]

theorem publicValue_array {values : List Cbor} :
    PublicValue depth (.array values) ↔
      depth ≤ 3 ∧ values.length ≤ 16 ∧ ∀ v ∈ values, PublicValue (depth + 1) v := by
  simp only [PublicValue, Core.validateBoundedPublicValue, throwIf_bind_eq_ok, Nat.not_lt,
    client_validateBoundedItems_eq_ok_iff]

theorem publicValue_map {entries : List (String × Cbor)} :
    PublicValue depth (.map entries) ↔
      depth ≤ 3 ∧ entries.length ≤ 16 ∧
        ∀ entry ∈ entries, ShortText entry.1 ∧ PublicValue (depth + 1) entry.2 := by
  simp only [PublicValue, Core.validateBoundedPublicValue, throwIf_bind_eq_ok, Nat.not_lt,
    client_validateBoundedEntries_eq_ok_iff]

theorem relay_areBoundedItems_iff {values : List Cbor} :
    Protocol.areBoundedItems depth values = true ↔
      ∀ v ∈ values, Protocol.isBoundedBootstrapPublicValue depth v = true := by
  induction values with
  | nil => simp [Protocol.areBoundedItems]
  | cons v values ih => simp [Protocol.areBoundedItems, ih]

theorem relay_areBoundedEntries_iff {entries : List (String × Cbor)} :
    Protocol.areBoundedEntries depth entries = true ↔
      ∀ entry ∈ entries, ShortText entry.1 ∧
        Protocol.isBoundedBootstrapPublicValue depth entry.2 = true := by
  induction entries with
  | nil => simp [Protocol.areBoundedEntries]
  | cons entry entries ih => simp [Protocol.areBoundedEntries, ShortText, ih, and_assoc]

theorem relay_isBoundedBootstrapPublicValue_iff {v : Cbor} :
    Protocol.isBoundedBootstrapPublicValue depth v = true ↔
      PublicValue depth v ∧ v.hasBool = false := by
  induction v generalizing depth with
  | bool b => simp [Protocol.isBoundedBootstrapPublicValue, Cbor.hasBool]
  | uint n =>
    rw [publicValue_uint, ← timestamp_le_iff]
    simp [Protocol.isBoundedBootstrapPublicValue, Cbor.hasBool]
  | text s =>
    rw [publicValue_text]
    simp [Protocol.isBoundedBootstrapPublicValue, Cbor.hasBool, ShortText, and_assoc]
  | bytes data =>
    rw [publicValue_bytes]
    simp [Protocol.isBoundedBootstrapPublicValue, Cbor.hasBool, and_assoc]
  | array values ih =>
    rw [publicValue_array, Cbor.hasBool, Cbor.hasBoolItems_eq_false_iff]
    simp only [Protocol.isBoundedBootstrapPublicValue, Bool.and_eq_true, decide_eq_true_eq,
      relay_areBoundedItems_iff]
    constructor
    · rintro ⟨⟨hdepth, hcount⟩, hvalues⟩
      have hboth := fun v hv => (ih v hv).mp (hvalues v hv)
      exact ⟨⟨hdepth, hcount, fun v hv => (hboth v hv).1⟩, fun v hv => (hboth v hv).2⟩
    · rintro ⟨⟨hdepth, hcount, hvalues⟩, hbool⟩
      exact ⟨⟨hdepth, hcount⟩, fun v hv => (ih v hv).mpr ⟨hvalues v hv, hbool v hv⟩⟩
  | map entries ih =>
    rw [publicValue_map, Cbor.hasBool, Cbor.hasBoolEntries_eq_false_iff]
    simp only [Protocol.isBoundedBootstrapPublicValue, Bool.and_eq_true, decide_eq_true_eq,
      relay_areBoundedEntries_iff]
    constructor
    · rintro ⟨⟨hdepth, hcount⟩, hentries⟩
      have hboth := fun entry hentry => (ih entry hentry).mp (hentries entry hentry).2
      exact ⟨⟨hdepth, hcount, fun entry hentry =>
        ⟨(hentries entry hentry).1, (hboth entry hentry).1⟩⟩,
        fun entry hentry => (hboth entry hentry).2⟩
    · rintro ⟨⟨hdepth, hcount, hentries⟩, hbool⟩
      refine ⟨⟨hdepth, hcount⟩, fun entry hentry => ⟨(hentries entry hentry).1, ?_⟩⟩
      exact (ih entry hentry).mpr ⟨(hentries entry hentry).2, hbool entry hentry⟩

theorem PublicValue.plain {v : Cbor} (h : PublicValue depth v) :
    Cbor.Plain (· ≠ "") (4 - depth) Core.maxSafeInteger v := by
  induction v generalizing depth with
  | bool b => simp [Cbor.Plain, Cbor.depth, Cbor.uints, Cbor.texts]
  | uint n => exact Cbor.plain_uint.mpr (publicValue_uint.mp h).2
  | text s => exact Cbor.plain_text.mpr (publicValue_text.mp h).2.1
  | bytes data => exact Cbor.plain_bytes
  | array values ih =>
    obtain ⟨hdepth, _, hvalues⟩ := publicValue_array.mp h
    rw [show 4 - depth = 4 - (depth + 1) + 1 by omega, Cbor.plain_array]
    exact fun v hv => ih v hv (hvalues v hv)
  | map entries ih =>
    obtain ⟨hdepth, _, hentries⟩ := publicValue_map.mp h
    rw [show 4 - depth = 4 - (depth + 1) + 1 by omega, Cbor.plain_map]
    exact fun entry hentry =>
      ⟨(hentries entry hentry).1.1, ih entry hentry (hentries entry hentry).2⟩

theorem relay_checkBootstrapPublicValues_eq_ok_iff {m : CborMap} {keys : List String}
    {u : Unit} :
    Protocol.checkBootstrapPublicValues m keys = .ok u ↔
      ∀ key ∈ keys, ∀ v ∈ m.lookup key, PublicValue 0 v ∧ v.hasBool = false := by
  induction keys with
  | nil => simp [Protocol.checkBootstrapPublicValues]
  | cons key keys ih =>
    simp only [Protocol.checkBootstrapPublicValues, throwIf_bind_eq_ok, ih,
      List.forall_mem_cons, ← relay_isBoundedBootstrapPublicValue_iff]
    push Not
    rfl

theorem client_validateOptionalPublicValues_eq_ok_iff {m : CborMap} {keys : List String}
    {u : Unit} :
    Core.validateOptionalPublicValues m keys = .ok u ↔
      ∀ key ∈ keys, ∀ v ∈ m.lookup key, PublicValue 0 v := by
  induction keys with
  | nil => simp [Core.validateOptionalPublicValues]
  | cons key keys ih =>
    rw [Core.validateOptionalPublicValues, List.forall_mem_cons, ← ih]
    cases hlookup : m.lookup key with
    | none => simp [bind, Except.bind]
    | some v =>
      rw [bind_eq_ok]
      constructor
      · rintro ⟨_, hv, hkeys⟩
        exact ⟨fun w hw => Option.some.inj hw ▸ hv, hkeys⟩
      · rintro ⟨hv, hkeys⟩
        exact ⟨(), hv v rfl, hkeys⟩

end PublicValues

section Payload

/-- The fields of the payload of a beacon, wherever they stand. -/
structure PayloadFields (supported : List String) (m : CborMap)
    (payload : BootstrapBeaconPayload) : Prop where
  known : ∀ entry ∈ m, entry.1 ∈ Protocol.bootstrapPayloadKeys
  protocolVersions : TextSet m "protocol_versions" 8 payload.protocolVersions
  protocol_mem : Protocol.protocolID ∈ payload.protocolVersions
  profileMultihashes : TextSet m "profile_multihashes" 8 payload.profileMultihashes
  profile : Protocol.hasSupportedProfile payload.profileMultihashes supported = true
  relayCapabilities : TextSet m "relay_capabilities" 32 payload.relayCapabilities
  relayEndpoints : ∃ values, m.lookup "relay_endpoints" = some (.array values) ∧
    List.Forall₂ EndpointFields values payload.relayEndpoints
  endpoints_ne : payload.relayEndpoints.length ≠ 0
  endpoints_le : payload.relayEndpoints.length ≤ Protocol.maxBootstrapEndpoints
  endpoints_sequence : InSequence [] (-1) (payload.relayEndpoints.map endpointRank)
  endpoints_wss : ∃ endpoint ∈ payload.relayEndpoints, endpoint.transport = "wss"
  beaconID : m.lookup "beacon_id" = some (.bytes payload.beaconID)
  beaconID_length : payload.beaconID.length = 32
  sequence : m.lookup "sequence" = some (.uint payload.sequence)
  sequence_le : payload.sequence ≤ Core.maxSafeInteger
  issuedAt : m.lookup "issued_at" = some (.uint payload.issuedAt)
  issuedAt_le : payload.issuedAt ≤ Core.maxSafeInteger
  expiresAt : m.lookup "expires_at" = some (.uint payload.expiresAt)
  expiresAt_le : payload.expiresAt ≤ Core.maxSafeInteger
  previousBeaconID : m.lookup "previous_beacon_id" = payload.previousBeaconID.map .bytes
  previousBeaconID_length : ∀ data ∈ payload.previousBeaconID, data.length = 32
  publicValues : ∀ key ∈ Protocol.bootstrapPublicKeys, ∀ v ∈ m.lookup key, PublicValue 0 v

variable (urlParse : String → Option Protocol.ParsedURL) (newURL : String → Option Core.URLParts)

structure RelayPayload (m : CborMap) (payload : BootstrapBeaconPayload) : Prop where
  protocolVersions : ByteOrdered payload.protocolVersions
  profileMultihashes : ByteOrdered payload.profileMultihashes
  relayCapabilities : ByteOrdered payload.relayCapabilities
  forwards : Protocol.relayForwardLiveRole ∈ payload.relayCapabilities
  uris : ∀ endpoint ∈ payload.relayEndpoints, RelayUri urlParse endpoint
  publicValues : ∀ key ∈ Protocol.bootstrapPublicKeys, ∀ v ∈ m.lookup key, v.hasBool = false

structure ClientPayload (m : CborMap) (payload : BootstrapBeaconPayload) : Prop where
  protocolVersions : UnitOrdered payload.protocolVersions
  profileMultihashes : UnitOrdered payload.profileMultihashes
  relayCapabilities : UnitOrdered payload.relayCapabilities
  uris : ∀ endpoint ∈ payload.relayEndpoints, ClientUri newURL endpoint
  unmarked : ∀ s ∈ (Cbor.map m).texts, ¬ Utf8.Marked s

variable {urlParse newURL} {supported : List String} {m : CborMap}
  {payload : BootstrapBeaconPayload} {payloadBytes : List UInt8}

theorem EndpointFields.plain {v : Cbor} {endpoint : BootstrapRelayEndpoint}
    (h : EndpointFields v endpoint) (hwire : Cbor.Wire sharedRules v) :
    Cbor.Plain (· ≠ "") 1 Core.maxSafeInteger v := by
  obtain ⟨m, rfl, hknown, htransport, huri, hpriority⟩ := h.value
  have hnodup := nodup_keys hwire
  rw [Cbor.plain_map]
  rintro ⟨key, v⟩ hentry
  have hkey := hknown _ hentry
  have hne : ∀ key ∈ Protocol.endpointKeys, key ≠ "" := by decide
  refine ⟨hne key hkey, ?_⟩
  simp only [Protocol.endpointKeys, List.mem_cons, List.not_mem_nil, or_false] at hkey
  rcases hkey with rfl | rfl | rfl
  · obtain rfl := value_of_lookup hnodup hentry htransport
    exact Cbor.plain_text.mpr h.transport.1
  · obtain rfl := value_of_lookup hnodup hentry huri
    exact Cbor.plain_text.mpr h.uri.1
  · obtain rfl := value_of_lookup hnodup hentry hpriority
    exact Cbor.plain_uint.mpr h.priority_le

variable {endpoints : List BootstrapRelayEndpoint}

theorem plain_endpoints {values : List Cbor}
    (h : List.Forall₂ EndpointFields values endpoints)
    (hwire : ∀ v ∈ values, Cbor.Wire sharedRules v) :
    Cbor.Plain (· ≠ "") 2 Core.maxSafeInteger (.array values) := by
  rw [Cbor.plain_array]
  induction h with
  | nil => simp
  | cons hfields hrest ih =>
    rw [List.forall_mem_cons] at hwire ⊢
    exact ⟨hfields.plain hwire.1, ih hwire.2⟩

theorem PayloadFields.plain (h : PayloadFields supported m payload)
    (hwire : Cbor.Wire sharedRules (.map m)) :
    Cbor.Plain (· ≠ "") 5 Core.maxSafeInteger (.map m) := by
  have hnodup := nodup_keys hwire
  have hpublic : ∀ key ∈ Protocol.bootstrapPublicKeys, ∀ v, (key, v) ∈ m →
      Cbor.Plain (· ≠ "") 4 Core.maxSafeInteger v := by
    intro key hkey v hentry
    exact (h.publicValues key hkey v ((Cbor.lookup_eq_some_iff hnodup).mpr hentry)).plain
  rw [Cbor.plain_map]
  rintro ⟨key, v⟩ hentry
  have hknown := h.known _ hentry
  have hne : ∀ key ∈ Protocol.bootstrapPayloadKeys, key ≠ "" := by decide
  refine ⟨hne key hknown, ?_⟩
  simp only [Protocol.bootstrapPayloadKeys, List.mem_cons, List.not_mem_nil, or_false] at hknown
  rcases hknown with rfl | rfl | rfl | rfl | rfl | rfl | rfl | rfl | rfl | rfl | rfl | rfl | rfl
  · obtain rfl := value_of_lookup hnodup hentry h.beaconID
    exact Cbor.plain_bytes
  · obtain rfl := value_of_lookup hnodup hentry h.sequence
    exact Cbor.plain_uint.mpr h.sequence_le
  · obtain rfl := value_of_lookup hnodup hentry h.issuedAt
    exact Cbor.plain_uint.mpr h.issuedAt_le
  · obtain rfl := value_of_lookup hnodup hentry h.expiresAt
    exact Cbor.plain_uint.mpr h.expiresAt_le
  · have hlookup := (Cbor.lookup_eq_some_iff hnodup).mpr hentry
    rw [h.previousBeaconID] at hlookup
    obtain ⟨data, _, rfl⟩ := Option.map_eq_some_iff.mp hlookup
    exact Cbor.plain_bytes
  · exact hpublic "revokes" (by decide) v hentry
  · obtain rfl := value_of_lookup hnodup hentry h.protocolVersions.value
    exact h.protocolVersions.plain.mono (by omega)
  · obtain rfl := value_of_lookup hnodup hentry h.profileMultihashes.value
    exact h.profileMultihashes.plain.mono (by omega)
  · obtain rfl := value_of_lookup hnodup hentry h.relayCapabilities.value
    exact h.relayCapabilities.plain.mono (by omega)
  · obtain ⟨values, hvalues, hendpoints⟩ := h.relayEndpoints
    obtain rfl := value_of_lookup hnodup hentry hvalues
    refine (plain_endpoints hendpoints ?_).mono (by omega)
    cases wire_of_lookup hwire hvalues with
    | array hlength hitems => exact hitems
  · exact hpublic "rendezvous_boards" (by decide) v hentry
  · exact hpublic "mirror_hints" (by decide) v hentry
  · exact hpublic "proofs" (by decide) v hentry

theorem relay_readBootstrapRelayEndpoints_eq_ok_iff :
    Protocol.readBootstrapRelayEndpoints urlParse m = .ok endpoints ↔
      (∃ values, m.lookup "relay_endpoints" = some (.array values) ∧
          List.Forall₂ EndpointFields values endpoints) ∧
        (endpoints.length ≠ 0 ∧ endpoints.length ≤ Protocol.maxBootstrapEndpoints) ∧
        InSequence [] (-1) (endpoints.map endpointRank) ∧
        (∃ endpoint ∈ endpoints, endpoint.transport = "wss") ∧
        ∀ endpoint ∈ endpoints, RelayUri urlParse endpoint := by
  simp only [Protocol.readBootstrapRelayEndpoints, bind_eq_ok, mapError_eq_ok,
    Protocol.cborRequired_eq_ok_iff]
  constructor
  · rintro ⟨v, hlookup, h⟩
    cases v with
    | array values =>
      obtain ⟨hcount, h⟩ := throwIf_bind_eq_ok.mp h
      obtain ⟨endpoints', hendpoints, h⟩ := bind_eq_ok.mp h
      obtain ⟨hwss, heq⟩ := throwIf_bind_eq_ok.mp h
      obtain rfl := Except.ok.inj heq
      obtain ⟨hfields, hsequence, huris⟩ := relay_readBootstrapEndpoints_eq_ok_iff.mp hendpoints
      rw [hfields.length_eq] at hcount
      push Not at hcount
      exact ⟨⟨values, hlookup, hfields⟩, hcount, hsequence, by simpa using hwss, huris⟩
    | _ => cases h
  · rintro ⟨⟨values, hlookup, hfields⟩, hcount, hsequence, hwss, huris⟩
    refine ⟨_, hlookup, throwIf_bind_eq_ok.mpr ⟨?_, bind_eq_ok.mpr ⟨endpoints, ?_,
      throwIf_bind_eq_ok.mpr ⟨by simpa using hwss, rfl⟩⟩⟩⟩
    · rw [hfields.length_eq]
      push Not
      exact hcount
    · exact relay_readBootstrapEndpoints_eq_ok_iff.mpr ⟨hfields, hsequence, huris⟩

theorem client_readRelayEndpoints_eq_ok_iff {v : Cbor} :
    Core.readRelayEndpoints newURL v = .ok endpoints ↔
      (∃ values, v = .array values ∧ List.Forall₂ EndpointFields values endpoints) ∧
        (endpoints.length ≠ 0 ∧ endpoints.length ≤ Protocol.maxBootstrapEndpoints) ∧
        InSequence [] (-1) (endpoints.map endpointRank) ∧
        (∃ endpoint ∈ endpoints, endpoint.transport = "wss") ∧
        ∀ endpoint ∈ endpoints, ClientUri newURL endpoint := by
  constructor
  · intro h
    cases v with
    | array values =>
      obtain ⟨hcount, h⟩ := throwIf_bind_eq_ok.mp h
      obtain ⟨endpoints', hendpoints, h⟩ := bind_eq_ok.mp h
      obtain ⟨hwss, heq⟩ := throwIf_bind_eq_ok.mp h
      obtain rfl := Except.ok.inj heq
      obtain ⟨hfields, hsequence, huris⟩ := client_readRelayEndpointsFrom_eq_ok_iff.mp hendpoints
      rw [hfields.length_eq] at hcount
      push Not at hcount
      exact ⟨⟨values, rfl, hfields⟩, hcount, hsequence, by simpa using hwss, huris⟩
    | _ => cases h
  · rintro ⟨⟨values, rfl, hfields⟩, hcount, hsequence, hwss, huris⟩
    refine throwIf_bind_eq_ok.mpr ⟨?_, bind_eq_ok.mpr ⟨endpoints, ?_,
      throwIf_bind_eq_ok.mpr ⟨by simpa using hwss, rfl⟩⟩⟩
    · rw [hfields.length_eq]
      push Not
      exact hcount
    · exact client_readRelayEndpointsFrom_eq_ok_iff.mpr ⟨hfields, hsequence, huris⟩

theorem relay_readPreviousBeaconID_eq_ok_iff {previous : Option (List UInt8)} :
    Protocol.readPreviousBeaconID m = .ok previous ↔
      m.lookup "previous_beacon_id" = previous.map .bytes ∧
        ∀ data ∈ previous, data.length = 32 := by
  refine (optional_eq_ok_iff id ?_).trans exists_eq_right_right
  simp only [mapError_eq_ok, map_eq_ok, relay_cborBytes_size, and_assoc, id]

theorem client_readPreviousBeaconId_eq_ok_iff {previous : Option (List UInt8)} :
    Core.readPreviousBeaconId m = .ok previous ↔
      m.lookup "previous_beacon_id" = previous.map .bytes ∧
        ∀ data ∈ previous, data.length = 32 := by
  refine (optional_eq_ok_iff id ?_).trans exists_eq_right_right
  simp only [map_eq_ok, client_requiredBytes_size, and_assoc, id]

theorem client_bootstrapTextArray_eq_ok_iff {key : String} {maxItems : Nat}
    {items : List String} :
    Core.readOrderedUniqueTextArray Core.maxBootstrapNameBytes m key maxItems = .ok items ↔
      TextSet m key maxItems items ∧ UnitOrdered items := by
  have hname : Core.maxBootstrapNameBytes ≤ 128 := le_refl 128
  rw [client_readOrderedUniqueTextArray_eq_ok_iff hname]
  constructor
  · exact fun ⟨hset, horder, _⟩ => ⟨hset, horder⟩
  · exact fun ⟨hset, horder⟩ => ⟨hset, horder, fun s hs => (hset.short s hs).2⟩

theorem relay_readBootstrapBeaconPayload_eq_ok_iff
    (hsize : payloadBytes.length ≤ Protocol.maxDecodedCBORBytes) :
    Protocol.readBootstrapBeaconPayload urlParse payloadBytes supported = .ok payload ↔
      ∃ m, Canonical payloadBytes (.map m) ∧ PayloadFields supported m payload ∧
        RelayPayload urlParse m payload := by
  simp only [Protocol.readBootstrapBeaconPayload, bind_eq_ok, throwIf_eq_ok, mapError_eq_ok,
    Protocol.cborMap_eq_ok_iff, Protocol.cborRejectUnknown_eq_ok_iff,
    relay_readOrderedTextSet_eq_ok_iff, relay_readBootstrapRelayEndpoints_eq_ok_iff,
    relay_cborBytes_size, Protocol.cborUint_eq_ok_iff, timestamp_le_iff,
    relay_readPreviousBeaconID_eq_ok_iff,
    relay_checkBootstrapPublicValues_eq_ok_iff]
  push Not
  constructor
  · rintro ⟨_, _, v, hdecode, m, rfl, _, hknown, versions, ⟨hversions, hversionOrder⟩, profiles,
      ⟨hprofiles, hprofileOrder⟩, capabilities, ⟨hcapabilities, hcapabilityOrder⟩, _,
      ⟨hprotocol, hprofile, hforwards⟩, endpoints,
      ⟨hendpoints, ⟨hne, hle⟩, hsequence, hwss, huris⟩, beaconID, ⟨hbeacon, hbeaconLength⟩,
      sequence, ⟨hseq, hseqLe⟩, issued, ⟨hissued, hissuedLe⟩, expires, ⟨hexpires, hexpiresLe⟩,
      previous, ⟨hprev, hprevLength⟩, _, hpublic, heq⟩
    obtain rfl := Except.ok.inj heq
    exact ⟨m, (relay_accepts_iff.mp hdecode).1, {
      known := hknown, protocolVersions := hversions, protocol_mem := hprotocol,
      profileMultihashes := hprofiles, profile := hprofile, relayCapabilities := hcapabilities,
      relayEndpoints := hendpoints, endpoints_ne := hne, endpoints_le := hle,
      endpoints_sequence := hsequence, endpoints_wss := hwss, beaconID := hbeacon,
      beaconID_length := hbeaconLength, sequence := hseq, sequence_le := hseqLe,
      issuedAt := hissued, issuedAt_le := hissuedLe, expiresAt := hexpires,
      expiresAt_le := hexpiresLe, previousBeaconID := hprev,
      previousBeaconID_length := hprevLength,
      publicValues := fun key hkey v hv => (hpublic key hkey v hv).1 }, {
      protocolVersions := hversionOrder, profileMultihashes := hprofileOrder,
      relayCapabilities := hcapabilityOrder, forwards := hforwards, uris := huris,
      publicValues := fun key hkey v hv => (hpublic key hkey v hv).2 }⟩
  · rintro ⟨m, hcanonical, h, hrelay⟩
    have hdecode := (relay_decodes_plain ((h.plain hcanonical.2.1).mono (by omega))).mpr hcanonical
    exact ⟨(), hsize, _, hdecode, m, rfl, (), h.known, _,
      ⟨h.protocolVersions, hrelay.protocolVersions⟩, _,
      ⟨h.profileMultihashes, hrelay.profileMultihashes⟩, _,
      ⟨h.relayCapabilities, hrelay.relayCapabilities⟩, (),
      ⟨h.protocol_mem, h.profile, hrelay.forwards⟩, _,
      ⟨h.relayEndpoints, ⟨h.endpoints_ne, h.endpoints_le⟩, h.endpoints_sequence,
        h.endpoints_wss, hrelay.uris⟩, _, ⟨h.beaconID, h.beaconID_length⟩, _,
      ⟨h.sequence, h.sequence_le⟩, _, ⟨h.issuedAt, h.issuedAt_le⟩, _,
      ⟨h.expiresAt, h.expiresAt_le⟩, _, ⟨h.previousBeaconID, h.previousBeaconID_length⟩, (),
      fun key hkey v hv => ⟨h.publicValues key hkey v hv, hrelay.publicValues key hkey v hv⟩,
      rfl⟩

theorem client_readBootstrapPayload_eq_ok_iff
    (hsize : payloadBytes.length ≤ Protocol.maxDecodedCBORBytes) :
    Core.readBootstrapPayload newURL payloadBytes supported = .ok payload ↔
      ∃ m, Canonical payloadBytes (.map m) ∧ PayloadFields supported m payload ∧
        ClientPayload newURL m payload := by
  simp only [Core.readBootstrapPayload, bind_eq_ok, throwIf_eq_ok, Core.decodeCborForValidation,
    mapError_eq_ok, Core.readCborMap_eq_ok_iff, Core.rejectUnknownEntries_eq_ok_iff,
    client_bootstrapTextArray_eq_ok_iff, Core.getRequiredEntry_eq_ok_iff,
    client_readRelayEndpoints_eq_ok_iff, not_not, client_validateOptionalPublicValues_eq_ok_iff,
    client_requiredBytes_size, Core.requiredUint_eq_ok_iff,
    client_requiredTimestamp_eq_ok_iff, client_readPreviousBeaconId_eq_ok_iff]
  constructor
  · rintro ⟨_, _, v, hdecode, m, rfl, _, hknown, versions, ⟨hversions, hversionOrder⟩, profiles,
      ⟨hprofiles, hprofileOrder⟩, capabilities, ⟨hcapabilities, hcapabilityOrder⟩,
      _, hlookup, endpoints, ⟨⟨values, rfl, hfields⟩, ⟨hne, hle⟩, hsequence, hwss, huris⟩, _,
      hprotocol, _, hprofile, _, hpublic, beaconID, ⟨hbeacon, hbeaconLength⟩,
      sequence, ⟨hseq, hseqLe⟩, issued, ⟨hissued, hissuedLe⟩, expires, ⟨hexpires, hexpiresLe⟩,
      previous, ⟨hprev, hprevLength⟩, heq⟩
    obtain rfl := Except.ok.inj heq
    obtain ⟨hcanonical, _, hunmarked⟩ := client_accepts_iff.mp hdecode
    exact ⟨m, hcanonical, {
      known := hknown, protocolVersions := hversions, protocol_mem := hprotocol,
      profileMultihashes := hprofiles, profile := hprofile, relayCapabilities := hcapabilities,
      relayEndpoints := ⟨values, hlookup, hfields⟩, endpoints_ne := hne, endpoints_le := hle,
      endpoints_sequence := hsequence, endpoints_wss := hwss, beaconID := hbeacon,
      beaconID_length := hbeaconLength, sequence := hseq, sequence_le := hseqLe,
      issuedAt := hissued, issuedAt_le := hissuedLe, expiresAt := hexpires,
      expiresAt_le := hexpiresLe, previousBeaconID := hprev,
      previousBeaconID_length := hprevLength, publicValues := hpublic }, {
      protocolVersions := hversionOrder, profileMultihashes := hprofileOrder,
      relayCapabilities := hcapabilityOrder, uris := huris, unmarked := hunmarked }⟩
  · rintro ⟨m, hcanonical, h, hclient⟩
    have hplain := (h.plain hcanonical.2.1).2.1
    have hdecode := client_accepts_iff.mpr ⟨hcanonical, hplain, hclient.unmarked⟩
    obtain ⟨values, hlookup, hfields⟩ := h.relayEndpoints
    exact ⟨(), Nat.not_lt.mpr hsize, _, hdecode, m, rfl, (), h.known, _,
      ⟨h.protocolVersions, hclient.protocolVersions⟩, _,
      ⟨h.profileMultihashes, hclient.profileMultihashes⟩, _,
      ⟨h.relayCapabilities, hclient.relayCapabilities⟩, _, hlookup, _,
      ⟨⟨values, rfl, hfields⟩, ⟨h.endpoints_ne, h.endpoints_le⟩, h.endpoints_sequence,
        h.endpoints_wss, hclient.uris⟩, (), h.protocol_mem, (), h.profile, (), h.publicValues, _,
      ⟨h.beaconID, h.beaconID_length⟩, _, ⟨h.sequence, h.sequence_le⟩, _,
      ⟨h.issuedAt, h.issuedAt_le⟩, _, ⟨h.expiresAt, h.expiresAt_le⟩, _,
      ⟨h.previousBeaconID, h.previousBeaconID_length⟩, rfl⟩

end Payload

section Beacon

variable (urlParse : String → Option Protocol.ParsedURL) (newURL : String → Option Core.URLParts)
  (verify : List UInt8 → List UInt8 → List UInt8 → Bool) (clock now : Int) (input : List UInt8)

/-- The beacon that the bytes of a signed event hold, with the map of its payload, as far as
both sides ask the same. -/
structure Beacon (signed : List UInt8) (m : CborMap)
    (beacon : SignedEvent BootstrapBeaconPayload) : Prop where
  signed_eq : beacon.signedEventBytes = signed
  opened : Opened verify Protocol.eventBootstrapBeacon signed beacon.envelope
    beacon.signatureInputBytes
  canonical : Canonical beacon.envelope.payloadBytes (.map m)
  payload : PayloadFields [Protocol.developmentProfileMultihash] m beacon.payload
  expiry : beacon.payload.expiresAt = beacon.envelope.expiresAt
  issued : beacon.payload.issuedAt ≤ beacon.envelope.createdAt

/-- The time of the relay is that of its clock if it is given a zero. -/
def relayNow : Int := if now = 0 then clock else now

def relayBeacon : Option (SignedEvent BootstrapBeaconPayload) :=
  (Protocol.validateBranchTextBootstrapBeacon urlParse verify clock input
    { nowUnix := now }).toOption

/-- What the client makes of it. Bytes that are no text do not come before its validator. -/
def clientBeacon : Option (SignedEvent BootstrapBeaconPayload) :=
  (Utf8.text? input).bind fun wrapper =>
    (Core.validateBranchTextBootstrapBeacon newURL verify clock wrapper
      { now := some now }).toOption

variable {urlParse newURL verify clock now input} {signed : List UInt8}
  {beacon : SignedEvent BootstrapBeaconPayload}

theorem shortText_eventBootstrapBeacon : ShortText Protocol.eventBootstrapBeacon :=
  ⟨by decide, by decide⟩

theorem relay_wrapper_iff :
    (Protocol.validBootstrapBranchTextWrapper input = true ∧
        Base64.decodeChars (Protocol.wrapperBody input) = some signed) ↔
      Wrapped input signed ∧ input.length ≤ Protocol.maxDraftEnvelopeBytes := by
  simp only [Protocol.validBootstrapBranchTextWrapper, Bool.and_eq_true, decide_eq_true_eq,
    List.all_eq_true, Bool.or_eq_true]
  constructor
  · rintro ⟨⟨⟨⟨hinit, hsize⟩, hne⟩, hall⟩, hdecode⟩
    obtain ⟨hwrapping, _⟩ := relay_wrapping_iff.mp ⟨hinit, rfl, hdecode⟩
    refine ⟨⟨_, hne, hwrapping, ?_⟩, hsize⟩
    refine Base64.decodeStrict_eq_some_iff_decodeChars.mpr ⟨hdecode, fun c hc => ?_⟩
    have halphabet := hall c hc
    apply Base64.not_lineBreak_of_inAlphabet
    unfold Base64.InAlphabet
    tauto
  · rintro ⟨⟨body, hne, hwrapping, hstrict⟩, hsize⟩
    have hdecode := (Base64.decodeStrict_eq_some_iff_decodeChars.mp hstrict).1
    obtain ⟨hinit, hbody, _⟩ := relay_wrapping_iff.mpr ⟨hwrapping, hdecode⟩
    rw [hbody]
    refine ⟨⟨⟨⟨hinit, hsize⟩, hne⟩, fun c hc => ?_⟩, hdecode⟩
    have halphabet := Base64.inAlphabet_of_decodeStrict hstrict c hc
    unfold Base64.InAlphabet at halphabet
    tauto

theorem relay_readSignedBootstrapBeacon_eq_ok_iff {skew : Int} :
    Protocol.readSignedBootstrapBeacon urlParse verify now skew
        [Protocol.developmentProfileMultihash] signed = .ok beacon ↔
      ∃ m, Beacon verify signed m beacon ∧ Timely now skew beacon.envelope ∧
        RelayPayload urlParse m beacon.payload := by
  constructor
  · intro h
    obtain ⟨⟨envelope, signatureInput⟩, hopen, h⟩ := bind_eq_ok.mp h
    obtain ⟨payload, hpayload, h⟩ := bind_eq_ok.mp h
    obtain ⟨hexpiry, h⟩ := throwIf_bind_eq_ok.mp h
    obtain ⟨hissued, heq⟩ := throwIf_bind_eq_ok.mp h
    obtain rfl := Except.ok.inj heq
    obtain ⟨hopened, htimely⟩ :=
      (relay_openSignedEvent_eq_ok_iff shortText_eventBootstrapBeacon).mp hopen
    obtain ⟨m, hcanonical, hfields, hrelay⟩ :=
      (relay_readBootstrapBeaconPayload_eq_ok_iff hopened.payload_le).mp hpayload
    exact ⟨m, ⟨rfl, hopened, hcanonical, hfields, not_not.mp hexpiry, Nat.not_lt.mp hissued⟩,
      htimely, hrelay⟩
  · rintro ⟨m, h, htimely, hrelay⟩
    obtain rfl := h.signed_eq
    refine bind_eq_ok.mpr ⟨(beacon.envelope, beacon.signatureInputBytes), ?_, ?_⟩
    · exact (relay_openSignedEvent_eq_ok_iff shortText_eventBootstrapBeacon).mpr
        ⟨h.opened, htimely⟩
    refine bind_eq_ok.mpr ⟨beacon.payload, ?_, ?_⟩
    · exact (relay_readBootstrapBeaconPayload_eq_ok_iff h.opened.payload_le).mpr
        ⟨m, h.canonical, h.payload, hrelay⟩
    · exact throwIf_bind_eq_ok.mpr ⟨not_not.mpr h.expiry,
        throwIf_bind_eq_ok.mpr ⟨Nat.not_lt.mpr h.issued, rfl⟩⟩

theorem client_readSignedBootstrapBeacon_eq_ok_iff {skew : Int} :
    Core.readSignedBootstrapBeacon newURL verify now skew
        [Protocol.developmentProfileMultihash] signed = .ok beacon ↔
      ∃ m, Beacon verify signed m beacon ∧ Timely now skew beacon.envelope ∧
        ClientPayload newURL m beacon.payload := by
  have hmark : ¬ Utf8.Marked Protocol.eventBootstrapBeacon := by decide
  constructor
  · intro h
    obtain ⟨⟨envelope, signatureInput⟩, hopen, h⟩ := bind_eq_ok.mp h
    obtain ⟨payload, hpayload, h⟩ := bind_eq_ok.mp h
    obtain ⟨hexpiry, h⟩ := throwIf_bind_eq_ok.mp h
    obtain ⟨hissued, heq⟩ := throwIf_bind_eq_ok.mp h
    obtain rfl := Except.ok.inj heq
    obtain ⟨hopened, htimely⟩ :=
      (client_openSignedEvent_eq_ok_iff shortText_eventBootstrapBeacon hmark).mp hopen
    obtain ⟨m, hcanonical, hfields, hclient⟩ :=
      (client_readBootstrapPayload_eq_ok_iff hopened.payload_le).mp hpayload
    exact ⟨m, ⟨rfl, hopened, hcanonical, hfields, not_not.mp hexpiry, Nat.not_lt.mp hissued⟩,
      htimely, hclient⟩
  · rintro ⟨m, h, htimely, hclient⟩
    obtain rfl := h.signed_eq
    refine bind_eq_ok.mpr ⟨(beacon.envelope, beacon.signatureInputBytes), ?_, ?_⟩
    · exact (client_openSignedEvent_eq_ok_iff shortText_eventBootstrapBeacon hmark).mpr
        ⟨h.opened, htimely⟩
    refine bind_eq_ok.mpr ⟨beacon.payload, ?_, ?_⟩
    · exact (client_readBootstrapPayload_eq_ok_iff h.opened.payload_le).mpr
        ⟨m, h.canonical, h.payload, hclient⟩
    · exact throwIf_bind_eq_ok.mpr ⟨not_not.mpr h.expiry,
        throwIf_bind_eq_ok.mpr ⟨Nat.not_lt.mpr h.issued, rfl⟩⟩

theorem relayBeacon_eq_some_iff :
    relayBeacon urlParse verify clock now input = some beacon ↔
      ∃ signed, Wrapped input signed ∧ input.length ≤ Protocol.maxDraftEnvelopeBytes ∧
        Protocol.readSignedBootstrapBeacon urlParse verify (relayNow clock now) 300
          [Protocol.developmentProfileMultihash] signed = .ok beacon := by
  rw [relayBeacon, toOption_eq_some_iff, Protocol.validateBranchTextBootstrapBeacon,
    throwIf_bind_eq_ok, not_not]
  constructor
  · rintro ⟨hvalid, h⟩
    cases hdecode : Base64.decodeChars (Protocol.wrapperBody input) with
    | none =>
      rw [hdecode] at h
      cases h
    | some signed =>
      rw [hdecode] at h
      obtain ⟨hwrapped, hsize⟩ := relay_wrapper_iff.mp ⟨hvalid, hdecode⟩
      exact ⟨signed, hwrapped, hsize, h⟩
  · rintro ⟨signed, hwrapped, hsize, h⟩
    obtain ⟨hvalid, hdecode⟩ := relay_wrapper_iff.mpr ⟨hwrapped, hsize⟩
    refine ⟨hvalid, ?_⟩
    rw [hdecode]
    exact h

theorem clientBeacon_eq_some_iff :
    clientBeacon newURL verify clock now input = some beacon ↔
      ∃ signed, Wrapped input signed ∧ input.length ≤ Protocol.maxDraftEnvelopeBytes ∧
        Core.readSignedBootstrapBeacon newURL verify now 300
          [Protocol.developmentProfileMultihash] signed = .ok beacon := by
  rw [clientBeacon, Option.bind_eq_some_iff]
  simp only [toOption_eq_some_iff, Core.validateBranchTextBootstrapBeacon, mapError_eq_ok,
    throwIf_bind_eq_ok, not_not]
  exact client_wrapped_bind_iff

variable (urlParse newURL verify clock now input)

/-- Both reject the wrapper, or both accept it and return the same. -/
def BeaconVerdictsAgree : Prop :=
  relayBeacon urlParse verify clock now input = clientBeacon newURL verify clock now input

/-- The verdicts differ on a beacon where what only the relay asks and what only the client
asks do not come out alike. -/
theorem beaconVerdictsAgree_iff :
    BeaconVerdictsAgree urlParse newURL verify clock now input ↔
      ∀ signed m beacon, Wrapped input signed → input.length ≤ Protocol.maxDraftEnvelopeBytes →
        Beacon verify signed m beacon →
        ((Timely (relayNow clock now) 300 beacon.envelope ∧
            RelayPayload urlParse m beacon.payload) ↔
          (Timely now 300 beacon.envelope ∧ ClientPayload newURL m beacon.payload)) := by
  have hmap : ∀ {signed signed' m m' beacon}, Beacon verify signed m beacon →
      Beacon verify signed' m' beacon → m = m' :=
    fun h h' => Cbor.map.inj (h.canonical.unique h'.canonical)
  constructor
  · intro h signed m beacon hwrapped hsize hbeacon
    have hsame : relayBeacon urlParse verify clock now input = some beacon ↔
        clientBeacon newURL verify clock now input = some beacon := by rw [h]
    simp only [relayBeacon_eq_some_iff, clientBeacon_eq_some_iff,
      relay_readSignedBootstrapBeacon_eq_ok_iff,
      client_readSignedBootstrapBeacon_eq_ok_iff] at hsame
    constructor
    · intro hrelay
      obtain ⟨_, _, _, m', hbeacon', hclient⟩ :=
        hsame.mp ⟨signed, hwrapped, hsize, m, hbeacon, hrelay⟩
      obtain rfl := hmap hbeacon hbeacon'
      exact hclient
    · intro hclient
      obtain ⟨_, _, _, m', hbeacon', hrelay⟩ :=
        hsame.mpr ⟨signed, hwrapped, hsize, m, hbeacon, hclient⟩
      obtain rfl := hmap hbeacon hbeacon'
      exact hrelay
  · intro h
    apply Option.ext
    intro beacon
    simp only [relayBeacon_eq_some_iff, clientBeacon_eq_some_iff,
      relay_readSignedBootstrapBeacon_eq_ok_iff, client_readSignedBootstrapBeacon_eq_ok_iff]
    constructor
    · rintro ⟨signed, hwrapped, hsize, m, hbeacon, hrelay⟩
      exact ⟨signed, hwrapped, hsize, m, hbeacon,
        (h signed m beacon hwrapped hsize hbeacon).mp hrelay⟩
    · rintro ⟨signed, hwrapped, hsize, m, hbeacon, hclient⟩
      exact ⟨signed, hwrapped, hsize, m, hbeacon,
        (h signed m beacon hwrapped hsize hbeacon).mpr hclient⟩

end Beacon

section Sample

def sampleBeacon (capability : String) : Cbor :=
  sampleEvent Protocol.eventBootstrapBeacon (.map [("sequence", .uint 1),
    ("beacon_id", .bytes (.replicate 32 0)), ("issued_at", .uint 100),
    ("expires_at", .uint 200),
    ("relay_endpoints", .array [.map [("uri", .text "wss://relay.example:443/"),
      ("priority", .uint 0), ("transport", .text "wss")]]),
    ("protocol_versions", .array [.text Protocol.protocolID]),
    ("relay_capabilities", .array [.text capability]),
    ("profile_multihashes", .array [.text Protocol.developmentProfileMultihash])])

def sampleUrlParse : String → Option Protocol.ParsedURL :=
  fun _ => some ⟨"wss", "relay.example", false, "", "443"⟩

def sampleNewURL : String → Option Core.URLParts :=
  fun _ => some ⟨"wss:", "relay.example", "", "", ""⟩

theorem relay_rejects_without_forwarding :
    (Protocol.readSignedBootstrapBeacon sampleUrlParse (fun _ _ _ => true) 150 300
      [Protocol.developmentProfileMultihash]
      (Cbor.encode (sampleBeacon "route.relay.wss/0"))).toOption.isSome = false := by
  decide +kernel

theorem client_accepts_without_forwarding :
    (Core.readSignedBootstrapBeacon sampleNewURL (fun _ _ _ => true) 150 300
      [Protocol.developmentProfileMultihash]
      (Cbor.encode (sampleBeacon "route.relay.wss/0"))).toOption.isSome = true := by
  decide +kernel

/-- The relay rejects a beacon that does not offer to forward, the client accepts it. -/
theorem not_beaconVerdictsAgree_without_forwarding :
    ¬ BeaconVerdictsAgree sampleUrlParse sampleNewURL (fun _ _ _ => true) 0 150
      (wrapperOf (sampleBeacon "route.relay.wss/0")) := by
  intro h
  obtain ⟨beacon, hclient⟩ := Option.isSome_iff_exists.mp client_accepts_without_forwarding
  have hwrapped := wrapped_wrapperOf (sampleBeacon "route.relay.wss/0")
  have hsize : (wrapperOf (sampleBeacon "route.relay.wss/0")).length ≤
      Protocol.maxDraftEnvelopeBytes := by decide +kernel
  have hsome : clientBeacon sampleNewURL (fun _ _ _ => true) 0 150
      (wrapperOf (sampleBeacon "route.relay.wss/0")) = some beacon :=
    clientBeacon_eq_some_iff.mpr ⟨_, hwrapped, hsize, toOption_eq_some_iff.mp hclient⟩
  rw [← h, relayBeacon_eq_some_iff] at hsome
  obtain ⟨signed, hwrapped', _, hrelay⟩ := hsome
  obtain rfl := hwrapped'.unique hwrapped
  have hrejected := relay_rejects_without_forwarding
  rw [show relayNow 0 150 = 150 from rfl] at hrelay
  rw [hrelay] at hrejected
  cases hrejected

end Sample

end Branch.Agreement
