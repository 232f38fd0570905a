import Branch.Lib.RawCbor
import Branch.Protocol.BootstrapBeacon
import Branch.Protocol.IdentityContact

/-!
How the relay's tools make bootstrap beacons and identity contacts. Their strings are any bytes,
and their times are signed numbers of 64 bits that wrap around.
-/

namespace Branch.Protocol

open Branch.Lib

abbrev GoString := List UInt8

def invalidBootstrapBeacon : String := "invalid bootstrap beacon"
def invalidIdentityContact : String := "invalid identity contact"

/-- What the makers ask of their surroundings. Only a few fields of a parsed URL are looked at,
and these are compared with text. -/
structure CreationPorts where
  clock : Int64
  randomID : (size : Nat) → Except String (Vector UInt8 size)
  randomEventID : (size : Nat) → Except String (Vector UInt8 size)
  urlParse : GoString → Option ParsedURL

section Times

/-- A `time.Duration` counts nanoseconds. -/
def second : Int64 := 1000000000

def defaultLifetime : Int64 := 604800 * second
def maxLifetime : Int64 := 604800 * second

def creationTime (clock nowUnix : Int64) : Int64 := if nowUnix = 0 then clock else nowUnix

def expiryTime (now expiresAtUnix : Int64) : Int64 :=
  if expiresAtUnix = 0 then now + defaultLifetime / second else expiresAtUnix

def checkTimes (invalid : String) (now expiresAt : Int64) : Except String Unit := do
  throwIf (now < 0 ∨ expiresAt ≤ now ∨ maxDraftTimestamp < expiresAt.toInt)
    (invalid ++ ": invalid timestamps")
  throwIf (maxLifetime < (expiresAt - now) * second) (invalid ++ ": lifetime too large")

end Times

section Fields

variable (urlParse : GoString → Option ParsedURL)

/-- `nil` asks for random bytes. -/
def fixedOrRandom (value : Option (List UInt8)) (size : Nat)
    (random : (size : Nat) → Except String (Vector UInt8 size)) : Except String (List UInt8) :=
  match value with
  | some value => if value.length ≠ size then .error invalidBootstrapBeacon else .ok value
  | none => (random size).map Vector.toList

def defaulted (values defaults : List GoString) : List GoString :=
  if values.length = 0 then defaults else values

def checkTextSet (name : String) : List GoString → List GoString → Except String Unit
  | _, [] => .ok ()
  | seen, value :: values => do
    throwIf (value.length = 0 ∨ 128 < value.length)
      (invalidBootstrapBeacon ++ ": invalid " ++ name)
    throwIf (value ∈ seen) (invalidBootstrapBeacon ++ ": duplicate " ++ name)
    checkTextSet name (value :: seen) values

def normalizeOrderedTextSet (values : List GoString) (name : String) :
    Except String (List GoString) := do
  let ordered := values.insertionSort (· ≤ ·)
  checkTextSet name [] ordered
  return ordered

/-- A regular expression goes over the characters, and what is no character matches nothing
but itself. -/
def chars (value : GoString) : String := String.ofList (Utf8.decode value)

def checkBootstrapWSSURI (value : GoString) : Except String Unit :=
  match urlParse value with
  | none => .error (invalidBootstrapBeacon ++ ": invalid wss uri")
  | some parsed => do
    throwIf (parsed.scheme ≠ "wss" ∨ parsed.hostname = "" ∨ parsed.hasUser ∨
      parsed.fragment ≠ "") (invalidBootstrapBeacon ++ ": invalid wss uri")
    match atoi parsed.port with
    | none => throw (invalidBootstrapBeacon ++ ": invalid wss port")
    | some port =>
      throwIf (parsed.port = "" ∨ port < 1 ∨ 65535 < port)
        (invalidBootstrapBeacon ++ ": invalid wss port")

/-- The separator of the keys by which duplicates are found. -/
def nul : GoString := [0]

def textArray (values : List GoString) : RawCbor := .array (values.map .text)

end Fields

section Envelope

/-- The envelope of a new event, still without its signature. -/
def newEnvelope (eventType : String) (eventID senderPublicKey payload : List UInt8)
    (now expiresAt : Int64) : Envelope where
  protocol := protocolID
  eventID := eventID
  eventType := eventType
  sender := { keyAlg := "ed25519", publicKey := senderPublicKey }
  createdAt := now.toUInt64.toNat
  expiresAt := expiresAt.toUInt64.toNat
  payloadMode := "public"
  payloadBytes := payload
  signatureAlg := "ed25519"
  signature := []

def signAndWrap (sign : List UInt8 → Except String (List UInt8)) (signing invalid : String)
    (envelope : Envelope) : Except String GoString := do
  let unsigned ← (encodeCborMap (unsignedEnvelopeEntries envelope)).mapError CborErr.message
  let signature ← (sign (Utf8.bytes bootstrapSignatureDomain ++ unsigned)).mapError
    fun err => signing ++ ": " ++ err
  throwIf (signature.length ≠ 64) (invalid ++ ": invalid signature")
  let signed ← (encodeCborMap (signedEnvelopeEntries { envelope with signature })).mapError
    CborErr.message
  throwIf (maxDraftEnvelopeBytes < signed.length) "oversized draft envelope"
  return Utf8.bytes (branchTextWrapperPrefix ++ Base64.encode signed)

end Envelope

section BootstrapBeacon

structure RelayEndpointOption where
  transport : GoString
  uri : GoString
  priority : UInt64
  deriving DecidableEq

structure BootstrapBeaconOptions where
  nowUnix : Int64
  expiresAtUnix : Int64
  sequence : UInt64
  beaconID : Option (List UInt8)
  eventID : Option (List UInt8)
  senderPublicKey : List UInt8
  relayEndpoints : List RelayEndpointOption
  protocolVersions : List GoString
  profileMultihashes : List GoString
  relayCapabilities : List GoString
  sign : Option (List UInt8 → Except String (List UInt8))

structure BeaconFields where
  beaconID : List UInt8
  eventID : List UInt8
  sequence : UInt64
  issuedAt : Int64
  expiresAt : Int64
  protocolVersions : List GoString
  profileMultihashes : List GoString
  relayCapabilities : List GoString
  relayEndpoints : List RelayEndpointOption

def RelayEndpointOption.le (left right : RelayEndpointOption) : Bool :=
  if left.priority ≠ right.priority then left.priority < right.priority
  else if left.transport ≠ right.transport then left.transport < right.transport
  else left.uri ≤ right.uri

def RelayEndpointOption.key (endpoint : RelayEndpointOption) : GoString :=
  endpoint.transport ++ nul ++ endpoint.uri

def checkBootstrapEndpoints (urlParse : GoString → Option ParsedURL) :
    List GoString → List RelayEndpointOption → Except String Unit
  | _, [] => .ok ()
  | seen, endpoint :: endpoints => do
    throwIf (endpoint.transport.length = 0 ∨ 32 < endpoint.transport.length ∨
      ¬ transportPattern (chars endpoint.transport))
      (invalidBootstrapBeacon ++ ": invalid relay endpoint transport")
    throwIf (endpoint.uri.length = 0 ∨ 512 < endpoint.uri.length)
      (invalidBootstrapBeacon ++ ": invalid relay endpoint uri")
    throwIf (endpoint.key ∈ seen) (invalidBootstrapBeacon ++ ": duplicate relay endpoint")
    if endpoint.transport = Utf8.bytes "wss" then checkBootstrapWSSURI urlParse endpoint.uri
    checkBootstrapEndpoints urlParse (endpoint.key :: seen) endpoints

def normalizeBootstrapEndpoints (urlParse : GoString → Option ParsedURL)
    (endpoints : List RelayEndpointOption) : Except String (List RelayEndpointOption) := do
  throwIf (endpoints.length = 0 ∨ maxBootstrapEndpoints < endpoints.length)
    (invalidBootstrapBeacon ++ ": invalid relay endpoints")
  let ordered := endpoints.insertionSort fun left right => left.le right
  checkBootstrapEndpoints urlParse [] ordered
  throwIf (∀ endpoint ∈ ordered, endpoint.transport ≠ Utf8.bytes "wss")
    (invalidBootstrapBeacon ++ ": missing wss endpoint")
  return ordered

def RelayEndpointOption.value (endpoint : RelayEndpointOption) : RawCbor :=
  .map [(Utf8.bytes "transport", .text endpoint.transport),
    (Utf8.bytes "uri", .text endpoint.uri),
    (Utf8.bytes "priority", .uint endpoint.priority.toNat)]

/-- The fields of the payload and of the envelope, up to the signature. -/
def beaconFields (ports : CreationPorts) (options : BootstrapBeaconOptions) :
    Except String BeaconFields := do
  throwIf (options.senderPublicKey.length ≠ 32)
    (invalidBootstrapBeacon ++ ": invalid sender public key")
  let now := creationTime ports.clock options.nowUnix
  let expiresAt := expiryTime now options.expiresAtUnix
  checkTimes invalidBootstrapBeacon now expiresAt
  let beaconID ← (fixedOrRandom options.beaconID 32 ports.randomID).mapError
    fun _ => invalidBootstrapBeacon ++ ": invalid beacon id"
  let eventID ← (fixedOrRandom options.eventID 32 ports.randomEventID).mapError
    fun _ => invalidBootstrapBeacon ++ ": invalid event id"
  let relayEndpoints ← normalizeBootstrapEndpoints ports.urlParse options.relayEndpoints
  let protocolVersions ← normalizeOrderedTextSet
    (defaulted options.protocolVersions [Utf8.bytes protocolID]) "protocol_versions"
  let profileMultihashes ← normalizeOrderedTextSet
    (defaulted options.profileMultihashes [Utf8.bytes developmentProfileMultihash])
    "profile_multihashes"
  let relayCapabilities ← normalizeOrderedTextSet
    (defaulted options.relayCapabilities
      [Utf8.bytes "relay.forward.live/0", Utf8.bytes "route.relay.wss/0"])
    "relay_capabilities"
  let sequence := if options.sequence = 0 then 1 else options.sequence
  return { beaconID, eventID, sequence, issuedAt := now, expiresAt, protocolVersions,
           profileMultihashes, relayCapabilities, relayEndpoints }

def BeaconFields.payloadEntries (fields : BeaconFields) : List (GoString × RawCbor) :=
  [(Utf8.bytes "beacon_id", .bytes fields.beaconID),
    (Utf8.bytes "sequence", .uint fields.sequence.toNat),
    (Utf8.bytes "issued_at", .uint fields.issuedAt.toUInt64.toNat),
    (Utf8.bytes "expires_at", .uint fields.expiresAt.toUInt64.toNat),
    (Utf8.bytes "protocol_versions", textArray fields.protocolVersions),
    (Utf8.bytes "profile_multihashes", textArray fields.profileMultihashes),
    (Utf8.bytes "relay_capabilities", textArray fields.relayCapabilities),
    (Utf8.bytes "relay_endpoints", .array (fields.relayEndpoints.map RelayEndpointOption.value))]

/-- Encoding, signature and wrapper of a beacon with these fields. -/
def wrapBootstrapBeacon (sign : List UInt8 → Except String (List UInt8))
    (senderPublicKey : List UInt8) (fields : BeaconFields) : Except String GoString := do
  let payload ← RawCbor.write CborErr.duplicateKey.message (.map fields.payloadEntries)
  signAndWrap sign "sign bootstrap beacon" invalidBootstrapBeacon
    (newEnvelope eventBootstrapBeacon fields.eventID senderPublicKey payload fields.issuedAt
      fields.expiresAt)

def createBootstrapBeaconWrapper (ports : CreationPorts) (options : BootstrapBeaconOptions) :
    Except String GoString :=
  match options.sign with
  | none => .error (invalidBootstrapBeacon ++ ": missing signer")
  | some sign => do
    let fields ← beaconFields ports options
    wrapBootstrapBeacon sign options.senderPublicKey fields

end BootstrapBeacon

section IdentityContact

structure RouteHintOption where
  transport : GoString
  uri : GoString
  relayPublicKey : GoString
  profileMultihash : GoString
  priority : UInt64
  deriving DecidableEq

structure IdentityContactOptions where
  nowUnix : Int64
  expiresAtUnix : Int64
  sequence : UInt64
  contactID : Option (List UInt8)
  eventID : Option (List UInt8)
  senderPublicKey : List UInt8
  displayName : GoString
  aliases : List GoString
  routeHints : List RouteHintOption
  protocolVersions : List GoString
  profileMultihashes : List GoString
  sign : Option (List UInt8 → Except String (List UInt8))

structure ContactFields where
  contactID : List UInt8
  eventID : List UInt8
  branchID : String
  sequence : UInt64
  issuedAt : Int64
  expiresAt : Int64
  displayName : GoString
  aliases : List GoString
  protocolVersions : List GoString
  profileMultihashes : List GoString
  routeHints : List RouteHintOption

def checkIdentityAliases : List GoString → List GoString → Except String Unit
  | _, [] => .ok ()
  | seen, value :: values => do
    throwIf (value.length < 2 ∨ 64 < value.length ∨ ¬ identityAliasPattern (chars value))
      (invalidIdentityContact ++ ": invalid alias")
    throwIf (value ∈ seen) (invalidIdentityContact ++ ": duplicate alias")
    checkIdentityAliases (value :: seen) values

def normalizeIdentityAliases (values : List GoString) : Except String (List GoString) := do
  let ordered := (values.map fun value => Utf8.bytes (normalizeAlias (chars value))).insertionSort
    (· ≤ ·)
  throwIf (8 < ordered.length) (invalidIdentityContact ++ ": too many aliases")
  checkIdentityAliases [] ordered
  return ordered

def RouteHintOption.le (left right : RouteHintOption) : Bool :=
  if left.priority ≠ right.priority then left.priority < right.priority
  else if left.transport ≠ right.transport then left.transport < right.transport
  else left.uri ≤ right.uri

def RouteHintOption.key (hint : RouteHintOption) : GoString :=
  hint.transport ++ nul ++ hint.uri ++ nul ++ hint.relayPublicKey

def checkIdentityRouteHints (urlParse : GoString → Option ParsedURL) :
    List GoString → List RouteHintOption → Except String Unit
  | _, [] => .ok ()
  | seen, hint :: hints => do
    throwIf (hint.transport.length = 0 ∨ 32 < hint.transport.length ∨
      ¬ transportPattern (chars hint.transport))
      (invalidIdentityContact ++ ": invalid route transport")
    throwIf (hint.uri.length = 0 ∨ 512 < hint.uri.length)
      (invalidIdentityContact ++ ": invalid route uri")
    if hint.transport = Utf8.bytes "wss" then checkBootstrapWSSURI urlParse hint.uri
    throwIf (∀ key ∈ Base64.decodeChars (Utf8.decode hint.relayPublicKey), key.length ≠ 32)
      (invalidIdentityContact ++ ": invalid relay public key")
    throwIf (hint.profileMultihash.length = 0 ∨ 128 < hint.profileMultihash.length)
      (invalidIdentityContact ++ ": invalid profile multihash")
    throwIf (hint.key ∈ seen) (invalidIdentityContact ++ ": duplicate route hint")
    checkIdentityRouteHints urlParse (hint.key :: seen) hints

def normalizeIdentityRouteHints (urlParse : GoString → Option ParsedURL)
    (hints : List RouteHintOption) : Except String (List RouteHintOption) := do
  throwIf (maxIdentityContactRouteHint < hints.length)
    (invalidIdentityContact ++ ": too many route hints")
  let ordered := hints.insertionSort fun left right => left.le right
  checkIdentityRouteHints urlParse [] ordered
  return ordered

def RouteHintOption.value (hint : RouteHintOption) : RawCbor :=
  .map [(Utf8.bytes "transport", .text hint.transport), (Utf8.bytes "uri", .text hint.uri),
    (Utf8.bytes "relay_public_key", .text hint.relayPublicKey),
    (Utf8.bytes "profile_multihash", .text hint.profileMultihash),
    (Utf8.bytes "priority", .uint hint.priority.toNat)]

def inIdentityContact (err : String) : String := invalidIdentityContact ++ ": " ++ err

/-- The fields of the payload and of the envelope, up to the signature. -/
def contactFields (ports : CreationPorts) (options : IdentityContactOptions) :
    Except String ContactFields := do
  throwIf (options.senderPublicKey.length ≠ 32)
    (invalidIdentityContact ++ ": invalid sender public key")
  let now := creationTime ports.clock options.nowUnix
  let expiresAt := expiryTime now options.expiresAtUnix
  checkTimes invalidIdentityContact now expiresAt
  let contactID ← (fixedOrRandom options.contactID 32 ports.randomID).mapError
    fun _ => invalidIdentityContact ++ ": invalid contact id"
  let eventID ← (fixedOrRandom options.eventID 32 ports.randomEventID).mapError
    fun _ => invalidIdentityContact ++ ": invalid event id"
  match branchIDFromPublicKey options.senderPublicKey with
  | none => throw (invalidIdentityContact ++ ": invalid identity public key")
  | some branchID =>
    let aliases ← (normalizeIdentityAliases options.aliases).mapError inIdentityContact
    let routeHints ←
      (normalizeIdentityRouteHints ports.urlParse options.routeHints).mapError inIdentityContact
    let protocolVersions ← (normalizeOrderedTextSet
      (defaulted options.protocolVersions [Utf8.bytes protocolID])
      "protocol_versions").mapError inIdentityContact
    let profileMultihashes ← (normalizeOrderedTextSet
      (defaulted options.profileMultihashes [Utf8.bytes developmentProfileMultihash])
      "profile_multihashes").mapError inIdentityContact
    let sequence := if options.sequence = 0 then 1 else options.sequence
    throwIf (options.displayName ≠ [] ∧ 96 < options.displayName.length)
      (invalidIdentityContact ++ ": invalid display name")
    return { contactID, eventID, branchID, sequence, issuedAt := now, expiresAt,
             displayName := options.displayName, aliases, protocolVersions, profileMultihashes,
             routeHints }

def ContactFields.payloadEntries (fields : ContactFields) : List (GoString × RawCbor) :=
  [(Utf8.bytes "contact_id", .bytes fields.contactID),
    (Utf8.bytes "branch_id", .text (Utf8.bytes fields.branchID)),
    (Utf8.bytes "sequence", .uint fields.sequence.toNat),
    (Utf8.bytes "issued_at", .uint fields.issuedAt.toUInt64.toNat),
    (Utf8.bytes "expires_at", .uint fields.expiresAt.toUInt64.toNat),
    (Utf8.bytes "aliases", textArray fields.aliases),
    (Utf8.bytes "protocol_versions", textArray fields.protocolVersions),
    (Utf8.bytes "profile_multihashes", textArray fields.profileMultihashes),
    (Utf8.bytes "route_hints", .array (fields.routeHints.map RouteHintOption.value))] ++
  if fields.displayName = [] then []
  else [(Utf8.bytes "display_name", .text fields.displayName)]

/-- Encoding, signature and wrapper of a contact with these fields. -/
def wrapIdentityContact (sign : List UInt8 → Except String (List UInt8))
    (senderPublicKey : List UInt8) (fields : ContactFields) : Except String GoString := do
  let payload ← RawCbor.write CborErr.duplicateKey.message (.map fields.payloadEntries)
  signAndWrap sign "sign identity contact" invalidIdentityContact
    (newEnvelope eventIdentityAnnounce fields.eventID senderPublicKey payload fields.issuedAt
      fields.expiresAt)

def createIdentityContactWrapper (ports : CreationPorts) (options : IdentityContactOptions) :
    Except String GoString :=
  match options.sign with
  | none => .error (invalidIdentityContact ++ ": missing signer")
  | some sign => do
    let fields ← contactFields ports options
    wrapIdentityContact sign options.senderPublicKey fields

end IdentityContact

section Lifetime

def sevenDays : Int := 7 * 24 * 60 * 60

/-- An event lives at all, and not longer than seven days. -/
def LifetimeOk (issuedAt expiresAt : Int64) : Prop :=
  issuedAt.toInt < expiresAt.toInt ∧ expiresAt.toInt - issuedAt.toInt ≤ sevenDays

/-- The nanoseconds between the times can be counted in 64 bits. -/
def Countable (now expiresAt : Int64) : Prop :=
  (expiresAt.toInt - now.toInt) * 1000000000 < 2 ^ 63

/-- Of the product that is compared with seven days only the lowest 64 bits count. -/
theorem toInt_lifetime {now expiresAt : Int64} (hnow : 0 ≤ now.toInt)
    (hlt : now.toInt < expiresAt.toInt) :
    ((expiresAt - now) * second).toInt =
      ((expiresAt.toInt - now.toInt) * 1000000000).bmod (2 ^ 64) := by
  have hbound := expiresAt.toInt_lt
  have hsecond : second.toInt = 1000000000 := by decide
  have hdiff : (expiresAt - now).toInt = expiresAt.toInt - now.toInt := by
    rw [Int64.toInt_sub]
    exact Int.bmod_eq_of_le (by omega) (by omega)
  rw [Int64.toInt_mul, hdiff, hsecond]

theorem checkTimes_eq_ok_iff {invalid : String} {now expiresAt : Int64} {u : Unit} :
    checkTimes invalid now expiresAt = .ok u ↔
      (0 ≤ now.toInt ∧ now.toInt < expiresAt.toInt ∧ expiresAt.toInt ≤ maxDraftTimestamp) ∧
        ((expiresAt - now) * second).toInt ≤ 604800 * 1000000000 := by
  have hzero : (0 : Int64).toInt = 0 := by decide
  have hmax : maxLifetime.toInt = 604800 * 1000000000 := by decide
  rw [checkTimes, throwIf_bind_eq_ok, throwIf_eq_ok, Int64.lt_iff_toInt_lt,
    Int64.le_iff_toInt_le, Int64.lt_iff_toInt_lt, hzero, hmax]
  omega

/-- What passes the check lives seven days at most if its nanoseconds can be counted, and more
if they wrap around. -/
theorem lifetimeOk_iff_countable {invalid : String} {now expiresAt : Int64}
    (h : checkTimes invalid now expiresAt = .ok ()) :
    LifetimeOk now expiresAt ↔ Countable now expiresAt := by
  obtain ⟨⟨hnow, hlt, _⟩, hproduct⟩ := checkTimes_eq_ok_iff.mp h
  rw [toInt_lifetime hnow hlt] at hproduct
  simp only [LifetimeOk, Countable, sevenDays]
  constructor
  · intro hlife
    omega
  · intro hcountable
    rw [Int.bmod_eq_of_le (by omega) (by omega)] at hproduct
    omega

variable {ports : CreationPorts}

theorem times_of_beaconFields {options : BootstrapBeaconOptions}
    {fields : BeaconFields} (h : beaconFields ports options = .ok fields) :
    fields.issuedAt = creationTime ports.clock options.nowUnix ∧
      fields.expiresAt = expiryTime fields.issuedAt options.expiresAtUnix ∧
      checkTimes invalidBootstrapBeacon fields.issuedAt fields.expiresAt = .ok () := by
  simp only [beaconFields, bind_eq_ok] at h
  obtain ⟨_, _, _, htimes, _, _, _, _, _, _, _, _, _, _, _, _, heq⟩ := h
  obtain rfl := Except.ok.inj heq
  exact ⟨rfl, rfl, htimes⟩

theorem times_of_contactFields {options : IdentityContactOptions}
    {fields : ContactFields} (h : contactFields ports options = .ok fields) :
    fields.issuedAt = creationTime ports.clock options.nowUnix ∧
      fields.expiresAt = expiryTime fields.issuedAt options.expiresAtUnix ∧
      checkTimes invalidIdentityContact fields.issuedAt fields.expiresAt = .ok () := by
  obtain ⟨_, _, h⟩ := bind_eq_ok.mp h
  obtain ⟨_, htimes, h⟩ := bind_eq_ok.mp h
  obtain ⟨_, _, h⟩ := bind_eq_ok.mp h
  obtain ⟨_, _, h⟩ := bind_eq_ok.mp h
  cases hbranch : branchIDFromPublicKey options.senderPublicKey with
  | none =>
    rw [hbranch] at h
    cases h
  | some branchID =>
    rw [hbranch] at h
    simp only [bind_eq_ok] at h
    obtain ⟨_, _, _, _, _, _, _, _, _, _, heq⟩ := h
    obtain rfl := Except.ok.inj heq
    exact ⟨rfl, rfl, htimes⟩

theorem create_eq_ok_iff {options : BootstrapBeaconOptions}
    {wrapper : GoString} :
    createBootstrapBeaconWrapper ports options = .ok wrapper ↔
      ∃ sign, options.sign = some sign ∧ ∃ fields, beaconFields ports options = .ok fields ∧
        wrapBootstrapBeacon sign options.senderPublicKey fields = .ok wrapper := by
  rw [createBootstrapBeaconWrapper]
  cases options.sign with
  | none => simp
  | some sign => simp [bind_eq_ok]

theorem createContact_eq_ok_iff {options : IdentityContactOptions}
    {wrapper : GoString} :
    createIdentityContactWrapper ports options = .ok wrapper ↔
      ∃ sign, options.sign = some sign ∧ ∃ fields, contactFields ports options = .ok fields ∧
        wrapIdentityContact sign options.senderPublicKey fields = .ok wrapper := by
  rw [createIdentityContactWrapper]
  cases options.sign with
  | none => simp
  | some sign => simp [bind_eq_ok]

def BootstrapBeaconOptions.Countable (ports : CreationPorts) (options : BootstrapBeaconOptions) :
    Prop :=
  Protocol.Countable (creationTime ports.clock options.nowUnix)
    (expiryTime (creationTime ports.clock options.nowUnix) options.expiresAtUnix)

def IdentityContactOptions.Countable (ports : CreationPorts) (options : IdentityContactOptions) :
    Prop :=
  Protocol.Countable (creationTime ports.clock options.nowUnix)
    (expiryTime (creationTime ports.clock options.nowUnix) options.expiresAtUnix)

/-- The beacon in a wrapper, if the wrapper was made for these options. -/
def MadeBeacon (ports : CreationPorts) (options : BootstrapBeaconOptions) (wrapper : GoString)
    (fields : BeaconFields) : Prop :=
  beaconFields ports options = .ok fields ∧ ∃ sign ∈ options.sign,
    wrapBootstrapBeacon sign options.senderPublicKey fields = .ok wrapper

def MadeContact (ports : CreationPorts) (options : IdentityContactOptions) (wrapper : GoString)
    (fields : ContactFields) : Prop :=
  contactFields ports options = .ok fields ∧ ∃ sign ∈ options.sign,
    wrapIdentityContact sign options.senderPublicKey fields = .ok wrapper

/-- What is made lives at most seven days if and only if the nanoseconds that were asked for
can be counted in 64 bits. -/
theorem made_lifetimeOk_iff (ports : CreationPorts) :
    (∀ options wrapper, createBootstrapBeaconWrapper ports options = .ok wrapper →
      ∃ fields, MadeBeacon ports options wrapper fields ∧
        (LifetimeOk fields.issuedAt fields.expiresAt ↔ options.Countable ports)) ∧
    ∀ options wrapper, createIdentityContactWrapper ports options = .ok wrapper →
      ∃ fields, MadeContact ports options wrapper fields ∧
        (LifetimeOk fields.issuedAt fields.expiresAt ↔ options.Countable ports) := by
  constructor
  · intro options wrapper h
    obtain ⟨sign, hsign, fields, hfields, hwrap⟩ := create_eq_ok_iff.mp h
    obtain ⟨hnow, hexpiry, htimes⟩ := times_of_beaconFields hfields
    refine ⟨fields, ⟨hfields, sign, hsign, hwrap⟩, ?_⟩
    rw [lifetimeOk_iff_countable htimes, BootstrapBeaconOptions.Countable, ← hnow, ← hexpiry]
  · intro options wrapper h
    obtain ⟨sign, hsign, fields, hfields, hwrap⟩ := createContact_eq_ok_iff.mp h
    obtain ⟨hnow, hexpiry, htimes⟩ := times_of_contactFields hfields
    refine ⟨fields, ⟨hfields, sign, hsign, hwrap⟩, ?_⟩
    rw [lifetimeOk_iff_countable htimes, IdentityContactOptions.Countable, ← hnow, ← hexpiry]

def examplePorts : CreationPorts where
  clock := 1
  randomID := fun size => .ok (Vector.replicate size 0)
  randomEventID := fun size => .ok (Vector.replicate size 1)
  urlParse := fun _ => some ⟨"wss", "relay", false, "", "443"⟩

def exampleBeacon (expiresAtUnix : Int64) : BootstrapBeaconOptions where
  nowUnix := 1
  expiresAtUnix := expiresAtUnix
  sequence := 1
  beaconID := none
  eventID := none
  senderPublicKey := List.replicate 32 2
  relayEndpoints := [⟨Utf8.bytes "wss", Utf8.bytes "wss://relay:443", 0⟩]
  protocolVersions := []
  profileMultihashes := []
  relayCapabilities := []
  sign := some fun _ => .ok (List.replicate 64 3)

def exampleContact (expiresAtUnix : Int64) : IdentityContactOptions where
  nowUnix := 1
  expiresAtUnix := expiresAtUnix
  sequence := 1
  contactID := none
  eventID := none
  senderPublicKey := List.replicate 32 2
  displayName := Utf8.bytes "alice"
  aliases := [Utf8.bytes "alice"]
  routeHints := []
  protocolVersions := []
  profileMultihashes := []
  sign := some fun _ => .ok (List.replicate 64 3)

theorem exists_of_isSome_toOption {x : Except String GoString}
    (h : x.toOption.isSome = true) : ∃ wrapper, x = .ok wrapper := by
  cases x with
  | error err => cases h
  | ok wrapper => exact ⟨wrapper, rfl⟩

theorem made_lifetimeOk_iff_seven_days :
    (∃ wrapper fields, createBootstrapBeaconWrapper examplePorts (exampleBeacon 604801) =
        .ok wrapper ∧ MadeBeacon examplePorts (exampleBeacon 604801) wrapper fields ∧
      (LifetimeOk fields.issuedAt fields.expiresAt ↔
        (exampleBeacon 604801).Countable examplePorts)) ∧
    ∃ wrapper fields, createIdentityContactWrapper examplePorts (exampleContact 604801) =
        .ok wrapper ∧ MadeContact examplePorts (exampleContact 604801) wrapper fields ∧
      (LifetimeOk fields.issuedAt fields.expiresAt ↔
        (exampleContact 604801).Countable examplePorts) := by
  obtain ⟨beacon, hbeacon⟩ := exists_of_isSome_toOption
    (by decide +kernel : (createBootstrapBeaconWrapper examplePorts
      (exampleBeacon 604801)).toOption.isSome = true)
  obtain ⟨contact, hcontact⟩ := exists_of_isSome_toOption
    (by decide +kernel : (createIdentityContactWrapper examplePorts
      (exampleContact 604801)).toOption.isSome = true)
  obtain ⟨fields, hmade, hiff⟩ := (made_lifetimeOk_iff examplePorts).1 _ _ hbeacon
  obtain ⟨fields', hmade', hiff'⟩ := (made_lifetimeOk_iff examplePorts).2 _ _ hcontact
  exact ⟨⟨beacon, fields, hbeacon, hmade, hiff⟩, contact, fields', hcontact, hmade', hiff'⟩

/-- A beacon may be made for 9223372037 seconds, whose nanoseconds wrap around. -/
theorem not_made_lifetimeOk :
    ¬ ∀ ports options wrapper fields, createBootstrapBeaconWrapper ports options = .ok wrapper →
      MadeBeacon ports options wrapper fields →
        LifetimeOk fields.issuedAt fields.expiresAt := by
  intro hall
  obtain ⟨wrapper, hwrapper⟩ := exists_of_isSome_toOption
    (by decide +kernel : (createBootstrapBeaconWrapper examplePorts
      (exampleBeacon 9223372038)).toOption.isSome = true)
  obtain ⟨sign, hsign, fields, hfields, hwrap⟩ := create_eq_ok_iff.mp hwrapper
  obtain ⟨hnow, hexpiry, _⟩ := times_of_beaconFields hfields
  have hlife := hall _ _ wrapper fields hwrapper ⟨hfields, sign, hsign, hwrap⟩
  have htimes : ¬ LifetimeOk (creationTime 1 1) (expiryTime (creationTime 1 1) 9223372038) := by
    unfold LifetimeOk
    decide
  rw [hexpiry, hnow] at hlife
  exact htimes hlife

end Lifetime

end Branch.Protocol
