import Branch.Protocol.SignedEvent

/-!
The validator of bootstrap beacons of the relay.
-/

namespace Branch.Protocol

open Branch.Lib

def maxBootstrapEndpoints : Nat := 8
def eventBootstrapBeacon : String := "bootstrap.beacon"

structure BootstrapRelayEndpoint where
  transport : String
  uri : String
  priority : Nat
  deriving DecidableEq

structure BootstrapBeaconPayload where
  beaconID : List UInt8
  sequence : Nat
  issuedAt : Nat
  expiresAt : Nat
  previousBeaconID : Option (List UInt8)
  protocolVersions : List String
  profileMultihashes : List String
  relayCapabilities : List String
  relayEndpoints : List BootstrapRelayEndpoint
  deriving DecidableEq

def bootstrapReasons : EnvelopeReasons where
  unknown := reasonFromCBORReadError
  field := fun key _ =>
    match key with
    | "protocol" => .unsupportedProtocol
    | "type" => .unsupportedEventType
    | "payload_mode" => .invalidPayloadMode
    | "signature_alg" => .invalidSignatureAlg
    | "sender" => .invalidSender
    | _ => .invalidCBOR
  unknownSender := fun _ => .invalidSender

def bootstrapPayloadKeys : List String :=
  ["beacon_id", "sequence", "issued_at", "expires_at", "previous_beacon_id", "revokes",
    "protocol_versions", "profile_multihashes", "relay_capabilities", "relay_endpoints",
    "rendezvous_boards", "mirror_hints", "proofs"]

def bootstrapPublicKeys : List String :=
  ["revokes", "rendezvous_boards", "mirror_hints", "proofs"]

mutual

def isBoundedBootstrapPublicValue (depth : Nat) : Cbor → Bool
  | .uint n => depth ≤ 3 && (n : Int) ≤ maxDraftTimestamp
  | .text s => depth ≤ 3 && s ≠ "" && s.utf8ByteSize ≤ maxDraftStringBytes
  | .bytes data => depth ≤ 3 && data.length ≠ 0 && data.length ≤ maxDecodedCBORBytes
  | .array values => depth ≤ 3 && values.length ≤ 16 && areBoundedItems (depth + 1) values
  | .map entries => depth ≤ 3 && entries.length ≤ 16 && areBoundedEntries (depth + 1) entries
  | .bool _ => false

def areBoundedItems (depth : Nat) : List Cbor → Bool
  | [] => true
  | item :: items => isBoundedBootstrapPublicValue depth item && areBoundedItems depth items

def areBoundedEntries (depth : Nat) : List (String × Cbor) → Bool
  | [] => true
  | (key, value) :: entries =>
    key ≠ "" && key.utf8ByteSize ≤ maxDraftStringBytes &&
      isBoundedBootstrapPublicValue depth value && areBoundedEntries depth entries

end

section

variable (urlParse : String → Option ParsedURL)

def endpointKeys : List String := ["transport", "uri", "priority"]

/-- The endpoints behind those with the keys of `seen`, of which the last one had the
priority `previous`. -/
def readBootstrapEndpoints (seen : List String) (previous : Option Nat) :
    List Cbor → Except ValidationReason (List BootstrapRelayEndpoint)
  | [] => .ok []
  | item :: items => do
    let endpointMap ← (cborMap item "relay_endpoint").mapError fun _ => .payloadInvalid
    (cborRejectUnknown endpointMap endpointKeys).mapError fun _ => .payloadInvalid
    let transport ← (cborText endpointMap "transport").mapError fun _ => .payloadInvalid
    throwIf (32 < transport.utf8ByteSize ∨ ¬ transportPattern transport) .payloadInvalid
    let uri ← (cborText endpointMap "uri").mapError fun _ => .payloadInvalid
    throwIf (512 < uri.utf8ByteSize) .payloadInvalid
    let priority ← (cborUint endpointMap "priority").mapError fun _ => .payloadInvalid
    throwIf (∃ previousPriority ∈ previous, priority < previousPriority) .payloadInvalid
    let key := transport ++ "\x00" ++ uri
    throwIf (key ∈ seen) .payloadInvalid
    throwIf (transport = "wss" ∧ ¬ validateBootstrapWSSURI urlParse uri) .payloadInvalid
    let endpoints ← readBootstrapEndpoints (key :: seen) (some priority) items
    return { transport, uri, priority } :: endpoints

def readBootstrapRelayEndpoints (m : CborMap) :
    Except ValidationReason (List BootstrapRelayEndpoint) := do
  let value ← (cborRequired m "relay_endpoints").mapError fun _ => .payloadInvalid
  match value with
  | .array values =>
    throwIf (values.length = 0 ∨ maxBootstrapEndpoints < values.length) .payloadInvalid
    let endpoints ← readBootstrapEndpoints urlParse [] none values
    throwIf (¬ endpoints.any fun endpoint => endpoint.transport = "wss") .payloadInvalid
    return endpoints
  | _ => throw .payloadInvalid

def checkBootstrapPublicValues (m : CborMap) : List String → Except ValidationReason Unit
  | [] => .ok ()
  | key :: keys => do
    throwIf (∃ value ∈ m.lookup key, ¬ isBoundedBootstrapPublicValue 0 value) .payloadInvalid
    checkBootstrapPublicValues m keys

def readPreviousBeaconID (m : CborMap) : Except ValidationReason (Option (List UInt8)) :=
  if cborHas m "previous_beacon_id" then
    ((cborBytes m "previous_beacon_id" 32).map some).mapError fun _ => .payloadInvalid
  else .ok none

def readBootstrapBeaconPayload (bytesValue : List UInt8) (supportedProfiles : List String) :
    Except ValidationReason BootstrapBeaconPayload := do
  throwIf (maxDecodedCBORBytes < bytesValue.length) .payloadOversized
  let decoded ← (decodeDeterministicCBOR bytesValue).mapError reasonFromPayloadDecodeError
  let m ← (cborMap decoded "bootstrap_payload").mapError fun _ => .payloadInvalid
  (cborRejectUnknown m bootstrapPayloadKeys).mapError reasonFromPayloadReadError
  let protocolVersions ← readOrderedTextSet m "protocol_versions" 8
  let profileMultihashes ← readOrderedTextSet m "profile_multihashes" 8
  let relayCapabilities ← readOrderedTextSet m "relay_capabilities" 32
  throwIf (protocolID ∉ protocolVersions ∨
    ¬ hasSupportedProfile profileMultihashes supportedProfiles ∨
    relayForwardLiveRole ∉ relayCapabilities) .payloadInvalid
  let relayEndpoints ← readBootstrapRelayEndpoints urlParse m
  let beaconID ← (cborBytes m "beacon_id" 32).mapError fun _ => .payloadInvalid
  let sequence ← (cborUint m "sequence").mapError fun _ => .payloadInvalid
  let issuedAt ← (cborUint m "issued_at").mapError fun _ => .payloadInvalid
  let expiresAt ← (cborUint m "expires_at").mapError fun _ => .payloadInvalid
  let previousBeaconID ← readPreviousBeaconID m
  checkBootstrapPublicValues m bootstrapPublicKeys
  return { beaconID, sequence, issuedAt, expiresAt, previousBeaconID, protocolVersions,
           profileMultihashes, relayCapabilities, relayEndpoints }

/-- The alphabet of the wrapper leaves no room for a line break. -/
def validBootstrapBranchTextWrapper (value : List UInt8) : Bool :=
  Utf8.bytes branchTextWrapperPrefix <+: value && value.length ≤ maxDraftEnvelopeBytes &&
    wrapperBody value ≠ [] &&
    (wrapperBody value).all fun c =>
      ('A' ≤ c && c ≤ 'Z') || ('a' ≤ c && c ≤ 'z') || ('0' ≤ c && c ≤ '9') ||
        c = '-' || c = '_'

def readSignedBootstrapBeacon (verify : List UInt8 → List UInt8 → List UInt8 → Bool)
    (now maxFutureSkew : Int) (supportedProfiles : List String) (signedEventBytes : List UInt8) :
    Except ValidationReason (SignedEvent BootstrapBeaconPayload) := do
  let (envelope, signatureInputBytes) ← openSignedEvent verify bootstrapReasons
    eventBootstrapBeacon now maxFutureSkew signedEventBytes
  let payload ← readBootstrapBeaconPayload urlParse envelope.payloadBytes supportedProfiles
  throwIf (payload.expiresAt ≠ envelope.expiresAt) .payloadExpiryMismatch
  throwIf (envelope.createdAt < payload.issuedAt) .payloadIssuedAfterCreate
  return { signedEventBytes, signatureInputBytes, envelope, payload }

def validateBranchTextBootstrapBeacon
    (verify : List UInt8 → List UInt8 → List UInt8 → Bool) (clock : Int)
    (wrapper : List UInt8) (options : ValidationOptions) :
    Except ValidationReason (SignedEvent BootstrapBeaconPayload) := do
  throwIf (¬ validBootstrapBranchTextWrapper wrapper) .malformedWrapper
  match Base64.decodeChars (wrapperBody wrapper) with
  | none => throw .invalidBase64URL
  | some signedEventBytes =>
    readSignedBootstrapBeacon urlParse verify (options.now clock) options.skew
      options.supportedProfiles signedEventBytes

end

end Branch.Protocol
