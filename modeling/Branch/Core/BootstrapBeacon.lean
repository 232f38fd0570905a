import Branch.Core.SignedEvent
import Branch.Protocol.BootstrapBeacon

/-!
The validator of bootstrap beacons of the client.
-/

namespace Branch.Core

open Branch.Lib
open Branch.Protocol (SignedEvent ValidationReason BootstrapRelayEndpoint
  BootstrapBeaconPayload)

def maxRelayEndpoints : Nat := 8
def maxRelayEndpointUriBytes : Nat := 512
def maxRelayEndpointTransportBytes : Nat := 32
def maxBootstrapNameBytes : Nat := 128

def bootstrapPayloadKeys : List String :=
  ["beacon_id", "sequence", "issued_at", "expires_at", "previous_beacon_id", "revokes",
    "protocol_versions", "profile_multihashes", "relay_capabilities", "relay_endpoints",
    "rendezvous_boards", "mirror_hints", "proofs"]

def optionalPublicKeys : List String :=
  ["revokes", "rendezvous_boards", "mirror_hints", "proofs"]

mutual

def validateBoundedPublicValue (depth : Nat) : Cbor → Except String Unit
  | .uint n => do
    throwIf (3 < depth) "payload_invalid"
    let _ ← readUint (.uint n) "public_value"
  | .text s => do
    throwIf (3 < depth) "payload_invalid"
    let _ ← readText (.text s) "public_value"
  | .bytes data => do
    throwIf (3 < depth) "payload_invalid"
    let _ ← readBytes (.bytes data) "public_value" none
  | .array values => do
    throwIf (3 < depth) "payload_invalid"
    throwIf (16 < values.length) "payload_invalid"
    validateBoundedItems (depth + 1) values
  | .map entries => do
    throwIf (3 < depth) "payload_invalid"
    throwIf (16 < entries.length) "payload_invalid"
    validateBoundedEntries (depth + 1) entries
  | .bool _ => throwIf (3 < depth) "payload_invalid"

def validateBoundedItems (depth : Nat) : List Cbor → Except String Unit
  | [] => .ok ()
  | item :: items => do
    validateBoundedPublicValue depth item
    validateBoundedItems depth items

def validateBoundedEntries (depth : Nat) : List (String × Cbor) → Except String Unit
  | [] => .ok ()
  | (key, value) :: entries => do
    let _ ← readText (.text key) "public_key"
    validateBoundedPublicValue depth value
    validateBoundedEntries depth entries

end

def validateOptionalPublicValues (map : CborMap) : List String → Except String Unit
  | [] => .ok ()
  | key :: keys => do
    match map.lookup key with
    | none => .ok ()
    | some value => validateBoundedPublicValue 0 value
    validateOptionalPublicValues map keys

section

variable (newURL : String → Option URLParts)

/-- The endpoints behind those with the keys of `seen`. -/
def readRelayEndpointsFrom (seen : List String) (previousPriority : Int) :
    List Cbor → Except String (List BootstrapRelayEndpoint)
  | [] => .ok []
  | entry :: entries => do
    let endpointMap ← readCborMap entry "relay_endpoint"
    rejectUnknownEntries endpointMap ["transport", "uri", "priority"]
    let transport ← requiredText endpointMap "transport"
    throwIf (maxRelayEndpointTransportBytes < transport.utf8ByteSize ∨ ¬ isTransport transport)
      "payload_invalid"
    let uri ← requiredText endpointMap "uri"
    throwIf (maxRelayEndpointUriBytes < uri.utf8ByteSize) "payload_invalid"
    let priority ← requiredUint endpointMap "priority"
    throwIf ((priority : Int) < previousPriority) "payload_invalid"
    let duplicateKey := transport ++ "\x00" ++ uri
    throwIf (duplicateKey ∈ seen) "payload_invalid"
    throwIf (transport = "wss" ∧ ¬ validateWssEndpointUri newURL uri) "payload_invalid"
    let endpoints ← readRelayEndpointsFrom (duplicateKey :: seen) priority entries
    return { transport, uri, priority } :: endpoints

def readRelayEndpoints (value : Cbor) : Except String (List BootstrapRelayEndpoint) :=
  match value with
  | .array values => do
    throwIf (values.length = 0 ∨ maxRelayEndpoints < values.length) "payload_invalid"
    let endpoints ← readRelayEndpointsFrom newURL [] (-1) values
    throwIf (¬ endpoints.any fun endpoint => endpoint.transport = "wss") "payload_invalid"
    return endpoints
  | _ => .error "payload_invalid"

def readPreviousBeaconId (payloadMap : CborMap) : Except String (Option (List UInt8)) :=
  if hasEntry payloadMap "previous_beacon_id" then
    (requiredBytes payloadMap "previous_beacon_id" (some 32)).map some
  else .ok none

def readBootstrapPayload (bytes : List UInt8) (supportedProfileMultihashes : List String) :
    Except String BootstrapBeaconPayload := do
  throwIf (maxCborBytes < bytes.length) "payload_oversized"
  let decoded ← decodeCborForValidation bytes
  let payloadMap ← readCborMap decoded "bootstrap_payload"
  rejectUnknownEntries payloadMap bootstrapPayloadKeys
  let protocolVersions ←
    readOrderedUniqueTextArray maxBootstrapNameBytes payloadMap "protocol_versions" 8
  let profileMultihashes ←
    readOrderedUniqueTextArray maxBootstrapNameBytes payloadMap "profile_multihashes" 8
  let relayCapabilities ←
    readOrderedUniqueTextArray maxBootstrapNameBytes payloadMap "relay_capabilities" 32
  let endpointsValue ← getRequiredEntry payloadMap "relay_endpoints"
  let relayEndpoints ← readRelayEndpoints newURL endpointsValue
  throwIf (protocolID ∉ protocolVersions) "payload_invalid"
  throwIf (¬ hasSupportedProfile profileMultihashes supportedProfileMultihashes)
    "payload_invalid"
  validateOptionalPublicValues payloadMap optionalPublicKeys
  let beaconID ← requiredBytes payloadMap "beacon_id" (some 32)
  let sequence ← requiredUint payloadMap "sequence"
  let issuedAt ← requiredTimestamp payloadMap "issued_at"
  let expiresAt ← requiredTimestamp payloadMap "expires_at"
  let previousBeaconID ← readPreviousBeaconId payloadMap
  return { beaconID, sequence, issuedAt, expiresAt, previousBeaconID, protocolVersions,
           profileMultihashes, relayCapabilities, relayEndpoints }

/-- The codes that `isValidationReason` lists. -/
def bootstrapReasonNames : List ValidationReason :=
  [.malformedWrapper, .envelopeOversized, .invalidBase64URL, .invalidCBOR, .nonCanonicalCBOR,
    .unsupportedProtocol, .unsupportedEventType, .recipientTagPresent, .invalidPayloadMode,
    .invalidSender, .invalidSignatureAlg, .signatureInvalid, .expired, .createdInFuture,
    .payloadOversized, .payloadInvalid, .payloadExpiryMismatch, .payloadIssuedAfterCreate]

def readSignedBootstrapBeacon (verify : List UInt8 → List UInt8 → List UInt8 → Bool)
    (normalizedNow maxFutureSkewSeconds : Int) (supportedProfileMultihashes : List String)
    (signedEventBytes : List UInt8) : Except String (SignedEvent BootstrapBeaconPayload) := do
  let (envelope, signatureInputBytes) ← openSignedEvent verify "bootstrap.beacon" normalizedNow
    maxFutureSkewSeconds signedEventBytes
  let payload ←
    readBootstrapPayload newURL envelope.payloadBytes supportedProfileMultihashes
  throwIf (payload.expiresAt ≠ envelope.expiresAt) "payload_expiry_mismatch"
  throwIf (envelope.createdAt < payload.issuedAt) "payload_issued_after_created"
  return { signedEventBytes, signatureInputBytes, envelope, payload }

def validateBranchTextBootstrapBeacon
    (verify : List UInt8 → List UInt8 → List UInt8 → Bool) (clock : Int) (wrapper : String)
    (options : ValidationOptions) :
    Except ValidationReason (SignedEvent BootstrapBeaconPayload) :=
  let validate : Except String (SignedEvent BootstrapBeaconPayload) := do
    throwIf (¬ isBranchTextWrapper wrapper) "malformed_wrapper"
    let signedEventBytes ←
      decodeBase64URL (wrapper.toList.drop branchTextWrapperPrefix.length)
    readSignedBootstrapBeacon newURL verify (options.now.getD clock)
      (options.maxFutureSkewSeconds.getD defaultMaxFutureSkewSeconds)
      (options.supportedProfileMultihashes.getD [developmentProfileMultihash]) signedEventBytes
  validate.mapError (reasonFromError bootstrapReasonNames)

end

end Branch.Core
