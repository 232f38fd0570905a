import Branch.Core.SignedEvent
import Branch.Protocol.IdentityContact

/-!
The validator of identity contacts of the client.
-/

namespace Branch.Core

open Branch.Lib
open Branch.Protocol (SignedEvent ValidationReason IdentityContactRouteHint
  IdentityContactPayload)

def identityContactEventType : String := "identity.announce"
def branchIDDomain : String := "BRANCH identity id v0\n"
def branchIDPrefix : String := "br1."
def maxIdentityAliasBytes : Nat := 64
def maxIdentityAliases : Nat := 8
def maxIdentityDisplayNameBytes : Nat := 96
def maxIdentityRouteHints : Nat := 8
def maxIdentityRouteTransportBytes : Nat := 32
def maxIdentityRouteUriBytes : Nat := 512

def branchIDFromPublicKey (publicKey : List UInt8) : Except String String :=
  if publicKey.length ≠ 32 then .error "invalid_branch_id"
  else
    let digest := Sha256.sum256 (Utf8.bytes branchIDDomain ++ publicKey)
    .ok (branchIDPrefix ++ Base64.encode (0x12 :: 0x20 :: digest.toList))

def parseBranchID (value : String) : Except String Unit := do
  throwIf (¬ branchIDPrefix.toList <+: value.toList) "invalid_branch_id"
  let multihash ← decodeBase64URL (value.toList.drop branchIDPrefix.length)
  throwIf (multihash.length ≠ 34 ∨ multihash.take 2 ≠ [0x12, 0x20]) "invalid_branch_id"

section Aliases

/-- What `trim` removes. -/
def isSpace (c : Char) : Bool :=
  let n := c.toNat
  (9 ≤ n && n ≤ 13) || n = 0x20 || n = 0xA0 || n = 0xFEFF || n = 0x1680 ||
    (0x2000 ≤ n && n ≤ 0x200A) || n = 0x2028 || n = 0x2029 || n = 0x202F || n = 0x205F ||
    n = 0x3000

/-- The lower case of a letter, which may take two characters. Letters whose lower case is not
of ASCII stay as they are: an alias with either is rejected. -/
def toLowerCase (c : Char) : List Char :=
  if 'A' ≤ c ∧ c ≤ 'Z' then [Char.ofNat (c.toNat + 32)]
  else if c.toNat = 0x212A then ['k']
  else if c.toNat = 0x130 then ['i', Char.ofNat 0x307]
  else [c]

def normalizeAlias (value : String) : String :=
  String.ofList ((Text.strip isSpace value.toList).flatMap toLowerCase)

def readAlias (value : String) : Except String String := do
  let normalized := normalizeAlias value
  throwIf (maxIdentityAliasBytes < normalized.utf8ByteSize ∨
    ¬ Protocol.identityAliasPattern normalized) "payload_invalid"
  return normalized

/-- `sort` compares the units of two texts. -/
def sortTexts (values : List String) : List String :=
  values.insertionSort fun a b => Utf16.units a ≤ Utf16.units b

def normalizeAliases (values : List String) : Except String (List String) := do
  let normalized ← values.mapM readAlias
  throwIf (¬ (sortTexts normalized).Nodup) "payload_invalid"
  return sortTexts normalized

def readAliases (value : Cbor) : Except String (List String) :=
  match value with
  | .array values => do
    throwIf (maxIdentityAliases < values.length) "payload_invalid"
    let aliases ← values.mapM fun entry => do
      let text ← readText entry "alias"
      readAlias text
    normalizeAliases aliases
  | _ => .error "payload_invalid"

end Aliases

def readDisplayName (map : CborMap) : Except String (Option String) :=
  if hasEntry map "display_name" then do
    let displayName ← requiredText map "display_name"
    throwIf (maxIdentityDisplayNameBytes < displayName.utf8ByteSize) "payload_invalid"
    return some displayName
  else .ok none

section

variable (newURL : String → Option URLParts)

def readRelayPublicKey (map : CborMap) : Except String String := do
  let relayPublicKey ← requiredText map "relay_public_key"
  let decoded ← decodeBase64URL relayPublicKey.toList
  throwIf (decoded.length ≠ 32) "payload_invalid"
  return relayPublicKey

/-- The route hints behind those with the keys of `seen`. -/
def readRouteHintsFrom (seen : List String) (previousPriority : Int) :
    List Cbor → Except String (List IdentityContactRouteHint)
  | [] => .ok []
  | entry :: entries => do
    let hintMap ← readCborMap entry "route_hint"
    rejectUnknownEntries hintMap
      ["transport", "uri", "relay_public_key", "profile_multihash", "priority"]
    let transport ← requiredText hintMap "transport"
    throwIf (maxIdentityRouteTransportBytes < transport.utf8ByteSize ∨ ¬ isTransport transport)
      "payload_invalid"
    let uri ← requiredText hintMap "uri"
    throwIf (maxIdentityRouteUriBytes < uri.utf8ByteSize) "payload_invalid"
    let relayPublicKey ← readRelayPublicKey hintMap
    let profileMultihash ← requiredText hintMap "profile_multihash"
    let priority ← requiredUint hintMap "priority"
    throwIf ((priority : Int) < previousPriority) "payload_invalid"
    let duplicateKey := transport ++ "\x00" ++ uri ++ "\x00" ++ relayPublicKey
    throwIf (duplicateKey ∈ seen) "payload_invalid"
    throwIf (transport = "wss" ∧ ¬ validateWssEndpointUri newURL uri) "payload_invalid"
    let routeHints ← readRouteHintsFrom (duplicateKey :: seen) priority entries
    return { transport, uri, relayPublicKey, profileMultihash, priority } :: routeHints

def readRouteHints (value : Cbor) : Except String (List IdentityContactRouteHint) :=
  match value with
  | .array values => do
    throwIf (maxIdentityRouteHints < values.length) "payload_invalid"
    readRouteHintsFrom newURL [] (-1) values
  | _ => .error "payload_invalid"

def readIdentityPayload (bytes : List UInt8) (supportedProfileMultihashes : List String) :
    Except String (IdentityContactPayload (Option String)) := do
  throwIf (maxCborBytes < bytes.length) "payload_oversized"
  let decoded ← decodeCborForValidation bytes
  let payloadMap ← readCborMap decoded "identity_contact_payload"
  rejectUnknownEntries payloadMap Protocol.identityPayloadKeys
  let branchID ← requiredText payloadMap "branch_id"
  parseBranchID branchID
  let protocolVersions ←
    readOrderedUniqueTextArray maxIdentityAliasBytes payloadMap "protocol_versions" 8
  let profileMultihashes ←
    readOrderedUniqueTextArray maxIdentityAliasBytes payloadMap "profile_multihashes" 8
  throwIf (protocolID ∉ protocolVersions ∨
    ¬ hasSupportedProfile profileMultihashes supportedProfileMultihashes) "payload_invalid"
  let contactID ← requiredBytes payloadMap "contact_id" (some 32)
  let sequence ← requiredUint payloadMap "sequence"
  let issuedAt ← requiredTimestamp payloadMap "issued_at"
  let expiresAt ← requiredTimestamp payloadMap "expires_at"
  let displayName ← readDisplayName payloadMap
  let aliasesValue ← getRequiredEntry payloadMap "aliases"
  let aliases ← readAliases aliasesValue
  let routeHintsValue ← getRequiredEntry payloadMap "route_hints"
  let routeHints ← readRouteHints newURL routeHintsValue
  return { contactID, branchID, sequence, issuedAt, expiresAt, displayName, aliases,
           protocolVersions, profileMultihashes, routeHints }

/-- The codes that `isValidationReason` lists. -/
def identityReasonNames : List ValidationReason :=
  [.malformedWrapper, .envelopeOversized, .invalidBase64URL, .invalidCBOR, .nonCanonicalCBOR,
    .unsupportedProtocol, .unsupportedEventType, .recipientTagPresent, .invalidPayloadMode,
    .invalidSender, .invalidSignatureAlg, .signatureInvalid, .expired, .createdInFuture,
    .payloadOversized, .payloadInvalid, .payloadExpiryMismatch, .payloadIssuedAfterCreate,
    .invalidBranchID, .branchIDMismatch, .lowerSequence]

def readSignedIdentityContact (verify : List UInt8 → List UInt8 → List UInt8 → Bool)
    (normalizedNow maxFutureSkewSeconds : Int) (supportedProfileMultihashes : List String)
    (minimumSequence : Option Nat) (signedEventBytes : List UInt8) :
    Except String (SignedEvent (IdentityContactPayload (Option String))) := do
  let (envelope, signatureInputBytes) ← openSignedEvent verify identityContactEventType
    normalizedNow maxFutureSkewSeconds signedEventBytes
  let payload ← readIdentityPayload newURL envelope.payloadBytes supportedProfileMultihashes
  throwIf (payload.expiresAt ≠ envelope.expiresAt) "payload_expiry_mismatch"
  throwIf (envelope.createdAt < payload.issuedAt) "payload_issued_after_created"
  throwIf (∃ minimum ∈ minimumSequence, payload.sequence < minimum) "lower_sequence"
  let expectedBranchID ← branchIDFromPublicKey envelope.sender.publicKey
  throwIf (payload.branchID ≠ expectedBranchID) "branch_id_mismatch"
  return { signedEventBytes, signatureInputBytes, envelope, payload }

def validateBranchTextIdentityContact
    (verify : List UInt8 → List UInt8 → List UInt8 → Bool) (clock : Int) (wrapper : String)
    (options : ValidationOptions) :
    Except ValidationReason (SignedEvent (IdentityContactPayload (Option String))) :=
  let validate : Except String (SignedEvent (IdentityContactPayload (Option String))) := do
    throwIf (¬ isBranchTextWrapper wrapper) "malformed_wrapper"
    let signedEventBytes ←
      decodeBase64URL (wrapper.toList.drop branchTextWrapperPrefix.length)
    readSignedIdentityContact newURL verify (options.now.getD clock)
      (options.maxFutureSkewSeconds.getD defaultMaxFutureSkewSeconds)
      (options.supportedProfileMultihashes.getD [developmentProfileMultihash])
      options.minimumSequence signedEventBytes
  validate.mapError (reasonFromError identityReasonNames)

end

end Branch.Core
