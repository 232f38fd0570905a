import Branch.Lib.Sha256
import Branch.Lib.Text
import Branch.Protocol.SignedEvent

/-!
The validator of identity contacts of the relay.
-/

namespace Branch.Protocol

open Branch.Lib

def eventIdentityAnnounce : String := "identity.announce"
def identityContactIDDomain : String := "BRANCH identity id v0\n"
def maxIdentityContactRouteHint : Nat := 8

structure IdentityContactRouteHint where
  transport : String
  uri : String
  relayPublicKey : String
  profileMultihash : String
  priority : Nat
  deriving DecidableEq

/-- The relay names a contact without a display name by the empty text. -/
structure IdentityContactPayload (Name : Type) where
  contactID : List UInt8
  branchID : String
  sequence : Nat
  issuedAt : Nat
  expiresAt : Nat
  displayName : Name
  aliases : List String
  protocolVersions : List String
  profileMultihashes : List String
  routeHints : List IdentityContactRouteHint

def identityReasons : EnvelopeReasons where
  unknown := reasonFromCBORReadError
  field := fun _ err => reasonFromCBORReadError err
  unknownSender := reasonFromCBORReadError

def identityPayloadKeys : List String :=
  ["contact_id", "branch_id", "sequence", "issued_at", "expires_at", "display_name", "aliases",
    "protocol_versions", "profile_multihashes", "route_hints"]

def branchIDFromPublicKey (publicKey : List UInt8) : Option String :=
  if publicKey.length ≠ 32 then none
  else
    let digest := Sha256.sum256 (Utf8.bytes identityContactIDDomain ++ publicKey)
    some (branchIDPrefix ++ Base64.encode (0x12 :: 0x20 :: digest.toList))

section Aliases

def isSpace (c : Char) : Bool :=
  let n := c.toNat
  (9 ≤ n && n ≤ 13) || n = 0x20 || n = 0x85 || n = 0xA0 || n = 0x1680 ||
    (0x2000 ≤ n && n ≤ 0x200A) || n = 0x2028 || n = 0x2029 || n = 0x202F || n = 0x205F ||
    n = 0x3000

/-- The lower case of the letters that have one in ASCII. Other letters stay as they are: the
lower case that they have is not of ASCII either, and an alias with it is rejected alike. -/
def toLower (c : Char) : Char :=
  if 'A' ≤ c ∧ c ≤ 'Z' then Char.ofNat (c.toNat + 32)
  else if c.toNat = 0x212A then 'k'
  else if c.toNat = 0x130 then 'i'
  else c

def normalizeAlias (s : String) : String :=
  String.ofList ((Text.strip isSpace s.toList).map toLower)

def isAliasChar (c : Char) : Bool := ('a' ≤ c && c ≤ 'z') || ('0' ≤ c && c ≤ '9')

/-- `^[a-z0-9][a-z0-9._-]{1,63}$` -/
def identityAliasPattern (s : String) : Bool :=
  match s.toList with
  | [] => false
  | c :: cs =>
    isAliasChar c && 1 ≤ cs.length && cs.length ≤ 63 &&
      cs.all fun c => isAliasChar c || c = '.' || c = '_' || c = '-'

def validAlias (normalized : String) : Bool :=
  2 ≤ normalized.utf8ByteSize && normalized.utf8ByteSize ≤ 64 && identityAliasPattern normalized

def readIdentityAliases (m : CborMap) : Except ValidationReason (List String) := do
  let value ← (cborRequired m "aliases").mapError fun _ => .payloadInvalid
  match value with
  | .array values =>
    throwIf (8 < values.length) .payloadInvalid
    readOrderedTexts normalizeAlias validAlias [] "" values
  | _ => throw .payloadInvalid

end Aliases

section

variable (urlParse : String → Option ParsedURL)

def routeHintKeys : List String :=
  ["transport", "uri", "relay_public_key", "profile_multihash", "priority"]

/-- The route hints behind those with the keys of `seen`, of which the last one had the
priority `previous`. -/
def readRouteHintsFrom (seen : List String) (previous : Option Nat) :
    List Cbor → Except ValidationReason (List IdentityContactRouteHint)
  | [] => .ok []
  | item :: items => do
    let hintMap ← (cborMap item "route_hint").mapError fun _ => .payloadInvalid
    (cborRejectUnknown hintMap routeHintKeys).mapError fun _ => .payloadInvalid
    let transport ← (cborText hintMap "transport").mapError fun _ => .payloadInvalid
    throwIf (32 < transport.utf8ByteSize ∨ ¬ transportPattern transport) .payloadInvalid
    let uri ← (cborText hintMap "uri").mapError fun _ => .payloadInvalid
    throwIf (512 < uri.utf8ByteSize) .payloadInvalid
    throwIf (transport = "wss" ∧ ¬ validateBootstrapWSSURI urlParse uri) .payloadInvalid
    let relayPublicKey ← (cborText hintMap "relay_public_key").mapError fun _ => .payloadInvalid
    throwIf (∀ key ∈ Base64.decodeChars relayPublicKey.toList, key.length ≠ 32) .payloadInvalid
    let profileMultihash ←
      (cborText hintMap "profile_multihash").mapError fun _ => .payloadInvalid
    throwIf (128 < profileMultihash.utf8ByteSize) .payloadInvalid
    let priority ← (cborUint hintMap "priority").mapError fun _ => .payloadInvalid
    throwIf (∃ previousPriority ∈ previous, priority < previousPriority) .payloadInvalid
    let duplicateKey := transport ++ "\x00" ++ uri ++ "\x00" ++ relayPublicKey
    throwIf (duplicateKey ∈ seen) .payloadInvalid
    let routeHints ← readRouteHintsFrom (duplicateKey :: seen) (some priority) items
    return { transport, uri, relayPublicKey, profileMultihash, priority } :: routeHints

def readIdentityRouteHints (m : CborMap) :
    Except ValidationReason (List IdentityContactRouteHint) := do
  let value ← (cborRequired m "route_hints").mapError fun _ => .payloadInvalid
  match value with
  | .array values =>
    throwIf (maxIdentityContactRouteHint < values.length) .payloadInvalid
    readRouteHintsFrom urlParse [] none values
  | _ => throw .payloadInvalid

def readDisplayName (m : CborMap) : Except ValidationReason String :=
  if cborHas m "display_name" then do
    let displayName ← (cborText m "display_name").mapError fun _ => .payloadInvalid
    throwIf (96 < displayName.utf8ByteSize) .payloadInvalid
    return displayName
  else .ok ""

def readIdentityContactPayload (bytesValue : List UInt8) (supportedProfiles : List String) :
    Except ValidationReason (IdentityContactPayload String) := do
  throwIf (maxDecodedCBORBytes < bytesValue.length) .payloadOversized
  let decoded ← (decodeDeterministicCBOR bytesValue).mapError reasonFromPayloadDecodeError
  let m ← (cborMap decoded "identity_contact_payload").mapError fun _ => .payloadInvalid
  (cborRejectUnknown m identityPayloadKeys).mapError reasonFromPayloadReadError
  let branchID ← (cborText m "branch_id").mapError fun _ => .payloadInvalid
  throwIf (¬ parseBranchID branchID) .invalidBranchID
  let protocolVersions ← readOrderedTextSet m "protocol_versions" 8
  let profileMultihashes ← readOrderedTextSet m "profile_multihashes" 8
  throwIf (protocolID ∉ protocolVersions ∨
    ¬ hasSupportedProfile profileMultihashes supportedProfiles) .payloadInvalid
  let contactID ← (cborBytes m "contact_id" 32).mapError fun _ => .payloadInvalid
  let sequence ← (cborUint m "sequence").mapError fun _ => .payloadInvalid
  let issuedAt ← (cborUint m "issued_at").mapError fun _ => .payloadInvalid
  let expiresAt ← (cborUint m "expires_at").mapError fun _ => .payloadInvalid
  let displayName ← readDisplayName m
  let aliases ← readIdentityAliases m
  let routeHints ← readIdentityRouteHints urlParse m
  return { contactID, branchID, sequence, issuedAt, expiresAt, displayName, aliases,
           protocolVersions, profileMultihashes, routeHints }

def readSignedIdentityContact (verify : List UInt8 → List UInt8 → List UInt8 → Bool)
    (now maxFutureSkew : Int) (supportedProfiles : List String) (minimumSequence : Nat)
    (signedEventBytes : List UInt8) :
    Except ValidationReason (SignedEvent (IdentityContactPayload String)) := do
  let (envelope, signatureInputBytes) ← openSignedEvent verify identityReasons
    eventIdentityAnnounce now maxFutureSkew signedEventBytes
  let payload ← readIdentityContactPayload urlParse envelope.payloadBytes supportedProfiles
  throwIf (payload.expiresAt ≠ envelope.expiresAt) .payloadExpiryMismatch
  throwIf (envelope.createdAt < payload.issuedAt) .payloadIssuedAfterCreate
  throwIf (0 < minimumSequence ∧ payload.sequence < minimumSequence) .lowerSequence
  match branchIDFromPublicKey envelope.sender.publicKey with
  | none => throw .invalidSender
  | some expectedBranchID =>
    throwIf (payload.branchID ≠ expectedBranchID) .branchIDMismatch
    return { signedEventBytes, signatureInputBytes, envelope, payload }

def validateBranchTextIdentityContact
    (verify : List UInt8 → List UInt8 → List UInt8 → Bool) (clock : Int)
    (wrapper : List UInt8) (options : ValidationOptions) :
    Except ValidationReason (SignedEvent (IdentityContactPayload String)) := do
  throwIf (¬ Utf8.bytes branchTextWrapperPrefix <+: wrapper) .malformedWrapper
  match Base64.decodeChars (wrapperBody wrapper) with
  | none => throw .invalidBase64URL
  | some signedEventBytes =>
    readSignedIdentityContact urlParse verify (options.now clock) options.skew
      options.supportedProfiles options.minimumSequence signedEventBytes

end

end Branch.Protocol
