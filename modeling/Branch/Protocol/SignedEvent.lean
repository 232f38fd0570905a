import Branch.Lib.Base64
import Branch.Protocol.CborDecode

/-!
Public events in a signed envelope: what the validators of bootstrap beacons and of identity
contacts of the relay have in common.
-/

namespace Branch.Protocol

open Branch.Lib

def bootstrapSignatureDomain : String := "BRANCH signed event v0\n"

inductive ValidationReason
  | malformedWrapper
  | envelopeOversized
  | invalidBase64URL
  | invalidCBOR
  | nonCanonicalCBOR
  | unknownField
  | unsupportedProtocol
  | unsupportedEventType
  | recipientTagPresent
  | invalidPayloadMode
  | invalidSender
  | invalidSignatureAlg
  | signatureInvalid
  | expired
  | createdInFuture
  | payloadOversized
  | payloadInvalid
  | payloadExpiryMismatch
  | payloadIssuedAfterCreate
  | invalidBranchID
  | branchIDMismatch
  | lowerSequence
  deriving DecidableEq, Repr

def ValidationReason.code : ValidationReason → String
  | .malformedWrapper => "malformed_wrapper"
  | .envelopeOversized => "envelope_oversized"
  | .invalidBase64URL => "invalid_base64url"
  | .invalidCBOR => "invalid_cbor"
  | .nonCanonicalCBOR => "non_canonical_cbor"
  | .unknownField => "unknown_field"
  | .unsupportedProtocol => "unsupported_protocol"
  | .unsupportedEventType => "unsupported_event_type"
  | .recipientTagPresent => "recipient_tag_present"
  | .invalidPayloadMode => "invalid_payload_mode"
  | .invalidSender => "invalid_sender"
  | .invalidSignatureAlg => "invalid_signature_alg"
  | .signatureInvalid => "signature_invalid"
  | .expired => "expired"
  | .createdInFuture => "created_in_future"
  | .payloadOversized => "payload_oversized"
  | .payloadInvalid => "payload_invalid"
  | .payloadExpiryMismatch => "payload_expiry_mismatch"
  | .payloadIssuedAfterCreate => "payload_issued_after_created"
  | .invalidBranchID => "invalid_branch_id"
  | .branchIDMismatch => "branch_id_mismatch"
  | .lowerSequence => "lower_sequence"

structure Sender where
  keyAlg : String
  publicKey : List UInt8
  deriving DecidableEq

structure Envelope where
  protocol : String
  eventID : List UInt8
  eventType : String
  sender : Sender
  createdAt : Nat
  expiresAt : Nat
  payloadMode : String
  payloadBytes : List UInt8
  signatureAlg : String
  signature : List UInt8
  deriving DecidableEq

structure SignedEvent (Payload : Type) where
  signedEventBytes : List UInt8
  signatureInputBytes : List UInt8
  envelope : Envelope
  payload : Payload

def unsignedEnvelopeEntries (envelope : Envelope) : CborMap :=
  [("protocol", .text envelope.protocol),
   ("event_id", .bytes envelope.eventID),
   ("type", .text envelope.eventType),
   ("sender", .map [("key_alg", .text envelope.sender.keyAlg),
     ("public_key", .bytes envelope.sender.publicKey)]),
   ("created_at", .uint envelope.createdAt),
   ("expires_at", .uint envelope.expiresAt),
   ("payload_mode", .text envelope.payloadMode),
   ("payload", .bytes envelope.payloadBytes),
   ("signature_alg", .text envelope.signatureAlg)]

def signedEnvelopeEntries (envelope : Envelope) : CborMap :=
  unsignedEnvelopeEntries envelope ++ [("signature", .bytes envelope.signature)]

def envelopeKeys : List String :=
  ["protocol", "event_id", "type", "sender", "recipient_tag", "created_at", "expires_at",
    "payload_mode", "payload", "signature_alg", "signature"]

def senderKeys : List String := ["key_alg", "public_key"]

section Envelope

/-- What a kind of event makes of an error while its envelope is read: of an unknown field,
of a field of the envelope, and of an unknown field of the sender. -/
structure EnvelopeReasons where
  unknown : String → ValidationReason
  field : String → String → ValidationReason
  unknownSender : String → ValidationReason

variable (reasons : EnvelopeReasons)

def readSender (m : CborMap) : Except ValidationReason Sender := do
  (cborRejectUnknown m senderKeys).mapError reasons.unknownSender
  let keyAlg ← (cborText m "key_alg").mapError fun _ => .invalidSender
  throwIf (keyAlg ≠ "ed25519") .invalidSender
  let publicKey ← (cborBytes m "public_key" 32).mapError fun _ => .invalidSender
  return { keyAlg, publicKey }

def readEnvelope (eventType : String) (m : CborMap) : Except ValidationReason Envelope := do
  (cborRejectUnknown m envelopeKeys).mapError reasons.unknown
  throwIf (cborHas m "recipient_tag") .recipientTagPresent
  let protocol ← (cborText m "protocol").mapError (reasons.field "protocol")
  throwIf (protocol ≠ protocolID) .unsupportedProtocol
  let typeText ← (cborText m "type").mapError (reasons.field "type")
  throwIf (typeText ≠ eventType) .unsupportedEventType
  let payloadMode ← (cborText m "payload_mode").mapError (reasons.field "payload_mode")
  throwIf (payloadMode ≠ "public") .invalidPayloadMode
  let signatureAlg ← (cborText m "signature_alg").mapError (reasons.field "signature_alg")
  throwIf (signatureAlg ≠ "ed25519") .invalidSignatureAlg
  let senderValue ← (cborRequired m "sender").mapError (reasons.field "sender")
  let senderMap ← (cborMap senderValue "sender").mapError fun _ => .invalidSender
  let sender ← readSender reasons senderMap
  let createdAt ← (cborUint m "created_at").mapError (reasons.field "created_at")
  let expiresAt ← (cborUint m "expires_at").mapError (reasons.field "expires_at")
  throwIf (expiresAt ≤ createdAt) .expired
  let eventID ← (cborBytes m "event_id" 32).mapError (reasons.field "event_id")
  let payloadBytes ← (cborBytes m "payload" 0).mapError (reasons.field "payload")
  let signature ← (cborBytes m "signature" 64).mapError (reasons.field "signature")
  return { protocol, eventID, eventType := typeText, sender, createdAt, expiresAt,
           payloadMode, payloadBytes, signatureAlg, signature }

end Envelope

def reasonFromCBORDecodeError : CborErr → ValidationReason
  | .nonCanonicalCBOR => .nonCanonicalCBOR
  | _ => .invalidCBOR

def reasonFromCBORReadError (err : String) : ValidationReason :=
  if err.startsWith "unknown_" then .unknownField else .invalidCBOR

def reasonFromPayloadDecodeError : CborErr → ValidationReason
  | .nonCanonicalCBOR => .nonCanonicalCBOR
  | _ => .payloadInvalid

def reasonFromPayloadReadError (err : String) : ValidationReason :=
  if err.startsWith "unknown_" then .unknownField else .payloadInvalid

/-- A zero, or an empty list, leaves a default in place. Only identity contacts have a
minimal sequence. -/
structure ValidationOptions where
  nowUnix : Int := 0
  maxFutureSkew : Int := 0
  supportedProfileMultihashes : List String := []
  minimumSequence : Nat := 0

def defaultMaxFutureSkew : Int := 300

def ValidationOptions.now (options : ValidationOptions) (clock : Int) : Int :=
  if options.nowUnix = 0 then clock else options.nowUnix

def ValidationOptions.skew (options : ValidationOptions) : Int :=
  if options.maxFutureSkew = 0 then defaultMaxFutureSkew else options.maxFutureSkew

def ValidationOptions.supportedProfiles (options : ValidationOptions) : List String :=
  if options.supportedProfileMultihashes = [] then [developmentProfileMultihash]
  else options.supportedProfileMultihashes

/-- From the bytes of a signed event to its envelope and the bytes under the signature. The
times are far from the ends of an `int64`: what is created after the expiry is rejected
before the skew is added. -/
def openSignedEvent (verify : List UInt8 → List UInt8 → List UInt8 → Bool)
    (reasons : EnvelopeReasons) (eventType : String) (now maxFutureSkew : Int)
    (signedEventBytes : List UInt8) :
    Except ValidationReason (Envelope × List UInt8) := do
  throwIf (maxDraftEnvelopeBytes < signedEventBytes.length) .envelopeOversized
  let decoded ← (decodeDeterministicCBOR signedEventBytes).mapError reasonFromCBORDecodeError
  let envelopeMap ← (cborMap decoded "signed_event").mapError fun _ => .invalidCBOR
  let envelope ← readEnvelope reasons eventType envelopeMap
  let canonicalSigned ←
    (encodeCborMap (signedEnvelopeEntries envelope)).mapError fun _ => .nonCanonicalCBOR
  throwIf (canonicalSigned ≠ signedEventBytes) .nonCanonicalCBOR
  let unsignedBytes ←
    (encodeCborMap (unsignedEnvelopeEntries envelope)).mapError fun _ => .invalidCBOR
  let signatureInput := Utf8.bytes bootstrapSignatureDomain ++ unsignedBytes
  throwIf (¬ verify envelope.sender.publicKey signatureInput envelope.signature)
    .signatureInvalid
  throwIf ((envelope.expiresAt : Int) ≤ now) .expired
  throwIf (now + maxFutureSkew < envelope.createdAt) .createdInFuture
  return (envelope, signatureInput)

section TextSet

/-- The items behind those of `seen`, of which `previous` was the last, each in its normal
form. -/
def readOrderedTexts (normalize : String → String) (valid : String → Bool) :
    List String → String → List Cbor → Except ValidationReason (List String)
  | _, _, [] => .ok []
  | seen, previous, .text s :: items => do
    let normalized := normalize s
    throwIf (¬ valid normalized) .payloadInvalid
    throwIf (normalized ∈ seen ∨ Utf8.bytes normalized < Utf8.bytes previous) .payloadInvalid
    let values ← readOrderedTexts normalize valid (normalized :: seen) normalized items
    return normalized :: values
  | _, _, _ :: _ => .error .payloadInvalid

def validName (s : String) : Bool := s ≠ "" && s.utf8ByteSize ≤ 128

def readOrderedTextSet (m : CborMap) (key : String) (maxItems : Nat) :
    Except ValidationReason (List String) := do
  let value ← (cborRequired m key).mapError fun _ => .payloadInvalid
  match value with
  | .array values =>
    throwIf (values.length = 0 ∨ maxItems < values.length) .payloadInvalid
    readOrderedTexts id validName [] "" values
  | _ => throw .payloadInvalid

def hasSupportedProfile (values supported : List String) : Bool :=
  values.any fun value => value ∈ supported

end TextSet

section Uri

/-- `^[a-z][a-z0-9.+-]*$` -/
def transportPattern (transport : String) : Bool :=
  match transport.toList with
  | [] => false
  | c :: cs =>
    ('a' ≤ c && c ≤ 'z') &&
      cs.all fun c => ('a' ≤ c && c ≤ 'z') || ('0' ≤ c && c ≤ '9') ||
        c = '.' || c = '+' || c = '-'

structure ParsedURL where
  scheme : String
  hostname : String
  hasUser : Bool
  fragment : String
  port : String

def digitsValue (digits : List Char) : Nat :=
  digits.foldl (fun n c => n * 10 + (c.toNat - 48)) 0

def isDigits (digits : List Char) : Bool :=
  digits ≠ [] && digits.all fun c => '0' ≤ c && c ≤ '9'

def atoi (s : String) : Option Int :=
  let (negative, digits) :=
    match s.toList with
    | '-' :: digits => (true, digits)
    | '+' :: digits => (false, digits)
    | digits => (false, digits)
  if ¬ isDigits digits then none
  else
    let n : Int := if negative then -digitsValue digits else digitsValue digits
    if -2 ^ 63 ≤ n ∧ n < 2 ^ 63 then some n else none

def validateBootstrapWSSURI (urlParse : String → Option ParsedURL) (value : String) : Bool :=
  match urlParse value with
  | none => false
  | some parsed =>
    if parsed.scheme ≠ "wss" ∨ parsed.hostname = "" ∨ parsed.hasUser ∨ parsed.fragment ≠ "" then
      false
    else
      match atoi parsed.port with
      | none => false
      | some port => parsed.port ≠ "" ∧ 1 ≤ port ∧ port ≤ 65535

end Uri

def wrapperBody (wrapper : List UInt8) : List Char :=
  Utf8.decode (wrapper.drop (Utf8.bytes branchTextWrapperPrefix).length)

end Branch.Protocol
