import Branch.Core.Cbor
import Branch.Lib.Utf16
import Branch.Protocol.SignedEvent

/-!
Public events in a signed envelope: what the validators of bootstrap beacons and of identity
contacts of the client have in common. Their records have the fields of the relay's, and
their rejection codes are among the same; errors are told apart by their messages.
-/

namespace Branch.Core

open Branch.Lib
open Branch.Protocol (Sender Envelope SignedEvent ValidationReason)

def maxDraftEnvelopeBytes : Nat := 64 * 1024
def protocolID : String := "branch/connectivity/0"
def developmentProfileMultihash : String := "uEiCaVLmVxHgth49YdSwXKM201oM4W6PHc61z_1rz-J_xVw"
def branchTextWrapperPrefix : String := "BRANCH0."
def maxTextCarrierRecordBytes : Nat := 64 * 1024
def signatureDomain : String := "BRANCH signed event v0\n"

/-- A string of the client as it stands, surrogates without their other half included. -/
abbrev JsString := List UInt16

/-- `new TextEncoder().encode(value)` -/
def textEncode (value : JsString) : List UInt8 := Utf8.bytes (Utf16.text value)

section Base64URL

def base64URLPattern (value : List Char) : Bool :=
  value ≠ [] && value.all fun c =>
    ('A' ≤ c && c ≤ 'Z') || ('a' ≤ c && c ≤ 'z') || ('0' ≤ c && c ≤ '9') || c = '_' || c = '-'

def validBase64URL (value : List Char) : Bool :=
  0 < value.length && value.length % 4 ≠ 1 && base64URLPattern value

/-- `atob` does not look at the unused bits of the last character. -/
def decodeBase64URL (value : List Char) : Except String (List UInt8) :=
  if ¬ validBase64URL value then .error "invalid base64url"
  else
    match Base64.decodeStrict value with
    | none => .error "invalid character"
    | some bytes => .ok bytes

theorem validBase64URL_of_decodeStrict {body : List Char} {signed : List UInt8}
    (hne : body ≠ []) (h : Base64.decodeStrict body = some signed) :
    validBase64URL body = true := by
  have hall := Base64.inAlphabet_of_decodeStrict h
  have hlength := Base64.length_of_decodeStrict h
  have hpos := List.length_pos_iff.mpr hne
  simp only [validBase64URL, base64URLPattern, Bool.and_eq_true, decide_eq_true_eq,
    List.all_eq_true, Bool.or_eq_true]
  refine ⟨⟨hpos, hlength⟩, hne, ?_⟩
  intro c hc
  have := hall c hc
  unfold Base64.InAlphabet at this
  tauto

theorem decodeBase64URL_eq_ok_iff {body : List Char} {signed : List UInt8} :
    decodeBase64URL body = .ok signed ↔
      body ≠ [] ∧ Base64.decodeStrict body = some signed := by
  rw [decodeBase64URL, ite_error_eq_ok, not_not]
  constructor
  · rintro ⟨hvalid, h⟩
    constructor
    · rintro rfl
      cases hvalid
    · cases hdecode : Base64.decodeStrict body with
      | none => simp [hdecode] at h
      | some bytes =>
        rw [hdecode] at h
        rw [Except.ok.inj h]
  · rintro ⟨hne, h⟩
    exact ⟨validBase64URL_of_decodeStrict hne h, by rw [h]⟩

def isBranchTextWrapper (value : String) : Bool :=
  branchTextWrapperPrefix.toList <+: value.toList &&
    validBase64URL (value.toList.drop branchTextWrapperPrefix.length) &&
    value.utf8ByteSize ≤ maxTextCarrierRecordBytes

end Base64URL

def envelopeKeys : List String :=
  ["protocol", "event_id", "type", "sender", "recipient_tag", "created_at", "expires_at",
    "payload_mode", "payload", "signature_alg", "signature"]

def unsignedEnvelopeEntries (envelope : Envelope) : CborMap :=
  [("protocol", .text envelope.protocol),
   ("event_id", .bytes envelope.eventID),
   ("type", .text envelope.eventType),
   ("sender", .map [("key_alg", .text envelope.sender.keyAlg),
     ("public_key", .bytes envelope.sender.publicKey)]),
   ("created_at", .uint envelope.createdAt),
   ("expires_at", .uint envelope.expiresAt),
   ("payload_mode", .text envelope.payloadMode),
   ("payload", .bytes envelope.payloadBytes),
   ("signature_alg", .text envelope.signatureAlg)]

def signedEnvelopeEntries (envelope : Envelope) : CborMap :=
  unsignedEnvelopeEntries envelope ++ [("signature", .bytes envelope.signature)]

def decodeCborForValidation (bytes : List UInt8) : Except String Cbor :=
  (decodeDeterministicCbor bytes maxDraftEnvelopeBytes).mapError fun err =>
    if err.message = "non_canonical_cbor" then "non_canonical_cbor" else "invalid_cbor"

def encodeForValidation (entries : CborMap) : Except String (List UInt8) :=
  (encodeDeterministicCbor (.map entries)).mapError CborError.message

section Envelope

variable (map : CborMap)

/-- `readText(getRequiredEntry(map, key), key)` -/
def requiredText (key : String) : Except String String := do
  let value ← getRequiredEntry map key
  readText value key

def requiredUint (key : String) : Except String Nat := do
  let value ← getRequiredEntry map key
  readUint value key

def requiredBytes (key : String) (size : Option Nat) : Except String (List UInt8) := do
  let value ← getRequiredEntry map key
  readBytes value key size

variable {map} in
theorem requiredText_eq_ok_iff {key s : String} :
    requiredText map key = .ok s ↔
      map.lookup key = some (.text s) ∧ s ≠ "" ∧ s.utf8ByteSize ≤ maxCborTextBytes := by
  simp only [requiredText, bind_eq_ok, getRequiredEntry_eq_ok_iff,
    readText_eq_ok_iff]
  constructor
  · rintro ⟨_, hlookup, rfl, hshort⟩
    exact ⟨hlookup, hshort⟩
  · rintro ⟨hlookup, hshort⟩
    exact ⟨_, hlookup, rfl, hshort⟩

variable {map} in
theorem requiredBytes_eq_ok_iff {key : String} {size : Option Nat}
    {data : List UInt8} :
    requiredBytes map key size = .ok data ↔
      map.lookup key = some (.bytes data) ∧
        (data.length ≠ 0 ∧ data.length ≤ maxCborBytes) ∧
        ∀ n ∈ size, data.length = n := by
  simp only [requiredBytes, bind_eq_ok, getRequiredEntry_eq_ok_iff,
    readBytes_eq_ok_iff]
  constructor
  · rintro ⟨_, hlookup, rfl, hbound⟩
    exact ⟨hlookup, hbound⟩
  · rintro ⟨hlookup, hbound⟩
    exact ⟨_, hlookup, rfl, hbound⟩

variable {map} in
theorem requiredUint_eq_ok_iff {key : String} {n : Nat} :
    requiredUint map key = .ok n ↔
      map.lookup key = some (.uint n) ∧ n ≤ maxSafeInteger := by
  simp only [requiredUint, bind_eq_ok, getRequiredEntry_eq_ok_iff,
    readUint_eq_ok_iff]
  constructor
  · rintro ⟨_, hlookup, rfl, hle⟩
    exact ⟨hlookup, hle⟩
  · rintro ⟨hlookup, hle⟩
    exact ⟨_, hlookup, rfl, hle⟩

def requiredTimestamp (key : String) : Except String Nat := do
  let timestamp ← requiredUint map key
  throwIf (maxSafeInteger < timestamp) ("invalid_" ++ key)
  return timestamp

def readSender : Except String Sender := do
  rejectUnknownEntries map ["key_alg", "public_key"]
  let keyAlg ← requiredText map "key_alg"
  throwIf (keyAlg ≠ "ed25519") "invalid_sender"
  let publicKey ← requiredBytes map "public_key" (some 32)
  return { keyAlg, publicKey }

def readEnvelope (eventType : String) : Except String Envelope := do
  rejectUnknownEntries map envelopeKeys
  throwIf (hasEntry map "recipient_tag") "recipient_tag_present"
  let protocol ← requiredText map "protocol"
  throwIf (protocol ≠ protocolID) "unsupported_protocol"
  let type ← requiredText map "type"
  throwIf (type ≠ eventType) "unsupported_event_type"
  let payloadMode ← requiredText map "payload_mode"
  throwIf (payloadMode ≠ "public") "invalid_payload_mode"
  let signatureAlg ← requiredText map "signature_alg"
  throwIf (signatureAlg ≠ "ed25519") "invalid_signature_alg"
  let senderValue ← getRequiredEntry map "sender"
  let senderMap ← readCborMap senderValue "sender"
  let sender ← readSender senderMap
  let createdAt ← requiredTimestamp map "created_at"
  let expiresAt ← requiredTimestamp map "expires_at"
  throwIf (expiresAt ≤ createdAt) "expired"
  let eventID ← requiredBytes map "event_id" (some 32)
  let payloadBytes ← requiredBytes map "payload" none
  let signature ← requiredBytes map "signature" (some 64)
  return { protocol, eventID, eventType := type, sender, createdAt, expiresAt, payloadMode,
           payloadBytes, signatureAlg, signature }

end Envelope

/-- An option that is not given has a default. Only identity contacts have a minimal
sequence. -/
structure ValidationOptions where
  now : Option Int := none
  maxFutureSkewSeconds : Option Int := none
  supportedProfileMultihashes : Option (List String) := none
  minimumSequence : Option Nat := none

def defaultMaxFutureSkewSeconds : Int := 300

/-- From the bytes of a signed event to its envelope and the bytes under the signature. -/
def openSignedEvent (verify : List UInt8 → List UInt8 → List UInt8 → Bool)
    (eventType : String) (normalizedNow maxFutureSkewSeconds : Int)
    (signedEventBytes : List UInt8) : Except String (Envelope × List UInt8) := do
  throwIf (maxDraftEnvelopeBytes < signedEventBytes.length) "envelope_oversized"
  let decoded ← decodeCborForValidation signedEventBytes
  let envelopeMap ← readCborMap decoded "signed_event"
  let envelope ← readEnvelope envelopeMap eventType
  let canonicalSignedEventBytes ← encodeForValidation (signedEnvelopeEntries envelope)
  throwIf (canonicalSignedEventBytes ≠ signedEventBytes) "non_canonical_cbor"
  let unsignedBytes ← encodeForValidation (unsignedEnvelopeEntries envelope)
  let signatureInputBytes := Utf8.bytes signatureDomain ++ unsignedBytes
  throwIf (¬ verify envelope.sender.publicKey signatureInputBytes envelope.signature)
    "signature_invalid"
  throwIf ((envelope.expiresAt : Int) ≤ normalizedNow) "expired"
  throwIf (normalizedNow + maxFutureSkewSeconds < envelope.createdAt) "created_in_future"
  return (envelope, signatureInputBytes)

section TextSet

/-- The items behind those of `seen`, of which `previous` was the last. -/
def checkOrderedTexts (maxNameBytes : Nat) :
    List String → String → List String → Except String Unit
  | _, _, [] => .ok ()
  | seen, previous, item :: items => do
    throwIf (maxNameBytes < item.utf8ByteSize) "payload_invalid"
    throwIf (item ∈ seen ∨ Utf16.units item < Utf16.units previous) "payload_invalid"
    checkOrderedTexts maxNameBytes (item :: seen) item items

def readOrderedUniqueTextArray (maxNameBytes : Nat) (map : CborMap) (key : String)
    (maxItems : Nat) : Except String (List String) := do
  let value ← getRequiredEntry map key
  let values ← readTextArray value key maxItems
  checkOrderedTexts maxNameBytes [] "" values
  return values

def hasSupportedProfile (profileMultihashes supported : List String) : Bool :=
  profileMultihashes.any fun profileMultihash => profileMultihash ∈ supported

end TextSet

section Uri

/-- `/^[a-z][a-z0-9.+-]*$/` -/
def isTransport (transport : String) : Bool :=
  match transport.toList with
  | [] => false
  | c :: cs =>
    ('a' ≤ c && c ≤ 'z') &&
      cs.all fun c => ('a' ≤ c && c ≤ 'z') || ('0' ≤ c && c ≤ '9') ||
        c = '.' || c = '+' || c = '-'

/-- What the client reads of a `URL`. -/
structure URLParts where
  protocol : String
  hostname : String
  username : String
  password : String
  hash : String

/-- `:(\d+)` to the end. -/
def portDigits : List Char → Option (List Char)
  | ':' :: digits => if Protocol.isDigits digits then some digits else none
  | _ => none

def readExplicitPort (uri : String) : Option Nat :=
  if ¬ "wss://".toList <+: uri.toList then none
  else
    let authority := (uri.toList.drop 6).takeWhile fun c => c ≠ '/' && c ≠ '?' && c ≠ '#'
    if '@' ∈ authority then none
    else
      let digits :=
        match authority with
        | '[' :: rest =>
          let host := rest.takeWhile (· ≠ ']')
          if host = [] then none
          else
            match rest.dropWhile (· ≠ ']') with
            | ']' :: tail => portDigits tail
            | _ => none
        | _ =>
          if authority.takeWhile (· ≠ ':') = [] then none
          else portDigits (authority.dropWhile (· ≠ ':'))
      match digits with
      | none => none
      | some digits =>
        let port := Protocol.digitsValue digits
        if port ≤ maxSafeInteger then some port else none

def validateWssEndpointUri (newURL : String → Option URLParts) (uri : String) : Bool :=
  match readExplicitPort uri with
  | none => false
  | some port =>
    if port < 1 ∨ 65535 < port then false
    else
      match newURL uri with
      | none => false
      | some parsed =>
        parsed.protocol = "wss:" && parsed.hostname ≠ "" && parsed.username = "" &&
          parsed.password = "" && parsed.hash = ""

end Uri

/-- `names` are the codes that an error message may be. -/
def reasonFromError (names : List ValidationReason) (message : String) : ValidationReason :=
  if message = "invalid base64url" then .invalidBase64URL
  else
    match names.find? fun reason => reason.code = message with
    | some reason => reason
    | none =>
      if message.startsWith "unknown_" then .unknownField
      else if message.startsWith "invalid_payload" ∨ message.startsWith "missing_" then
        .payloadInvalid
      else .invalidCBOR

end Branch.Core
