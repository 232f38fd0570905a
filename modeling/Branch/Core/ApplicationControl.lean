import Branch.Core.SignedEvent
import Branch.Lib.Table

/-!
Application controls: small signed messages of one client to another, and the checks that a
received one passes before its effects are handed on.
-/

namespace Branch.Core

open Branch.Lib

def applicationControlWireVersion : String := "branch.application-control/0.draft"
def applicationControlSignatureDomain : String := "branch.application-control.signature/0.draft"
def maxControlBytes : Nat := 4096
def maxControlKindBytes : Nat := 96
def maxControlBodyBytes : Nat := 2048

inductive ApplicationControlAuthentication where
  | none
  | ed25519
  deriving DecidableEq

inductive ApplicationControlEffectKind where
  | ephemeralProjection
  | messageMetadata
  | outboundControl
  deriving DecidableEq

structure ApplicationControlEnvelope where
  version : String
  kind : String
  controlId : String
  issuedAt : Nat
  expiresAt : Nat
  senderPeerId : String
  recipientPeerId : String
  body : List UInt8
  signature : List UInt8
  deriving DecidableEq

structure VerifiedApplicationControl (Body : Type) where
  envelope : ApplicationControlEnvelope
  body : Body

inductive ApplicationControlEffect where
  | ephemeralProjection (projection : String) (value : List UInt8) (expiresAt : Int)
  | messageMetadata (deliveryId state : String)
  | outboundControl (controlKind : String) (body : List UInt8) (expiresAt : Int)
  deriving DecidableEq

def ApplicationControlEffect.kind : ApplicationControlEffect → ApplicationControlEffectKind
  | ephemeralProjection .. => .ephemeralProjection
  | messageMetadata .. => .messageMetadata
  | outboundControl .. => .outboundControl

/-- What the receiver asks of a descriptor. Both functions may throw. -/
structure ApplicationControlDescriptor (Body : Type) where
  kind : String
  authentication : ApplicationControlAuthentication
  maximumTTLms : Int
  allowedEffects : List ApplicationControlEffectKind
  decodeBody : List UInt8 → Option Body
  reduce : VerifiedApplicationControl Body → Option (List ApplicationControlEffect)

/-- The ports of one call, up to the verification and the replay memory. -/
structure ApplicationControlPorts where
  now : Int
  localPeerId : String
  isKnownContact : String → Bool
  isAllowed : String → String → Bool
  maxClockSkewMs : Int

inductive ApplicationControlRejection where
  | malformed
  | unknownKind
  | recipientMismatch
  | unknownContact
  | expired
  | futureIssued
  | ttlExceeded
  | replay
  | policyDenied
  | signatureInvalid
  | bodyInvalid
  | effectForbidden
  deriving DecidableEq

inductive ApplicationControlResult where
  | accepted (effects : List ApplicationControlEffect)
  | rejected (reason : ApplicationControlRejection)
  deriving DecidableEq

section Registry

variable {Body : Type}

abbrev ApplicationControlRegistry (Body : Type) :=
  Table String (ApplicationControlDescriptor Body)

def validateDescriptor (descriptor : ApplicationControlDescriptor Body) : Except String Unit :=
  throwIf (descriptor.kind.utf8ByteSize = 0 ∨ maxControlKindBytes < descriptor.kind.utf8ByteSize ∨
      descriptor.maximumTTLms ≤ 0 ∨ (maxSafeInteger : Int) < descriptor.maximumTTLms)
    "invalid application control descriptor"

def registerControl (registry : ApplicationControlRegistry Body)
    (descriptor : ApplicationControlDescriptor Body) :
    Except String (ApplicationControlRegistry Body) := do
  validateDescriptor descriptor
  throwIf ((registry.get? descriptor.kind).isSome) "duplicate application control descriptor"
  return registry.insert descriptor.kind descriptor

def createApplicationControlRegistry (descriptors : List (ApplicationControlDescriptor Body)) :
    Except String (ApplicationControlRegistry Body) :=
  descriptors.foldlM registerControl Table.empty

end Registry

section Codec

def isBase64URLBytes (value : String) (size : Nat) : Bool :=
  match decodeBase64URL value.toList with
  | .ok bytes => bytes.length = size
  | .error _ => false

def requireBase64URLBytes (value : String) (size : Nat) (label : String) :
    Except String Unit :=
  throwIf (¬ isBase64URLBytes value size) ("invalid " ++ label)

def boundedBody (value : List UInt8) : Except String (List UInt8) := do
  throwIf (value.length = 0 ∨ maxControlBodyBytes < value.length) "invalid application control body"
  return value

def readBytesOrEmpty (value : Cbor) (label : String) : Except String (List UInt8) :=
  match value with
  | .bytes data => if 64 < data.length then .error ("invalid " ++ label) else .ok data
  | _ => .error ("invalid " ++ label)

variable (map : CborMap)

def readVersion : Except String String := do
  let version ← requiredText map "version"
  throwIf (version ≠ applicationControlWireVersion) "unsupported application control version"
  return version

def readKind : Except String String := do
  let kind ← requiredText map "kind"
  throwIf (maxControlKindBytes < kind.utf8ByteSize) "invalid application control kind"
  return kind

def validateEnvelope (envelope : ApplicationControlEnvelope) : Except String Unit := do
  throwIf (envelope.version ≠ applicationControlWireVersion ∨ envelope.kind.utf8ByteSize = 0 ∨
      maxControlKindBytes < envelope.kind.utf8ByteSize ∨ envelope.expiresAt ≤ envelope.issuedAt)
    "invalid application control envelope"
  requireBase64URLBytes envelope.controlId 16 "control id"
  requireBase64URLBytes envelope.senderPeerId 32 "sender peer id"
  requireBase64URLBytes envelope.recipientPeerId 32 "recipient peer id"
  let _ ← boundedBody envelope.body
  throwIf (envelope.signature.length ≠ 0 ∧ envelope.signature.length ≠ 64)
    "invalid application control signature"

def envelopeMap (envelope : ApplicationControlEnvelope) (includeSignature : Bool) :
    Except String CborMap := do
  let controlId ← decodeBase64URL envelope.controlId.toList
  let senderPeerId ← decodeBase64URL envelope.senderPeerId.toList
  let recipientPeerId ← decodeBase64URL envelope.recipientPeerId.toList
  return [("version", .text envelope.version),
    ("kind", .text envelope.kind),
    ("control_id", .bytes controlId),
    ("issued_at", .uint envelope.issuedAt),
    ("expires_at", .uint envelope.expiresAt),
    ("sender_peer_id", .bytes senderPeerId),
    ("recipient_peer_id", .bytes recipientPeerId),
    ("body", .bytes envelope.body)] ++
    if includeSignature then [("signature", .bytes envelope.signature)] else []

def encodeApplicationControl (envelope : ApplicationControlEnvelope) :
    Except String (List UInt8) := do
  validateEnvelope envelope
  let entries ← envelopeMap envelope true
  (encodeDeterministicCbor (.map entries)).mapError CborError.message

def applicationControlSigningBytes (envelope : ApplicationControlEnvelope) :
    Except String (List UInt8) := do
  let entries ← envelopeMap envelope false
  let unsigned ← (encodeDeterministicCbor (.map entries)).mapError CborError.message
  return Utf8.bytes (applicationControlSignatureDomain ++ "\u0000") ++ unsigned

def applicationControlKeys : List String :=
  ["version", "kind", "control_id", "issued_at", "expires_at", "sender_peer_id",
    "recipient_peer_id", "body", "signature"]

def decodeApplicationControl (bytes : List UInt8) :
    Except String ApplicationControlEnvelope := do
  throwIf (bytes.length = 0 ∨ maxControlBytes < bytes.length) "invalid application control size"
  let decoded ← (decodeDeterministicCbor bytes maxControlBytes).mapError CborError.message
  let map ← readCborMap decoded "application_control"
  rejectUnknownEntries map applicationControlKeys
  let version ← readVersion map
  let kind ← readKind map
  let controlId ← requiredBytes map "control_id" (some 16)
  let issuedAt ← requiredUint map "issued_at"
  let expiresAt ← requiredUint map "expires_at"
  let senderPeerId ← requiredBytes map "sender_peer_id" (some 32)
  let recipientPeerId ← requiredBytes map "recipient_peer_id" (some 32)
  let bodyBytes ← requiredBytes map "body" none
  let body ← boundedBody bodyBytes
  let signatureValue ← getRequiredEntry map "signature"
  let signature ← readBytesOrEmpty signatureValue "signature"
  let envelope : ApplicationControlEnvelope :=
    { version, kind, controlId := Base64.encode controlId, issuedAt, expiresAt
      senderPeerId := Base64.encode senderPeerId
      recipientPeerId := Base64.encode recipientPeerId, body, signature }
  validateEnvelope envelope
  return envelope

end Codec

section Effects

def effectIsBounded (envelopeExpiry : Nat) : ApplicationControlEffect → Bool
  | .ephemeralProjection projection value expiresAt =>
    0 < (Utf16.units projection).length && value.length ≤ maxControlBodyBytes &&
      0 < expiresAt && expiresAt ≤ envelopeExpiry
  | .messageMetadata deliveryId state =>
    isBase64URLBytes deliveryId 16 && 0 < (Utf16.units state).length &&
      (Utf16.units state).length ≤ 64
  | .outboundControl controlKind body expiresAt =>
    0 < (Utf16.units controlKind).length &&
      (Utf16.units controlKind).length ≤ maxControlKindBytes &&
      body.length ≤ maxControlBodyBytes && 0 < expiresAt && expiresAt ≤ envelopeExpiry

def effectsAreBounded (effects : List ApplicationControlEffect) (envelopeExpiry : Nat) : Bool :=
  effects.length ≤ 4 && effects.all (effectIsBounded envelopeExpiry)

end Effects

inductive ControlAnswer where
  | verifying
  | returned (result : ApplicationControlResult)
  | thrown
  deriving DecidableEq

structure VerifyingControl (Body : Type) where
  envelope : ApplicationControlEnvelope
  descriptor : ApplicationControlDescriptor Body
  signatureInput : List UInt8

structure ControlRuntime (Body : Type) where
  replay : Table String Nat := Table.empty
  verifying : List (VerifyingControl Body) := []

namespace ControlRuntime

variable {Body : Type}

/-- What `processApplicationControl` checks before it looks at the signature. -/
def checkControl (runtime : ControlRuntime Body) (bytes : List UInt8)
    (registry : ApplicationControlRegistry Body) (ports : ApplicationControlPorts) :
    Except ApplicationControlRejection
      (ApplicationControlEnvelope × ApplicationControlDescriptor Body) := do
  let envelope ← (decodeApplicationControl bytes).mapError fun _ => .malformed
  match registry.get? envelope.kind with
  | none => throw .unknownKind
  | some descriptor =>
    throwIf (envelope.recipientPeerId ≠ ports.localPeerId) .recipientMismatch
    throwIf (¬ ports.isKnownContact envelope.senderPeerId) .unknownContact
    throwIf ((envelope.expiresAt : Int) ≤ ports.now) .expired
    throwIf (ports.now + ports.maxClockSkewMs < envelope.issuedAt) .futureIssued
    throwIf (descriptor.maximumTTLms < (envelope.expiresAt : Int) - envelope.issuedAt) .ttlExceeded
    throwIf ((runtime.replay.get? envelope.controlId).isSome) .replay
    throwIf (¬ ports.isAllowed envelope.kind envelope.senderPeerId) .policyDenied
    return (envelope, descriptor)

/-- What is left of `processApplicationControl` behind the signature. -/
def reduceControl (runtime : ControlRuntime Body) (envelope : ApplicationControlEnvelope)
    (descriptor : ApplicationControlDescriptor Body) : ControlRuntime Body × ControlAnswer :=
  match descriptor.decodeBody envelope.body with
  | none => (runtime, .returned (.rejected .bodyInvalid))
  | some body =>
    match descriptor.reduce { envelope, body } with
    | none => (runtime, .thrown)
    | some effects =>
      if ¬ (effects.all (fun effect => effect.kind ∈ descriptor.allowedEffects) &&
          effectsAreBounded effects envelope.expiresAt) then
        (runtime, .returned (.rejected .effectForbidden))
      else
        ({ runtime with replay := runtime.replay.insert envelope.controlId envelope.expiresAt },
          .returned (.accepted effects))

/-- A call as far as it goes before it waits for the verification of a signature. -/
def processApplicationControl (runtime : ControlRuntime Body) (bytes : List UInt8)
    (registry : ApplicationControlRegistry Body) (ports : ApplicationControlPorts) :
    ControlRuntime Body × ControlAnswer :=
  match runtime.checkControl bytes registry ports with
  | .error reason => (runtime, .returned (.rejected reason))
  | .ok (envelope, descriptor) =>
    match descriptor.authentication with
    | .ed25519 =>
      match applicationControlSigningBytes envelope with
      | .error _ => (runtime, .thrown)
      | .ok signatureInput =>
        ({ runtime with
            verifying := runtime.verifying ++ [{ envelope, descriptor, signatureInput }] },
          .verifying)
    | .none =>
      if envelope.signature.length ≠ 0 then (runtime, .returned (.rejected .signatureInvalid))
      else runtime.reduceControl envelope descriptor

/-- The rest of a call that waited: the verification came back, or failed. -/
def resume (runtime : ControlRuntime Body) (call : VerifyingControl Body)
    (verified : Option Bool) : ControlRuntime Body × ControlAnswer :=
  match verified with
  | none => (runtime, .thrown)
  | some false => (runtime, .returned (.rejected .signatureInvalid))
  | some true => runtime.reduceControl call.envelope call.descriptor

end ControlRuntime

/-- `forget` is the host that drops controls from its memory, those that expired or those that
are too many. -/
inductive ControlEvent (Body : Type) where
  | receive (bytes : List UInt8) (registry : ApplicationControlRegistry Body)
      (ports : ApplicationControlPorts)
  | resume (position : Nat) (verified : Option Bool)
  | forget (kept : String → Nat → Bool)

namespace ControlRuntime

variable {Body : Type}

def step (runtime : ControlRuntime Body) :
    ControlEvent Body → ControlRuntime Body × Option ControlAnswer
  | .receive bytes registry ports =>
    let answer := runtime.processApplicationControl bytes registry ports
    (answer.1, some answer.2)
  | .resume position verified =>
    match runtime.verifying[position]? with
    | none => (runtime, none)
    | some call =>
      let answer := resume { runtime with verifying := runtime.verifying.eraseIdx position }
        call verified
      (answer.1, some answer.2)
  | .forget kept => ({ runtime with replay := runtime.replay.filter kept }, none)

def next (runtime : ControlRuntime Body) (event : ControlEvent Body) : ControlRuntime Body :=
  (runtime.step event).1

end ControlRuntime

end Branch.Core
