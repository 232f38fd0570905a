import Branch.Core.SignedEvent
import Branch.Lib.Increasing

/-!
What an application can do, as the client writes and reads it in the body of a control.
-/

namespace Branch.Core.ApplicationCapabilities

open Branch.Lib

def maxApplicationCapabilitiesBytes : Nat := 2048
def maxApplicationCapabilityIdentifiers : Nat := 16
def maxApplicationCapabilityIdentifierBytes : Nat := 96
def maxApplicationCapabilityInlineBytes : Nat := 3000
def maxApplicationCapabilityRelayAttachmentBytes : Nat := 4 * 1024 * 1024
def maxApplicationCapabilityDirectAttachmentBytes : Nat := 16 * 1024 * 1024

inductive AttachmentMode where
  | none
  | receiverAccept
  deriving DecidableEq

def AttachmentMode.text : AttachmentMode → String
  | none => "none"
  | receiverAccept => "receiver-accept"

structure Capabilities where
  applicationVersions : List String
  kinds : List String
  maxInlineBytes : Nat
  attachmentMode : AttachmentMode
  maxRelayAttachmentBytes : Nat
  maxDirectAttachmentBytes : Nat
  deriving DecidableEq

section Validators

def isASCIIIdentifier (value : String) : Bool :=
  let bytes := Utf8.bytes value
  0 < bytes.length && bytes.length ≤ maxApplicationCapabilityIdentifierBytes &&
    bytes.all fun byte => 0x21 ≤ byte && byte ≤ 0x7e

def validateOrderedIdentifiers (values : List String) (label : String) : Except String Unit := do
  throwIf (maxApplicationCapabilityIdentifiers < values.length) ("invalid " ++ label)
  checkIncreasing isASCIIIdentifier Utf16.units ("invalid " ++ label) none values

def validateApplicationCapabilities (value : Capabilities) : Except String Unit := do
  validateOrderedIdentifiers value.applicationVersions "application versions"
  validateOrderedIdentifiers value.kinds "application kinds"
  throwIf (maxApplicationCapabilityInlineBytes < value.maxInlineBytes ∨
    maxApplicationCapabilityRelayAttachmentBytes < value.maxRelayAttachmentBytes ∨
    maxApplicationCapabilityDirectAttachmentBytes < value.maxDirectAttachmentBytes)
    "invalid application capabilities"

end Validators

def capabilitiesMap (value : Capabilities) : CborMap :=
  [("application_versions", .array (value.applicationVersions.map .text)),
    ("kinds", .array (value.kinds.map .text)),
    ("max_inline_bytes", .uint value.maxInlineBytes),
    ("attachment_mode", .text value.attachmentMode.text),
    ("max_relay_attachment_bytes", .uint value.maxRelayAttachmentBytes),
    ("max_direct_attachment_bytes", .uint value.maxDirectAttachmentBytes)]

def encodeApplicationCapabilities (value : Capabilities) : Except String (List UInt8) := do
  validateApplicationCapabilities value
  let bytes ←
    (encodeDeterministicCbor (.map (capabilitiesMap value))).mapError CborError.message
  throwIf (maxApplicationCapabilitiesBytes < bytes.length)
    "application capabilities body too large"
  return bytes

section Decoder

def readOrderedIdentifiers (value : Cbor) (label : String) : Except String (List String) :=
  match value with
  | .array values => do
    throwIf (maxApplicationCapabilityIdentifiers < values.length) ("invalid " ++ label)
    let identifiers ← values.mapM fun item => readText item label
    validateOrderedIdentifiers identifiers label
    return identifiers
  | _ => .error ("invalid " ++ label)

def readAttachmentMode (attachmentMode : String) : Except String AttachmentMode :=
  if attachmentMode = "none" then .ok .none
  else if attachmentMode = "receiver-accept" then .ok .receiverAccept
  else .error "invalid attachment mode"

def capabilityKeys : List String :=
  ["application_versions", "kinds", "max_inline_bytes", "attachment_mode",
    "max_relay_attachment_bytes", "max_direct_attachment_bytes"]

def requiredIdentifiers (map : CborMap) (key : String) : Except String (List String) := do
  let value ← getRequiredEntry map key
  readOrderedIdentifiers value key

def decodeApplicationCapabilities (bytes : List UInt8) : Except String Capabilities := do
  throwIf (bytes.length = 0 ∨ maxApplicationCapabilitiesBytes < bytes.length)
    "invalid application capabilities body size"
  let decoded ← (decodeDeterministicCbor bytes maxApplicationCapabilitiesBytes).mapError
    CborError.message
  let map ← readCborMap decoded "application_capabilities"
  rejectUnknownEntries map capabilityKeys
  let mode ← requiredText map "attachment_mode"
  let applicationVersions ← requiredIdentifiers map "application_versions"
  let kinds ← requiredIdentifiers map "kinds"
  let maxInlineBytes ← requiredUint map "max_inline_bytes"
  let attachmentMode ← readAttachmentMode mode
  let maxRelayAttachmentBytes ← requiredUint map "max_relay_attachment_bytes"
  let maxDirectAttachmentBytes ← requiredUint map "max_direct_attachment_bytes"
  let value : Capabilities :=
    { applicationVersions, kinds, maxInlineBytes, attachmentMode, maxRelayAttachmentBytes
      maxDirectAttachmentBytes }
  validateApplicationCapabilities value
  return value

end Decoder

end Branch.Core.ApplicationCapabilities
