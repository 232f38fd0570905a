import Branch.Core.SignedEvent

/-!
The manifest, the decisions and the chunks of an attachment.
-/

namespace Branch.Core

open Branch.Lib

def attachmentVersion : String := "branch.attachment/0.draft"
def attachmentSignatureDomain : String := "branch.attachment.signature/0.draft"
def maxAttachmentChunkBytes : Nat := 3072
def maxDirectAttachmentBytes : Nat := 16 * 1024 * 1024
def maxAttachmentTTLms : Nat := 15 * 60 * 1000
def maxAttachmentChunks : Nat := 8192

structure AttachmentManifest where
  version : String
  transferId : String
  manifestId : String
  issuedAt : Nat
  expiresAt : Nat
  fileName : JsString
  mediaType : JsString
  byteCount : Nat
  chunkBytes : Nat
  chunkCount : Nat
  sha256 : String
  signature : List UInt8
  deriving DecidableEq

structure AttachmentChunk where
  version : String
  transferId : String
  manifestId : String
  index : Nat
  bytes : List UInt8
  deriving DecidableEq

inductive AttachmentDecisionKind where
  | accept
  | reject
  | cancel
  deriving DecidableEq

def AttachmentDecisionKind.text : AttachmentDecisionKind → String
  | accept => "accept"
  | reject => "reject"
  | cancel => "cancel"

structure AttachmentDecision where
  version : String
  kind : AttachmentDecisionKind
  transferId : String
  manifestId : String
  issuedAt : Nat
  expiresAt : Nat
  signature : List UInt8
  deriving DecidableEq

def validToken (value : String) (size : Nat) : Bool :=
  match decodeBase64URL value.toList with
  | .error _ => false
  | .ok bytes => bytes.length = size

/-- `Math.ceil(count / size)` -/
def ceilDiv (count size : Nat) : Nat := (count + size - 1) / size

def validateManifest (value : AttachmentManifest) : Bool :=
  value.version = attachmentVersion && validToken value.transferId 16 &&
    validToken value.manifestId 32 && validToken value.sha256 32 && value.signature.length = 64 &&
    value.issuedAt < value.expiresAt && value.expiresAt - value.issuedAt ≤ maxAttachmentTTLms &&
    1 ≤ value.byteCount && value.byteCount ≤ maxDirectAttachmentBytes &&
    256 ≤ value.chunkBytes && value.chunkBytes ≤ maxAttachmentChunkBytes &&
    1 ≤ value.chunkCount && value.chunkCount ≤ maxAttachmentChunks &&
    value.chunkCount = ceilDiv value.byteCount value.chunkBytes &&
    (textEncode value.fileName).length ≠ 0 && (textEncode value.fileName).length ≤ 160 &&
    (textEncode value.mediaType).length ≠ 0 && (textEncode value.mediaType).length ≤ 128

def validateDecision (value : AttachmentDecision) : Bool :=
  value.version = attachmentVersion && validToken value.transferId 16 &&
    validToken value.manifestId 32 && value.signature.length = 64 &&
    value.issuedAt < value.expiresAt && value.expiresAt - value.issuedAt ≤ maxAttachmentTTLms

def validateChunk (value : AttachmentChunk) : Bool :=
  value.version = attachmentVersion && validToken value.transferId 16 &&
    validToken value.manifestId 32 && value.index ≤ maxSafeInteger && value.bytes.length ≠ 0 &&
    value.bytes.length ≤ maxAttachmentChunkBytes

def validateChunkForManifest (chunk : AttachmentChunk) (manifest : AttachmentManifest) : Bool :=
  validateChunk chunk && validateManifest manifest && chunk.transferId = manifest.transferId &&
    chunk.manifestId = manifest.manifestId && chunk.index < manifest.chunkCount &&
    chunk.bytes.length ≤ manifest.chunkBytes &&
    (manifest.chunkCount ≤ chunk.index + 1 || chunk.bytes.length = manifest.chunkBytes)

def signed (domain : String) (entries : CborMap) : Except String (List UInt8) := do
  let body ← encodeForValidation entries
  return Utf8.bytes (domain ++ "\x00") ++ body

def attachmentManifestSigningBytes (value : AttachmentManifest) :
    Except String (List UInt8) := do
  throwIf (¬ validateManifest value) "invalid attachment manifest"
  let transferId ← decodeBase64URL value.transferId.toList
  let manifestId ← decodeBase64URL value.manifestId.toList
  let sha256 ← decodeBase64URL value.sha256.toList
  signed attachmentSignatureDomain
    [("version", .text value.version), ("transfer_id", .bytes transferId),
     ("manifest_id", .bytes manifestId), ("issued_at", .uint value.issuedAt),
     ("expires_at", .uint value.expiresAt), ("file_name", .text (Utf16.text value.fileName)),
     ("media_type", .text (Utf16.text value.mediaType)), ("byte_count", .uint value.byteCount),
     ("chunk_bytes", .uint value.chunkBytes), ("chunk_count", .uint value.chunkCount),
     ("sha256", .bytes sha256)]

def attachmentDecisionSigningBytes (value : AttachmentDecision) :
    Except String (List UInt8) := do
  throwIf (¬ validateDecision value) "invalid attachment decision"
  let transferId ← decodeBase64URL value.transferId.toList
  let manifestId ← decodeBase64URL value.manifestId.toList
  signed attachmentSignatureDomain
    [("version", .text value.version), ("kind", .text value.kind.text),
     ("transfer_id", .bytes transferId), ("manifest_id", .bytes manifestId),
     ("issued_at", .uint value.issuedAt), ("expires_at", .uint value.expiresAt)]

abbrev ValidManifest := { manifest : AttachmentManifest // validateManifest manifest = true }

section Tokens

/-- The token is spelled as the encoder of tokens spells it. -/
def CanonicalToken (token : String) : Prop := ∃ bytes, token = Base64.encode bytes

theorem validToken_iff {token : String} {size : Nat} :
    validToken token size = true ↔
      ∃ bytes, decodeBase64URL token.toList = .ok bytes ∧ bytes.length = size := by
  unfold validToken
  cases decodeBase64URL token.toList <;> simp

theorem encode_eq_iff_canonical {token : String} {bytes : List UInt8}
    (h : decodeBase64URL token.toList = .ok bytes) :
    Base64.encode bytes = token ↔ CanonicalToken token := by
  constructor
  · exact fun heq => ⟨bytes, heq.symm⟩
  · rintro ⟨bytes', rfl⟩
    have hdecode := (decodeBase64URL_eq_ok_iff.mp h).2
    rw [Base64.encode, String.toList_ofList, Base64.decodeStrict_encodeBytes] at hdecode
    rw [Option.some.inj hdecode]

theorem decodeBase64URL_encode {bytes : List UInt8} (h : bytes.length ≠ 0) :
    decodeBase64URL (Base64.encode bytes).toList = .ok bytes := by
  rw [Base64.encode, String.toList_ofList, decodeBase64URL_eq_ok_iff]
  exact ⟨Base64.encodeBytes_ne_nil (List.ne_nil_of_length_pos (Nat.pos_of_ne_zero h)),
    Base64.decodeStrict_encodeBytes bytes⟩

theorem validToken_encode {bytes : List UInt8} {size : Nat} (h : bytes.length = size)
    (hpos : 0 < size) : validToken (Base64.encode bytes) size = true :=
  validToken_iff.mpr ⟨bytes, decodeBase64URL_encode (by omega), h⟩

end Tokens

end Branch.Core
