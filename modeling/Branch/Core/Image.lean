import Branch.Core.Attachment
import Branch.Core.IdentityContact

/-!
The manifest and the chunks of an image that is too large for one message.
-/

namespace Branch.Core

open Branch.Lib

def imageTransferVersion : String := "branch.image-transfer/0.draft"
def maxImageTransferChunkBytes : Nat := 3072
def maxImageTransferChunks : Nat := 8192
def maxImageDirectBytes : Nat := 16 * 1024 * 1024
def maxImageTransferTTLms : Nat := 15 * 60 * 1000
def maxImageWidth : Nat := 4096
def maxImageHeight : Nat := 4096
def maxImagePixels : Nat := 16 * 1024 * 1024
def maxImageCaptionBytes : Nat := 1024

structure ImageTransferManifest where
  version : String
  transferId : String
  manifestId : String
  messageId : String
  issuedAt : Nat
  expiresAt : Nat
  mediaType : String
  width : Nat
  height : Nat
  byteCount : Nat
  chunkBytes : Nat
  chunkCount : Nat
  sha256 : String
  signature : List UInt8
  caption : Option JsString := none
  replyToMessageId : Option String := none
  deriving DecidableEq

structure ImageTransferChunk where
  version : String
  transferId : String
  manifestId : String
  index : Nat
  bytes : List UInt8
  deriving DecidableEq

def isRasterImageMediaType (value : String) : Bool :=
  value = "image/jpeg" || value = "image/png" || value = "image/webp"

def validateImageShape (mediaType : String) (width height : Nat) : Bool :=
  isRasterImageMediaType mediaType && 1 ≤ width && width ≤ maxImageWidth &&
    1 ≤ height && height ≤ maxImageHeight && width * height ≤ maxImagePixels

def validateCaption (value : Option JsString) : Bool :=
  match value with
  | none => true
  | some caption =>
    (textEncode caption).length ≤ maxImageCaptionBytes &&
      Text.strip isSpace (Utf16.decode caption) ≠ []

def validateImageTransferManifest (manifest : ImageTransferManifest) : Bool :=
  validateImageShape manifest.mediaType manifest.width manifest.height &&
    validateCaption manifest.caption && manifest.version = imageTransferVersion &&
    validToken manifest.transferId 16 && validToken manifest.manifestId 32 &&
    validToken manifest.messageId 16 && validToken manifest.sha256 32 &&
    (manifest.replyToMessageId.all fun target => validToken target 16) &&
    manifest.signature.length = 64 && manifest.issuedAt ≤ maxSafeInteger &&
    manifest.expiresAt ≤ maxSafeInteger && manifest.issuedAt < manifest.expiresAt &&
    manifest.expiresAt - manifest.issuedAt ≤ maxImageTransferTTLms &&
    1 ≤ manifest.byteCount && manifest.byteCount ≤ maxImageDirectBytes &&
    256 ≤ manifest.chunkBytes && manifest.chunkBytes ≤ maxImageTransferChunkBytes &&
    1 ≤ manifest.chunkCount && manifest.chunkCount ≤ maxImageTransferChunks &&
    manifest.chunkCount = ceilDiv manifest.byteCount manifest.chunkBytes

def validateImageTransferChunk (chunk : ImageTransferChunk) : Bool :=
  chunk.version = imageTransferVersion && validToken chunk.transferId 16 &&
    validToken chunk.manifestId 32 && chunk.index ≤ maxSafeInteger && chunk.bytes.length ≠ 0 &&
    chunk.bytes.length ≤ maxImageTransferChunkBytes

def validateImageTransferChunkForManifest (chunk : ImageTransferChunk)
    (manifest : ImageTransferManifest) : Bool :=
  validateImageTransferChunk chunk && validateImageTransferManifest manifest &&
    chunk.transferId = manifest.transferId && chunk.manifestId = manifest.manifestId &&
    chunk.index < manifest.chunkCount && chunk.bytes.length ≤ manifest.chunkBytes &&
    (manifest.chunkCount ≤ chunk.index + 1 || chunk.bytes.length = manifest.chunkBytes)

abbrev ValidImageManifest :=
  { manifest : ImageTransferManifest // validateImageTransferManifest manifest = true }

end Branch.Core
