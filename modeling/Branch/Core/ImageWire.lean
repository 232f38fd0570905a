import Branch.Core.AttachmentWire
import Branch.Core.Image

/-!
How images in a message, the manifests and chunks of larger images and the capabilities of a
receiver of images are written and read, and what comes back of them.
-/

namespace Branch.Core.ImageWire

open Branch.Lib FlatRecords AttachmentWire

def imageMessageVersion : String := "branch.image-message/0.draft"
def imageTransferSignatureDomain : String := "branch.image-transfer.signature/0.draft"
def maxInlineImageBytes : Nat := 2800
def maxInlineImageBodyBytes : Nat := 3000
def maxImageTransferChunkBodyBytes : Nat := 4096
def maxImageTransferManifestBodyBytes : Nat := 2048
def maxImageRelayBytes : Nat := 4 * 1024 * 1024
def maxImageCapabilitiesBytes : Nat := 512

structure InlineImage where
  version : String
  mediaType : String
  width : Nat
  height : Nat
  bytes : List UInt8
  caption : Option JsString := none
  replyToMessageId : Option String := none
  deriving DecidableEq

structure ImageCapabilities where
  version : String
  maxInlineBytes : Nat
  maxRelayBytes : Nat
  maxDirectBytes : Nat
  maxWidth : Nat
  maxHeight : Nat
  maxPixels : Nat
  deriving DecidableEq

section Checks

def hasRasterImageMagic (mediaType : String) (bytes : List UInt8) : Bool :=
  if mediaType = "image/jpeg" then [0xff, 0xd8, 0xff].isPrefixOf bytes
  else if mediaType = "image/png" then
    [0x89, 0x50, 0x4e, 0x47, 0x0d, 0x0a, 0x1a, 0x0a].isPrefixOf bytes
  else if mediaType = "image/webp" then
    [0x52, 0x49, 0x46, 0x46].isPrefixOf bytes &&
      [0x57, 0x45, 0x42, 0x50].isPrefixOf (bytes.drop 8)
  else false

def checkInlineImage (image : InlineImage) : Except String Unit := do
  throwIf (¬ validateImageShape image.mediaType image.width image.height) "invalid image shape"
  throwIf (image.version ≠ imageMessageVersion ∨ image.bytes.length = 0 ∨
    maxInlineImageBytes < image.bytes.length ∨ ¬ hasRasterImageMagic image.mediaType image.bytes)
    "invalid inline image"
  throwIf (¬ validateCaption image.caption) "invalid image caption"
  throwIf (¬ image.replyToMessageId.all fun target => validToken target 16)
    "invalid inline image reply target"

def checkImageTransferManifest (manifest : ImageTransferManifest) : Except String Unit := do
  throwIf (¬ validateImageShape manifest.mediaType manifest.width manifest.height)
    "invalid image shape"
  throwIf (¬ validateCaption manifest.caption) "invalid image caption"
  throwIf (¬ validateImageTransferManifest manifest) "invalid image transfer manifest"

def checkImageTransferChunk (chunk : ImageTransferChunk) : Except String Unit :=
  throwIf (¬ validateImageTransferChunk chunk) "invalid image transfer chunk"

def isBoundedInteger (value minimum maximum : Nat) : Bool :=
  value ≤ maxSafeInteger && minimum ≤ value && value ≤ maximum

def validateImageCapabilities (capabilities : ImageCapabilities) : Bool :=
  capabilities.version = imageMessageVersion &&
    isBoundedInteger capabilities.maxInlineBytes 0 maxInlineImageBytes &&
    isBoundedInteger capabilities.maxRelayBytes 0 maxImageRelayBytes &&
    isBoundedInteger capabilities.maxDirectBytes 0 maxImageDirectBytes &&
    isBoundedInteger capabilities.maxWidth 1 maxImageWidth &&
    isBoundedInteger capabilities.maxHeight 1 maxImageHeight &&
    isBoundedInteger capabilities.maxPixels 1 maxImagePixels &&
    capabilities.maxPixels ≤ capabilities.maxWidth * capabilities.maxHeight

def checkImageCapabilities (capabilities : ImageCapabilities) : Except String Unit :=
  throwIf (¬ validateImageCapabilities capabilities) "invalid image capabilities"

end Checks

section Encoder

def captionEntries (caption : Option JsString) : CborMap :=
  caption.toList.map fun value => ("caption", .text (Utf16.text value))

def replyEntries (target : Option (List UInt8)) : CborMap :=
  target.toList.map fun value => ("reply_to_message_id", .bytes value)

def decodeReply (target : Option String) : Except String (Option (List UInt8)) :=
  match target with
  | none => .ok none
  | some value => do
    let bytes ← decodeBase64URL value.toList
    return some bytes

def inlineMap (image : InlineImage) : Except String CborMap := do
  let target ← decodeReply image.replyToMessageId
  return [("version", .text image.version), ("media_type", .text image.mediaType),
    ("width", .uint image.width), ("height", .uint image.height),
    ("bytes", .bytes image.bytes)] ++ captionEntries image.caption ++ replyEntries target

def baseManifest (value : ImageTransferManifest) : Except String CborMap := do
  let transferId ← decodeBase64URL value.transferId.toList
  let manifestId ← decodeBase64URL value.manifestId.toList
  let messageId ← decodeBase64URL value.messageId.toList
  let sha256 ← decodeBase64URL value.sha256.toList
  let target ← decodeReply value.replyToMessageId
  return [("version", .text value.version), ("transfer_id", .bytes transferId),
    ("manifest_id", .bytes manifestId), ("message_id", .bytes messageId),
    ("issued_at", .uint value.issuedAt), ("expires_at", .uint value.expiresAt),
    ("media_type", .text value.mediaType), ("width", .uint value.width),
    ("height", .uint value.height), ("byte_count", .uint value.byteCount),
    ("chunk_bytes", .uint value.chunkBytes), ("chunk_count", .uint value.chunkCount),
    ("sha256", .bytes sha256)] ++ captionEntries value.caption ++ replyEntries target

def imageChunkMap (value : ImageTransferChunk) : Except String CborMap := do
  let transferId ← decodeBase64URL value.transferId.toList
  let manifestId ← decodeBase64URL value.manifestId.toList
  return chunkRecord value.version transferId manifestId value.index value.bytes

def capabilitiesMap (value : ImageCapabilities) : CborMap :=
  [("version", .text value.version), ("max_inline_bytes", .uint value.maxInlineBytes),
    ("max_relay_bytes", .uint value.maxRelayBytes),
    ("max_direct_bytes", .uint value.maxDirectBytes), ("max_width", .uint value.maxWidth),
    ("max_height", .uint value.maxHeight), ("max_pixels", .uint value.maxPixels)]

def boundedEncoding (entries : CborMap) (maximumBytes : Nat) (tooLarge : String) :
    Except String (List UInt8) := do
  let bytes ← encodeMap entries
  throwIf (maximumBytes < bytes.length) tooLarge
  return bytes

def encodeInlineImage (image : InlineImage) : Except String (List UInt8) := do
  checkInlineImage image
  let entries ← inlineMap image
  boundedEncoding entries maxInlineImageBodyBytes "inline image body too large"

def encodeImageTransferManifest (manifest : ImageTransferManifest) :
    Except String (List UInt8) := do
  checkImageTransferManifest manifest
  let entries ← baseManifest manifest
  boundedEncoding (entries ++ [("signature", .bytes manifest.signature)])
    maxImageTransferManifestBodyBytes "image transfer manifest body too large"

def imageTransferManifestSigningBytes (manifest : ImageTransferManifest) :
    Except String (List UInt8) := do
  checkImageTransferManifest manifest
  let entries ← baseManifest manifest
  signed imageTransferSignatureDomain entries

def encodeImageTransferChunk (chunk : ImageTransferChunk) : Except String (List UInt8) := do
  checkImageTransferChunk chunk
  let entries ← imageChunkMap chunk
  encodeMap entries

def encodeImageCapabilities (capabilities : ImageCapabilities) : Except String (List UInt8) := do
  checkImageCapabilities capabilities
  boundedEncoding (capabilitiesMap capabilities) maxImageCapabilitiesBytes
    "image capabilities body too large"

end Encoder

section Decoder

variable (map : CborMap)

def readImageMessageVersion : Except String String :=
  FlatRecords.readVersion map imageMessageVersion "unsupported image message version"

def readImageTransferVersion : Except String String :=
  FlatRecords.readVersion map imageTransferVersion "unsupported image transfer version"

def readRasterMediaType (key : String) : Except String String := do
  let value ← requiredText map key
  throwIf (¬ isRasterImageMediaType value) "unsupported image media type"
  return value

def readCaption (key : String) : Except String JsString := do
  let value ← jsText map key
  throwIf (¬ validateCaption (some value)) "invalid image caption"
  return value

def ifEntry {α : Type} (key : String) (read : Except String α) : Except String (Option α) :=
  if hasEntry map key then do
    let value ← read
    return some value
  else return none

def readInlineImage : Except String InlineImage := do
  let version ← readImageMessageVersion map
  let mediaType ← readRasterMediaType map "media_type"
  let width ← requiredUint map "width"
  let height ← requiredUint map "height"
  let bytes ← requiredBytes map "bytes" none
  let caption ← ifEntry map "caption" (readCaption map "caption")
  let replyToMessageId ←
    ifEntry map "reply_to_message_id" (token map "reply_to_message_id" 16)
  return { version, mediaType, width, height, bytes, caption, replyToMessageId }

def readImageTransferManifest : Except String ImageTransferManifest := do
  let version ← readImageTransferVersion map
  let transferId ← token map "transfer_id" 16
  let manifestId ← token map "manifest_id" 32
  let messageId ← token map "message_id" 16
  let issuedAt ← requiredUint map "issued_at"
  let expiresAt ← requiredUint map "expires_at"
  let mediaType ← readRasterMediaType map "media_type"
  let width ← requiredUint map "width"
  let height ← requiredUint map "height"
  let byteCount ← requiredUint map "byte_count"
  let chunkBytes ← requiredUint map "chunk_bytes"
  let chunkCount ← requiredUint map "chunk_count"
  let sha256 ← token map "sha256" 32
  let signature ← requiredBytes map "signature" (some 64)
  let caption ← ifEntry map "caption" (readCaption map "caption")
  let replyToMessageId ←
    ifEntry map "reply_to_message_id" (token map "reply_to_message_id" 16)
  return { version, transferId, manifestId, messageId, issuedAt, expiresAt, mediaType, width
           height, byteCount, chunkBytes, chunkCount, sha256, signature, caption
           replyToMessageId }

def readImageTransferChunk : Except String ImageTransferChunk := do
  let version ← readImageTransferVersion map
  let transferId ← token map "transfer_id" 16
  let manifestId ← token map "manifest_id" 32
  let index ← requiredUint map "index"
  let bytes ← requiredBytes map "bytes" none
  return { version, transferId, manifestId, index, bytes }

def readImageCapabilities : Except String ImageCapabilities := do
  let version ← readImageMessageVersion map
  let maxInlineBytes ← requiredUint map "max_inline_bytes"
  let maxRelayBytes ← requiredUint map "max_relay_bytes"
  let maxDirectBytes ← requiredUint map "max_direct_bytes"
  let maxWidth ← requiredUint map "max_width"
  let maxHeight ← requiredUint map "max_height"
  let maxPixels ← requiredUint map "max_pixels"
  return { version, maxInlineBytes, maxRelayBytes, maxDirectBytes, maxWidth, maxHeight
           maxPixels }

def inlineNames : List String :=
  ["version", "media_type", "width", "height", "bytes", "caption", "reply_to_message_id"]

def imageManifestNames : List String :=
  ["version", "transfer_id", "manifest_id", "message_id", "issued_at", "expires_at",
    "media_type", "width", "height", "byte_count", "chunk_bytes", "chunk_count", "sha256",
    "signature", "caption", "reply_to_message_id"]

def capabilitiesNames : List String :=
  ["version", "max_inline_bytes", "max_relay_bytes", "max_direct_bytes", "max_width",
    "max_height", "max_pixels"]

def decodeInlineImage (bytes : List UInt8) : Except String InlineImage := do
  let map ← strictMap bytes "invalid inline image size" "inline_image" maxInlineImageBodyBytes
    inlineNames
  let value ← readInlineImage map
  checkInlineImage value
  return value

def decodeImageTransferManifest (bytes : List UInt8) : Except String ImageTransferManifest := do
  let map ← strictMap bytes "invalid image transfer manifest size" "image_transfer_manifest"
    maxImageTransferManifestBodyBytes imageManifestNames
  let value ← readImageTransferManifest map
  checkImageTransferManifest value
  return value

def decodeImageTransferChunk (bytes : List UInt8) : Except String ImageTransferChunk := do
  let map ← strictMap bytes "invalid image transfer chunk size" "image_transfer_chunk"
    maxImageTransferChunkBodyBytes chunkNames
  let value ← readImageTransferChunk map
  checkImageTransferChunk value
  return value

def decodeImageCapabilities (bytes : List UInt8) : Except String ImageCapabilities := do
  let map ← strictMap bytes "invalid image capabilities size" "image_capabilities"
    maxImageCapabilitiesBytes capabilitiesNames
  let value ← readImageCapabilities map
  checkImageCapabilities value
  return value

end Decoder

section Optional

variable {caption : Option JsString} {target : Option (List UInt8)}

theorem short_optionalEntries (hcaption : validateCaption caption = true)
    (htarget : ∀ bytes ∈ target, bytes.length = 16) :
    ∀ entry ∈ captionEntries caption ++ replyEntries target, Short entry.2 := by
  have hmaxBytes : maxCborBytes = 49152 := rfl
  rw [List.forall_mem_append]
  constructor
  · intro entry hentry
    obtain ⟨value, hvalue, rfl⟩ := List.mem_map.mp hentry
    obtain rfl := Option.mem_toList.mp hvalue
    simp only [validateCaption, Bool.and_eq_true, decide_eq_true_eq] at hcaption
    rw [textEncode, Utf8.length_bytes] at hcaption
    exact hcaption.1
  · intro entry hentry
    obtain ⟨bytes, hbytes, rfl⟩ := List.mem_map.mp hentry
    have hlength := htarget bytes (Option.mem_toList.mp hbytes)
    show bytes.length ≤ maxCborBytes
    omega

theorem unmarked_optionalEntries :
    Unmarked (captionEntries caption ++ replyEntries target) ↔
      ∀ value ∈ caption, ¬ Utf8.Marked (Utf16.text value) := by
  rw [unmarked_append]
  cases caption <;> cases target <;> simp [Unmarked, captionEntries, replyEntries]

theorem keys_optionalEntries :
    ((captionEntries caption ++ replyEntries target).map Prod.fst).Sublist
      ["caption", "reply_to_message_id"] := by
  cases caption <;> cases target <;> simp [captionEntries, replyEntries]

theorem validateCaption_respell (h : validateCaption caption = true) :
    validateCaption (caption.map fun value => Utf16.units (Utf16.text value)) = true := by
  cases caption with
  | none => rfl
  | some value =>
    have hdecode : Utf16.decode (Utf16.units (Utf16.text value)) = Utf16.decode value := by
      have htext := text_units (Utf16.text value)
      rw [Utf16.text, Utf16.text, String.ofList_inj] at htext
      exact htext
    simp only [Option.map_some, validateCaption, textEncode_respell, hdecode] at h ⊢
    exact h

variable {reply : Option String}

theorem exists_decodeReply
    (h : (reply.all fun target => validToken target 16) = true) :
    ∃ target, decodeReply reply = .ok target ∧ (∀ bytes ∈ target, bytes.length = 16) ∧
      reply.map respellToken = target.map Base64.encode := by
  cases reply with
  | none => exact ⟨none, rfl, by simp, rfl⟩
  | some value =>
    obtain ⟨bytes, hdecode, hlength⟩ := validToken_iff.mp h
    refine ⟨some bytes, ?_, by simpa using hlength, ?_⟩
    · rw [decodeReply, hdecode]
      rfl
    · rw [Option.map_some, respellToken_of_decode hdecode, Option.map_some]

theorem decodeReply_respell
    (h : (reply.all fun target => validToken target 16) = true) :
    decodeReply (reply.map respellToken) = decodeReply reply := by
  cases reply with
  | none => rfl
  | some value =>
    have hvalid : validToken value 16 = true := h
    rw [Option.map_some, decodeReply, decode_respellToken hvalid (by omega), decodeReply]

theorem respellCaption_eq_iff :
    (caption.map fun value => Utf16.units (Utf16.text value)) = caption ↔
      ∀ value ∈ caption, Utf16.paired value = true := by
  cases caption with
  | none => simp
  | some value => simp [Utf16.units_text_eq_iff]

theorem respellReply_eq_iff
    (h : (reply.all fun target => validToken target 16) = true) :
    reply.map respellToken = reply ↔ ∀ value ∈ reply, CanonicalToken value := by
  cases reply with
  | none => simp
  | some value =>
    have hvalid : validToken value 16 = true := h
    simp [respellToken_eq_iff hvalid]

theorem all_validToken_respell
    (h : (reply.all fun target => validToken target 16) = true) :
    ((reply.map respellToken).all fun target => validToken target 16) = true := by
  cases reply with
  | none => rfl
  | some value => exact validToken_respellToken h (by omega)

variable {record : CborMap} (hkeys : GoodKeys (record.map Prod.fst))
include hkeys

theorem ifCaption_inKeyOrder (hcaption : validateCaption caption = true)
    (h : record.lookup "caption" = caption.map fun value => .text (Utf16.text value)) :
    ifEntry (Cbor.inKeyOrder record) "caption"
        (readCaption (Cbor.inKeyOrder record) "caption") =
      .ok (caption.map fun value => Utf16.units (Utf16.text value)) := by
  have hrespell := validateCaption_respell hcaption
  rw [ifEntry, hasEntry_inKeyOrder hkeys, hasEntry, h]
  cases caption with
  | none => rfl
  | some value =>
    simp only [validateCaption, Bool.and_eq_true, decide_eq_true_eq] at hcaption
    have hne : (textEncode value).length ≠ 0 := by
      intro hempty
      rw [textEncode, Utf8.length_bytes, String.utf8ByteSize_eq_zero_iff] at hempty
      have hdecode : Utf16.decode value = [] := by
        rw [Utf16.text] at hempty
        simpa using congrArg String.toList hempty
      have hblank : Text.strip isSpace (Utf16.decode value) = [] := by
        rw [hdecode]
        rfl
      exact hcaption.2 hblank
    have hsize : (textEncode value).length ≤ maxCborTextBytes := hcaption.1
    have htext := jsText_inKeyOrder hkeys h hne hsize
    have hread : readCaption (Cbor.inKeyOrder record) "caption" =
        .ok (Utf16.units (Utf16.text value)) := by
      rw [Option.map_some] at hrespell
      refine bind_eq_ok.mpr ⟨_, htext, ?_⟩
      rw [hrespell]
      rfl
    rw [hread]
    rfl

theorem ifReply_inKeyOrder (htarget : ∀ bytes ∈ target, bytes.length = 16)
    (h : record.lookup "reply_to_message_id" = target.map .bytes) :
    ifEntry (Cbor.inKeyOrder record) "reply_to_message_id"
        (token (Cbor.inKeyOrder record) "reply_to_message_id" 16) =
      .ok (target.map Base64.encode) := by
  rw [ifEntry, hasEntry_inKeyOrder hkeys, hasEntry, h]
  cases target with
  | none => rfl
  | some bytes =>
    have hmaxBytes : maxCborBytes = 49152 := rfl
    rw [token_inKeyOrder hkeys h (htarget bytes rfl) (by omega) (by omega)]
    rfl

end Optional

theorem mediaType_of_raster {mediaType : String} (h : isRasterImageMediaType mediaType = true) :
    mediaType ≠ "" ∧ mediaType.utf8ByteSize ≤ 10 ∧ ¬ Utf8.Marked mediaType := by
  simp only [isRasterImageMediaType, Bool.or_eq_true, decide_eq_true_eq] at h
  rcases h with (rfl | rfl) | rfl <;> decide

theorem readRasterMediaType_inKeyOrder {record : CborMap}
    (hkeys : GoodKeys (record.map Prod.fst)) {mediaType : String}
    (h : isRasterImageMediaType mediaType = true)
    (hlookup : record.lookup "media_type" = some (.text mediaType)) :
    readRasterMediaType (Cbor.inKeyOrder record) "media_type" = .ok mediaType := by
  obtain ⟨hne, hle, -⟩ := mediaType_of_raster h
  have hmaxText : maxCborTextBytes = 1024 := rfl
  have htext := requiredText_inKeyOrder hkeys hlookup hne (by omega)
  exact bind_eq_ok.mpr ⟨_, htext, throwIf_bind_eq_ok.mpr ⟨not_not.mpr h, rfl⟩⟩

theorem boundedEncoding_eq_ok_iff {entries : CborMap} {maximumBytes : Nat} {tooLarge : String}
    {encoded : List UInt8} : boundedEncoding entries maximumBytes tooLarge = .ok encoded ↔
      encodeMap entries = .ok encoded ∧ encoded.length ≤ maximumBytes := by
  simp only [boundedEncoding, bind_eq_ok, throwIf_eq_ok, Nat.not_lt]
  constructor
  · rintro ⟨bytes, hbytes, _, hle, heq⟩
    obtain rfl := Except.ok.inj heq
    exact ⟨hbytes, hle⟩
  · rintro ⟨hbytes, hle⟩
    exact ⟨encoded, hbytes, (), hle, rfl⟩

section Inline

variable {value : InlineImage} {encoded : List UInt8} {target : Option (List UInt8)}

def respellInlineImage (value : InlineImage) : InlineImage :=
  { value with
    caption := value.caption.map fun caption => Utf16.units (Utf16.text caption)
    replyToMessageId := value.replyToMessageId.map respellToken }

theorem checkInlineImage_eq_ok_iff : checkInlineImage value = .ok () ↔
    validateImageShape value.mediaType value.width value.height = true ∧
      (value.version = imageMessageVersion ∧ value.bytes.length ≠ 0 ∧
        value.bytes.length ≤ maxInlineImageBytes ∧
        hasRasterImageMagic value.mediaType value.bytes = true) ∧
      validateCaption value.caption = true ∧
      (value.replyToMessageId.all fun target => validToken target 16) = true := by
  simp only [checkInlineImage, throwIf_bind_eq_ok, throwIf_eq_ok, not_or, not_not, Nat.not_lt]

theorem checkInlineImage_respell (h : checkInlineImage value = .ok ()) :
    checkInlineImage (respellInlineImage value) = .ok () := by
  obtain ⟨hshape, himage, hcaption, hreply⟩ := checkInlineImage_eq_ok_iff.mp h
  exact checkInlineImage_eq_ok_iff.mpr ⟨hshape, himage, validateCaption_respell hcaption,
    all_validToken_respell hreply⟩

def inlineRecord (value : InlineImage) (target : Option (List UInt8)) : CborMap :=
  [("version", .text imageMessageVersion), ("media_type", .text value.mediaType),
    ("width", .uint value.width), ("height", .uint value.height),
    ("bytes", .bytes value.bytes)] ++ (captionEntries value.caption ++ replyEntries target)

theorem keys_inlineRecord : ((inlineRecord value target).map Prod.fst).Sublist inlineNames := by
  rw [inlineRecord, List.map_append]
  exact List.Sublist.append_left keys_optionalEntries
    ["version", "media_type", "width", "height", "bytes"]

theorem goodKeys_inlineRecord : GoodKeys ((inlineRecord value target).map Prod.fst) := by
  have hnames : GoodKeys inlineNames := ⟨by decide, by decide, by decide, by decide⟩
  exact hnames.sublist keys_inlineRecord

theorem decodeInlineImage_eq_ok_iff (h : encodeInlineImage value = .ok encoded)
    {result : InlineImage} :
    decodeInlineImage encoded = .ok result ↔
      (∀ caption ∈ value.caption, ¬ Utf8.Marked (Utf16.text caption)) ∧
        result = respellInlineImage value := by
  obtain ⟨_, hcheck, hencode⟩ := bind_eq_ok.mp h
  obtain ⟨entries, hentries, hencode⟩ := bind_eq_ok.mp hencode
  obtain ⟨hencode, hsize⟩ := boundedEncoding_eq_ok_iff.mp hencode
  have hcheck' := checkInlineImage_respell hcheck
  obtain ⟨hshape, ⟨hversion, hbytes, hbytesLe, -⟩, hcaption, hreply⟩ :=
    checkInlineImage_eq_ok_iff.mp hcheck
  simp only [validateImageShape, Bool.and_eq_true, and_assoc] at hshape
  obtain ⟨hmedia, -⟩ := hshape
  obtain ⟨target, htarget, htargetLength, hrespell⟩ := exists_decodeReply hreply
  have hkeys := @goodKeys_inlineRecord value target
  have hrecord : entries = inlineRecord value target := by
    rw [inlineMap, htarget, hversion] at hentries
    rw [← Except.ok.inj hentries, inlineRecord, List.append_assoc]
  rw [hrecord] at hencode
  have hmaxText : maxCborTextBytes = 1024 := rfl
  have hmaxBytes : maxCborBytes = 49152 := rfl
  have hmaxImage : maxInlineImageBytes = 2800 := rfl
  obtain ⟨-, hmediaLe, hmediaUnmarked⟩ := mediaType_of_raster hmedia
  have hshort : ∀ entry ∈ inlineRecord value target, Short entry.2 := by
    refine List.forall_mem_append.mpr ⟨?_, short_optionalEntries hcaption htargetLength⟩
    simp only [List.forall_mem_cons, forall_mem_nil, and_true, true_and, Short]
    refine ⟨by decide, ?_, ?_⟩ <;> omega
  have hunmarked : Unmarked (inlineRecord value target) ↔
      ∀ caption ∈ value.caption, ¬ Utf8.Marked (Utf16.text caption) := by
    have hversion : ¬ Utf8.Marked imageMessageVersion := by decide
    rw [inlineRecord, unmarked_append, unmarked_optionalEntries, and_iff_right]
    simp [Unmarked, hversion, hmediaUnmarked]
  have hread : readInlineImage (Cbor.inKeyOrder (inlineRecord value target)) =
      .ok (respellInlineImage value) := by
    have hcaptionLookup : (inlineRecord value target).lookup "caption" =
        value.caption.map fun caption => .text (Utf16.text caption) := by
      unfold inlineRecord
      cases value.caption <;> cases target <;> rfl
    have hreplyLookup : (inlineRecord value target).lookup "reply_to_message_id" =
        target.map .bytes := by
      unfold inlineRecord
      cases value.caption <;> cases target <;> rfl
    have hreadCaption := ifCaption_inKeyOrder hkeys hcaption hcaptionLookup
    have hreadReply := ifReply_inKeyOrder hkeys htargetLength hreplyLookup
    have hreadVersion : readImageMessageVersion (Cbor.inKeyOrder (inlineRecord value target)) =
        .ok imageMessageVersion :=
      readVersion_inKeyOrder hkeys rfl (by decide) (by decide)
    have hreadMedia := readRasterMediaType_inKeyOrder hkeys hmedia rfl
    have hwidth := @requiredUint_inKeyOrder _ _ hkeys "width" _ hencode rfl
    have hheight := @requiredUint_inKeyOrder _ _ hkeys "height" _ hencode rfl
    have hreadBytes : requiredBytes (Cbor.inKeyOrder (inlineRecord value target)) "bytes" none =
        .ok value.bytes :=
      requiredBytes_inKeyOrder hkeys rfl hbytes (by omega) fun _ hn => by cases hn
    simp only [readInlineImage, hreadVersion, hreadMedia, hwidth, hheight, hreadBytes,
      hreadCaption, hreadReply, respellInlineImage, hrespell, hversion]
    rfl
  have hknown : ∀ key ∈ (inlineRecord value target).map Prod.fst, key ∈ inlineNames :=
    keys_inlineRecord.subset
  rw [decodeInlineImage, decode_eq_ok_iff hkeys hshort hknown hencode hread hcheck',
    and_iff_right hsize, hunmarked]

theorem respellInlineImage_eq_iff (h : checkInlineImage value = .ok ()) :
    respellInlineImage value = value ↔
      (∀ caption ∈ value.caption, Utf16.paired caption = true) ∧
        ∀ token ∈ value.replyToMessageId, CanonicalToken token := by
  obtain ⟨-, -, -, hreply⟩ := checkInlineImage_eq_ok_iff.mp h
  obtain ⟨version, mediaType, width, height, bytes, caption, replyToMessageId⟩ := value
  simp only [respellInlineImage, InlineImage.mk.injEq, true_and, respellCaption_eq_iff,
    respellReply_eq_iff hreply]

end Inline

section Manifest

variable {value : ImageTransferManifest} {encoded : List UInt8}

def respellImageManifest (value : ImageTransferManifest) : ImageTransferManifest :=
  { value with
    transferId := respellToken value.transferId
    manifestId := respellToken value.manifestId
    messageId := respellToken value.messageId
    sha256 := respellToken value.sha256
    caption := value.caption.map fun caption => Utf16.units (Utf16.text caption)
    replyToMessageId := value.replyToMessageId.map respellToken }

theorem checkImageTransferManifest_eq_ok_iff : checkImageTransferManifest value = .ok () ↔
    validateImageTransferManifest value = true := by
  simp only [checkImageTransferManifest, throwIf_bind_eq_ok, throwIf_eq_ok, not_not]
  constructor
  · exact fun h => h.2.2
  · intro h
    have hall := h
    simp only [validateImageTransferManifest, Bool.and_eq_true, and_assoc] at hall
    exact ⟨hall.1, hall.2.1, h⟩

/-- What the check of a manifest says of the values that its record has. -/
structure ImageManifestFields (value : ImageTransferManifest)
    (transferId manifestId messageId sha256 : List UInt8) (target : Option (List UInt8)) :
    Prop where
  version : value.version = imageTransferVersion
  mediaType : isRasterImageMediaType value.mediaType = true
  caption : validateCaption value.caption = true
  transferIdOk : decodeBase64URL value.transferId.toList = .ok transferId
  transferId_length : transferId.length = 16
  manifestIdOk : decodeBase64URL value.manifestId.toList = .ok manifestId
  manifestId_length : manifestId.length = 32
  messageIdOk : decodeBase64URL value.messageId.toList = .ok messageId
  messageId_length : messageId.length = 16
  sha256Ok : decodeBase64URL value.sha256.toList = .ok sha256
  sha256_length : sha256.length = 32
  signature : value.signature.length = 64
  targetOk : decodeReply value.replyToMessageId = .ok target
  target_length : ∀ bytes ∈ target, bytes.length = 16
  respell : value.replyToMessageId.map respellToken = target.map Base64.encode

theorem exists_imageManifestFields (h : validateImageTransferManifest value = true) :
    ∃ transferId manifestId messageId sha256 target,
      ImageManifestFields value transferId manifestId messageId sha256 target := by
  simp only [validateImageTransferManifest, validateImageShape, Bool.and_eq_true,
    decide_eq_true_eq, and_assoc] at h
  obtain ⟨hmedia, -, -, -, -, -, hcaption, hversion, htransfer, hmanifest, hmessage, hsha, hreply,
    hsignature, -⟩ := h
  obtain ⟨transferId, htransfer, htransferLength⟩ := validToken_iff.mp htransfer
  obtain ⟨manifestId, hmanifest, hmanifestLength⟩ := validToken_iff.mp hmanifest
  obtain ⟨messageId, hmessage, hmessageLength⟩ := validToken_iff.mp hmessage
  obtain ⟨sha256, hsha, hshaLength⟩ := validToken_iff.mp hsha
  obtain ⟨target, htarget, htargetLength, hrespell⟩ := exists_decodeReply hreply
  exact ⟨transferId, manifestId, messageId, sha256, target, hversion, hmedia, hcaption, htransfer,
    htransferLength, hmanifest, hmanifestLength, hmessage, hmessageLength, hsha, hshaLength,
    hsignature, htarget, htargetLength, hrespell⟩

theorem validateImageTransferManifest_respell (h : validateImageTransferManifest value = true) :
    validateImageTransferManifest (respellImageManifest value) = true := by
  unfold validateImageTransferManifest at h ⊢
  unfold respellImageManifest
  simp only [Bool.and_eq_true, decide_eq_true_eq, and_assoc] at h ⊢
  obtain ⟨hshape, hcaption, hversion, htransfer, hmanifest, hmessage, hsha, hreply, hrest⟩ := h
  exact ⟨hshape, validateCaption_respell hcaption, hversion,
    validToken_respellToken htransfer (by omega), validToken_respellToken hmanifest (by omega),
    validToken_respellToken hmessage (by omega), validToken_respellToken hsha (by omega),
    all_validToken_respell hreply, hrest⟩

variable {transferId manifestId messageId sha256 : List UInt8} {target : Option (List UInt8)}

def imageManifestRecord (value : ImageTransferManifest)
    (transferId manifestId messageId sha256 : List UInt8) (target : Option (List UInt8)) :
    CborMap :=
  [("version", .text value.version), ("transfer_id", .bytes transferId),
    ("manifest_id", .bytes manifestId), ("message_id", .bytes messageId),
    ("issued_at", .uint value.issuedAt), ("expires_at", .uint value.expiresAt),
    ("media_type", .text value.mediaType), ("width", .uint value.width),
    ("height", .uint value.height), ("byte_count", .uint value.byteCount),
    ("chunk_bytes", .uint value.chunkBytes), ("chunk_count", .uint value.chunkCount),
    ("sha256", .bytes sha256)] ++ (captionEntries value.caption ++ replyEntries target) ++
    [("signature", .bytes value.signature)]

theorem ImageManifestFields.base_eq
    (h : ImageManifestFields value transferId manifestId messageId sha256 target) :
    ∃ entries, baseManifest value = .ok entries ∧ entries ++ [("signature",
      .bytes value.signature)] =
        imageManifestRecord value transferId manifestId messageId sha256 target := by
  refine ⟨_, ?_, rfl⟩
  rw [baseManifest, h.transferIdOk, h.manifestIdOk, h.messageIdOk, h.sha256Ok, h.targetOk,
    ← List.append_assoc]
  rfl

/-- The keys of an encoded manifest, in the order of the source. -/
def imageManifestKeys : List String :=
  ["version", "transfer_id", "manifest_id", "message_id", "issued_at", "expires_at",
    "media_type", "width", "height", "byte_count", "chunk_bytes", "chunk_count", "sha256"] ++
    ["caption", "reply_to_message_id"] ++ ["signature"]

theorem keys_imageManifestRecord :
    ((imageManifestRecord value transferId manifestId messageId sha256 target).map
      Prod.fst).Sublist imageManifestKeys := by
  rw [imageManifestRecord, List.map_append, List.map_append]
  exact (List.Sublist.append_left keys_optionalEntries _).append_right ["signature"]

theorem goodKeys_imageManifestRecord :
    GoodKeys ((imageManifestRecord value transferId manifestId messageId sha256 target).map
      Prod.fst) := by
  have hnames : GoodKeys imageManifestKeys := ⟨by decide, by decide, by decide, by decide⟩
  exact hnames.sublist keys_imageManifestRecord

theorem ImageManifestFields.short
    (h : ImageManifestFields value transferId manifestId messageId sha256 target) :
    ∀ entry ∈ imageManifestRecord value transferId manifestId messageId sha256 target,
      Short entry.2 := by
  have hmaxText : maxCborTextBytes = 1024 := rfl
  have hmaxBytes : maxCborBytes = 49152 := rfl
  have hmedia := (mediaType_of_raster h.mediaType).2.1
  have := h.transferId_length
  have := h.manifestId_length
  have := h.messageId_length
  have := h.sha256_length
  have := h.signature
  refine List.forall_mem_append.mpr ⟨List.forall_mem_append.mpr
    ⟨?_, short_optionalEntries h.caption h.target_length⟩, ?_⟩
  · simp only [List.forall_mem_cons, forall_mem_nil, and_true, true_and, Short, h.version]
    refine ⟨by decide, ?_, ?_, ?_, ?_, ?_⟩ <;> omega
  · simp only [List.forall_mem_cons, forall_mem_nil, and_true, Short]
    omega

theorem ImageManifestFields.unmarked_iff
    (h : ImageManifestFields value transferId manifestId messageId sha256 target) :
    Unmarked (imageManifestRecord value transferId manifestId messageId sha256 target) ↔
      ∀ caption ∈ value.caption, ¬ Utf8.Marked (Utf16.text caption) := by
  have hversion : ¬ Utf8.Marked imageTransferVersion := by decide
  have hmedia := (mediaType_of_raster h.mediaType).2.2
  rw [imageManifestRecord, unmarked_append, unmarked_append, unmarked_optionalEntries,
    and_iff_left, and_iff_right]
  · simp [Unmarked, h.version, hversion, hmedia]
  · simp [Unmarked]

theorem ImageManifestFields.read_eq
    (h : ImageManifestFields value transferId manifestId messageId sha256 target)
    (hencoded : encodeMap (imageManifestRecord value transferId manifestId messageId sha256
      target) = .ok encoded) :
    readImageTransferManifest (Cbor.inKeyOrder
      (imageManifestRecord value transferId manifestId messageId sha256 target)) =
        .ok (respellImageManifest value) := by
  have hkeys := @goodKeys_imageManifestRecord value transferId manifestId messageId sha256 target
  have hcaptionLookup : (imageManifestRecord value transferId manifestId messageId sha256
      target).lookup "caption" = value.caption.map fun caption => .text (Utf16.text caption) := by
    unfold imageManifestRecord
    cases value.caption <;> cases target <;> rfl
  have hreplyLookup : (imageManifestRecord value transferId manifestId messageId sha256
      target).lookup "reply_to_message_id" = target.map .bytes := by
    unfold imageManifestRecord
    cases value.caption <;> cases target <;> rfl
  have hsignatureLookup : (imageManifestRecord value transferId manifestId messageId sha256
      target).lookup "signature" = some (.bytes value.signature) := by
    unfold imageManifestRecord
    cases value.caption <;> cases target <;> rfl
  have hreadCaption := ifCaption_inKeyOrder hkeys h.caption hcaptionLookup
  have hreadReply := ifReply_inKeyOrder hkeys h.target_length hreplyLookup
  have hreadMedia := readRasterMediaType_inKeyOrder hkeys h.mediaType
    (by rw [imageManifestRecord]; rfl)
  generalize hmap : Cbor.inKeyOrder (imageManifestRecord value transferId manifestId messageId
    sha256 target) = map at *
  have huint : ∀ {key n}, (imageManifestRecord value transferId manifestId messageId sha256
      target).lookup key = some (.uint n) → requiredUint map key = .ok n := by
    intro key n hlookup
    rw [← hmap, requiredUint_inKeyOrder hkeys hencoded hlookup]
  have hmaxBytes : maxCborBytes = 49152 := rfl
  have hsignatureLength := h.signature
  have hversion : readImageTransferVersion map = .ok imageTransferVersion := by
    rw [← hmap, readImageTransferVersion]
    exact readVersion_inKeyOrder hkeys (by rw [imageManifestRecord, h.version]; rfl) (by decide)
      (by decide)
  have htransfer : token map "transfer_id" 16 = .ok (Base64.encode transferId) := by
    rw [← hmap, token_inKeyOrder hkeys rfl h.transferId_length (by omega) (by omega)]
  have hmanifest : token map "manifest_id" 32 = .ok (Base64.encode manifestId) := by
    rw [← hmap, token_inKeyOrder hkeys rfl h.manifestId_length (by omega) (by omega)]
  have hmessage : token map "message_id" 16 = .ok (Base64.encode messageId) := by
    rw [← hmap, token_inKeyOrder hkeys rfl h.messageId_length (by omega) (by omega)]
  have hsha : token map "sha256" 32 = .ok (Base64.encode sha256) := by
    rw [← hmap, token_inKeyOrder hkeys rfl h.sha256_length (by omega) (by omega)]
  have hsignature : requiredBytes map "signature" (some 64) = .ok value.signature := by
    rw [← hmap]
    exact requiredBytes_inKeyOrder hkeys hsignatureLookup (by omega) (by omega)
      fun n hn => h.signature.trans (Option.some.inj hn)
  simp only [readImageTransferManifest, hversion, htransfer, hmanifest, hmessage, hsha,
    hsignature, hreadMedia, hreadCaption, hreadReply, @huint "issued_at" _ rfl,
    @huint "expires_at" _ rfl, @huint "width" _ rfl, @huint "height" _ rfl,
    @huint "byte_count" _ rfl, @huint "chunk_bytes" _ rfl, @huint "chunk_count" _ rfl,
    respellImageManifest, respellToken_of_decode h.transferIdOk,
    respellToken_of_decode h.manifestIdOk, respellToken_of_decode h.messageIdOk,
    respellToken_of_decode h.sha256Ok, h.respell, h.version]
  rfl

theorem imageTransferManifestSigningBytes_respell
    (h : validateImageTransferManifest value = true) :
    imageTransferManifestSigningBytes (respellImageManifest value) =
      imageTransferManifestSigningBytes value := by
  have hcheck := checkImageTransferManifest_eq_ok_iff.mpr h
  have hrespell := checkImageTransferManifest_eq_ok_iff.mpr
    (validateImageTransferManifest_respell h)
  simp only [imageTransferManifestSigningBytes, hcheck, hrespell]
  simp only [validateImageTransferManifest, Bool.and_eq_true, decide_eq_true_eq, and_assoc] at h
  obtain ⟨-, -, -, htransfer, hmanifest, hmessage, hsha, hreply, -⟩ := h
  have hcaption : captionEntries (value.caption.map fun caption =>
      Utf16.units (Utf16.text caption)) = captionEntries value.caption := by
    cases value.caption <;> simp [captionEntries, text_units]
  simp only [respellImageManifest, baseManifest, decode_respellToken htransfer (by omega),
    decode_respellToken hmanifest (by omega), decode_respellToken hmessage (by omega),
    decode_respellToken hsha (by omega), decodeReply_respell hreply, hcaption]

theorem decodeImageTransferManifest_eq_ok_iff
    (h : encodeImageTransferManifest value = .ok encoded) {result : ImageTransferManifest} :
    decodeImageTransferManifest encoded = .ok result ↔
      (∀ caption ∈ value.caption, ¬ Utf8.Marked (Utf16.text caption)) ∧
        result = respellImageManifest value := by
  obtain ⟨_, hcheck, hencode⟩ := bind_eq_ok.mp h
  obtain ⟨entries, hentries, hencode⟩ := bind_eq_ok.mp hencode
  obtain ⟨hencode, hsize⟩ := boundedEncoding_eq_ok_iff.mp hencode
  have hvalid := checkImageTransferManifest_eq_ok_iff.mp hcheck
  have hcheck' := checkImageTransferManifest_eq_ok_iff.mpr
    (validateImageTransferManifest_respell hvalid)
  obtain ⟨transferId, manifestId, messageId, sha256, target, hfields⟩ :=
    exists_imageManifestFields hvalid
  obtain ⟨entries', hbase, hrecord⟩ := hfields.base_eq
  obtain rfl := Except.ok.inj (hbase.symm.trans hentries)
  rw [hrecord] at hencode
  have hknown : ∀ key ∈ (imageManifestRecord value transferId manifestId messageId sha256
      target).map Prod.fst, key ∈ imageManifestNames := by
    have hnames : ∀ key ∈ imageManifestKeys, key ∈ imageManifestNames := by decide
    exact fun key hkey => hnames key (keys_imageManifestRecord.subset hkey)
  rw [decodeImageTransferManifest, decode_eq_ok_iff goodKeys_imageManifestRecord hfields.short
    hknown hencode (hfields.read_eq hencode) hcheck', and_iff_right hsize, hfields.unmarked_iff]

theorem respellImageManifest_eq_iff (h : validateImageTransferManifest value = true) :
    respellImageManifest value = value ↔
      (CanonicalToken value.transferId ∧ CanonicalToken value.manifestId ∧
        CanonicalToken value.messageId ∧ CanonicalToken value.sha256) ∧
      (∀ caption ∈ value.caption, Utf16.paired caption = true) ∧
        ∀ token ∈ value.replyToMessageId, CanonicalToken token := by
  simp only [validateImageTransferManifest, Bool.and_eq_true, decide_eq_true_eq, and_assoc] at h
  obtain ⟨-, -, -, htransfer, hmanifest, hmessage, hsha, hreply, -⟩ := h
  rw [← respellToken_eq_iff htransfer, ← respellToken_eq_iff hmanifest,
    ← respellToken_eq_iff hmessage, ← respellToken_eq_iff hsha, ← respellReply_eq_iff hreply,
    ← respellCaption_eq_iff]
  obtain ⟨version, transferId, manifestId, messageId, issuedAt, expiresAt, mediaType, width,
    height, byteCount, chunkBytes, chunkCount, sha256, signature, caption,
    replyToMessageId⟩ := value
  simp only [respellImageManifest, ImageTransferManifest.mk.injEq]
  tauto

end Manifest

section Chunk

variable {value : ImageTransferChunk} {encoded : List UInt8}

def respellImageChunk (value : ImageTransferChunk) : ImageTransferChunk :=
  { value with
    transferId := respellToken value.transferId
    manifestId := respellToken value.manifestId }

theorem validateImageTransferChunk_respell (h : validateImageTransferChunk value = true) :
    validateImageTransferChunk (respellImageChunk value) = true := by
  unfold validateImageTransferChunk at h ⊢
  unfold respellImageChunk
  simp only [Bool.and_eq_true, decide_eq_true_eq, and_assoc] at h ⊢
  obtain ⟨hversion, htransfer, hmanifest, hrest⟩ := h
  exact ⟨hversion, validToken_respellToken htransfer (by omega),
    validToken_respellToken hmanifest (by omega), hrest⟩

theorem decodeImageTransferChunk_eq_ok_iff (h : encodeImageTransferChunk value = .ok encoded)
    {result : ImageTransferChunk} :
    decodeImageTransferChunk encoded = .ok result ↔ result = respellImageChunk value := by
  obtain ⟨_, hcheck, hencode⟩ := bind_eq_ok.mp h
  have hvalid : validateImageTransferChunk value = true :=
    not_not.mp (throwIf_eq_ok.mp hcheck)
  have hcheck' : checkImageTransferChunk (respellImageChunk value) = .ok () :=
    throwIf_eq_ok.mpr (not_not.mpr (validateImageTransferChunk_respell hvalid))
  simp only [validateImageTransferChunk, Bool.and_eq_true, decide_eq_true_eq, and_assoc] at hvalid
  obtain ⟨hversion, htransfer, hmanifest, -, hbytes, hbytesLe⟩ := hvalid
  obtain ⟨transferId, htransfer, htransferLength⟩ := validToken_iff.mp htransfer
  obtain ⟨manifestId, hmanifest, hmanifestLength⟩ := validToken_iff.mp hmanifest
  have hfields : ChunkFields imageTransferVersion transferId manifestId value.bytes :=
    ⟨by decide, by decide, by decide, htransferLength, hmanifestLength, hbytes, hbytesLe⟩
  rw [imageChunkMap, htransfer, hmanifest, hversion] at hencode
  have hencoded : encodeMap (chunkRecord imageTransferVersion transferId manifestId value.index
    value.bytes) = .ok encoded := hencode
  have hread : readImageTransferChunk (Cbor.inKeyOrder (chunkRecord imageTransferVersion
      transferId manifestId value.index value.bytes)) = .ok (respellImageChunk value) := by
    generalize hmap : Cbor.inKeyOrder (chunkRecord imageTransferVersion transferId manifestId
      value.index value.bytes) = map
    obtain ⟨hreadVersion, hreadTransfer, hreadManifest, hindex, hreadBytes⟩ :=
      hfields.reads hencoded hmap.symm "unsupported image transfer version"
    simp only [readImageTransferChunk, readImageTransferVersion, hreadVersion, hreadTransfer,
      hreadManifest, hindex, hreadBytes, respellImageChunk, respellToken_of_decode htransfer,
      respellToken_of_decode hmanifest, hversion]
    rfl
  have hknown : ∀ key ∈ (chunkRecord imageTransferVersion transferId manifestId value.index
      value.bytes).map Prod.fst, key ∈ chunkNames := fun _ hkey => hkey
  have hsize : encoded.length ≤ maxImageTransferChunkBodyBytes := hfields.length_le hencoded
  rw [decodeImageTransferChunk, decode_eq_ok_iff goodKeys_chunkRecord hfields.short hknown
    hencoded hread hcheck', and_iff_right hsize, and_iff_right hfields.unmarked_record]

theorem respellImageChunk_eq_iff (h : validateImageTransferChunk value = true) :
    respellImageChunk value = value ↔
      CanonicalToken value.transferId ∧ CanonicalToken value.manifestId := by
  simp only [validateImageTransferChunk, Bool.and_eq_true, decide_eq_true_eq, and_assoc] at h
  obtain ⟨-, htransfer, hmanifest, -⟩ := h
  rw [← respellToken_eq_iff htransfer, ← respellToken_eq_iff hmanifest]
  obtain ⟨version, transferId, manifestId, index, bytes⟩ := value
  simp only [respellImageChunk, ImageTransferChunk.mk.injEq]
  tauto

end Chunk

section Capabilities

variable {value : ImageCapabilities} {encoded : List UInt8}

theorem goodKeys_capabilitiesMap : GoodKeys ((capabilitiesMap value).map Prod.fst) := by
  show GoodKeys capabilitiesNames
  exact ⟨by decide, by decide, by decide, by decide⟩

theorem decodeImageCapabilities_eq_ok_iff (h : encodeImageCapabilities value = .ok encoded)
    {result : ImageCapabilities} :
    decodeImageCapabilities encoded = .ok result ↔ result = value := by
  obtain ⟨_, hcheck, hencode⟩ := bind_eq_ok.mp h
  obtain ⟨hencode, hsize⟩ := boundedEncoding_eq_ok_iff.mp hencode
  have hvalid : validateImageCapabilities value = true :=
    not_not.mp (throwIf_eq_ok.mp hcheck)
  simp only [validateImageCapabilities, Bool.and_eq_true, decide_eq_true_eq, and_assoc] at hvalid
  obtain ⟨hversion, -⟩ := hvalid
  have hkeys := @goodKeys_capabilitiesMap value
  have hshort : ∀ entry ∈ capabilitiesMap value, Short entry.2 := by
    simp only [capabilitiesMap, List.forall_mem_cons, forall_mem_nil, and_true, Short, hversion]
    decide
  have hunmarked : Unmarked (capabilitiesMap value) := by
    have hmarked : ¬ Utf8.Marked imageMessageVersion := by decide
    simp [Unmarked, capabilitiesMap, hversion, hmarked]
  have hread : readImageCapabilities (Cbor.inKeyOrder (capabilitiesMap value)) = .ok value := by
    have huint := fun key n => @requiredUint_inKeyOrder _ _ hkeys key n hencode
    have hreadVersion : readImageMessageVersion (Cbor.inKeyOrder (capabilitiesMap value)) =
        .ok imageMessageVersion :=
      readVersion_inKeyOrder hkeys (by rw [capabilitiesMap, hversion]; rfl) (by decide)
        (by decide)
    simp only [readImageCapabilities, hreadVersion, huint "max_inline_bytes" _ rfl,
      huint "max_relay_bytes" _ rfl, huint "max_direct_bytes" _ rfl, huint "max_width" _ rfl,
      huint "max_height" _ rfl, huint "max_pixels" _ rfl, ← hversion]
    rfl
  have hknown : ∀ key ∈ (capabilitiesMap value).map Prod.fst, key ∈ capabilitiesNames :=
    fun _ hkey => hkey
  rw [decodeImageCapabilities, decode_eq_ok_iff hkeys hshort hknown hencode hread hcheck,
    and_iff_right hsize, and_iff_right hunmarked]

end Capabilities

end Branch.Core.ImageWire
