import Branch.Core.FlatRecords

/-!
How the manifest, the decisions and the chunks of an attachment are written and read, and
what comes back of them.
-/

namespace Branch.Core.AttachmentWire

open Branch.Lib FlatRecords

section Codec

def maxAttachmentRecordBytes : Nat := 4096

def checkManifest (value : AttachmentManifest) : Except String Unit :=
  throwIf (¬ validateManifest value) "invalid attachment manifest"

def checkDecision (value : AttachmentDecision) : Except String Unit :=
  throwIf (¬ validateDecision value) "invalid attachment decision"

def checkChunk (value : AttachmentChunk) : Except String Unit :=
  throwIf (¬ validateChunk value) "invalid attachment chunk"

def manifestBase (value : AttachmentManifest) : Except String CborMap := do
  let transferId ← decodeBase64URL value.transferId.toList
  let manifestId ← decodeBase64URL value.manifestId.toList
  let sha256 ← decodeBase64URL value.sha256.toList
  return [("version", .text value.version), ("transfer_id", .bytes transferId),
    ("manifest_id", .bytes manifestId), ("issued_at", .uint value.issuedAt),
    ("expires_at", .uint value.expiresAt), ("file_name", .text (Utf16.text value.fileName)),
    ("media_type", .text (Utf16.text value.mediaType)), ("byte_count", .uint value.byteCount),
    ("chunk_bytes", .uint value.chunkBytes), ("chunk_count", .uint value.chunkCount),
    ("sha256", .bytes sha256)]

def decisionBase (value : AttachmentDecision) : Except String CborMap := do
  let transferId ← decodeBase64URL value.transferId.toList
  let manifestId ← decodeBase64URL value.manifestId.toList
  return [("version", .text value.version), ("kind", .text value.kind.text),
    ("transfer_id", .bytes transferId), ("manifest_id", .bytes manifestId),
    ("issued_at", .uint value.issuedAt), ("expires_at", .uint value.expiresAt)]

def chunkMap (value : AttachmentChunk) : Except String CborMap := do
  let transferId ← decodeBase64URL value.transferId.toList
  let manifestId ← decodeBase64URL value.manifestId.toList
  return [("version", .text value.version), ("transfer_id", .bytes transferId),
    ("manifest_id", .bytes manifestId), ("index", .uint value.index),
    ("bytes", .bytes value.bytes)]

def encodeAttachmentManifest (manifest : AttachmentManifest) : Except String (List UInt8) := do
  checkManifest manifest
  let entries ← manifestBase manifest
  encodeMap (entries ++ [("signature", .bytes manifest.signature)])

def encodeAttachmentDecision (decision : AttachmentDecision) : Except String (List UInt8) := do
  checkDecision decision
  let entries ← decisionBase decision
  encodeMap (entries ++ [("signature", .bytes decision.signature)])

def encodeAttachmentChunk (chunk : AttachmentChunk) : Except String (List UInt8) := do
  checkChunk chunk
  let entries ← chunkMap chunk
  encodeMap entries

variable (map : CborMap)

def readAttachmentVersion : Except String String :=
  FlatRecords.readVersion map attachmentVersion "unsupported attachment version"

def boundedText (name : String) (max : Nat) : Except String JsString := do
  let value ← jsText map name
  throwIf (max < (textEncode value).length) ("invalid " ++ name)
  return value

def readManifest : Except String AttachmentManifest := do
  let version ← readAttachmentVersion map
  let transferId ← token map "transfer_id" 16
  let manifestId ← token map "manifest_id" 32
  let issuedAt ← requiredUint map "issued_at"
  let expiresAt ← requiredUint map "expires_at"
  let fileName ← boundedText map "file_name" 160
  let mediaType ← boundedText map "media_type" 128
  let byteCount ← requiredUint map "byte_count"
  let chunkBytes ← requiredUint map "chunk_bytes"
  let chunkCount ← requiredUint map "chunk_count"
  let sha256 ← token map "sha256" 32
  let signature ← requiredBytes map "signature" (some 64)
  return { version, transferId, manifestId, issuedAt, expiresAt, fileName, mediaType, byteCount
           chunkBytes, chunkCount, sha256, signature }

def readDecisionKind : Except String AttachmentDecisionKind := do
  let kind ← requiredText map "kind"
  if kind = "accept" then return .accept
  else if kind = "reject" then return .reject
  else if kind = "cancel" then return .cancel
  else throw "invalid attachment decision kind"

def readDecision : Except String AttachmentDecision := do
  let kind ← readDecisionKind map
  let version ← readAttachmentVersion map
  let transferId ← token map "transfer_id" 16
  let manifestId ← token map "manifest_id" 32
  let issuedAt ← requiredUint map "issued_at"
  let expiresAt ← requiredUint map "expires_at"
  let signature ← requiredBytes map "signature" (some 64)
  return { version, kind, transferId, manifestId, issuedAt, expiresAt, signature }

def readChunk : Except String AttachmentChunk := do
  let version ← readAttachmentVersion map
  let transferId ← token map "transfer_id" 16
  let manifestId ← token map "manifest_id" 32
  let index ← requiredUint map "index"
  let bytes ← requiredBytes map "bytes" none
  return { version, transferId, manifestId, index, bytes }

def attachmentMap (bytes : List UInt8) (names : List String) : Except String CborMap :=
  strictMap bytes "invalid attachment size" "attachment" maxAttachmentRecordBytes names

def manifestNames : List String :=
  ["version", "transfer_id", "manifest_id", "issued_at", "expires_at", "file_name", "media_type",
    "byte_count", "chunk_bytes", "chunk_count", "sha256", "signature"]

def decisionNames : List String :=
  ["version", "kind", "transfer_id", "manifest_id", "issued_at", "expires_at", "signature"]

def chunkNames : List String := ["version", "transfer_id", "manifest_id", "index", "bytes"]

def decodeAttachmentManifest (bytes : List UInt8) : Except String AttachmentManifest := do
  let map ← attachmentMap bytes manifestNames
  let value ← readManifest map
  checkManifest value
  return value

def decodeAttachmentDecision (bytes : List UInt8) : Except String AttachmentDecision := do
  let map ← attachmentMap bytes decisionNames
  let value ← readDecision map
  checkDecision value
  return value

def decodeAttachmentChunk (bytes : List UInt8) : Except String AttachmentChunk := do
  let map ← attachmentMap bytes chunkNames
  let value ← readChunk map
  checkChunk value
  return value

variable {map} in
theorem boundedText_inKeyOrder {record : CborMap} (hkeys : GoodKeys (record.map Prod.fst))
    {name : String} {max : Nat} {value : JsString}
    (h : record.lookup name = some (.text (Utf16.text value)))
    (hne : (textEncode value).length ≠ 0) (hle : (textEncode value).length ≤ max)
    (hmax : max ≤ maxCborTextBytes) :
    boundedText (Cbor.inKeyOrder record) name max = .ok (Utf16.units (Utf16.text value)) := by
  refine bind_eq_ok.mpr ⟨_, jsText_inKeyOrder hkeys h hne (hle.trans hmax), ?_⟩
  refine throwIf_bind_eq_ok.mpr ⟨?_, rfl⟩
  rw [textEncode_respell]
  omega

end Codec

section Manifest

variable {value : AttachmentManifest} {encoded : List UInt8}

/-- The manifest with its tokens and texts as the decoder spells them. -/
def respellManifest (value : AttachmentManifest) : AttachmentManifest :=
  { value with
    transferId := respellToken value.transferId
    manifestId := respellToken value.manifestId
    sha256 := respellToken value.sha256
    fileName := Utf16.units (Utf16.text value.fileName)
    mediaType := Utf16.units (Utf16.text value.mediaType) }

/-- What the check of a manifest says of the values that its record has. -/
structure ManifestFields (value : AttachmentManifest)
    (transferId manifestId sha256 : List UInt8) : Prop where
  version : value.version = attachmentVersion
  transferIdOk : decodeBase64URL value.transferId.toList = .ok transferId
  transferId_length : transferId.length = 16
  manifestIdOk : decodeBase64URL value.manifestId.toList = .ok manifestId
  manifestId_length : manifestId.length = 32
  sha256Ok : decodeBase64URL value.sha256.toList = .ok sha256
  sha256_length : sha256.length = 32
  signature : value.signature.length = 64
  fileName : (textEncode value.fileName).length ≠ 0
  fileName_le : (textEncode value.fileName).length ≤ 160
  mediaType : (textEncode value.mediaType).length ≠ 0
  mediaType_le : (textEncode value.mediaType).length ≤ 128

theorem exists_manifestFields (h : validateManifest value = true) :
    ∃ transferId manifestId sha256, ManifestFields value transferId manifestId sha256 := by
  simp only [validateManifest, Bool.and_eq_true, decide_eq_true_eq, and_assoc] at h
  obtain ⟨hversion, htransfer, hmanifest, hsha, hsignature, -, -, -, -, -, -, -, -, -, hname,
    hnameLe, hmedia, hmediaLe⟩ := h
  obtain ⟨transferId, htransfer, htransferLength⟩ := validToken_iff.mp htransfer
  obtain ⟨manifestId, hmanifest, hmanifestLength⟩ := validToken_iff.mp hmanifest
  obtain ⟨sha256, hsha, hshaLength⟩ := validToken_iff.mp hsha
  exact ⟨transferId, manifestId, sha256, hversion, htransfer, htransferLength, hmanifest,
    hmanifestLength, hsha, hshaLength, hsignature, hname, hnameLe, hmedia, hmediaLe⟩

def manifestRecord (value : AttachmentManifest) (transferId manifestId sha256 : List UInt8) :
    CborMap :=
  [("version", .text value.version), ("transfer_id", .bytes transferId),
    ("manifest_id", .bytes manifestId), ("issued_at", .uint value.issuedAt),
    ("expires_at", .uint value.expiresAt), ("file_name", .text (Utf16.text value.fileName)),
    ("media_type", .text (Utf16.text value.mediaType)), ("byte_count", .uint value.byteCount),
    ("chunk_bytes", .uint value.chunkBytes), ("chunk_count", .uint value.chunkCount),
    ("sha256", .bytes sha256), ("signature", .bytes value.signature)]

theorem validateManifest_respell (h : validateManifest value = true) :
    validateManifest (respellManifest value) = true := by
  unfold validateManifest at h ⊢
  unfold respellManifest
  simp only [textEncode_respell, Bool.and_eq_true, decide_eq_true_eq, and_assoc] at h ⊢
  obtain ⟨hversion, htransfer, hmanifest, hsha, hrest⟩ := h
  exact ⟨hversion, validToken_respellToken htransfer (by omega),
    validToken_respellToken hmanifest (by omega), validToken_respellToken hsha (by omega), hrest⟩

variable {transferId manifestId sha256 : List UInt8}

theorem ManifestFields.encode_eq (h : ManifestFields value transferId manifestId sha256)
    (hcheck : checkManifest value = .ok ()) :
    encodeAttachmentManifest value =
      encodeMap (manifestRecord value transferId manifestId sha256) := by
  rw [encodeAttachmentManifest, hcheck, manifestBase, h.transferIdOk, h.manifestIdOk, h.sha256Ok]
  rfl

theorem goodKeys_manifestRecord :
    GoodKeys ((manifestRecord value transferId manifestId sha256).map Prod.fst) := by
  show GoodKeys manifestNames
  exact ⟨by decide, by decide, by decide, by decide⟩

theorem ManifestFields.short (h : ManifestFields value transferId manifestId sha256) :
    ∀ entry ∈ manifestRecord value transferId manifestId sha256, Short entry.2 := by
  have hname := h.fileName_le
  have hmedia := h.mediaType_le
  rw [textEncode, Utf8.length_bytes] at hname hmedia
  have hmaxText : maxCborTextBytes = 1024 := rfl
  have hmaxBytes : maxCborBytes = 49152 := rfl
  have := h.transferId_length
  have := h.manifestId_length
  have := h.sha256_length
  have := h.signature
  simp only [manifestRecord, List.forall_mem_cons, forall_mem_nil, and_true, true_and, Short,
    h.version]
  refine ⟨by decide, ?_, ?_, ?_, ?_, ?_, ?_⟩ <;> omega

theorem ManifestFields.unmarked_iff (h : ManifestFields value transferId manifestId sha256) :
    Unmarked (manifestRecord value transferId manifestId sha256) ↔
      ¬ Utf8.Marked (Utf16.text value.fileName) ∧ ¬ Utf8.Marked (Utf16.text value.mediaType) := by
  have hversion : ¬ Utf8.Marked attachmentVersion := by decide
  simp [Unmarked, manifestRecord, h.version, hversion]

theorem ManifestFields.read_eq (h : ManifestFields value transferId manifestId sha256)
    (hencoded : encodeMap (manifestRecord value transferId manifestId sha256) = .ok encoded) :
    readManifest (Cbor.inKeyOrder (manifestRecord value transferId manifestId sha256)) =
      .ok (respellManifest value) := by
  have hkeys := @goodKeys_manifestRecord value transferId manifestId sha256
  generalize hmap : Cbor.inKeyOrder (manifestRecord value transferId manifestId sha256) = map
  have huint : ∀ {key n}, (manifestRecord value transferId manifestId sha256).lookup key =
      some (.uint n) → requiredUint map key = .ok n := by
    intro key n hlookup
    rw [← hmap, requiredUint_inKeyOrder hkeys hencoded hlookup]
  have hmaxText : maxCborTextBytes = 1024 := rfl
  have hmaxBytes : maxCborBytes = 49152 := rfl
  have hnameLe := h.fileName_le
  have hmediaLe := h.mediaType_le
  have hsignatureLength := h.signature
  have hversion : readAttachmentVersion map = .ok attachmentVersion := by
    rw [← hmap, readAttachmentVersion]
    exact readVersion_inKeyOrder hkeys (by rw [manifestRecord, h.version]; rfl) (by decide)
      (by decide)
  have htransfer : token map "transfer_id" 16 = .ok (Base64.encode transferId) := by
    rw [← hmap, token_inKeyOrder hkeys rfl h.transferId_length (by omega) (by omega)]
  have hmanifest : token map "manifest_id" 32 = .ok (Base64.encode manifestId) := by
    rw [← hmap, token_inKeyOrder hkeys rfl h.manifestId_length (by omega) (by omega)]
  have hsha : token map "sha256" 32 = .ok (Base64.encode sha256) := by
    rw [← hmap, token_inKeyOrder hkeys rfl h.sha256_length (by omega) (by omega)]
  have hname : boundedText map "file_name" 160 =
      .ok (Utf16.units (Utf16.text value.fileName)) := by
    rw [← hmap]
    exact boundedText_inKeyOrder hkeys rfl h.fileName hnameLe (by decide)
  have hmedia : boundedText map "media_type" 128 =
      .ok (Utf16.units (Utf16.text value.mediaType)) := by
    rw [← hmap]
    exact boundedText_inKeyOrder hkeys rfl h.mediaType hmediaLe (by decide)
  have hsignature : requiredBytes map "signature" (some 64) = .ok value.signature := by
    rw [← hmap]
    exact requiredBytes_inKeyOrder hkeys rfl (by omega) (by omega)
      fun n hn => h.signature.trans (Option.some.inj hn)
  simp only [readManifest, hversion, htransfer, hmanifest, hsha, hname, hmedia, hsignature,
    @huint "issued_at" _ rfl, @huint "expires_at" _ rfl, @huint "byte_count" _ rfl,
    @huint "chunk_bytes" _ rfl, @huint "chunk_count" _ rfl, respellManifest, 
    respellToken_of_decode h.transferIdOk, respellToken_of_decode h.manifestIdOk,
    respellToken_of_decode h.sha256Ok, h.version]
  rfl

theorem attachmentManifestSigningBytes_respell (h : validateManifest value = true) :
    attachmentManifestSigningBytes (respellManifest value) =
      attachmentManifestSigningBytes value := by
  have hrespell := validateManifest_respell h
  simp only [attachmentManifestSigningBytes, h, hrespell]
  simp only [validateManifest, Bool.and_eq_true, decide_eq_true_eq, and_assoc] at h
  obtain ⟨-, htransfer, hmanifest, hsha, -⟩ := h
  simp only [respellManifest, text_units, decode_respellToken htransfer (by omega),
    decode_respellToken hmanifest (by omega), decode_respellToken hsha (by omega)]

theorem ManifestFields.length_le (h : ManifestFields value transferId manifestId sha256)
    (hencoded : encodeMap (manifestRecord value transferId manifestId sha256) = .ok encoded) :
    encoded.length ≤ maxAttachmentRecordBytes := by
  have hle := length_le_of_encodeMap h.short hencoded
  have hkeys : keyBytes manifestNames = 330 := by decide
  have hnames : (manifestRecord value transferId manifestId sha256).map Prod.fst =
      manifestNames := rfl
  have hmax : maxAttachmentRecordBytes = 4096 := rfl
  have hversion : attachmentVersion.utf8ByteSize = 25 := by decide
  have hname := h.fileName_le
  have hmedia := h.mediaType_le
  rw [textEncode, Utf8.length_bytes] at hname hmedia
  rw [hnames, hkeys] at hle
  simp only [manifestRecord, List.map_cons, List.sum_cons, List.map_nil, List.sum_nil, payload,
    h.version, h.transferId_length, h.manifestId_length, h.sha256_length, h.signature,
    hversion] at hle
  omega

theorem decodeAttachmentManifest_eq_ok_iff (h : encodeAttachmentManifest value = .ok encoded)
    {result : AttachmentManifest} :
    decodeAttachmentManifest encoded = .ok result ↔
      (¬ Utf8.Marked (Utf16.text value.fileName) ∧ ¬ Utf8.Marked (Utf16.text value.mediaType)) ∧
        result = respellManifest value := by
  obtain ⟨_, hcheck, -⟩ := bind_eq_ok.mp h
  have hvalid : validateManifest value = true := not_not.mp (throwIf_eq_ok.mp hcheck)
  obtain ⟨transferId, manifestId, sha256, hfields⟩ := exists_manifestFields hvalid
  rw [hfields.encode_eq hcheck] at h
  have hcheck' : checkManifest (respellManifest value) = .ok () :=
    throwIf_eq_ok.mpr (not_not.mpr (validateManifest_respell hvalid))
  have hknown : ∀ key ∈ (manifestRecord value transferId manifestId sha256).map Prod.fst,
      key ∈ manifestNames := fun _ hkey => hkey
  rw [decodeAttachmentManifest, attachmentMap, decode_eq_ok_iff goodKeys_manifestRecord
    hfields.short hknown h (hfields.read_eq h) hcheck', and_iff_right (hfields.length_le h),
    hfields.unmarked_iff]

theorem respellManifest_eq_iff (h : validateManifest value = true) :
    respellManifest value = value ↔
      (CanonicalToken value.transferId ∧ CanonicalToken value.manifestId ∧
        CanonicalToken value.sha256) ∧
      Utf16.paired value.fileName = true ∧ Utf16.paired value.mediaType = true := by
  simp only [validateManifest, Bool.and_eq_true, decide_eq_true_eq, and_assoc] at h
  obtain ⟨-, htransfer, hmanifest, hsha, -⟩ := h
  rw [← respellToken_eq_iff htransfer, ← respellToken_eq_iff hmanifest,
    ← respellToken_eq_iff hsha, ← Utf16.units_text_eq_iff, ← Utf16.units_text_eq_iff]
  obtain ⟨version, transferId, manifestId, issuedAt, expiresAt, fileName, mediaType, byteCount,
    chunkBytes, chunkCount, sha256, signature⟩ := value
  simp only [respellManifest, AttachmentManifest.mk.injEq]
  tauto

end Manifest

section Decision

variable {value : AttachmentDecision} {encoded : List UInt8}

def respellDecision (value : AttachmentDecision) : AttachmentDecision :=
  { value with
    transferId := respellToken value.transferId
    manifestId := respellToken value.manifestId }

structure DecisionFields (value : AttachmentDecision) (transferId manifestId : List UInt8) :
    Prop where
  version : value.version = attachmentVersion
  transferIdOk : decodeBase64URL value.transferId.toList = .ok transferId
  transferId_length : transferId.length = 16
  manifestIdOk : decodeBase64URL value.manifestId.toList = .ok manifestId
  manifestId_length : manifestId.length = 32
  signature : value.signature.length = 64

theorem exists_decisionFields (h : validateDecision value = true) :
    ∃ transferId manifestId, DecisionFields value transferId manifestId := by
  simp only [validateDecision, Bool.and_eq_true, decide_eq_true_eq, and_assoc] at h
  obtain ⟨hversion, htransfer, hmanifest, hsignature, -⟩ := h
  obtain ⟨transferId, htransfer, htransferLength⟩ := validToken_iff.mp htransfer
  obtain ⟨manifestId, hmanifest, hmanifestLength⟩ := validToken_iff.mp hmanifest
  exact ⟨transferId, manifestId, hversion, htransfer, htransferLength, hmanifest,
    hmanifestLength, hsignature⟩

theorem validateDecision_respell (h : validateDecision value = true) :
    validateDecision (respellDecision value) = true := by
  unfold validateDecision at h ⊢
  unfold respellDecision
  simp only [Bool.and_eq_true, decide_eq_true_eq, and_assoc] at h ⊢
  obtain ⟨hversion, htransfer, hmanifest, hrest⟩ := h
  exact ⟨hversion, validToken_respellToken htransfer (by omega),
    validToken_respellToken hmanifest (by omega), hrest⟩

variable {transferId manifestId : List UInt8}

def decisionRecord (value : AttachmentDecision) (transferId manifestId : List UInt8) : CborMap :=
  [("version", .text value.version), ("kind", .text value.kind.text),
    ("transfer_id", .bytes transferId), ("manifest_id", .bytes manifestId),
    ("issued_at", .uint value.issuedAt), ("expires_at", .uint value.expiresAt),
    ("signature", .bytes value.signature)]

theorem DecisionFields.encode_eq (h : DecisionFields value transferId manifestId)
    (hcheck : checkDecision value = .ok ()) :
    encodeAttachmentDecision value = encodeMap (decisionRecord value transferId manifestId) := by
  rw [encodeAttachmentDecision, hcheck, decisionBase, h.transferIdOk, h.manifestIdOk]
  rfl

theorem goodKeys_decisionRecord :
    GoodKeys ((decisionRecord value transferId manifestId).map Prod.fst) := by
  show GoodKeys decisionNames
  exact ⟨by decide, by decide, by decide, by decide⟩

theorem text_decisionKind (kind : AttachmentDecisionKind) :
    kind.text ≠ "" ∧ kind.text.utf8ByteSize ≤ 6 ∧ ¬ Utf8.Marked kind.text := by
  cases kind <;> decide

theorem DecisionFields.short (h : DecisionFields value transferId manifestId) :
    ∀ entry ∈ decisionRecord value transferId manifestId, Short entry.2 := by
  have hkind := (text_decisionKind value.kind).2.1
  have hmaxText : maxCborTextBytes = 1024 := rfl
  have hmaxBytes : maxCborBytes = 49152 := rfl
  have := h.transferId_length
  have := h.manifestId_length
  have := h.signature
  simp only [decisionRecord, List.forall_mem_cons, forall_mem_nil, and_true, true_and, Short,
    h.version]
  refine ⟨by decide, ?_, ?_, ?_, ?_⟩ <;> omega

theorem DecisionFields.unmarked (h : DecisionFields value transferId manifestId) :
    Unmarked (decisionRecord value transferId manifestId) := by
  have hversion : ¬ Utf8.Marked attachmentVersion := by decide
  simp [Unmarked, decisionRecord, h.version, hversion, (text_decisionKind value.kind).2.2]

theorem DecisionFields.read_eq (h : DecisionFields value transferId manifestId)
    (hencoded : encodeMap (decisionRecord value transferId manifestId) = .ok encoded) :
    readDecision (Cbor.inKeyOrder (decisionRecord value transferId manifestId)) =
      .ok (respellDecision value) := by
  have hkeys := @goodKeys_decisionRecord value transferId manifestId
  generalize hmap : Cbor.inKeyOrder (decisionRecord value transferId manifestId) = map
  have huint : ∀ {key n}, (decisionRecord value transferId manifestId).lookup key =
      some (.uint n) → requiredUint map key = .ok n := by
    intro key n hlookup
    rw [← hmap, requiredUint_inKeyOrder hkeys hencoded hlookup]
  have hmaxBytes : maxCborBytes = 49152 := rfl
  have hsignatureLength := h.signature
  have hversion : readAttachmentVersion map = .ok attachmentVersion := by
    rw [← hmap, readAttachmentVersion]
    exact readVersion_inKeyOrder hkeys (by rw [decisionRecord, h.version]; rfl) (by decide)
      (by decide)
  have hkind : readDecisionKind map = .ok value.kind := by
    obtain ⟨hne, hle, -⟩ := text_decisionKind value.kind
    have hmaxText : maxCborTextBytes = 1024 := rfl
    have htext : requiredText map "kind" = .ok value.kind.text := by
      rw [← hmap, requiredText_inKeyOrder hkeys rfl hne (by omega)]
    rw [readDecisionKind, htext]
    cases value.kind <;> rfl
  have htransfer : token map "transfer_id" 16 = .ok (Base64.encode transferId) := by
    rw [← hmap, token_inKeyOrder hkeys rfl h.transferId_length (by omega) (by omega)]
  have hmanifest : token map "manifest_id" 32 = .ok (Base64.encode manifestId) := by
    rw [← hmap, token_inKeyOrder hkeys rfl h.manifestId_length (by omega) (by omega)]
  have hsignature : requiredBytes map "signature" (some 64) = .ok value.signature := by
    rw [← hmap]
    exact requiredBytes_inKeyOrder hkeys rfl (by omega) (by omega)
      fun n hn => h.signature.trans (Option.some.inj hn)
  simp only [readDecision, hversion, hkind, htransfer, hmanifest, hsignature,
    @huint "issued_at" _ rfl, @huint "expires_at" _ rfl, respellDecision,
    respellToken_of_decode h.transferIdOk, respellToken_of_decode h.manifestIdOk, h.version]
  rfl

theorem attachmentDecisionSigningBytes_respell (h : validateDecision value = true) :
    attachmentDecisionSigningBytes (respellDecision value) =
      attachmentDecisionSigningBytes value := by
  have hrespell := validateDecision_respell h
  simp only [attachmentDecisionSigningBytes, h, hrespell]
  simp only [validateDecision, Bool.and_eq_true, decide_eq_true_eq, and_assoc] at h
  obtain ⟨-, htransfer, hmanifest, -⟩ := h
  simp only [respellDecision, decode_respellToken htransfer (by omega),
    decode_respellToken hmanifest (by omega)]

theorem DecisionFields.length_le (h : DecisionFields value transferId manifestId)
    (hencoded : encodeMap (decisionRecord value transferId manifestId) = .ok encoded) :
    encoded.length ≤ maxAttachmentRecordBytes := by
  have hle := length_le_of_encodeMap h.short hencoded
  have hkeys : keyBytes decisionNames = 187 := by decide
  have hnames : (decisionRecord value transferId manifestId).map Prod.fst = decisionNames := rfl
  have hmax : maxAttachmentRecordBytes = 4096 := rfl
  have hversion : attachmentVersion.utf8ByteSize = 25 := by decide
  have hkind := (text_decisionKind value.kind).2.1
  rw [hnames, hkeys] at hle
  simp only [decisionRecord, List.map_cons, List.sum_cons, List.map_nil, List.sum_nil, payload,
    h.version, h.transferId_length, h.manifestId_length, h.signature, hversion] at hle
  omega

theorem decodeAttachmentDecision_eq_ok_iff (h : encodeAttachmentDecision value = .ok encoded)
    {result : AttachmentDecision} :
    decodeAttachmentDecision encoded = .ok result ↔ result = respellDecision value := by
  obtain ⟨_, hcheck, -⟩ := bind_eq_ok.mp h
  have hvalid : validateDecision value = true := not_not.mp (throwIf_eq_ok.mp hcheck)
  obtain ⟨transferId, manifestId, hfields⟩ := exists_decisionFields hvalid
  rw [hfields.encode_eq hcheck] at h
  have hcheck' : checkDecision (respellDecision value) = .ok () :=
    throwIf_eq_ok.mpr (not_not.mpr (validateDecision_respell hvalid))
  have hknown : ∀ key ∈ (decisionRecord value transferId manifestId).map Prod.fst,
      key ∈ decisionNames := fun _ hkey => hkey
  rw [decodeAttachmentDecision, attachmentMap, decode_eq_ok_iff goodKeys_decisionRecord
    hfields.short hknown h (hfields.read_eq h) hcheck', and_iff_right (hfields.length_le h),
    and_iff_right hfields.unmarked]

theorem respellDecision_eq_iff (h : validateDecision value = true) :
    respellDecision value = value ↔
      CanonicalToken value.transferId ∧ CanonicalToken value.manifestId := by
  simp only [validateDecision, Bool.and_eq_true, decide_eq_true_eq, and_assoc] at h
  obtain ⟨-, htransfer, hmanifest, -⟩ := h
  rw [← respellToken_eq_iff htransfer, ← respellToken_eq_iff hmanifest]
  obtain ⟨version, kind, transferId, manifestId, issuedAt, expiresAt, signature⟩ := value
  simp only [respellDecision, AttachmentDecision.mk.injEq]
  tauto

end Decision

section Chunk

def chunkRecord (version : String) (transferId manifestId : List UInt8) (index : Nat)
    (bytes : List UInt8) : CborMap :=
  [("version", .text version), ("transfer_id", .bytes transferId),
    ("manifest_id", .bytes manifestId), ("index", .uint index), ("bytes", .bytes bytes)]

/-- What the checks of chunks say of the values that the record of a chunk has. -/
structure ChunkFields (version : String) (transferId manifestId bytes : List UInt8) : Prop where
  version_ne : version ≠ ""
  version_le : version.utf8ByteSize ≤ 64
  unmarked : ¬ Utf8.Marked version
  transferId_length : transferId.length = 16
  manifestId_length : manifestId.length = 32
  bytes_ne : bytes.length ≠ 0
  bytes_le : bytes.length ≤ 3072

section Record

variable {version : String} {transferId manifestId : List UInt8} {index : Nat}
  {bytes : List UInt8} {encoded : List UInt8}

theorem goodKeys_chunkRecord :
    GoodKeys ((chunkRecord version transferId manifestId index bytes).map Prod.fst) := by
  show GoodKeys chunkNames
  exact ⟨by decide, by decide, by decide, by decide⟩

theorem ChunkFields.short (h : ChunkFields version transferId manifestId bytes) :
    ∀ entry ∈ chunkRecord version transferId manifestId index bytes, Short entry.2 := by
  obtain ⟨-, hversion, -, htransfer, hmanifest, -, hbytes⟩ := h
  have hmaxText : maxCborTextBytes = 1024 := rfl
  have hmaxBytes : maxCborBytes = 49152 := rfl
  simp only [chunkRecord, List.forall_mem_cons, forall_mem_nil, and_true, true_and, Short]
  refine ⟨?_, ?_, ?_, ?_⟩ <;> omega

theorem ChunkFields.unmarked_record (h : ChunkFields version transferId manifestId bytes) :
    Unmarked (chunkRecord version transferId manifestId index bytes) := by
  simp [Unmarked, chunkRecord, h.unmarked]

theorem ChunkFields.length_le (h : ChunkFields version transferId manifestId bytes)
    (hencoded : encodeMap (chunkRecord version transferId manifestId index bytes) = .ok encoded) :
    encoded.length ≤ 4096 := by
  have hle := length_le_of_encodeMap h.short hencoded
  have hkeys : keyBytes chunkNames = 129 := by decide
  have hnames : (chunkRecord version transferId manifestId index bytes).map Prod.fst =
      chunkNames := rfl
  obtain ⟨-, hversion, -, htransfer, hmanifest, -, hbytes⟩ := h
  rw [hnames, hkeys] at hle
  simp only [chunkRecord, List.map_cons, List.sum_cons, List.map_nil, List.sum_nil,
    payload] at hle
  omega

theorem ChunkFields.reads (h : ChunkFields version transferId manifestId bytes)
    (hencoded : encodeMap (chunkRecord version transferId manifestId index bytes) = .ok encoded)
    {map : CborMap}
    (hmap : map = Cbor.inKeyOrder (chunkRecord version transferId manifestId index bytes))
    (unsupported : String) :
    FlatRecords.readVersion map version unsupported = .ok version ∧
      token map "transfer_id" 16 = .ok (Base64.encode transferId) ∧
      token map "manifest_id" 32 = .ok (Base64.encode manifestId) ∧
      requiredUint map "index" = .ok index ∧ requiredBytes map "bytes" none = .ok bytes := by
  have hkeys := @goodKeys_chunkRecord version transferId manifestId index bytes
  have hmaxText : maxCborTextBytes = 1024 := rfl
  have hmaxBytes : maxCborBytes = 49152 := rfl
  have hversion := h.version_le
  have hbytes := h.bytes_le
  subst hmap
  exact ⟨readVersion_inKeyOrder hkeys rfl h.version_ne (by omega),
    token_inKeyOrder hkeys rfl h.transferId_length (by omega) (by omega),
    token_inKeyOrder hkeys rfl h.manifestId_length (by omega) (by omega),
    requiredUint_inKeyOrder hkeys hencoded rfl,
    requiredBytes_inKeyOrder hkeys rfl h.bytes_ne (by omega) fun _ hn => by cases hn⟩

end Record

variable {value : AttachmentChunk} {encoded : List UInt8}

def respellChunk (value : AttachmentChunk) : AttachmentChunk :=
  { value with
    transferId := respellToken value.transferId
    manifestId := respellToken value.manifestId }

theorem validateChunk_respell (h : validateChunk value = true) :
    validateChunk (respellChunk value) = true := by
  unfold validateChunk at h ⊢
  unfold respellChunk
  simp only [Bool.and_eq_true, decide_eq_true_eq, and_assoc] at h ⊢
  obtain ⟨hversion, htransfer, hmanifest, hrest⟩ := h
  exact ⟨hversion, validToken_respellToken htransfer (by omega),
    validToken_respellToken hmanifest (by omega), hrest⟩

theorem decodeAttachmentChunk_eq_ok_iff (h : encodeAttachmentChunk value = .ok encoded)
    {result : AttachmentChunk} :
    decodeAttachmentChunk encoded = .ok result ↔ result = respellChunk value := by
  obtain ⟨_, hcheck, hencode⟩ := bind_eq_ok.mp h
  have hvalid : validateChunk value = true := not_not.mp (throwIf_eq_ok.mp hcheck)
  have hcheck' : checkChunk (respellChunk value) = .ok () :=
    throwIf_eq_ok.mpr (not_not.mpr (validateChunk_respell hvalid))
  simp only [validateChunk, Bool.and_eq_true, decide_eq_true_eq, and_assoc] at hvalid
  obtain ⟨hversion, htransfer, hmanifest, -, hbytes, hbytesLe⟩ := hvalid
  obtain ⟨transferId, htransfer, htransferLength⟩ := validToken_iff.mp htransfer
  obtain ⟨manifestId, hmanifest, hmanifestLength⟩ := validToken_iff.mp hmanifest
  have hfields : ChunkFields attachmentVersion transferId manifestId value.bytes :=
    ⟨by decide, by decide, by decide, htransferLength, hmanifestLength, hbytes, hbytesLe⟩
  rw [chunkMap, htransfer, hmanifest, hversion] at hencode
  have hencoded : encodeMap (chunkRecord attachmentVersion transferId manifestId value.index
    value.bytes) = .ok encoded := hencode
  have hread : readChunk (Cbor.inKeyOrder (chunkRecord attachmentVersion transferId manifestId
      value.index value.bytes)) = .ok (respellChunk value) := by
    generalize hmap : Cbor.inKeyOrder (chunkRecord attachmentVersion transferId manifestId
      value.index value.bytes) = map
    obtain ⟨hreadVersion, hreadTransfer, hreadManifest, hindex, hreadBytes⟩ :=
      hfields.reads hencoded hmap.symm "unsupported attachment version"
    simp only [readChunk, readAttachmentVersion, hreadVersion, hreadTransfer, hreadManifest,
      hindex, hreadBytes, respellChunk, respellToken_of_decode htransfer,
      respellToken_of_decode hmanifest, hversion]
    rfl
  have hknown : ∀ key ∈ (chunkRecord attachmentVersion transferId manifestId value.index
      value.bytes).map Prod.fst, key ∈ chunkNames := fun _ hkey => hkey
  have hsize : encoded.length ≤ maxAttachmentRecordBytes := hfields.length_le hencoded
  rw [decodeAttachmentChunk, attachmentMap, decode_eq_ok_iff goodKeys_chunkRecord hfields.short
    hknown hencoded hread hcheck', and_iff_right hsize, and_iff_right hfields.unmarked_record]

theorem respellChunk_eq_iff (h : validateChunk value = true) :
    respellChunk value = value ↔
      CanonicalToken value.transferId ∧ CanonicalToken value.manifestId := by
  simp only [validateChunk, Bool.and_eq_true, decide_eq_true_eq, and_assoc] at h
  obtain ⟨-, htransfer, hmanifest, -⟩ := h
  rw [← respellToken_eq_iff htransfer, ← respellToken_eq_iff hmanifest]
  obtain ⟨version, transferId, manifestId, index, bytes⟩ := value
  simp only [respellChunk, AttachmentChunk.mk.injEq]
  tauto

end Chunk

end Branch.Core.AttachmentWire
