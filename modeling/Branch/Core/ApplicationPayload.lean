import Branch.Core.Attachment
import Branch.Protocol.ApplicationPayload

/-!
The payload of an application inside of an encrypted envelope, as the client reads and writes
it.
-/

namespace Branch.Core.ApplicationPayload

open Branch.Lib
open Branch.Protocol (applicationPayloadRecord applicationPayloadSize applicationPayloadVersion
  maxApplicationPayloadBytes length_encode_record)

def maxApplicationPayloadKindBytes : Nat := 96

structure ApplicationPayloadEnvelope where
  version : String
  kind : JsString
  messageId : String
  body : List UInt8
  deriving DecidableEq

def validateEnvelope (envelope : ApplicationPayloadEnvelope) : Except String Unit :=
  throwIf (envelope.version ≠ applicationPayloadVersion ∨ (textEncode envelope.kind).length = 0 ∨
    maxApplicationPayloadKindBytes < (textEncode envelope.kind).length ∨
    envelope.body.length = 0 ∨ maxApplicationPayloadBytes < envelope.body.length ∨
    ¬ validToken envelope.messageId 16) "invalid application payload envelope"

def envelopeMap (envelope : ApplicationPayloadEnvelope) : Except String CborMap := do
  let messageId ← decodeBase64URL envelope.messageId.toList
  return [("version", .text envelope.version), ("kind", .text (Utf16.text envelope.kind)),
    ("message_id", .bytes messageId), ("body", .bytes envelope.body)]

def encodeApplicationPayload (envelope : ApplicationPayloadEnvelope) :
    Except String (List UInt8) := do
  validateEnvelope envelope
  let map ← envelopeMap envelope
  (encodeDeterministicCbor (.map map)).mapError CborError.message

def readKind (map : CborMap) : Except String JsString := do
  let text ← requiredText map "kind"
  let kind := Utf16.units text
  throwIf (maxApplicationPayloadKindBytes < (textEncode kind).length)
    "invalid application payload kind"
  return kind

def decodeApplicationPayload (bytes : List UInt8) :
    Except String ApplicationPayloadEnvelope := do
  throwIf (bytes.length = 0 ∨ maxApplicationPayloadBytes < bytes.length)
    "invalid application payload size"
  let decoded ←
    (decodeDeterministicCbor bytes maxApplicationPayloadBytes).mapError CborError.message
  let map ← readCborMap decoded "application_payload"
  rejectUnknownEntries map ["version", "kind", "message_id", "body"]
  let version ← requiredText map "version"
  throwIf (version ≠ applicationPayloadVersion) "unsupported application payload version"
  let kind ← readKind map
  let messageId ← requiredBytes map "message_id" (some 16)
  let body ← requiredBytes map "body" none
  let envelope : ApplicationPayloadEnvelope := {
    version, kind, messageId := Base64.encode messageId, body }
  validateEnvelope envelope
  return envelope

section RoundTrip

variable {envelope : ApplicationPayloadEnvelope} {messageId : List UInt8}

/-- What the check of an envelope says, with the bytes of the message id. -/
structure ApplicationPayloadEnvelope.Valid (envelope : ApplicationPayloadEnvelope)
    (messageId : List UInt8) : Prop where
  version : envelope.version = applicationPayloadVersion
  kind : (textEncode envelope.kind).length ≠ 0
  kind_le : (textEncode envelope.kind).length ≤ maxApplicationPayloadKindBytes
  body : envelope.body.length ≠ 0
  body_le : envelope.body.length ≤ maxApplicationPayloadBytes
  messageIdOk : decodeBase64URL envelope.messageId.toList = .ok messageId
  messageId_length : messageId.length = 16

theorem exists_valid_of_validateEnvelope (h : validateEnvelope envelope = .ok ()) :
    ∃ messageId, envelope.Valid messageId := by
  rw [validateEnvelope, throwIf_eq_ok] at h
  push Not at h
  obtain ⟨hversion, hkind, hkindLe, hbody, hbodyLe, hid⟩ := h
  obtain ⟨messageId, hid, hlength⟩ := validToken_iff.mp hid
  exact ⟨messageId, hversion, hkind, hkindLe, hbody, hbodyLe, hid, hlength⟩

theorem ApplicationPayloadEnvelope.Valid.validate (h : envelope.Valid messageId) :
    validateEnvelope envelope = .ok () := by
  rw [validateEnvelope, throwIf_eq_ok]
  push Not
  exact ⟨h.version, h.kind, h.kind_le, h.body, h.body_le,
    validToken_iff.mpr ⟨messageId, h.messageIdOk, h.messageId_length⟩⟩

def ApplicationPayloadEnvelope.record (envelope : ApplicationPayloadEnvelope)
    (messageId : List UInt8) : CborMap :=
  applicationPayloadRecord (Utf16.text envelope.kind) messageId envelope.body

theorem ApplicationPayloadEnvelope.Valid.envelopeMap_eq (h : envelope.Valid messageId) :
    envelopeMap envelope = .ok (envelope.record messageId) := by
  rw [envelopeMap, h.messageIdOk, h.version]
  rfl

theorem ApplicationPayloadEnvelope.Valid.fits (h : envelope.Valid messageId) :
    Cbor.Fits encoderRules (.map (envelope.record messageId)) := by
  have hkind := h.kind_le
  rw [textEncode, Utf8.length_bytes] at hkind
  have hid := h.messageId_length
  have hbody := h.body_le
  have hmax : maxApplicationPayloadBytes = 4096 := rfl
  have hmaxKind : maxApplicationPayloadKindBytes = 96 := rfl
  have hmaxBytes : encoderRules.maxBytes = 49152 := rfl
  have hmaxText : encoderRules.maxTextBytes = 49152 := rfl
  refine .map (show 4 ≤ 64 by decide) ?_ ?_ ?_
  · simp only [ApplicationPayloadEnvelope.record, applicationPayloadRecord, List.forall_mem_cons,
      forall_mem_nil, and_true]
    exact ⟨⟨by decide, by decide⟩, ⟨by decide, by decide⟩, ⟨by decide, by decide⟩,
      ⟨by decide, by decide⟩⟩
  · show ["version", "kind", "message_id", "body"].Nodup
    decide
  · simp only [ApplicationPayloadEnvelope.record, applicationPayloadRecord, List.forall_mem_cons,
      forall_mem_nil, and_true]
    exact ⟨.text ⟨rfl, by decide⟩, .text ⟨rfl, by omega⟩, .bytes (by omega), .bytes (by omega)⟩

/-- Every half of a pair in the kind has its other half, the kind does not begin with U+FEFF,
the message id is spelled canonically, and with the heads of kind and body everything is at
most 4096 bytes. -/
structure ApplicationPayloadEnvelope.Returns (envelope : ApplicationPayloadEnvelope) : Prop where
  paired : Utf16.paired envelope.kind = true
  unmarked : ¬ Utf8.Marked (Utf16.text envelope.kind)
  messageId : CanonicalToken envelope.messageId
  size : applicationPayloadSize (textEncode envelope.kind).length envelope.body.length ≤
    maxApplicationPayloadBytes

theorem ApplicationPayloadEnvelope.Valid.texts_iff (h : envelope.Valid messageId) :
    (∀ s ∈ (Cbor.map (envelope.record messageId)).texts,
      s.utf8ByteSize ≤ maxCborTextBytes ∧ ¬ Utf8.Marked s) ↔
        ¬ Utf8.Marked (Utf16.text envelope.kind) := by
  have hkind := h.kind_le
  rw [textEncode, Utf8.length_bytes] at hkind
  have hmaxKind : maxApplicationPayloadKindBytes = 96 := rfl
  have hmaxText : maxCborTextBytes = 1024 := rfl
  have htexts : (Cbor.map (envelope.record messageId)).texts =
      ["version", applicationPayloadVersion, "kind", Utf16.text envelope.kind, "message_id",
        "body"] := rfl
  have hconst : ∀ s ∈ ["version", applicationPayloadVersion, "kind", "message_id", "body"],
      s.utf8ByteSize ≤ maxCborTextBytes ∧ s.toList.head? ≠ some Utf8.byteOrderMark := by
    decide
  rw [htexts]
  constructor
  · exact fun hall => (hall _ (by simp)).2
  · intro hmarked s hs
    by_cases heq : s = Utf16.text envelope.kind
    · rw [heq]
      exact ⟨by omega, hmarked⟩
    · exact hconst s (by simp_all)

theorem ApplicationPayloadEnvelope.Valid.encode_eq (h : envelope.Valid messageId) :
    encodeApplicationPayload envelope =
      .ok (Cbor.encode (Cbor.map (envelope.record messageId)).sortKeys) := by
  have hencoded := encodeDeterministicCbor_of_fits h.fits
  refine bind_eq_ok.mpr ⟨(), h.validate, bind_eq_ok.mpr ⟨_, h.envelopeMap_eq, ?_⟩⟩
  exact mapError_eq_ok.mpr hencoded

theorem ApplicationPayloadEnvelope.Valid.reads (h : envelope.Valid messageId) {map : CborMap}
    (hmap : map = Cbor.inKeyOrder (envelope.record messageId)) :
    rejectUnknownEntries map ["version", "kind", "message_id", "body"] = .ok () ∧
      requiredText map "version" = .ok applicationPayloadVersion ∧
      requiredText map "kind" = .ok (Utf16.text envelope.kind) ∧
      requiredBytes map "message_id" (some 16) = .ok messageId ∧
      requiredBytes map "body" none = .ok envelope.body := by
  have hnodup : ((envelope.record messageId).map Prod.fst).Nodup := by
    show ["version", "kind", "message_id", "body"].Nodup
    decide
  have hlookup := Cbor.lookup_inKeyOrder hnodup
  rw [← hmap] at hlookup
  have hkindLe := h.kind_le
  have hkindNe := h.kind
  rw [textEncode, Utf8.length_bytes] at hkindLe hkindNe
  have hid := h.messageId_length
  have hbody := h.body_le
  have hmax : maxApplicationPayloadBytes = 4096 := rfl
  have hmaxKind : maxApplicationPayloadKindBytes = 96 := rfl
  have hmaxText : maxCborTextBytes = 1024 := rfl
  have hmaxBytes : maxCborBytes = 49152 := rfl
  refine ⟨?_, ?_, ?_, ?_, ?_⟩
  · refine rejectUnknownEntries_eq_ok_iff.mpr fun entry hentry => ?_
    rw [hmap, Cbor.mem_inKeyOrder] at hentry
    exact List.mem_map_of_mem (f := Prod.fst) hentry
  · exact requiredText_eq_ok_iff.mpr ⟨hlookup _, by decide, by decide⟩
  · refine requiredText_eq_ok_iff.mpr ⟨hlookup _, ?_, by omega⟩
    intro hempty
    rw [hempty] at hkindNe
    exact hkindNe rfl
  · exact requiredBytes_eq_ok_iff.mpr ⟨hlookup _, by omega, fun _ hn => by
      obtain rfl := Option.some.inj hn
      exact hid⟩
  · exact requiredBytes_eq_ok_iff.mpr
      ⟨hlookup _, ⟨h.body, by omega⟩, fun _ hn => by cases hn⟩

/-- The client reads the record of an envelope if it fits, with the kind and the message id
spelled anew. -/
theorem ApplicationPayloadEnvelope.Valid.decode_eq_ok_iff (h : envelope.Valid messageId)
    {encoded : List UInt8}
    (hencoded : encodeDeterministicCbor (.map (envelope.record messageId)) = .ok encoded) :
    decodeApplicationPayload encoded = .ok envelope ↔
      (encoded.length ≤ maxApplicationPayloadBytes ∧
        ¬ Utf8.Marked (Utf16.text envelope.kind)) ∧
      Utf16.units (Utf16.text envelope.kind) = envelope.kind ∧
      Base64.encode messageId = envelope.messageId := by
  have hflat : ∀ entry ∈ envelope.record messageId, entry.2.sortKeys = entry.2 := by
    simp [ApplicationPayloadEnvelope.record, applicationPayloadRecord, Cbor.sortKeys]
  have hdecode := fun w => @decode_record_eq_ok_iff maxApplicationPayloadBytes _ _ w h.fits
    hflat hencoded
  simp only [h.texts_iff] at hdecode
  obtain ⟨hknown, hversion, hkind, hid, hbody⟩ := h.reads rfl
  have hpos : encoded.length ≠ 0 := by
    have hlength := Cbor.length_of_write hencoded
    have hone := Cbor.one_le_length_encode (.map (envelope.record messageId))
    omega
  simp only [decodeApplicationPayload, bind_eq_ok, mapError_eq_ok, hdecode, throwIf_eq_ok,
    readCborMap_eq_ok_iff]
  constructor
  · rintro ⟨_, _, _, ⟨hsize, hunmarked, rfl⟩, map, hmap, _, _, version, _, _, _, kind, hread, id,
      hid', body, _, _, _, heq⟩
    obtain rfl := Cbor.map.inj hmap
    obtain rfl := Except.ok.inj (hid.symm.trans hid')
    obtain rfl := Except.ok.inj heq
    obtain ⟨text, htext, hread⟩ := bind_eq_ok.mp hread
    obtain rfl := Except.ok.inj (hkind.symm.trans htext)
    obtain ⟨_, heq⟩ := throwIf_bind_eq_ok.mp hread
    exact ⟨⟨hsize, hunmarked⟩, Except.ok.inj heq, rfl⟩
  · rintro ⟨⟨hsize, hunmarked⟩, hunits, htoken⟩
    have hread : readKind (Cbor.inKeyOrder (envelope.record messageId)) = .ok envelope.kind := by
      refine bind_eq_ok.mpr ⟨_, hkind, ?_⟩
      rw [hunits]
      exact throwIf_bind_eq_ok.mpr ⟨Nat.not_lt.mpr h.kind_le, rfl⟩
    refine ⟨(), by omega, _, ⟨hsize, hunmarked, rfl⟩, _, rfl, (), hknown, _, hversion, (),
      not_not.mpr rfl, _, hread, _, hid, _, hbody, (), ?_⟩
    have heq : (⟨applicationPayloadVersion, envelope.kind, Base64.encode messageId,
        envelope.body⟩ : ApplicationPayloadEnvelope) = envelope := by
      rw [htoken, ← h.version]
    rw [heq]
    exact ⟨h.validate, rfl⟩

theorem decodeApplicationPayload_eq_ok_iff {encoded : List UInt8}
    (h : encodeApplicationPayload envelope = .ok encoded) :
    decodeApplicationPayload encoded = .ok envelope ↔ envelope.Returns := by
  obtain ⟨_, hcheck, hencode⟩ := bind_eq_ok.mp h
  obtain ⟨messageId, hvalid⟩ := exists_valid_of_validateEnvelope hcheck
  obtain ⟨map, hmap, hencode⟩ := bind_eq_ok.mp hencode
  obtain rfl := Except.ok.inj (hvalid.envelopeMap_eq.symm.trans hmap)
  have hencoded := mapError_eq_ok.mp hencode
  have hlength : encoded.length =
      applicationPayloadSize (textEncode envelope.kind).length envelope.body.length := by
    rw [Cbor.length_of_write hencoded, ApplicationPayloadEnvelope.record,
      length_encode_record hvalid.messageId_length, textEncode, Utf8.length_bytes]
  rw [hvalid.decode_eq_ok_iff hencoded, Utf16.units_text_eq_iff,
    encode_eq_iff_canonical hvalid.messageIdOk, hlength]
  constructor
  · rintro ⟨⟨hsize, hunmarked⟩, hpaired, htoken⟩
    exact ⟨hpaired, hunmarked, htoken, hsize⟩
  · intro hreturns
    exact ⟨⟨hreturns.size, hreturns.unmarked⟩, hreturns.paired, hreturns.messageId⟩

end RoundTrip

end Branch.Core.ApplicationPayload
