import Branch.Lib.RawCbor
import Branch.Protocol.CborDecode

/-!
The payload of an application inside of an encrypted envelope. The kind is a string of the
relay's language: any bytes.
-/

namespace Branch.Protocol

open Branch.Lib

def applicationPayloadVersion : String := "branch.application-payload/0.draft"
def maxApplicationPayloadBytes : Nat := 4096

structure ApplicationPayload where
  version : List UInt8
  kind : List UInt8
  messageID : List UInt8
  body : List UInt8
  deriving DecidableEq

def invalidApplicationPayload : String := "invalid application payload"

namespace ApplicationPayload

def validate (payload : ApplicationPayload) : Except String Unit :=
  throwIf (payload.version ≠ Utf8.bytes applicationPayloadVersion ∨ payload.kind.length = 0 ∨
    96 < payload.kind.length ∨ payload.messageID.length ≠ 16 ∨ payload.body.length = 0 ∨
    maxApplicationPayloadBytes < payload.body.length) invalidApplicationPayload

def entries (payload : ApplicationPayload) : List (List UInt8 × RawCbor) :=
  [(Utf8.bytes "version", .text payload.version), (Utf8.bytes "kind", .text payload.kind),
    (Utf8.bytes "message_id", .bytes payload.messageID), (Utf8.bytes "body", .bytes payload.body)]

end ApplicationPayload

def encodeApplicationPayload (payload : ApplicationPayload) : Except String (List UInt8) := do
  payload.validate
  RawCbor.write CborErr.duplicateKey.message (.map payload.entries)

/-- The readers' errors come behind the one error of this decoder. -/
def invalidPayload (err : String) : String := invalidApplicationPayload ++ ": " ++ err

def decodeApplicationPayload (data : List UInt8) : Except String ApplicationPayload := do
  throwIf (data.length = 0 ∨ maxApplicationPayloadBytes < data.length) invalidApplicationPayload
  let value ← (decodeDeterministicCBOR data).mapError fun err => invalidPayload err.message
  let mapValue ← (cborMap value "application_payload").mapError invalidPayload
  (cborRejectUnknown mapValue ["version", "kind", "message_id", "body"]).mapError invalidPayload
  let version ← (cborText mapValue "version").mapError invalidPayload
  let kind ← (cborText mapValue "kind").mapError invalidPayload
  let id ← (cborBytes mapValue "message_id" 16).mapError invalidPayload
  let body ← (cborBytes mapValue "body" 0).mapError invalidPayload
  let payload : ApplicationPayload := {
    version := Utf8.bytes version, kind := Utf8.bytes kind, messageID := id, body := body }
  payload.validate
  return payload

section RoundTrip

/-- The length of an encoding with so many bytes of kind and body. -/
def applicationPayloadSize (kind body : Nat) : Nat :=
  83 + (Cbor.head 3 kind).length + kind + (Cbor.head 2 body).length + body

def applicationPayloadRecord (kind : String) (messageID body : List UInt8) : CborMap :=
  [("version", .text applicationPayloadVersion), ("kind", .text kind),
    ("message_id", .bytes messageID), ("body", .bytes body)]

variable {payload : ApplicationPayload}

structure ApplicationPayload.Valid (payload : ApplicationPayload) : Prop where
  version : payload.version = Utf8.bytes applicationPayloadVersion
  kind : payload.kind.length ≠ 0
  kind_le : payload.kind.length ≤ 96
  messageID : payload.messageID.length = 16
  body : payload.body.length ≠ 0
  body_le : payload.body.length ≤ maxApplicationPayloadBytes

theorem ApplicationPayload.validate_eq_ok_iff : payload.validate = .ok () ↔ payload.Valid := by
  rw [validate, throwIf_eq_ok]
  push Not
  exact ⟨fun ⟨hversion, hkind, hkindLe, hid, hbody, hbodyLe⟩ =>
      ⟨hversion, hkind, hkindLe, hid, hbody, hbodyLe⟩,
    fun h => ⟨h.version, h.kind, h.kind_le, h.messageID, h.body, h.body_le⟩⟩

theorem ApplicationPayload.Valid.fits (h : payload.Valid) :
    RawCbor.Fits (.map payload.entries) := by
  have hmax : maxApplicationPayloadBytes = 4096 := rfl
  have hkind := h.kind_le
  have hid := h.messageID
  have hbody := h.body_le
  have hversion : payload.version.length < 2 ^ 64 := by
    rw [h.version]
    decide
  refine .map (show 4 < 2 ^ 64 by decide) ?_ ?_ ?_
  · simp only [ApplicationPayload.entries, List.forall_mem_cons, forall_mem_nil, and_true]
    decide
  · show [Utf8.bytes "version", Utf8.bytes "kind", Utf8.bytes "message_id",
      Utf8.bytes "body"].Nodup
    decide
  · simp only [ApplicationPayload.entries, List.forall_mem_cons, forall_mem_nil, and_true]
    exact ⟨.text hversion, .text (by omega), .bytes (by omega), .bytes (by omega)⟩

theorem ApplicationPayload.Valid.encode_eq (h : payload.Valid) :
    encodeApplicationPayload payload =
      .ok (RawCbor.encode (RawCbor.map payload.entries).sortKeys) := by
  rw [encodeApplicationPayload, ApplicationPayload.validate_eq_ok_iff.mpr h]
  exact RawCbor.write_of_fits h.fits

variable {kind : String}

theorem ApplicationPayload.Valid.entries_eq (h : payload.Valid)
    (hkind : Utf8.bytes kind = payload.kind) :
    RawCbor.ofCborEntries (applicationPayloadRecord kind payload.messageID payload.body) =
      payload.entries := by
  rw [ApplicationPayload.entries, ← hkind, h.version]
  rfl

theorem ApplicationPayload.Valid.fits_record (h : payload.Valid)
    (hkind : Utf8.bytes kind = payload.kind) :
    Cbor.Fits (goRules maxDraftStringBytes maxDraftStringBytes_le_decoded)
      (.map (applicationPayloadRecord kind payload.messageID payload.body)) := by
  have hkindLe := h.kind_le
  have hkindNe := h.kind
  rw [← hkind, Utf8.length_bytes] at hkindLe hkindNe
  have hne : kind ≠ "" := by
    rintro rfl
    exact hkindNe rfl
  have hid := h.messageID
  have hbody := h.body_le
  have hmax : maxApplicationPayloadBytes = 4096 := rfl
  have hmaxText : maxDraftStringBytes = 1024 := rfl
  have hmaxBytes : maxDecodedCBORBytes = 49152 := rfl
  refine .map (show 4 ≤ 64 by decide) ?_ ?_ ?_
  · simp only [applicationPayloadRecord, List.forall_mem_cons, forall_mem_nil, and_true]
    exact ⟨⟨by decide, by decide⟩, ⟨by decide, by decide⟩, ⟨by decide, by decide⟩,
      ⟨by decide, by decide⟩⟩
  · show ["version", "kind", "message_id", "body"].Nodup
    decide
  · simp only [applicationPayloadRecord, List.forall_mem_cons, forall_mem_nil, and_true]
    exact ⟨.text ⟨by decide, by decide⟩,
      .text ⟨by simpa [goRules] using hne, show _ ≤ maxDraftStringBytes by omega⟩,
      .bytes (show _ ≤ maxDecodedCBORBytes by omega),
      .bytes (show _ ≤ maxDecodedCBORBytes by omega)⟩

theorem length_encode_record {messageID body : List UInt8}
    (hid : messageID.length = 16) :
    (Cbor.encode (.map (applicationPayloadRecord kind messageID body))).length =
      applicationPayloadSize kind.utf8ByteSize body.length := by
  have hversion : (Cbor.encodeText applicationPayloadVersion).length = 36 := by decide
  have hkeys : (["version", "kind", "message_id", "body"].map fun key =>
      (Cbor.encodeText key).length) = [8, 5, 11, 5] := by decide
  have hcount : (Cbor.head 5 4).length = 1 := by decide
  have hsize : (Cbor.head 2 16).length = 1 := by decide
  simp only [List.map_cons, List.map_nil, List.cons.injEq, and_true] at hkeys
  obtain ⟨hkey, hkey', hkey'', hkey₃⟩ := hkeys
  simp only [applicationPayloadRecord, Cbor.encode, Cbor.encodeEntries, List.length_append,
    List.length_cons, List.length_nil, hid, hversion, hkey, hkey', hkey'', hkey₃, hcount, hsize,
    applicationPayloadSize]
  simp only [Cbor.encodeText, List.length_append, Utf8.length_bytes]
  omega

theorem ApplicationPayload.Valid.encode_entries (h : payload.Valid)
    (hkind : Utf8.bytes kind = payload.kind) :
    RawCbor.encode (RawCbor.map payload.entries).sortKeys = Cbor.encode
      (Cbor.map (applicationPayloadRecord kind payload.messageID payload.body)).sortKeys := by
  rw [← h.entries_eq hkind, ← RawCbor.ofCbor, RawCbor.sortKeys_ofCbor, RawCbor.encode_ofCbor]

theorem ApplicationPayload.Valid.length_encode (h : payload.Valid)
    (hkind : Utf8.bytes kind = payload.kind) :
    (RawCbor.encode (RawCbor.map payload.entries).sortKeys).length =
      applicationPayloadSize payload.kind.length payload.body.length := by
  rw [h.encode_entries hkind, Cbor.length_encode_sortKeys (h.fits_record hkind),
    length_encode_record h.messageID, ← hkind, Utf8.length_bytes]

theorem ApplicationPayload.Valid.withinLimits (h : payload.Valid)
    (hkind : Utf8.bytes kind = payload.kind)
    (hsize : applicationPayloadSize payload.kind.length payload.body.length ≤
      maxApplicationPayloadBytes) :
    WithinLimits maxDraftStringBytes_le_decoded
      (.map (applicationPayloadRecord kind payload.messageID payload.body)) := by
  refine ⟨h.fits_record hkind, ?_, ?_⟩
  · show (1 : Nat) ≤ 8
    decide
  · rw [length_encode_record h.messageID, ← Utf8.length_bytes, hkind]
    exact hsize.trans (by decide)

theorem ApplicationPayload.Valid.reads (h : payload.Valid)
    (hkind : Utf8.bytes kind = payload.kind) {m : CborMap}
    (hm : m = Cbor.inKeyOrder
      (applicationPayloadRecord kind payload.messageID payload.body)) :
    cborRejectUnknown m ["version", "kind", "message_id", "body"] = .ok () ∧
      cborText m "version" = .ok applicationPayloadVersion ∧ cborText m "kind" = .ok kind ∧
      cborBytes m "message_id" 16 = .ok payload.messageID ∧
      cborBytes m "body" 0 = .ok payload.body := by
  have hnodup : ((applicationPayloadRecord kind payload.messageID payload.body).map
      Prod.fst).Nodup := by
    show ["version", "kind", "message_id", "body"].Nodup
    decide
  have hlookup := Cbor.lookup_inKeyOrder hnodup
  rw [← hm] at hlookup
  have hkindLe := h.kind_le
  have hkindNe := h.kind
  rw [← hkind, Utf8.length_bytes] at hkindLe hkindNe
  have hid := h.messageID
  have hbody := h.body_le
  have hmax : maxApplicationPayloadBytes = 4096 := rfl
  have hmaxText : maxDraftStringBytes = 1024 := rfl
  have hmaxBytes : maxDecodedCBORBytes = 49152 := rfl
  refine ⟨?_, ?_, ?_, ?_, ?_⟩
  · refine cborRejectUnknown_eq_ok_iff.mpr fun entry hentry => ?_
    rw [hm, Cbor.mem_inKeyOrder] at hentry
    exact List.mem_map_of_mem (f := Prod.fst) hentry
  · exact cborText_eq_ok_iff.mpr ⟨hlookup _, by decide, by decide⟩
  · refine cborText_eq_ok_iff.mpr ⟨hlookup _, ?_, by omega⟩
    rintro rfl
    exact hkindNe rfl
  · exact cborBytes_eq_ok_iff.mpr ⟨hlookup _, by omega, fun _ => hid⟩
  · exact cborBytes_eq_ok_iff.mpr
      ⟨hlookup _, ⟨h.body, by omega⟩, fun hpos => absurd hpos (by decide)⟩

theorem ApplicationPayload.Valid.decode (h : payload.Valid)
    (hkind : Utf8.bytes kind = payload.kind)
    (hsize : applicationPayloadSize payload.kind.length payload.body.length ≤
      maxApplicationPayloadBytes) :
    decodeApplicationPayload (RawCbor.encode (RawCbor.map payload.entries).sortKeys) =
      .ok payload := by
  have hlength := h.length_encode hkind
  have hpos : ¬ ((RawCbor.encode (RawCbor.map payload.entries).sortKeys).length = 0 ∨
      maxApplicationPayloadBytes <
        (RawCbor.encode (RawCbor.map payload.entries).sortKeys).length) := by
    rw [hlength, applicationPayloadSize]
    rw [applicationPayloadSize] at hsize
    omega
  have hdecode := decode_encode_of_withinLimits (by decide) (h.withinLimits hkind hsize)
  have hflat : ∀ entry ∈ applicationPayloadRecord kind payload.messageID payload.body,
      entry.2.sortKeys = entry.2 := by
    simp [applicationPayloadRecord, Cbor.sortKeys]
  rw [← h.encode_entries hkind, Cbor.sortKeys_record hflat] at hdecode
  obtain ⟨hknown, hversion, hkindRead, hid, hbody⟩ := h.reads hkind rfl
  have hpayload : (⟨Utf8.bytes applicationPayloadVersion, Utf8.bytes kind, payload.messageID,
      payload.body⟩ : ApplicationPayload) = payload := by
    rw [← h.version, hkind]
  simp only [decodeApplicationPayload, bind_eq_ok, mapError_eq_ok]
  refine ⟨(), throwIf_eq_ok.mpr hpos, _, hdecode, _, cborMap_eq_ok_iff.mpr rfl, (), hknown, _, hversion, _, hkindRead,
    _, hid, _, hbody, (), ?_, ?_⟩
  · rw [hpayload]
    exact ApplicationPayload.validate_eq_ok_iff.mpr h
  · exact congrArg Except.ok hpayload

theorem ApplicationPayload.Valid.of_decode (h : payload.Valid)
    (hdecode : decodeApplicationPayload
      (RawCbor.encode (RawCbor.map payload.entries).sortKeys) = .ok payload) :
    (∃ kind, Utf8.bytes kind = payload.kind) ∧
      applicationPayloadSize payload.kind.length payload.body.length ≤
        maxApplicationPayloadBytes := by
  obtain ⟨hsize, hdecode⟩ := throwIf_bind_eq_ok.mp hdecode
  obtain ⟨value, hvalue, _⟩ := bind_eq_ok.mp hdecode
  obtain ⟨_, hwire, _, hencode⟩ :=
    (decodeDeterministicCBORWithTextLimit_eq_ok_iff (by decide)
      maxDraftStringBytes_le_decoded).mp (mapError_eq_ok.mp hvalue)
  have hmem : payload.kind ∈ RawCbor.texts (.map payload.entries) :=
    RawCbor.mem_textsEntries.mpr ⟨(Utf8.bytes "kind", .text payload.kind),
      by simp [ApplicationPayload.entries], .inr (List.mem_singleton.mpr rfl)⟩
  obtain ⟨kind, hkind⟩ := RawCbor.exists_bytes_of_encode_eq hwire h.fits hencode _ hmem
  rw [h.length_encode hkind] at hsize
  exact ⟨⟨kind, hkind⟩, by omega⟩

/-- The kind is text, and with its head and that of the body everything is at most 4096
bytes. -/
def ApplicationPayload.Returns (payload : ApplicationPayload) : Prop :=
  (∃ kind, Utf8.bytes kind = payload.kind) ∧
    applicationPayloadSize payload.kind.length payload.body.length ≤ maxApplicationPayloadBytes

theorem decodeApplicationPayload_eq_ok_iff {encoded : List UInt8}
    (h : encodeApplicationPayload payload = .ok encoded) :
    decodeApplicationPayload encoded = .ok payload ↔ payload.Returns := by
  obtain ⟨_, hvalid, hwrite⟩ := bind_eq_ok.mp h
  have hvalid := ApplicationPayload.validate_eq_ok_iff.mp hvalid
  obtain rfl := Except.ok.inj (hvalid.encode_eq.symm.trans h)
  constructor
  · exact hvalid.of_decode
  · rintro ⟨⟨kind, hkind⟩, hsize⟩
    exact hvalid.decode hkind hsize

end RoundTrip

end Branch.Protocol
