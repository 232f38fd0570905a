import Branch.Protocol.CborDecode

/-!
The frames of a direct data channel between two peers, as Go reads and writes them.
-/

namespace Branch.Protocol

open Branch.Lib

def rtcDataVersion : String := "branch.rtc.data/0.draft"
def maxRTCDataCiphertextBytes : Nat := 6 * 1024
def maxRTCDataFrameBytes : Nat := 8 * 1024
def maxRTCAdmitFrameBytes : Nat := 256

structure RTCData where
  version : String
  rtcSessionID : List UInt8
  originRouteID : List UInt8
  pathEpoch : Nat
  streamID : Nat
  deliveryID : List UInt8
  ackRequested : Bool
  ciphertext : List UInt8
  deriving DecidableEq

structure RTCAdmit where
  version : String
  rtcSessionID : List UInt8
  deliveryID : List UInt8
  deriving DecidableEq

inductive RTCDataFrame where
  | data (value : RTCData)
  | admission (value : RTCAdmit)
  deriving DecidableEq

def invalidRTCData : String := "invalid rtc data"

def rtcDataError (err : String) : String := invalidRTCData ++ ": " ++ err

def RTCData.validate (data : RTCData) : Except String Unit :=
  throwIf (data.version ≠ rtcDataVersion ∨ data.rtcSessionID.length ≠ 16 ∨
    data.originRouteID.length ≠ 16 ∨ maxDraftTimestamp < data.pathEpoch ∨
    maxDraftTimestamp < data.streamID ∨ data.deliveryID.length ≠ 16 ∨
    data.ciphertext.length = 0 ∨ maxRTCDataCiphertextBytes < data.ciphertext.length)
    invalidRTCData

def RTCAdmit.validate (admission : RTCAdmit) : Except String Unit :=
  throwIf (admission.version ≠ rtcDataVersion ∨ admission.rtcSessionID.length ≠ 16 ∨
    admission.deliveryID.length ≠ 16) invalidRTCData

section Encoder

def rtcDataMap (data : RTCData) : CborMap :=
  [("kind", .text "data"), ("version", .text data.version),
    ("rtc_session_id", .bytes data.rtcSessionID), ("origin_route_id", .bytes data.originRouteID),
    ("path_epoch", .uint data.pathEpoch), ("stream_id", .uint data.streamID),
    ("delivery_id", .bytes data.deliveryID), ("ack_requested", .bool data.ackRequested),
    ("ciphertext", .bytes data.ciphertext)]

def rtcAdmitMap (admission : RTCAdmit) : CborMap :=
  [("kind", .text "admit"), ("version", .text admission.version),
    ("rtc_session_id", .bytes admission.rtcSessionID),
    ("delivery_id", .bytes admission.deliveryID)]

def encodeRTCDataFrame (entries : CborMap) (maximumBytes : Nat) : Except String (List UInt8) := do
  let encoded ← (encodeCbor (.map entries)).mapError fun _ => invalidRTCData
  throwIf (encoded.length = 0 ∨ maximumBytes < encoded.length) invalidRTCData
  return encoded

def encodeRTCData (data : RTCData) : Except String (List UInt8) := do
  data.validate
  encodeRTCDataFrame (rtcDataMap data) maxRTCDataFrameBytes

def encodeRTCAdmit (admission : RTCAdmit) : Except String (List UInt8) := do
  admission.validate
  encodeRTCDataFrame (rtcAdmitMap admission) maxRTCAdmitFrameBytes

end Encoder

section Decoder

def decodeRTCDataMap (input : List UInt8) (label : String) (maximumBytes : Nat) :
    Except String CborMap := do
  throwIf (input.length = 0 ∨ maximumBytes < input.length) invalidRTCData
  let value ← (decodeDeterministicCBOR input).mapError fun err => rtcDataError err.message
  (cborMap value label).mapError rtcDataError

variable (m : CborMap)

def rtcDataKind (expected : String) : Except String Unit := do
  let kind ← (cborText m "kind").mapError fun _ => invalidRTCData
  throwIf (kind ≠ expected) invalidRTCData

def readRTCDataVersion : Except String String := do
  let version ← (cborText m "version").mapError fun _ => invalidRTCData
  throwIf (version ≠ rtcDataVersion) invalidRTCData
  return version

def decodeRTCDataFromMap : Except String RTCData := do
  rtcDataKind m "data"
  (cborRejectUnknown m ["kind", "version", "rtc_session_id", "origin_route_id", "path_epoch",
    "stream_id", "delivery_id", "ack_requested", "ciphertext"]).mapError rtcDataError
  let version ← readRTCDataVersion m
  let rtcSessionID ← (cborBytes m "rtc_session_id" 16).mapError rtcDataError
  let originRouteID ← (cborBytes m "origin_route_id" 16).mapError rtcDataError
  let pathEpoch ← (cborUint m "path_epoch").mapError rtcDataError
  let streamID ← (cborUint m "stream_id").mapError rtcDataError
  let deliveryID ← (cborBytes m "delivery_id" 16).mapError rtcDataError
  let ackRequested ← (cborBool m "ack_requested").mapError rtcDataError
  let ciphertext ← (cborBytes m "ciphertext" 0).mapError rtcDataError
  let data : RTCData := { version, rtcSessionID, originRouteID, pathEpoch, streamID, deliveryID
                          ackRequested, ciphertext }
  data.validate
  return data

def decodeRTCAdmitFromMap : Except String RTCAdmit := do
  rtcDataKind m "admit"
  (cborRejectUnknown m ["kind", "version", "rtc_session_id", "delivery_id"]).mapError rtcDataError
  let version ← readRTCDataVersion m
  let rtcSessionID ← (cborBytes m "rtc_session_id" 16).mapError rtcDataError
  let deliveryID ← (cborBytes m "delivery_id" 16).mapError rtcDataError
  let admission : RTCAdmit := { version, rtcSessionID, deliveryID }
  admission.validate
  return admission

variable (input : List UInt8)

def decodeRTCData : Except String RTCData := do
  let m ← decodeRTCDataMap input "rtc_data" maxRTCDataFrameBytes
  decodeRTCDataFromMap m

def decodeRTCAdmit : Except String RTCAdmit := do
  let m ← decodeRTCDataMap input "rtc_admit" maxRTCAdmitFrameBytes
  decodeRTCAdmitFromMap m

def decodeRTCDataFrame : Except String RTCDataFrame := do
  let m ← decodeRTCDataMap input "rtc_data_frame" maxRTCDataFrameBytes
  let kind ← (cborText m "kind").mapError rtcDataError
  if kind = "data" then
    let data ← decodeRTCDataFromMap m
    return .data data
  else if kind = "admit" then
    throwIf (maxRTCAdmitFrameBytes < input.length) invalidRTCData
    let admission ← decodeRTCAdmitFromMap m
    return .admission admission
  else throw invalidRTCData

end Decoder

section Valid

structure RTCData.Valid (data : RTCData) : Prop where
  version : data.version = rtcDataVersion
  rtcSessionID : data.rtcSessionID.length = 16
  originRouteID : data.originRouteID.length = 16
  pathEpoch : data.pathEpoch ≤ 2 ^ 53 - 1
  streamID : data.streamID ≤ 2 ^ 53 - 1
  deliveryID : data.deliveryID.length = 16
  ciphertext : data.ciphertext.length ≠ 0
  ciphertext_le : data.ciphertext.length ≤ maxRTCDataCiphertextBytes

structure RTCAdmit.Valid (admission : RTCAdmit) : Prop where
  version : admission.version = rtcDataVersion
  rtcSessionID : admission.rtcSessionID.length = 16
  deliveryID : admission.deliveryID.length = 16

theorem RTCData.validate_eq_ok_iff {data : RTCData} : data.validate = .ok () ↔ data.Valid := by
  rw [RTCData.validate, throwIf_eq_ok]
  simp only [not_or, Int.not_lt, Nat.not_lt, not_not, le_maxDraftTimestamp_iff, ne_eq]
  constructor
  · rintro ⟨hversion, hsession, hroute, hepoch, hstream, hdelivery, hne, hle⟩
    exact ⟨hversion, hsession, hroute, hepoch, hstream, hdelivery, hne, hle⟩
  · rintro ⟨hversion, hsession, hroute, hepoch, hstream, hdelivery, hne, hle⟩
    exact ⟨hversion, hsession, hroute, hepoch, hstream, hdelivery, hne, hle⟩

theorem RTCAdmit.validate_eq_ok_iff {admission : RTCAdmit} :
    admission.validate = .ok () ↔ admission.Valid := by
  rw [RTCAdmit.validate, throwIf_eq_ok]
  simp only [not_or, not_not, ne_eq]
  constructor
  · rintro ⟨hversion, hsession, hdelivery⟩
    exact ⟨hversion, hsession, hdelivery⟩
  · rintro ⟨hversion, hsession, hdelivery⟩
    exact ⟨hversion, hsession, hdelivery⟩

end Valid

section Records

def rtcDataTexts : List String :=
  ["kind", "version", "rtc_session_id", "origin_route_id", "path_epoch", "stream_id",
    "delivery_id", "ack_requested", "ciphertext", "data", "admit", rtcDataVersion]

theorem Roomy.textOk_rtcDataTexts {r : Cbor.Rules} (hr : Roomy r) :
    ∀ s ∈ rtcDataTexts, Cbor.TextOk r s := by
  have hall : ∀ s ∈ rtcDataTexts, s ≠ "" ∧ s.utf8ByteSize ≤ maxDraftStringBytes := by decide
  exact fun s hs => hr.texts s (hall s hs).1 (hall s hs).2

theorem keys_rtcDataMap (data : RTCData) : (rtcDataMap data).map Prod.fst =
    ["kind", "version", "rtc_session_id", "origin_route_id", "path_epoch", "stream_id",
      "delivery_id", "ack_requested", "ciphertext"] := rfl

theorem keys_rtcAdmitMap (admission : RTCAdmit) : (rtcAdmitMap admission).map Prod.fst =
    ["kind", "version", "rtc_session_id", "delivery_id"] := rfl

variable {r : Cbor.Rules}

theorem fits_of_texts {record : CborMap} (hr : Roomy r) (hlength : record.length ≤ 9)
    (hkeys : record.map Prod.fst ⊆ rtcDataTexts) (hdistinct : (record.map Prod.fst).Nodup)
    (hvalues : ∀ entry ∈ record, Cbor.Fits r entry.2) : Cbor.Fits r (.map record) :=
  .map (hlength.trans (le_trans (by decide) hr.entries))
    (fun _ hentry => hr.textOk_rtcDataTexts _ (hkeys (List.mem_map_of_mem hentry))) hdistinct
    hvalues

theorem Roomy.fits_text (hr : Roomy r) {s : String} (hs : s ∈ rtcDataTexts) :
    Cbor.Fits r (.text s) := .text (hr.textOk_rtcDataTexts s hs)

theorem Roomy.fits_id (hr : Roomy r) {id : List UInt8} (hid : id.length = 16) :
    Cbor.Fits r (.bytes id) :=
  .bytes (hid.le.trans (le_trans (by decide : 16 ≤ maxRTCDataCiphertextBytes)
    (le_trans (by decide) hr.bytes)))

theorem RTCData.Valid.fits {data : RTCData} (h : data.Valid) (hr : Roomy r) :
    Cbor.Fits r (.map (rtcDataMap data)) := by
  have hargument := hr.argument
  have hbytes : maxRTCDataCiphertextBytes ≤ r.maxBytes := le_trans (by decide) hr.bytes
  refine fits_of_texts hr (le_refl 9) (by rw [keys_rtcDataMap]; decide)
    (by rw [keys_rtcDataMap]; decide) ?_
  simp only [rtcDataMap, List.forall_mem_cons, forall_mem_nil, and_true]
  refine ⟨hr.fits_text (by decide), ?_, hr.fits_id h.rtcSessionID, hr.fits_id h.originRouteID,
    .uint (h.pathEpoch.trans hargument), .uint (h.streamID.trans hargument),
    hr.fits_id h.deliveryID, .bool _, .bytes (h.ciphertext_le.trans hbytes)⟩
  rw [h.version]
  exact hr.fits_text (by decide)

theorem RTCAdmit.Valid.fits {admission : RTCAdmit} (h : admission.Valid) (hr : Roomy r) :
    Cbor.Fits r (.map (rtcAdmitMap admission)) := by
  refine fits_of_texts hr (by decide : 4 ≤ 9) (by rw [keys_rtcAdmitMap]; decide)
    (by rw [keys_rtcAdmitMap]; decide) ?_
  simp only [rtcAdmitMap, List.forall_mem_cons, forall_mem_nil, and_true]
  refine ⟨hr.fits_text (by decide), ?_, hr.fits_id h.rtcSessionID, hr.fits_id h.deliveryID⟩
  rw [h.version]
  exact hr.fits_text (by decide)

theorem flat_rtcDataMap (data : RTCData) :
    ∀ entry ∈ rtcDataMap data, entry.2.sortKeys = entry.2 := by
  simp [rtcDataMap, Cbor.sortKeys]

theorem flat_rtcAdmitMap (admission : RTCAdmit) :
    ∀ entry ∈ rtcAdmitMap admission, entry.2.sortKeys = entry.2 := by
  simp [rtcAdmitMap, Cbor.sortKeys]

theorem RTCData.Valid.length_encode {data : RTCData} (h : data.Valid) :
    (Cbor.encode (.map (rtcDataMap data))).length ≤ maxRTCDataFrameBytes := by
  have hciphertext := h.ciphertext_le
  have hmax : maxRTCDataCiphertextBytes = 6144 := rfl
  have hepoch := Cbor.length_head_mono 0 h.pathEpoch
  have hstream := Cbor.length_head_mono 0 h.streamID
  have hlong := Cbor.length_head_mono 2 hciphertext
  have hinteger : (Cbor.head 0 (2 ^ 53 - 1)).length = 9 := by decide
  have hbytes : (Cbor.head 2 maxRTCDataCiphertextBytes).length = 3 := by decide
  have hid : (Cbor.head 2 16).length = 1 := by decide
  have hcount : (Cbor.head 5 9).length = 1 := by decide
  have hkeys : (rtcDataTexts.map fun s => (Cbor.encodeText s).length) =
      [5, 8, 15, 16, 11, 10, 12, 14, 11, 5, 6, 24] := by decide
  simp only [rtcDataTexts, List.map_cons, List.map_nil, List.cons.injEq, and_true] at hkeys
  obtain ⟨hkind, hversion, hsession, hroute, hepochKey, hstreamKey, hdelivery, hack, hcipher,
    hdata, -, hvalue⟩ := hkeys
  have hbool : (Cbor.encode (.bool data.ackRequested)).length = 1 := by
    cases data.ackRequested <;> rfl
  rw [Cbor.encode.eq_def, rtcDataMap]
  simp only [Cbor.encodeEntries, List.length_append, hkind, hversion, hsession, hroute,
    hepochKey, hstreamKey, hdelivery, hack, hcipher, hbool, List.length_nil, List.length_cons,
    Nat.zero_add, Nat.reduceAdd, hcount, maxRTCDataFrameBytes]
  simp only [Cbor.encode, hdata, hvalue, h.version, h.rtcSessionID, h.originRouteID,
    h.deliveryID, hid, List.length_append]
  omega

theorem RTCAdmit.Valid.length_encode {admission : RTCAdmit} (h : admission.Valid) :
    (Cbor.encode (.map (rtcAdmitMap admission))).length ≤ maxRTCAdmitFrameBytes := by
  have hid : (Cbor.head 2 16).length = 1 := by decide
  have hcount : (Cbor.head 5 4).length = 1 := by decide
  have hkeys : (rtcDataTexts.map fun s => (Cbor.encodeText s).length) =
      [5, 8, 15, 16, 11, 10, 12, 14, 11, 5, 6, 24] := by decide
  simp only [rtcDataTexts, List.map_cons, List.map_nil, List.cons.injEq, and_true] at hkeys
  obtain ⟨hkind, hversion, hsession, -, -, -, hdelivery, -, -, -, hreply, hvalue⟩ := hkeys
  simp only [rtcAdmitMap, Cbor.encodeEntries, List.length_append, hkind, hversion, hsession,
    hdelivery, List.length_nil, Cbor.encode, List.length_cons, Nat.zero_add, Nat.reduceAdd,
    hreply, hvalue, h.version, h.rtcSessionID, h.deliveryID, hid, hcount, maxRTCAdmitFrameBytes]
  omega

end Records

section Exact

variable {m : CborMap} {input : List UInt8}

theorem cborText_version_iff {s : String} (h : s = rtcDataVersion) :
    cborText m "version" = .ok s ↔ m.lookup "version" = some (.text s) := by
  rw [cborText_eq_ok_iff, h]
  exact and_iff_left (by decide)

theorem rtcDataKind_eq_ok_iff {expected : String} (hne : expected ≠ "")
    (hsize : expected.utf8ByteSize ≤ maxDraftStringBytes) :
    rtcDataKind m expected = .ok () ↔ m.lookup "kind" = some (.text expected) := by
  simp only [rtcDataKind, bind_eq_ok, mapError_eq_ok, throwIf_eq_ok, cborText_eq_ok_iff, not_not]
  constructor
  · rintro ⟨_, ⟨hlookup, _⟩, rfl⟩
    exact hlookup
  · exact fun hlookup => ⟨expected, ⟨hlookup, hne, hsize⟩, rfl⟩

theorem readRTCDataVersion_eq_ok_iff {version : String} :
    readRTCDataVersion m = .ok version ↔
      m.lookup "version" = some (.text version) ∧ version = rtcDataVersion := by
  simp only [readRTCDataVersion, bind_eq_ok, mapError_eq_ok, throwIf_eq_ok, not_not,
    exists_const, pure_eq_ok]
  constructor
  · rintro ⟨_, hversion, heq, rfl⟩
    exact ⟨(cborText_version_iff heq).mp hversion, heq⟩
  · rintro ⟨hlookup, heq⟩
    exact ⟨version, (cborText_version_iff heq).mpr hlookup, heq, rfl⟩

theorem decodeRTCDataFromMap_eq_ok_iff {data : RTCData} :
    decodeRTCDataFromMap m = .ok data ↔ Cbor.Reads m (rtcDataMap data) ∧ data.Valid := by
  have hciphertext : maxRTCDataCiphertextBytes ≤ maxDecodedCBORBytes := by decide
  simp only [decodeRTCDataFromMap, bind_eq_ok, mapError_eq_ok, exists_unit,
    RTCData.validate_eq_ok_iff, pure_eq_ok, cborRejectUnknown_eq_ok_iff, cborBytes_size_iff (by decide : 0 < 16) (by decide),
    cborBytes_any_iff, readRTCDataVersion_eq_ok_iff, cborUint_eq_ok_iff, cborBool_eq_ok_iff,
    rtcDataKind_eq_ok_iff (by decide : "data" ≠ "") (by decide)]
  constructor
  · rintro ⟨hkind, hknown, version, ⟨hversion, _⟩, sessionID, ⟨hsession, _⟩, routeID, ⟨hroute, _⟩,
      pathEpoch, ⟨hepoch, _⟩, streamID, ⟨hstream, _⟩, deliveryID, ⟨hdelivery, _⟩, ack, hack,
      ciphertext, ⟨hcipher, _⟩, hvalid, rfl⟩
    refine ⟨⟨hknown, ?_⟩, hvalid⟩
    simp only [rtcDataMap, List.forall_mem_cons, forall_mem_nil, and_true]
    exact ⟨hkind, hversion, hsession, hroute, hepoch, hstream, hdelivery, hack, hcipher⟩
  · rintro ⟨⟨hknown, hlookup⟩, hvalid⟩
    simp only [rtcDataMap, List.forall_mem_cons, forall_mem_nil, and_true] at hlookup
    obtain ⟨hkind, hversion, hsession, hroute, hepoch, hstream, hdelivery, hack, hcipher⟩ :=
      hlookup
    exact ⟨hkind, hknown, data.version, ⟨hversion, hvalid.version⟩,
      data.rtcSessionID, ⟨hsession, hvalid.rtcSessionID⟩,
      data.originRouteID, ⟨hroute, hvalid.originRouteID⟩,
      data.pathEpoch, ⟨hepoch, le_maxDraftTimestamp_iff.mpr hvalid.pathEpoch⟩,
      data.streamID, ⟨hstream, le_maxDraftTimestamp_iff.mpr hvalid.streamID⟩,
      data.deliveryID, ⟨hdelivery, hvalid.deliveryID⟩, data.ackRequested, hack,
      data.ciphertext, ⟨hcipher, hvalid.ciphertext, hvalid.ciphertext_le.trans hciphertext⟩,
      hvalid, rfl⟩

theorem decodeRTCAdmitFromMap_eq_ok_iff {admission : RTCAdmit} :
    decodeRTCAdmitFromMap m = .ok admission ↔
      Cbor.Reads m (rtcAdmitMap admission) ∧ admission.Valid := by
  simp only [decodeRTCAdmitFromMap, bind_eq_ok, mapError_eq_ok, exists_unit,
    RTCAdmit.validate_eq_ok_iff, pure_eq_ok, cborRejectUnknown_eq_ok_iff, cborBytes_size_iff (by decide : 0 < 16) (by decide),
    readRTCDataVersion_eq_ok_iff, rtcDataKind_eq_ok_iff (by decide : "admit" ≠ "") (by decide)]
  constructor
  · rintro ⟨hkind, hknown, version, ⟨hversion, _⟩, sessionID, ⟨hsession, _⟩, deliveryID,
      ⟨hdelivery, _⟩, hvalid, rfl⟩
    refine ⟨⟨hknown, ?_⟩, hvalid⟩
    simp only [rtcAdmitMap, List.forall_mem_cons, forall_mem_nil, and_true]
    exact ⟨hkind, hversion, hsession, hdelivery⟩
  · rintro ⟨⟨hknown, hlookup⟩, hvalid⟩
    simp only [rtcAdmitMap, List.forall_mem_cons, forall_mem_nil, and_true] at hlookup
    obtain ⟨hkind, hversion, hsession, hdelivery⟩ := hlookup
    exact ⟨hkind, hknown, admission.version, ⟨hversion, hvalid.version⟩,
      admission.rtcSessionID, ⟨hsession, hvalid.rtcSessionID⟩,
      admission.deliveryID, ⟨hdelivery, hvalid.deliveryID⟩, hvalid, rfl⟩

theorem decodeRTCDataMap_eq_ok_iff {label : String} {maximumBytes : Nat} :
    decodeRTCDataMap input label maximumBytes = .ok m ↔
      input.length ≤ maximumBytes ∧ decodeDeterministicCBOR input = .ok (.map m) := by
  simp only [decodeRTCDataMap, bind_eq_ok, mapError_eq_ok, throwIf_eq_ok, exists_unit,
    cborMap_eq_ok_iff, not_or, Nat.not_lt]
  constructor
  · rintro ⟨⟨_, hsize⟩, _, hdecode, rfl⟩
    exact ⟨hsize, hdecode⟩
  · rintro ⟨hsize, hdecode⟩
    refine ⟨⟨?_, hsize⟩, _, hdecode, rfl⟩
    exact ((decodeDeterministicCBORWithTextLimit_eq_ok_iff (by decide)
      maxDraftStringBytes_le_decoded).mp hdecode).1.1

variable {data : RTCData} {admission : RTCAdmit}

theorem encodeRTCDataFrame_eq {entries : CborMap} {maximumBytes : Nat}
    (hfits : Cbor.Fits (goRules maxDraftStringBytes maxDraftStringBytes_le_decoded) (.map entries))
    (hflat : ∀ entry ∈ entries, entry.2.sortKeys = entry.2)
    (hlength : (Cbor.encode (.map entries)).length ≤ maximumBytes) :
    encodeRTCDataFrame entries maximumBytes =
      .ok (Cbor.encode (.map (Cbor.inKeyOrder entries))) := by
  have hsame := Cbor.length_encode_sortKeys hfits
  have hone := Cbor.one_le_length_encode (.map entries)
  have hencode : (encodeCbor (.map entries)).mapError (fun _ => invalidRTCData) =
      .ok (Cbor.encode (Cbor.sortKeys (.map entries))) :=
    mapError_eq_ok.mpr (encodeCbor_of_fits hfits)
  rw [← Cbor.sortKeys_record hflat, encodeRTCDataFrame, hencode]
  exact throwIf_bind_eq_ok.mpr ⟨by omega, rfl⟩

theorem RTCData.Valid.encode_eq (h : data.Valid) :
    encodeRTCData data = .ok (Cbor.encode (.map (Cbor.inKeyOrder (rtcDataMap data)))) :=
  bind_eq_ok.mpr ⟨(), RTCData.validate_eq_ok_iff.mpr h,
    encodeRTCDataFrame_eq (h.fits roomy_goRules) (flat_rtcDataMap data) h.length_encode⟩

theorem RTCAdmit.Valid.encode_eq (h : admission.Valid) :
    encodeRTCAdmit admission =
      .ok (Cbor.encode (.map (Cbor.inKeyOrder (rtcAdmitMap admission)))) :=
  bind_eq_ok.mpr ⟨(), RTCAdmit.validate_eq_ok_iff.mpr h,
    encodeRTCDataFrame_eq (h.fits roomy_goRules) (flat_rtcAdmitMap admission) h.length_encode⟩

theorem RTCData.Valid.length_encoded (h : data.Valid) :
    (Cbor.encode (.map (Cbor.inKeyOrder (rtcDataMap data)))).length ≤ maxRTCDataFrameBytes := by
  rw [← Cbor.sortKeys_record (flat_rtcDataMap data),
    Cbor.length_encode_sortKeys (h.fits roomy_goRules)]
  exact h.length_encode

theorem RTCAdmit.Valid.length_encoded (h : admission.Valid) :
    (Cbor.encode (.map (Cbor.inKeyOrder (rtcAdmitMap admission)))).length ≤
      maxRTCAdmitFrameBytes := by
  rw [← Cbor.sortKeys_record (flat_rtcAdmitMap admission),
    Cbor.length_encode_sortKeys (h.fits roomy_goRules)]
  exact h.length_encode

theorem encodeRTCData_eq_ok_iff :
    encodeRTCData data = .ok input ↔
      data.Valid ∧ input = Cbor.encode (.map (Cbor.inKeyOrder (rtcDataMap data))) := by
  constructor
  · intro h
    obtain ⟨_, hvalid, _⟩ := bind_eq_ok.mp h
    have hvalid := RTCData.validate_eq_ok_iff.mp hvalid
    exact ⟨hvalid, Except.ok.inj (h.symm.trans hvalid.encode_eq)⟩
  · rintro ⟨hvalid, hinput⟩
    rw [hinput]
    exact hvalid.encode_eq

theorem encodeRTCAdmit_eq_ok_iff :
    encodeRTCAdmit admission = .ok input ↔
      admission.Valid ∧ input = Cbor.encode (.map (Cbor.inKeyOrder (rtcAdmitMap admission))) := by
  constructor
  · intro h
    obtain ⟨_, hvalid, _⟩ := bind_eq_ok.mp h
    have hvalid := RTCAdmit.validate_eq_ok_iff.mp hvalid
    exact ⟨hvalid, Except.ok.inj (h.symm.trans hvalid.encode_eq)⟩
  · rintro ⟨hvalid, hinput⟩
    rw [hinput]
    exact hvalid.encode_eq

theorem depth_rtcDataMap (data : RTCData) :
    (Cbor.map (rtcDataMap data)).depth ≤ maxDeterministicCBORNestingDepth := by
  rw [Cbor.depth, rtcDataMap]
  simp [Cbor.depthEntries, Cbor.depth, maxDeterministicCBORNestingDepth]

theorem depth_rtcAdmitMap (admission : RTCAdmit) :
    (Cbor.map (rtcAdmitMap admission)).depth ≤ maxDeterministicCBORNestingDepth := by
  rw [Cbor.depth, rtcAdmitMap]
  simp [Cbor.depthEntries, Cbor.depth, maxDeterministicCBORNestingDepth]

theorem RTCData.Valid.reads_iff (h : data.Valid) :
    (∃ m, decodeDeterministicCBOR input = .ok (.map m) ∧ Cbor.Reads m (rtcDataMap data)) ↔
      input = Cbor.encode (.map (Cbor.inKeyOrder (rtcDataMap data))) := by
  rw [decode_reads_iff (h.fits roomy_goRules) (depth_rtcDataMap data) (flat_rtcDataMap data)]
  refine and_iff_right_of_imp fun hinput => ?_
  exact hinput ▸ h.length_encoded.trans (by decide)

theorem RTCAdmit.Valid.reads_iff (h : admission.Valid) :
    (∃ m, decodeDeterministicCBOR input = .ok (.map m) ∧
        Cbor.Reads m (rtcAdmitMap admission)) ↔
      input = Cbor.encode (.map (Cbor.inKeyOrder (rtcAdmitMap admission))) := by
  rw [decode_reads_iff (h.fits roomy_goRules) (depth_rtcAdmitMap admission)
    (flat_rtcAdmitMap admission)]
  refine and_iff_right_of_imp fun hinput => ?_
  exact hinput ▸ h.length_encoded.trans (by decide)

theorem decodeRTCData_eq_ok_iff :
    decodeRTCData input = .ok data ↔ encodeRTCData data = .ok input := by
  simp only [decodeRTCData, bind_eq_ok, decodeRTCDataMap_eq_ok_iff,
    decodeRTCDataFromMap_eq_ok_iff, encodeRTCData_eq_ok_iff]
  constructor
  · rintro ⟨m, ⟨_, hdecode⟩, hreads, hvalid⟩
    exact ⟨hvalid, hvalid.reads_iff.mp ⟨m, hdecode, hreads⟩⟩
  · rintro ⟨hvalid, hinput⟩
    obtain ⟨m, hdecode, hreads⟩ := hvalid.reads_iff.mpr hinput
    exact ⟨m, ⟨hinput ▸ hvalid.length_encoded, hdecode⟩, hreads, hvalid⟩

theorem decodeRTCAdmit_eq_ok_iff :
    decodeRTCAdmit input = .ok admission ↔ encodeRTCAdmit admission = .ok input := by
  simp only [decodeRTCAdmit, bind_eq_ok, decodeRTCDataMap_eq_ok_iff,
    decodeRTCAdmitFromMap_eq_ok_iff, encodeRTCAdmit_eq_ok_iff]
  constructor
  · rintro ⟨m, ⟨_, hdecode⟩, hreads, hvalid⟩
    exact ⟨hvalid, hvalid.reads_iff.mp ⟨m, hdecode, hreads⟩⟩
  · rintro ⟨hvalid, hinput⟩
    obtain ⟨m, hdecode, hreads⟩ := hvalid.reads_iff.mpr hinput
    exact ⟨m, ⟨hinput ▸ hvalid.length_encoded, hdecode⟩, hreads, hvalid⟩

theorem decodeRTCDataFrame_eq_ok_iff {frame : RTCDataFrame} :
    decodeRTCDataFrame input = .ok frame ↔
      (∃ data, frame = .data data ∧ decodeRTCData input = .ok data) ∨
        ∃ admission, frame = .admission admission ∧ decodeRTCAdmit input = .ok admission := by
  have hreply : maxRTCAdmitFrameBytes ≤ maxRTCDataFrameBytes := by decide
  have hkind : ∀ {m : CborMap} {kind : String} {value : RTCData},
      decodeRTCDataFromMap m = .ok value → (cborText m "kind" = .ok kind ↔ kind = "data") := by
    intro m kind value h
    have hlookup := (decodeRTCDataFromMap_eq_ok_iff.mp h).1.lookup ("kind", .text "data")
      List.mem_cons_self
    rw [cborText_eq_ok_iff, hlookup, Option.some.injEq, Cbor.text.injEq]
    constructor
    · exact fun h => h.1.symm
    · rintro rfl
      exact ⟨rfl, by decide⟩
  have hkind' : ∀ {m : CborMap} {kind : String} {value : RTCAdmit},
      decodeRTCAdmitFromMap m = .ok value → (cborText m "kind" = .ok kind ↔ kind = "admit") := by
    intro m kind value h
    have hlookup := (decodeRTCAdmitFromMap_eq_ok_iff.mp h).1.lookup ("kind", .text "admit")
      List.mem_cons_self
    rw [cborText_eq_ok_iff, hlookup, Option.some.injEq, Cbor.text.injEq]
    constructor
    · exact fun h => h.1.symm
    · rintro rfl
      exact ⟨rfl, by decide⟩
  simp only [decodeRTCDataFrame, decodeRTCData, decodeRTCAdmit, bind_eq_ok, mapError_eq_ok,
    decodeRTCDataMap_eq_ok_iff]
  constructor
  · rintro ⟨m, ⟨hsize, hdecode⟩, kind, hread, h⟩
    split at h
    · obtain ⟨data, hdata, heq⟩ := bind_eq_ok.mp h
      exact .inl ⟨data, (Except.ok.inj heq).symm, m, ⟨hsize, hdecode⟩, hdata⟩
    · split at h
      · obtain ⟨hshort, h⟩ := throwIf_bind_eq_ok.mp h
        obtain ⟨admission, hadmission, heq⟩ := bind_eq_ok.mp h
        exact .inr ⟨admission, (Except.ok.inj heq).symm, m, ⟨Nat.not_lt.mp hshort, hdecode⟩,
          hadmission⟩
      · cases h
  · rintro (⟨data, rfl, m, hdecode, hdata⟩ | ⟨admission, rfl, m, ⟨hsize, hdecode⟩, hadmission⟩)
    · refine ⟨m, hdecode, "data", (hkind hdata).mpr rfl, ?_⟩
      rw [if_pos rfl]
      exact bind_eq_ok.mpr ⟨data, hdata, rfl⟩
    · refine ⟨m, ⟨hsize.trans hreply, hdecode⟩, "admit", (hkind' hadmission).mpr rfl, ?_⟩
      rw [if_neg (by decide), if_pos rfl]
      exact throwIf_bind_eq_ok.mpr ⟨Nat.not_lt.mpr hsize,
        bind_eq_ok.mpr ⟨admission, hadmission, rfl⟩⟩

end Exact

end Branch.Protocol
