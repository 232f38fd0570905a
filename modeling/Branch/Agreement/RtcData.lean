import Branch.Agreement.Cbor
import Branch.Core.RtcDataWire
import Branch.Protocol.RtcData

/-!
The frames of a direct data channel in the codecs of relay and client. The client keeps ids and
ciphertexts as texts.
-/

namespace Branch.Agreement

open Branch.Lib
open Branch.Core.RtcDataWire (strictMap readKind readVersion boundedCiphertextFromMap readSequence)
open Branch.Protocol (RTCData RTCAdmit RTCDataFrame rtcDataMap rtcAdmitMap)

section Fields

def clientData (data : RTCData) : Core.RtcData where
  version := data.version
  rtcSessionId := Base64.encode data.rtcSessionID
  originRouteId := Base64.encode data.originRouteID
  pathEpoch := data.pathEpoch
  streamId := data.streamID
  deliveryId := Base64.encode data.deliveryID
  ackRequested := data.ackRequested
  ciphertext := Base64.encode data.ciphertext

def clientAdmit (admission : RTCAdmit) : Core.RtcAdmit where
  version := admission.version
  rtcSessionId := Base64.encode admission.rtcSessionID
  deliveryId := Base64.encode admission.deliveryID

def clientFrame : RTCDataFrame → Core.RtcDataFrame
  | .data data => .data (clientData data)
  | .admission admission => .admission (clientAdmit admission)

structure SpellsData (value : Core.RtcData) (data : RTCData) : Prop where
  version : value.version = data.version
  rtcSessionId : Core.decodeBase64URL value.rtcSessionId.toList = .ok data.rtcSessionID
  originRouteId : Core.decodeBase64URL value.originRouteId.toList = .ok data.originRouteID
  pathEpoch : value.pathEpoch = data.pathEpoch
  streamId : value.streamId = data.streamID
  deliveryId : Core.decodeBase64URL value.deliveryId.toList = .ok data.deliveryID
  ackRequested : value.ackRequested = data.ackRequested
  ciphertext : Core.decodeBase64URL value.ciphertext.toList = .ok data.ciphertext

structure SpellsAdmit (value : Core.RtcAdmit) (admission : RTCAdmit) : Prop where
  version : value.version = admission.version
  rtcSessionId : Core.decodeBase64URL value.rtcSessionId.toList = .ok admission.rtcSessionID
  deliveryId : Core.decodeBase64URL value.deliveryId.toList = .ok admission.deliveryID

/-- All texts are spelled as the encoder of tokens spells them. -/
structure CanonicalData (value : Core.RtcData) : Prop where
  rtcSessionId : Core.CanonicalToken value.rtcSessionId
  originRouteId : Core.CanonicalToken value.originRouteId
  deliveryId : Core.CanonicalToken value.deliveryId
  ciphertext : Core.CanonicalToken value.ciphertext

structure CanonicalAdmit (value : Core.RtcAdmit) : Prop where
  rtcSessionId : Core.CanonicalToken value.rtcSessionId
  deliveryId : Core.CanonicalToken value.deliveryId

variable {value : Core.RtcData} {data : RTCData} {reply : Core.RtcAdmit} {admission : RTCAdmit}

theorem spellsData_clientData (h : data.Valid) : SpellsData (clientData data) data where
  version := rfl
  rtcSessionId := Core.decodeBase64URL_encode (by rw [h.rtcSessionID]; decide)
  originRouteId := Core.decodeBase64URL_encode (by rw [h.originRouteID]; decide)
  pathEpoch := rfl
  streamId := rfl
  deliveryId := Core.decodeBase64URL_encode (by rw [h.deliveryID]; decide)
  ackRequested := rfl
  ciphertext := Core.decodeBase64URL_encode h.ciphertext

theorem spellsAdmit_clientAdmit (h : admission.Valid) :
    SpellsAdmit (clientAdmit admission) admission where
  version := rfl
  rtcSessionId := Core.decodeBase64URL_encode (by rw [h.rtcSessionID]; decide)
  deliveryId := Core.decodeBase64URL_encode (by rw [h.deliveryID]; decide)

theorem SpellsData.clientData_eq_iff (h : SpellsData value data) :
    clientData data = value ↔ CanonicalData value := by
  obtain ⟨hversion, hsession, hroute, hepoch, hstream, hdelivery, hack, hciphertext⟩ := h
  rw [clientData, Core.RtcData.mk.injEq, Core.encode_eq_iff_canonical hsession,
    Core.encode_eq_iff_canonical hroute, Core.encode_eq_iff_canonical hdelivery,
    Core.encode_eq_iff_canonical hciphertext]
  constructor
  · rintro ⟨_, hsession, hroute, _, _, hdelivery, _, hciphertext⟩
    exact ⟨hsession, hroute, hdelivery, hciphertext⟩
  · rintro ⟨hsession, hroute, hdelivery, hciphertext⟩
    exact ⟨hversion.symm, hsession, hroute, hepoch.symm, hstream.symm, hdelivery, hack.symm,
      hciphertext⟩

theorem SpellsAdmit.clientAdmit_eq_iff (h : SpellsAdmit reply admission) :
    clientAdmit admission = reply ↔ CanonicalAdmit reply := by
  obtain ⟨hversion, hsession, hdelivery⟩ := h
  rw [clientAdmit, Core.RtcAdmit.mk.injEq, Core.encode_eq_iff_canonical hsession,
    Core.encode_eq_iff_canonical hdelivery]
  constructor
  · rintro ⟨_, hsession, hdelivery⟩
    exact ⟨hsession, hdelivery⟩
  · rintro ⟨hsession, hdelivery⟩
    exact ⟨hversion.symm, hsession, hdelivery⟩

theorem validCiphertext_iff {ciphertext : String} :
    Core.validCiphertext ciphertext = true ↔
      ∃ bytes, Core.decodeBase64URL ciphertext.toList = .ok bytes ∧ bytes.length ≠ 0 ∧
        bytes.length ≤ Protocol.maxRTCDataCiphertextBytes := by
  have hmax : Protocol.maxRTCDataCiphertextBytes = Core.maxRtcDataCiphertextBytes := rfl
  rw [hmax]
  unfold Core.validCiphertext
  cases Core.decodeBase64URL ciphertext.toList <;> simp

theorem validateRtcData_iff :
    Core.validateRtcData value = true ↔ ∃ data, SpellsData value data ∧ data.Valid := by
  have hversion : Core.rtcDataVersion = Protocol.rtcDataVersion := rfl
  have hmax : Core.maxSafeInteger = 2 ^ 53 - 1 := rfl
  simp only [Core.validateRtcData, Bool.and_eq_true, decide_eq_true_eq, Core.validToken_iff,
    validCiphertext_iff, hversion, hmax]
  constructor
  · rintro ⟨⟨⟨⟨⟨⟨hversion, session, hsession, hsessionLength⟩, route, hroute, hrouteLength⟩,
      hepoch⟩, hstream⟩, delivery, hdelivery, hdeliveryLength⟩, ciphertext, hciphertext, hne, hle⟩
    exact ⟨⟨value.version, session, route, value.pathEpoch, value.streamId, delivery,
      value.ackRequested, ciphertext⟩,
      ⟨rfl, hsession, hroute, rfl, rfl, hdelivery, rfl, hciphertext⟩,
      ⟨hversion, hsessionLength, hrouteLength, hepoch, hstream, hdeliveryLength, hne, hle⟩⟩
  · rintro ⟨data, hspells, hvalid⟩
    exact ⟨⟨⟨⟨⟨⟨hspells.version.trans hvalid.version, _, hspells.rtcSessionId,
      hvalid.rtcSessionID⟩, _, hspells.originRouteId, hvalid.originRouteID⟩,
      hspells.pathEpoch ▸ hvalid.pathEpoch⟩, hspells.streamId ▸ hvalid.streamID⟩, _,
      hspells.deliveryId, hvalid.deliveryID⟩, _, hspells.ciphertext, hvalid.ciphertext,
      hvalid.ciphertext_le⟩

theorem validateRtcAdmit_iff :
    Core.validateRtcAdmit reply = true ↔
      ∃ admission, SpellsAdmit reply admission ∧ admission.Valid := by
  have hversion : Core.rtcDataVersion = Protocol.rtcDataVersion := rfl
  simp only [Core.validateRtcAdmit, Bool.and_eq_true, decide_eq_true_eq, Core.validToken_iff,
    hversion]
  constructor
  · rintro ⟨⟨hversion, session, hsession, hsessionLength⟩, delivery, hdelivery, hdeliveryLength⟩
    exact ⟨⟨reply.version, session, delivery⟩, ⟨rfl, hsession, hdelivery⟩,
      ⟨hversion, hsessionLength, hdeliveryLength⟩⟩
  · rintro ⟨admission, hspells, hvalid⟩
    exact ⟨⟨hspells.version.trans hvalid.version, _, hspells.rtcSessionId,
      hvalid.rtcSessionID⟩, _, hspells.deliveryId, hvalid.deliveryID⟩

end Fields

section Client

theorem unmarked_rtcDataTexts : ∀ s ∈ Protocol.rtcDataTexts, ¬ Utf8.Marked s := by
  have hall : ∀ s ∈ Protocol.rtcDataTexts, s.toList.head? ≠ some Utf8.byteOrderMark := by decide
  exact hall

variable {value : Core.RtcData} {data : RTCData} {reply : Core.RtcAdmit} {admission : RTCAdmit}
  {bytes : List UInt8} {map : Core.CborMap}

theorem unmarked_rtcDataMap (h : data.Valid) :
    ∀ s ∈ (Cbor.map (rtcDataMap data)).texts, ¬ Utf8.Marked s := by
  have hsub : (Cbor.map (rtcDataMap data)).texts ⊆ Protocol.rtcDataTexts := by
    rw [Cbor.texts, rtcDataMap, h.version]
    simp only [Cbor.textsEntries, Cbor.texts]
    decide
  exact fun s hs => unmarked_rtcDataTexts s (hsub hs)

theorem unmarked_rtcAdmitMap (h : admission.Valid) :
    ∀ s ∈ (Cbor.map (rtcAdmitMap admission)).texts, ¬ Utf8.Marked s := by
  have hsub : (Cbor.map (rtcAdmitMap admission)).texts ⊆ Protocol.rtcDataTexts := by
    rw [Cbor.texts, rtcAdmitMap, h.version]
    simp only [Cbor.textsEntries, Cbor.texts]
    decide
  exact fun s hs => unmarked_rtcDataTexts s (hsub hs)

theorem requiredText_const_iff {key s : String} (hne : s ≠ "")
    (hsize : s.utf8ByteSize ≤ Core.maxCborTextBytes) :
    Core.requiredText map key = .ok s ↔ map.lookup key = some (.text s) := by
  rw [Core.requiredText_eq_ok_iff]
  exact and_iff_left ⟨hne, hsize⟩

theorem readKind_eq_ok_iff {expected : String} (hne : expected ≠ "")
    (hsize : expected.utf8ByteSize ≤ Core.maxCborTextBytes) :
    readKind map expected = .ok () ↔ map.lookup "kind" = some (.text expected) := by
  simp only [readKind, bind_eq_ok, throwIf_eq_ok, not_not]
  constructor
  · rintro ⟨_, hread, rfl⟩
    exact (requiredText_const_iff hne hsize).mp hread
  · exact fun hlookup => ⟨expected, (requiredText_const_iff hne hsize).mpr hlookup, rfl⟩

theorem readVersion_eq_ok_iff {version : String} :
    readVersion map = .ok version ↔
      map.lookup "version" = some (.text version) ∧ version = Protocol.rtcDataVersion := by
  simp only [readVersion, bind_eq_ok, throwIf_eq_ok, not_not, exists_const, pure_eq_ok]
  have hread : Core.requiredText map "version" = .ok Core.rtcDataVersion ↔
      map.lookup "version" = some (.text Core.rtcDataVersion) :=
    requiredText_const_iff (by decide) (by decide)
  constructor
  · rintro ⟨_, hversion, rfl, rfl⟩
    exact ⟨hread.mp hversion, rfl⟩
  · rintro ⟨hlookup, rfl⟩
    exact ⟨_, hread.mpr hlookup, rfl, rfl⟩

theorem tokenFromMap_id_iff {key token : String} :
    Core.RtcWire.tokenFromMap map key 16 = .ok token ↔
      ∃ id, map.lookup key = some (.bytes id) ∧ id.length = 16 ∧ Base64.encode id = token := by
  have hmax : Core.maxCborBytes = 49152 := rfl
  simp only [Core.RtcWire.tokenFromMap, bind_eq_ok, Core.requiredBytes_eq_ok_iff, pure_eq_ok,
    Option.mem_def, Option.some.injEq, forall_eq']
  constructor
  · rintro ⟨id, ⟨hlookup, _, hlength⟩, rfl⟩
    exact ⟨id, hlookup, hlength, rfl⟩
  · rintro ⟨id, hlookup, hlength, rfl⟩
    exact ⟨id, ⟨hlookup, ⟨by omega, by omega⟩, hlength⟩, rfl⟩

theorem readSequence_eq_ok_iff {key : String} {n : Nat} :
    readSequence map key = .ok n ↔ map.lookup key = some (.uint n) ∧ n ≤ 2 ^ 53 - 1 := by
  simp only [readSequence, bind_eq_ok, Core.requiredUint_eq_ok_iff, throwIf_eq_ok, exists_unit,
    pure_eq_ok]
  constructor
  · rintro ⟨_, ⟨hlookup, hle⟩, _, rfl⟩
    exact ⟨hlookup, hle⟩
  · rintro ⟨hlookup, hle⟩
    exact ⟨n, ⟨hlookup, hle⟩, Nat.not_lt.mpr hle, rfl⟩

theorem boundedCiphertextFromMap_eq_ok_iff {ciphertext : String} :
    boundedCiphertextFromMap map = .ok ciphertext ↔
      ∃ data, map.lookup "ciphertext" = some (.bytes data) ∧ data.length ≠ 0 ∧
        data.length ≤ Protocol.maxRTCDataCiphertextBytes ∧ Base64.encode data = ciphertext := by
  have hmax : Protocol.maxRTCDataCiphertextBytes = 6144 := rfl
  have hmax' : Core.maxRtcDataCiphertextBytes = 6144 := rfl
  have hmaxBytes : Core.maxCborBytes = 49152 := rfl
  simp only [boundedCiphertextFromMap, bind_eq_ok, Core.requiredBytes_eq_ok_iff, throwIf_eq_ok,
    exists_unit, pure_eq_ok, Option.mem_def, reduceCtorEq, false_imp_iff, implies_true, and_true]
  constructor
  · rintro ⟨data, ⟨hlookup, hne, _⟩, hle, rfl⟩
    exact ⟨data, hlookup, hne, by omega, rfl⟩
  · rintro ⟨data, hlookup, hne, hle, rfl⟩
    exact ⟨data, ⟨hlookup, hne, by omega⟩, by omega, rfl⟩

theorem strictMap_eq_ok_iff {label : String} {maximumBytes : Nat}
    {admitKeys : Option (List String)} :
    strictMap bytes label maximumBytes admitKeys = .ok map ↔
      bytes.length ≤ maximumBytes ∧
        Core.decodeDeterministicCbor bytes maximumBytes = .ok (.map map) ∧
        ((map.lookup "kind" = some (.text "data") ∧
            ∀ entry ∈ map, entry.1 ∈ Core.RtcDataWire.dataKeys) ∨
          (map.lookup "kind" = some (.text "admit") ∧
            ∃ keys, admitKeys = some keys ∧ ∀ entry ∈ map, entry.1 ∈ keys)) := by
  have hdata : Core.requiredText map "kind" = .ok "data" ↔
      map.lookup "kind" = some (.text "data") := requiredText_const_iff (by decide) (by decide)
  have hreply : Core.requiredText map "kind" = .ok "admit" ↔
      map.lookup "kind" = some (.text "admit") := requiredText_const_iff (by decide) (by decide)
  simp only [strictMap, bind_eq_ok, mapError_eq_ok, throwIf_eq_ok, exists_unit,
    Core.readCborMap_eq_ok_iff, not_or, Nat.not_lt]
  constructor
  · rintro ⟨⟨_, hsize⟩, _, hdecode, map', rfl, kind, hkind, h⟩
    split at h
    · rename_i heq
      subst heq
      obtain ⟨_, hknown, heq⟩ := bind_eq_ok.mp h
      obtain rfl := pure_eq_ok.mp heq
      exact ⟨hsize, hdecode, .inl ⟨hdata.mp hkind, Core.rejectUnknownEntries_eq_ok_iff.mp hknown⟩⟩
    · split at h
      · rename_i heq
        subst heq
        split at h
        · obtain ⟨_, hknown, heq⟩ := bind_eq_ok.mp h
          obtain rfl := pure_eq_ok.mp heq
          exact ⟨hsize, hdecode, .inr ⟨hreply.mp hkind, _, rfl,
            Core.rejectUnknownEntries_eq_ok_iff.mp hknown⟩⟩
        · cases h
      · cases h
  · rintro ⟨hsize, hdecode, hkinds⟩
    have hne := (Core.decodeDeterministicCbor_eq_ok_iff.mp hdecode).1.1
    refine ⟨⟨hne, hsize⟩, _, hdecode, map, rfl, ?_⟩
    rcases hkinds with ⟨hkind, hknown⟩ | ⟨hkind, keys, rfl, hknown⟩
    · refine ⟨"data", hdata.mpr hkind, ?_⟩
      rw [if_pos rfl]
      exact bind_eq_ok.mpr ⟨(), Core.rejectUnknownEntries_eq_ok_iff.mpr hknown, rfl⟩
    · refine ⟨"admit", hreply.mpr hkind, ?_⟩
      rw [if_neg (by decide), if_pos rfl]
      exact bind_eq_ok.mpr ⟨(), Core.rejectUnknownEntries_eq_ok_iff.mpr hknown, rfl⟩

theorem decodeRtcData_reads_iff :
    Core.RtcDataWire.decodeRtcData bytes = .ok value ↔
      ∃ map data, bytes.length ≤ Core.RtcDataWire.maxRtcDataFrameBytes ∧
        Core.decodeDeterministicCbor bytes Core.RtcDataWire.maxRtcDataFrameBytes =
          .ok (.map map) ∧
        Cbor.Reads map (rtcDataMap data) ∧ data.Valid ∧ clientData data = value := by
  simp only [Core.RtcDataWire.decodeRtcData, bind_eq_ok, throwIf_eq_ok, exists_unit,
    strictMap_eq_ok_iff, readKind_eq_ok_iff (by decide : "data" ≠ "") (by decide),
    readVersion_eq_ok_iff, tokenFromMap_id_iff, readSequence_eq_ok_iff,
    Core.getRequiredEntry_eq_ok_iff, Core.readBoolean_eq_ok_iff,
    boundedCiphertextFromMap_eq_ok_iff, pure_eq_ok, not_not]
  constructor
  · rintro ⟨map, ⟨hsize, hdecode, hkinds⟩, hkind, version, ⟨hversion, hversionEq⟩, _,
      ⟨session, hsession, hsessionLength, rfl⟩, _, ⟨route, hroute, hrouteLength, rfl⟩, pathEpoch,
      ⟨hepoch, hepochLe⟩, streamId, ⟨hstream, hstreamLe⟩, _,
      ⟨delivery, hdelivery, hdeliveryLength, rfl⟩, _, hackLookup, ack, rfl, _,
      ⟨ciphertext, hciphertext, hne, hle, rfl⟩, _, rfl⟩
    have hknown : ∀ entry ∈ map, entry.1 ∈ Core.RtcDataWire.dataKeys := by
      rcases hkinds with ⟨_, hknown⟩ | ⟨_, _, hnone, _⟩
      · exact hknown
      · cases hnone
    refine ⟨map, ⟨version, session, route, pathEpoch, streamId, delivery, ack, ciphertext⟩, hsize,
      hdecode, ⟨hknown, ?_⟩, ⟨hversionEq, hsessionLength, hrouteLength, hepochLe, hstreamLe,
        hdeliveryLength, hne, hle⟩, rfl⟩
    simp only [rtcDataMap, List.forall_mem_cons, forall_mem_nil, and_true]
    exact ⟨hkind, hversion, hsession, hroute, hepoch, hstream, hdelivery, hackLookup, hciphertext⟩
  · rintro ⟨map, data, hsize, hdecode, ⟨hknown, hlookup⟩, hvalid, rfl⟩
    simp only [rtcDataMap, List.forall_mem_cons, forall_mem_nil, and_true] at hlookup
    obtain ⟨hkind, hversion, hsession, hroute, hepoch, hstream, hdelivery, hack, hciphertext⟩ :=
      hlookup
    exact ⟨map, ⟨hsize, hdecode, .inl ⟨hkind, hknown⟩⟩, hkind, _, ⟨hversion, hvalid.version⟩,
      _, ⟨_, hsession, hvalid.rtcSessionID, rfl⟩, _, ⟨_, hroute, hvalid.originRouteID, rfl⟩,
      _, ⟨hepoch, hvalid.pathEpoch⟩, _, ⟨hstream, hvalid.streamID⟩,
      _, ⟨_, hdelivery, hvalid.deliveryID, rfl⟩, _, hack, _, rfl,
      _, ⟨_, hciphertext, hvalid.ciphertext, hvalid.ciphertext_le, rfl⟩,
      validateRtcData_iff.mpr ⟨data, spellsData_clientData hvalid, hvalid⟩, rfl⟩

theorem decodeRtcAdmit_reads_iff :
    Core.RtcDataWire.decodeRtcAdmit bytes = .ok reply ↔
      ∃ map admission, bytes.length ≤ Core.RtcDataWire.maxRtcAdmitFrameBytes ∧
        Core.decodeDeterministicCbor bytes Core.RtcDataWire.maxRtcAdmitFrameBytes =
          .ok (.map map) ∧
        Cbor.Reads map (rtcAdmitMap admission) ∧ admission.Valid ∧
          clientAdmit admission = reply := by
  simp only [Core.RtcDataWire.decodeRtcAdmit, bind_eq_ok, throwIf_eq_ok, exists_unit,
    strictMap_eq_ok_iff, readKind_eq_ok_iff (by decide : "admit" ≠ "") (by decide),
    readVersion_eq_ok_iff, tokenFromMap_id_iff, pure_eq_ok, not_not]
  constructor
  · rintro ⟨map, ⟨hsize, hdecode, hkinds⟩, hkind, version, ⟨hversion, hversionEq⟩, _,
      ⟨session, hsession, hsessionLength, rfl⟩, _, ⟨delivery, hdelivery, hdeliveryLength, rfl⟩, _,
      rfl⟩
    have hknown : ∀ entry ∈ map, entry.1 ∈ Core.RtcDataWire.admitKeys := by
      rcases hkinds with ⟨hkind', _⟩ | ⟨_, keys, hkeys, hknown⟩
      · rw [hkind] at hkind'
        simp at hkind'
      · obtain rfl := Option.some.inj hkeys
        exact hknown
    refine ⟨map, ⟨version, session, delivery⟩, hsize, hdecode, ⟨hknown, ?_⟩,
      ⟨hversionEq, hsessionLength, hdeliveryLength⟩, rfl⟩
    simp only [rtcAdmitMap, List.forall_mem_cons, forall_mem_nil, and_true]
    exact ⟨hkind, hversion, hsession, hdelivery⟩
  · rintro ⟨map, admission, hsize, hdecode, ⟨hknown, hlookup⟩, hvalid, rfl⟩
    simp only [rtcAdmitMap, List.forall_mem_cons, forall_mem_nil, and_true] at hlookup
    obtain ⟨hkind, hversion, hsession, hdelivery⟩ := hlookup
    exact ⟨map, ⟨hsize, hdecode, .inr ⟨hkind, _, rfl, hknown⟩⟩, hkind, _,
      ⟨hversion, hvalid.version⟩, _, ⟨_, hsession, hvalid.rtcSessionID, rfl⟩,
      _, ⟨_, hdelivery, hvalid.deliveryID, rfl⟩,
      validateRtcAdmit_iff.mpr ⟨admission, spellsAdmit_clientAdmit hvalid, hvalid⟩, rfl⟩

theorem decodeRtcData_eq_ok_iff :
    Core.RtcDataWire.decodeRtcData bytes = .ok value ↔
      ∃ data, Protocol.encodeRTCData data = .ok bytes ∧ clientData data = value := by
  simp only [decodeRtcData_reads_iff, Protocol.encodeRTCData_eq_ok_iff]
  constructor
  · rintro ⟨map, data, _, hdecode, hreads, hvalid, rfl⟩
    obtain ⟨_, _, hbytes⟩ := (Core.decode_reads_iff (hvalid.fits roomy_tsRules)
      (Protocol.flat_rtcDataMap data)).mp ⟨map, hdecode, hreads⟩
    exact ⟨data, ⟨hvalid, hbytes⟩, rfl⟩
  · rintro ⟨data, ⟨hvalid, hbytes⟩, rfl⟩
    have hsize := hbytes ▸ hvalid.length_encoded
    obtain ⟨map, hdecode, hreads⟩ := (Core.decode_reads_iff (hvalid.fits roomy_tsRules)
      (Protocol.flat_rtcDataMap data)).mpr ⟨hsize, unmarked_rtcDataMap hvalid, hbytes⟩
    exact ⟨map, data, hsize, hdecode, hreads, hvalid, rfl⟩

theorem decodeRtcAdmit_eq_ok_iff :
    Core.RtcDataWire.decodeRtcAdmit bytes = .ok reply ↔
      ∃ admission, Protocol.encodeRTCAdmit admission = .ok bytes ∧
        clientAdmit admission = reply := by
  simp only [decodeRtcAdmit_reads_iff, Protocol.encodeRTCAdmit_eq_ok_iff]
  constructor
  · rintro ⟨map, admission, _, hdecode, hreads, hvalid, rfl⟩
    obtain ⟨_, _, hbytes⟩ := (Core.decode_reads_iff (hvalid.fits roomy_tsRules)
      (Protocol.flat_rtcAdmitMap admission)).mp ⟨map, hdecode, hreads⟩
    exact ⟨admission, ⟨hvalid, hbytes⟩, rfl⟩
  · rintro ⟨admission, ⟨hvalid, hbytes⟩, rfl⟩
    have hsize := hbytes ▸ hvalid.length_encoded
    obtain ⟨map, hdecode, hreads⟩ := (Core.decode_reads_iff (hvalid.fits roomy_tsRules)
      (Protocol.flat_rtcAdmitMap admission)).mpr ⟨hsize, unmarked_rtcAdmitMap hvalid, hbytes⟩
    exact ⟨map, admission, hsize, hdecode, hreads, hvalid, rfl⟩

theorem decodeToken_of_spells {token label : String} {id : List UInt8} {size : Nat}
    (h : Core.decodeBase64URL token.toList = .ok id) (hlength : id.length = size) :
    Core.RtcWire.decodeToken token size label = .ok id :=
  Core.RtcWire.decodeToken_eq_ok_iff.mpr ⟨h, hlength⟩

theorem dataMap_eq (h : SpellsData value data) (hvalid : data.Valid) :
    Core.RtcDataWire.dataMap value = .ok (rtcDataMap data) := by
  have hciphertext : Core.RtcDataWire.decodeCiphertext value.ciphertext = .ok data.ciphertext := by
    rw [Core.RtcDataWire.decodeCiphertext, h.ciphertext]
    exact if_neg (Nat.not_lt.mpr hvalid.ciphertext_le)
  rw [Core.RtcDataWire.dataMap, decodeToken_of_spells h.rtcSessionId hvalid.rtcSessionID,
    decodeToken_of_spells h.originRouteId hvalid.originRouteID,
    decodeToken_of_spells h.deliveryId hvalid.deliveryID, hciphertext, h.version, h.pathEpoch,
    h.streamId, h.ackRequested]
  rfl

theorem encodeBounded_eq {entries : Core.CborMap} {maximumBytes : Nat} {label : String}
    (hfits : Cbor.Fits Core.tsRules (.map entries))
    (hflat : ∀ entry ∈ entries, entry.2.sortKeys = entry.2)
    (hlength : (Cbor.encode (.map entries)).length ≤ maximumBytes) :
    Core.RtcDataWire.encodeBounded entries maximumBytes label =
      .ok (Cbor.encode (.map (Cbor.inKeyOrder entries))) := by
  have hencode : (Core.encodeDeterministicCbor (.map entries)).mapError Core.CborError.message =
      .ok (Cbor.encode (Cbor.sortKeys (.map entries))) :=
    mapError_eq_ok.mpr (Core.encodeDeterministicCbor_of_fits (Core.fits_encoderRules hfits))
  rw [← Cbor.sortKeys_record hflat, Core.RtcDataWire.encodeBounded, hencode]
  refine throwIf_bind_eq_ok.mpr ⟨?_, rfl⟩
  rw [Cbor.length_encode_sortKeys hfits]
  exact Nat.not_lt.mpr hlength

theorem encodeRtcData_of_spells (h : SpellsData value data) (hvalid : data.Valid) :
    Core.RtcDataWire.encodeRtcData value = Protocol.encodeRTCData data := by
  rw [hvalid.encode_eq, Core.RtcDataWire.encodeRtcData]
  refine throwIf_bind_eq_ok.mpr ⟨not_not.mpr (validateRtcData_iff.mpr ⟨data, h, hvalid⟩), ?_⟩
  refine bind_eq_ok.mpr ⟨_, dataMap_eq h hvalid, ?_⟩
  exact encodeBounded_eq (hvalid.fits roomy_tsRules) (Protocol.flat_rtcDataMap data)
    hvalid.length_encode

theorem encodeRtcAdmit_of_spells (h : SpellsAdmit reply admission) (hvalid : admission.Valid) :
    Core.RtcDataWire.encodeRtcAdmit reply = Protocol.encodeRTCAdmit admission := by
  rw [hvalid.encode_eq, Core.RtcDataWire.encodeRtcAdmit]
  refine throwIf_bind_eq_ok.mpr
    ⟨not_not.mpr (validateRtcAdmit_iff.mpr ⟨admission, h, hvalid⟩), ?_⟩
  rw [decodeToken_of_spells h.rtcSessionId hvalid.rtcSessionID,
    decodeToken_of_spells h.deliveryId hvalid.deliveryID, h.version]
  exact encodeBounded_eq (hvalid.fits roomy_tsRules) (Protocol.flat_rtcAdmitMap admission)
    hvalid.length_encode

theorem encodeRtcData_eq_ok_iff :
    Core.RtcDataWire.encodeRtcData value = .ok bytes ↔
      ∃ data, SpellsData value data ∧ Protocol.encodeRTCData data = .ok bytes := by
  constructor
  · intro h
    obtain ⟨hvalidate, _⟩ := throwIf_bind_eq_ok.mp h
    obtain ⟨data, hspells, hvalid⟩ := validateRtcData_iff.mp (not_not.mp hvalidate)
    exact ⟨data, hspells, (encodeRtcData_of_spells hspells hvalid).symm.trans h⟩
  · rintro ⟨data, hspells, hencode⟩
    have hvalid := (Protocol.encodeRTCData_eq_ok_iff.mp hencode).1
    exact (encodeRtcData_of_spells hspells hvalid).trans hencode

theorem encodeRtcAdmit_eq_ok_iff :
    Core.RtcDataWire.encodeRtcAdmit reply = .ok bytes ↔
      ∃ admission, SpellsAdmit reply admission ∧
        Protocol.encodeRTCAdmit admission = .ok bytes := by
  constructor
  · intro h
    obtain ⟨hvalidate, _⟩ := throwIf_bind_eq_ok.mp h
    obtain ⟨admission, hspells, hvalid⟩ := validateRtcAdmit_iff.mp (not_not.mp hvalidate)
    exact ⟨admission, hspells, (encodeRtcAdmit_of_spells hspells hvalid).symm.trans h⟩
  · rintro ⟨admission, hspells, hencode⟩
    have hvalid := (Protocol.encodeRTCAdmit_eq_ok_iff.mp hencode).1
    exact (encodeRtcAdmit_of_spells hspells hvalid).trans hencode

theorem strictMap_of_decodeRtcData (h : Core.RtcDataWire.decodeRtcData bytes = .ok value) :
    ∃ map, strictMap bytes "rtc data frame" Core.RtcDataWire.maxRtcDataFrameBytes
        (some Core.RtcDataWire.admitKeys) = .ok map ∧
      Core.requiredText map "kind" = .ok "data" := by
  obtain ⟨map, data, hsize, hdecode, ⟨hknown, hlookup⟩, _, _⟩ := decodeRtcData_reads_iff.mp h
  have hkind := hlookup ("kind", .text "data") List.mem_cons_self
  exact ⟨map, strictMap_eq_ok_iff.mpr ⟨hsize, hdecode, .inl ⟨hkind, hknown⟩⟩,
    (requiredText_const_iff (by decide) (by decide)).mpr hkind⟩

theorem strictMap_of_decodeRtcAdmit (h : Core.RtcDataWire.decodeRtcAdmit bytes = .ok reply) :
    ∃ map, strictMap bytes "rtc data frame" Core.RtcDataWire.maxRtcDataFrameBytes
        (some Core.RtcDataWire.admitKeys) = .ok map ∧
      Core.requiredText map "kind" = .ok "admit" := by
  obtain ⟨map, admission, hsize, hdecode, ⟨hknown, hlookup⟩, _, _⟩ := decodeRtcAdmit_reads_iff.mp h
  have hkind := hlookup ("kind", .text "admit") List.mem_cons_self
  obtain ⟨⟨hne, _⟩, hrest⟩ := Core.decodeDeterministicCbor_eq_ok_iff.mp hdecode
  have hsize' : bytes.length ≤ Core.RtcDataWire.maxRtcDataFrameBytes := hsize.trans (by decide)
  exact ⟨map, strictMap_eq_ok_iff.mpr ⟨hsize',
    Core.decodeDeterministicCbor_eq_ok_iff.mpr ⟨⟨hne, hsize'⟩, hrest⟩,
    .inr ⟨hkind, _, rfl, hknown⟩⟩, (requiredText_const_iff (by decide) (by decide)).mpr hkind⟩

theorem decodeRtcDataFrame_eq_ok_iff {frame : Core.RtcDataFrame} :
    Core.RtcDataWire.decodeRtcDataFrame bytes = .ok frame ↔
      (∃ value, frame = .data value ∧ Core.RtcDataWire.decodeRtcData bytes = .ok value) ∨
        ∃ reply, frame = .admission reply ∧
          Core.RtcDataWire.decodeRtcAdmit bytes = .ok reply := by
  constructor
  · intro h
    obtain ⟨map, _, h⟩ := bind_eq_ok.mp h
    obtain ⟨kind, _, h⟩ := bind_eq_ok.mp h
    split at h
    · obtain ⟨value, hvalue, heq⟩ := bind_eq_ok.mp h
      exact .inl ⟨value, (Except.ok.inj heq).symm, hvalue⟩
    · split at h
      · obtain ⟨reply, hreply, heq⟩ := bind_eq_ok.mp h
        exact .inr ⟨reply, (Except.ok.inj heq).symm, hreply⟩
      · cases h
  · rintro (⟨value, rfl, hvalue⟩ | ⟨reply, rfl, hreply⟩)
    · obtain ⟨map, hmap, hkind⟩ := strictMap_of_decodeRtcData hvalue
      refine bind_eq_ok.mpr ⟨map, hmap, bind_eq_ok.mpr ⟨"data", hkind, ?_⟩⟩
      rw [if_pos rfl]
      exact bind_eq_ok.mpr ⟨value, hvalue, rfl⟩
    · obtain ⟨map, hmap, hkind⟩ := strictMap_of_decodeRtcAdmit hreply
      refine bind_eq_ok.mpr ⟨map, hmap, bind_eq_ok.mpr ⟨"admit", hkind, ?_⟩⟩
      rw [if_neg (by decide), if_pos rfl]
      exact bind_eq_ok.mpr ⟨reply, hreply, rfl⟩

end Client

section Codecs

structure FrameCodecs : Prop where
  data : ∀ bytes, (Core.RtcDataWire.decodeRtcData bytes).toOption =
    (Protocol.decodeRTCData bytes).toOption.map clientData
  admission : ∀ bytes, (Core.RtcDataWire.decodeRtcAdmit bytes).toOption =
    (Protocol.decodeRTCAdmit bytes).toOption.map clientAdmit
  frame : ∀ bytes, (Core.RtcDataWire.decodeRtcDataFrame bytes).toOption =
    (Protocol.decodeRTCDataFrame bytes).toOption.map clientFrame
  relay_data : ∀ data bytes,
    Protocol.decodeRTCData bytes = .ok data ↔ Protocol.encodeRTCData data = .ok bytes
  relay_admission : ∀ admission bytes,
    Protocol.decodeRTCAdmit bytes = .ok admission ↔ Protocol.encodeRTCAdmit admission = .ok bytes
  client_data : ∀ value bytes, Core.RtcDataWire.encodeRtcData value = .ok bytes →
    ∃ data, SpellsData value data ∧
      Core.RtcDataWire.decodeRtcData bytes = .ok (clientData data) ∧
        (clientData data = value ↔ CanonicalData value)
  client_admission : ∀ value bytes, Core.RtcDataWire.encodeRtcAdmit value = .ok bytes →
    ∃ admission, SpellsAdmit value admission ∧
      Core.RtcDataWire.decodeRtcAdmit bytes = .ok (clientAdmit admission) ∧
        (clientAdmit admission = value ↔ CanonicalAdmit value)
  client_data_bytes : ∀ value bytes, Core.RtcDataWire.decodeRtcData bytes = .ok value →
    Core.RtcDataWire.encodeRtcData value = .ok bytes
  client_admission_bytes : ∀ value bytes, Core.RtcDataWire.decodeRtcAdmit bytes = .ok value →
    Core.RtcDataWire.encodeRtcAdmit value = .ok bytes
  relay_fits : ∀ data : RTCData, data.validate = .ok () →
    ∃ bytes, Protocol.encodeRTCData data = .ok bytes ∧
      bytes.length ≤ Protocol.maxRTCDataFrameBytes
  client_fits : ∀ value, Core.validateRtcData value = true →
    ∃ bytes, Core.RtcDataWire.encodeRtcData value = .ok bytes ∧
      bytes.length ≤ Core.RtcDataWire.maxRtcDataFrameBytes

theorem toOption_decodeRtcData (bytes : List UInt8) :
    (Core.RtcDataWire.decodeRtcData bytes).toOption =
      (Protocol.decodeRTCData bytes).toOption.map clientData := by
  refine Option.ext fun value => ?_
  simp only [toOption_eq_some_iff, Option.map_eq_some_iff, decodeRtcData_eq_ok_iff,
    Protocol.decodeRTCData_eq_ok_iff]

theorem toOption_decodeRtcAdmit (bytes : List UInt8) :
    (Core.RtcDataWire.decodeRtcAdmit bytes).toOption =
      (Protocol.decodeRTCAdmit bytes).toOption.map clientAdmit := by
  refine Option.ext fun value => ?_
  simp only [toOption_eq_some_iff, Option.map_eq_some_iff, decodeRtcAdmit_eq_ok_iff,
    Protocol.decodeRTCAdmit_eq_ok_iff]

theorem toOption_decodeRtcDataFrame (bytes : List UInt8) :
    (Core.RtcDataWire.decodeRtcDataFrame bytes).toOption =
      (Protocol.decodeRTCDataFrame bytes).toOption.map clientFrame := by
  refine Option.ext fun frame => ?_
  simp only [toOption_eq_some_iff, Option.map_eq_some_iff, decodeRtcDataFrame_eq_ok_iff,
    Protocol.decodeRTCDataFrame_eq_ok_iff, decodeRtcData_eq_ok_iff, decodeRtcAdmit_eq_ok_iff,
    Protocol.decodeRTCData_eq_ok_iff, Protocol.decodeRTCAdmit_eq_ok_iff]
  constructor
  · rintro (⟨_, rfl, data, hdata, rfl⟩ | ⟨_, rfl, admission, hadmission, rfl⟩)
    · exact ⟨.data data, .inl ⟨data, rfl, hdata⟩, rfl⟩
    · exact ⟨.admission admission, .inr ⟨admission, rfl, hadmission⟩, rfl⟩
  · rintro ⟨_, ⟨data, rfl, hdata⟩ | ⟨admission, rfl, hadmission⟩, rfl⟩
    · exact .inl ⟨_, rfl, data, hdata, rfl⟩
    · exact .inr ⟨_, rfl, admission, hadmission, rfl⟩

/-- On every input the decoders return the same fields, and they undo the encoders, the client's
up to the spelling of texts. -/
theorem frameCodecs : FrameCodecs where
  data := toOption_decodeRtcData
  admission := toOption_decodeRtcAdmit
  frame := toOption_decodeRtcDataFrame
  relay_data := fun _ _ => Protocol.decodeRTCData_eq_ok_iff
  relay_admission := fun _ _ => Protocol.decodeRTCAdmit_eq_ok_iff
  client_data := by
    intro value bytes hencode
    obtain ⟨data, hspells, hencode⟩ := encodeRtcData_eq_ok_iff.mp hencode
    exact ⟨data, hspells, decodeRtcData_eq_ok_iff.mpr ⟨data, hencode, rfl⟩,
      hspells.clientData_eq_iff⟩
  client_admission := by
    intro value bytes hencode
    obtain ⟨admission, hspells, hencode⟩ := encodeRtcAdmit_eq_ok_iff.mp hencode
    exact ⟨admission, hspells, decodeRtcAdmit_eq_ok_iff.mpr ⟨admission, hencode, rfl⟩,
      hspells.clientAdmit_eq_iff⟩
  client_data_bytes := by
    intro value bytes hdecode
    obtain ⟨data, hencode, rfl⟩ := decodeRtcData_eq_ok_iff.mp hdecode
    have hvalid := (Protocol.encodeRTCData_eq_ok_iff.mp hencode).1
    exact encodeRtcData_eq_ok_iff.mpr ⟨data, spellsData_clientData hvalid, hencode⟩
  client_admission_bytes := by
    intro value bytes hdecode
    obtain ⟨admission, hencode, rfl⟩ := decodeRtcAdmit_eq_ok_iff.mp hdecode
    have hvalid := (Protocol.encodeRTCAdmit_eq_ok_iff.mp hencode).1
    exact encodeRtcAdmit_eq_ok_iff.mpr ⟨admission, spellsAdmit_clientAdmit hvalid, hencode⟩
  relay_fits := by
    intro data hvalidate
    have hvalid := Protocol.RTCData.validate_eq_ok_iff.mp hvalidate
    exact ⟨_, hvalid.encode_eq, hvalid.length_encoded⟩
  client_fits := by
    intro value hvalidate
    obtain ⟨data, hspells, hvalid⟩ := validateRtcData_iff.mp hvalidate
    exact ⟨_, encodeRtcData_eq_ok_iff.mpr ⟨data, hspells, hvalid.encode_eq⟩,
      hvalid.length_encoded⟩

/-- Of the last character of a token of 16 bytes the four lowest bits are not read. -/
def strayAdmit : Core.RtcAdmit where
  rtcSessionId := "AAAAAAAAAAAAAAAAAAAAAB"
  deliveryId := "AAAAAAAAAAAAAAAAAAAAAA"

def zeroAdmit : RTCAdmit where
  version := Protocol.rtcDataVersion
  rtcSessionID := List.replicate 16 0
  deliveryID := List.replicate 16 0

theorem spellsAdmit_strayAdmit : SpellsAdmit strayAdmit zeroAdmit where
  version := rfl
  rtcSessionId := by decide +kernel
  deliveryId := by decide +kernel

theorem valid_zeroAdmit : zeroAdmit.Valid := ⟨rfl, rfl, rfl⟩

/-- An admission with such a token is encoded, and comes back with another. -/
theorem not_decode_encode_strayAdmit :
    ∃ bytes, Core.RtcDataWire.encodeRtcAdmit strayAdmit = .ok bytes ∧
      Core.RtcDataWire.decodeRtcAdmit bytes ≠ .ok strayAdmit := by
  refine ⟨_, encodeRtcAdmit_eq_ok_iff.mpr
    ⟨zeroAdmit, spellsAdmit_strayAdmit, valid_zeroAdmit.encode_eq⟩, fun hdecode => ?_⟩
  have hdecode' := decodeRtcAdmit_eq_ok_iff.mpr ⟨zeroAdmit, valid_zeroAdmit.encode_eq, rfl⟩
  have hsame := congrArg Core.RtcAdmit.rtcSessionId
    (Except.ok.inj (hdecode'.symm.trans hdecode))
  revert hsame
  decide +kernel

end Codecs

end Branch.Agreement
