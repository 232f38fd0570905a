import Branch.Agreement.Cbor
import Branch.Core.ApplicationCapabilities
import Branch.Protocol.ApplicationCapabilities

/-!
The capabilities of an application in the codecs of relay and client.
-/

namespace Branch.Agreement

open Branch.Lib
open Branch.Core.ApplicationCapabilities (Capabilities AttachmentMode readAttachmentMode
  readOrderedIdentifiers requiredIdentifiers capabilitiesMap)
open Branch.Protocol (ApplicationCapabilities Identifiers applicationCapabilitiesMap
  capabilitiesBody)

/-- The same capabilities at the relay, where the mode is a text. -/
def relayCapabilities (value : Capabilities) : ApplicationCapabilities where
  applicationVersions := value.applicationVersions
  kinds := value.kinds
  maxInlineBytes := value.maxInlineBytes
  attachmentMode := value.attachmentMode.text
  maxRelayAttachmentBytes := value.maxRelayAttachmentBytes
  maxDirectAttachmentBytes := value.maxDirectAttachmentBytes

section Validators

theorem isASCIIIdentifier_eq (value : String) :
    Core.ApplicationCapabilities.isASCIIIdentifier value =
      Protocol.applicationCapabilityIdentifier value := by
  have hcharacter : ∀ b : UInt8, (0x21 ≤ b && b ≤ 0x7e) = !(b < 0x21 || 0x7e < b) := by
    intro b
    simp [← UInt8.not_lt]
  have hmax : Core.ApplicationCapabilities.maxApplicationCapabilityIdentifierBytes =
      Protocol.maxApplicationCapabilityIdentifierLen := rfl
  unfold Core.ApplicationCapabilities.isASCIIIdentifier Protocol.applicationCapabilityIdentifier
  simp only [hcharacter, hmax]
  split
  · rename_i hsize
    simp only [Bool.or_eq_true, decide_eq_true_eq] at hsize
    rcases hsize with hempty | hlarge
    · simp [hempty]
    · rw [decide_eq_false (Nat.not_le.mpr hlarge), Bool.and_false, Bool.false_and]
  · rename_i hsize
    simp only [Bool.or_eq_true, decide_eq_true_eq, not_or, Nat.not_lt] at hsize
    simp only [Nat.pos_of_ne_zero hsize.1, hsize.2, decide_true, Bool.true_and]

/-- Identifiers are ASCII texts, so that the order of their units is that of their bytes. -/
theorem validateOrderedIdentifiers_eq_ok_iff {values : List String} {label : String} :
    Core.ApplicationCapabilities.validateOrderedIdentifiers values label = .ok () ↔
      Identifiers values := by
  have hmax : Core.ApplicationCapabilities.maxApplicationCapabilityIdentifiers =
      Protocol.maxApplicationCapabilityIdentifiers := rfl
  have horder : (∀ value ∈ values, Protocol.applicationCapabilityIdentifier value = true) →
      ((values.Pairwise fun a b => Utf16.units a < Utf16.units b) ↔
        values.Pairwise fun a b => Utf8.bytes a < Utf8.bytes b) := by
    intro hidentifier
    refine List.Pairwise.iff_of_mem fun {a b} ha hb => ?_
    exact units_lt_iff (Protocol.isAscii_of_identifier (hidentifier a ha))
      (Protocol.isAscii_of_identifier (hidentifier b hb))
  rw [Core.ApplicationCapabilities.validateOrderedIdentifiers, throwIf_bind_eq_ok, Nat.not_lt,
    checkIncreasing_eq_ok_iff, hmax]
  simp only [isASCIIIdentifier_eq]
  constructor
  · rintro ⟨hcount, hidentifier, hincreasing⟩
    exact ⟨hcount, hidentifier, (horder hidentifier).mp hincreasing⟩
  · rintro ⟨hcount, hidentifier, hincreasing⟩
    exact ⟨hcount, hidentifier, (horder hidentifier).mpr hincreasing⟩

theorem attachmentMode_text (mode : AttachmentMode) :
    mode.text = "none" ∨ mode.text = "receiver-accept" := by
  cases mode with
  | none => exact .inl rfl
  | receiverAccept => exact .inr rfl

variable {value : Capabilities}

theorem validateApplicationCapabilities_eq_ok_iff :
    Core.ApplicationCapabilities.validateApplicationCapabilities value = .ok () ↔
      (relayCapabilities value).Valid := by
  simp only [Core.ApplicationCapabilities.validateApplicationCapabilities, bind_eq_ok,
    exists_unit, validateOrderedIdentifiers_eq_ok_iff, throwIf_eq_ok, not_or, Nat.not_lt]
  constructor
  · rintro ⟨hversions, hkinds, hinline, hrelay, hdirect⟩
    exact ⟨hversions, hkinds, hinline, attachmentMode_text value.attachmentMode, hrelay, hdirect⟩
  · rintro ⟨hversions, hkinds, hinline, _, hrelay, hdirect⟩
    exact ⟨hversions, hkinds, hinline, hrelay, hdirect⟩

end Validators

section Readers

variable {map : Core.CborMap} {value : Capabilities} {bytes : List UInt8}

theorem readAttachmentMode_eq_ok_iff {text : String} {mode : AttachmentMode} :
    readAttachmentMode text = .ok mode ↔ mode.text = text := by
  unfold readAttachmentMode
  split
  · rename_i htext
    rw [htext]
    cases mode <;> simp [AttachmentMode.text]
  · split
    · rename_i htext
      rw [htext]
      cases mode <;> simp [AttachmentMode.text]
    · rename_i hnone haccept
      cases mode with
      | none => simpa [AttachmentMode.text] using fun h => hnone h.symm
      | receiverAccept => simpa [AttachmentMode.text] using fun h => haccept h.symm

theorem mapM_readText_eq_ok_iff {values : List Cbor} {label : String} {identifiers : List String}
    (h : Identifiers identifiers) :
    (values.mapM fun item => Core.readText item label) = .ok identifiers ↔
      values = identifiers.map .text := by
  have hshort : ∀ s ∈ identifiers, s ≠ "" ∧ s.utf8ByteSize ≤ Core.maxCborTextBytes := by
    intro s hs
    obtain ⟨⟨hne, hsize⟩, _⟩ :=
      Protocol.applicationCapabilityIdentifier_iff.mp (h.identifier s hs)
    exact ⟨hne, hsize.trans (by decide)⟩
  simp only [mapM_eq_ok_iff, Core.readText_eq_ok_iff]
  rw [← List.forall₂_eq_eq_eq, @List.forall₂_map_right_iff _ _ _ Eq]
  constructor
  · exact fun hread => hread.imp fun _ _ => And.left
  · intro hread
    rw [List.forall₂_iff_zip] at hread ⊢
    exact ⟨hread.1, fun hmem => ⟨hread.2 hmem, hshort _ (List.of_mem_zip hmem).2⟩⟩

theorem requiredIdentifiers_eq_ok_iff {key : String} {identifiers : List String} :
    requiredIdentifiers map key = .ok identifiers ↔
      map.lookup key = some (Protocol.stringArrayValue identifiers) ∧ Identifiers identifiers := by
  simp only [requiredIdentifiers, bind_eq_ok, Core.getRequiredEntry_eq_ok_iff]
  constructor
  · rintro ⟨item, hlookup, h⟩
    cases item with
    | array values =>
      obtain ⟨_, h⟩ := throwIf_bind_eq_ok.mp h
      obtain ⟨_, hitems, h⟩ := bind_eq_ok.mp h
      obtain ⟨_, hvalid, heq⟩ := bind_eq_ok.mp h
      obtain rfl := Except.ok.inj heq
      have hvalid := validateOrderedIdentifiers_eq_ok_iff.mp hvalid
      rw [(mapM_readText_eq_ok_iff hvalid).mp hitems] at hlookup
      exact ⟨hlookup, hvalid⟩
    | _ => cases h
  · rintro ⟨hlookup, hvalid⟩
    refine ⟨_, hlookup, throwIf_bind_eq_ok.mpr ⟨?_, bind_eq_ok.mpr ⟨identifiers, ?_, ?_⟩⟩⟩
    · rw [List.length_map]
      exact Nat.not_lt.mpr hvalid.count
    · exact (mapM_readText_eq_ok_iff hvalid).mpr rfl
    · exact bind_eq_ok.mpr ⟨(), validateOrderedIdentifiers_eq_ok_iff.mpr hvalid, rfl⟩

theorem unmarked_applicationCapabilitiesMap {capabilities : ApplicationCapabilities}
    (h : capabilities.Valid) :
    ∀ s ∈ (Cbor.map (applicationCapabilitiesMap capabilities)).texts, ¬ Utf8.Marked s := by
  have hkeys : ∀ key ∈ Protocol.applicationCapabilityKeys,
      key.toList.head? ≠ some Utf8.byteOrderMark := by
    decide
  have hmodes : ∀ s ∈ ["none", "receiver-accept"],
      s.toList.head? ≠ some Utf8.byteOrderMark := by
    decide
  have hidentifiers : ∀ values, Identifiers values →
      ∀ s ∈ (Protocol.stringArrayValue values).texts, ¬ Utf8.Marked s := by
    intro values hvalues s hs
    obtain ⟨v, hv, hs⟩ := Cbor.mem_textsItems.mp hs
    obtain ⟨identifier, hidentifier, rfl⟩ := List.mem_map.mp hv
    obtain rfl := List.mem_singleton.mp hs
    exact not_marked_of_ascii
      (Protocol.isAscii_of_identifier (hvalues.identifier s hidentifier))
  intro s hs
  obtain ⟨entry, hentry, rfl | hs⟩ := Cbor.mem_textsEntries.mp hs
  · exact hkeys _ (Protocol.keys_applicationCapabilitiesMap capabilities ▸
      List.mem_map_of_mem hentry)
  · simp only [applicationCapabilitiesMap, List.mem_cons, List.not_mem_nil, or_false] at hentry
    rcases hentry with rfl | rfl | rfl | rfl | rfl | rfl
    · exact hidentifiers _ h.applicationVersions s hs
    · exact hidentifiers _ h.kinds s hs
    · cases hs
    · obtain rfl := List.mem_singleton.mp hs
      exact hmodes _ (by simpa using h.attachmentMode)
    · cases hs
    · cases hs

theorem decodeApplicationCapabilities_reads_iff :
    Core.ApplicationCapabilities.decodeApplicationCapabilities bytes = .ok value ↔
      (relayCapabilities value).Valid ∧ ∃ map,
        Core.decodeDeterministicCbor bytes Protocol.maxApplicationCapabilitiesBytes =
            .ok (.map map) ∧
          Cbor.Reads map (applicationCapabilitiesMap (relayCapabilities value)) := by
  have hmax : Core.ApplicationCapabilities.maxApplicationCapabilitiesBytes =
      Protocol.maxApplicationCapabilitiesBytes := rfl
  simp only [Core.ApplicationCapabilities.decodeApplicationCapabilities, bind_eq_ok,
    mapError_eq_ok, exists_unit, throwIf_eq_ok, Core.readCborMap_eq_ok_iff,
    Core.rejectUnknownEntries_eq_ok_iff, Core.requiredText_eq_ok_iff,
    Core.requiredUint_eq_ok_iff, requiredIdentifiers_eq_ok_iff, readAttachmentMode_eq_ok_iff,
    validateApplicationCapabilities_eq_ok_iff, pure_eq_ok, hmax]
  constructor
  · rintro ⟨_, _, hdecode, map, rfl, hknown, _, ⟨hmode, _⟩, versions, ⟨hversions, _⟩, kinds,
      ⟨hkinds, _⟩, inline, ⟨hinline, _⟩, mode, rfl, relay, ⟨hrelay, _⟩, direct, ⟨hdirect, _⟩,
      hvalid, rfl⟩
    refine ⟨hvalid, map, hdecode, hknown, ?_⟩
    simp only [applicationCapabilitiesMap, List.forall_mem_cons, forall_mem_nil, and_true]
    exact ⟨hversions, hkinds, hinline, hmode, hrelay, hdirect⟩
  · rintro ⟨hvalid, map, hdecode, hknown, hlookup⟩
    simp only [applicationCapabilitiesMap, List.forall_mem_cons, forall_mem_nil,
      and_true] at hlookup
    obtain ⟨hversions, hkinds, hinline, hmode, hrelay, hdirect⟩ := hlookup
    obtain ⟨⟨hne, hsize⟩, _⟩ := Core.decodeDeterministicCbor_eq_ok_iff.mp hdecode
    have hbound : ∀ n limit : Nat, n ≤ limit → limit ≤ Core.maxSafeInteger →
        n ≤ Core.maxSafeInteger := fun _ _ => le_trans
    exact ⟨by omega, _, hdecode, map, rfl, hknown, _, ⟨hmode, hvalid.mode_ne⟩,
      _, ⟨hversions, hvalid.applicationVersions⟩, _, ⟨hkinds, hvalid.kinds⟩,
      _, ⟨hinline, hbound _ _ hvalid.maxInlineBytes (by decide)⟩, _, rfl,
      _, ⟨hrelay, hbound _ _ hvalid.maxRelayAttachmentBytes (by decide)⟩,
      _, ⟨hdirect, hbound _ _ hvalid.maxDirectAttachmentBytes (by decide)⟩, hvalid, rfl⟩

theorem decodeApplicationCapabilities_eq_ok_iff :
    Core.ApplicationCapabilities.decodeApplicationCapabilities bytes = .ok value ↔
      Protocol.encodeApplicationCapabilities (relayCapabilities value) = .ok bytes := by
  rw [decodeApplicationCapabilities_reads_iff, Protocol.encodeApplicationCapabilities_eq_ok_iff,
    and_left_comm]
  refine and_congr_right fun hvalid => ?_
  rw [Core.decode_reads_iff (hvalid.fits roomy_tsRules)
    (Protocol.flat_applicationCapabilitiesMap _)]
  refine and_congr_right fun _ => ?_
  exact and_iff_right (unmarked_applicationCapabilitiesMap hvalid)

theorem encodeApplicationCapabilities_eq_ok_iff :
    Core.ApplicationCapabilities.encodeApplicationCapabilities value = .ok bytes ↔
      Protocol.encodeApplicationCapabilities (relayCapabilities value) = .ok bytes := by
  have hmap : capabilitiesMap value = applicationCapabilitiesMap (relayCapabilities value) := rfl
  have hmax : Core.ApplicationCapabilities.maxApplicationCapabilitiesBytes =
      Protocol.maxApplicationCapabilitiesBytes := rfl
  have hencode : (relayCapabilities value).Valid →
      Core.encodeDeterministicCbor (.map (capabilitiesMap value)) =
        .ok (capabilitiesBody (relayCapabilities value)) := by
    intro hvalid
    rw [hmap, capabilitiesBody, ← Cbor.sortKeys_record (Protocol.flat_applicationCapabilitiesMap _)]
    exact Core.encodeDeterministicCbor_of_fits (Core.fits_encoderRules (hvalid.fits roomy_tsRules))
  rw [Protocol.encodeApplicationCapabilities_eq_ok_iff]
  simp only [Core.ApplicationCapabilities.encodeApplicationCapabilities, bind_eq_ok,
    mapError_eq_ok, exists_unit, throwIf_eq_ok, validateApplicationCapabilities_eq_ok_iff,
    pure_eq_ok, Nat.not_lt, hmax]
  constructor
  · rintro ⟨hvalid, _, hencoded, hsize, rfl⟩
    exact ⟨hsize, hvalid, Except.ok.inj (hencoded.symm.trans (hencode hvalid))⟩
  · rintro ⟨hsize, hvalid, rfl⟩
    exact ⟨hvalid, _, hencode hvalid, hsize, rfl⟩

end Readers

section Codecs

theorem exists_relayCapabilities {capabilities : ApplicationCapabilities}
    (h : capabilities.Valid) : ∃ value, relayCapabilities value = capabilities := by
  obtain ⟨versions, kinds, inline, mode, relay, direct⟩ := capabilities
  have hmode : mode = "none" ∨ mode = "receiver-accept" := h.attachmentMode
  rcases hmode with rfl | rfl
  · exact ⟨⟨versions, kinds, inline, .none, relay, direct⟩, rfl⟩
  · exact ⟨⟨versions, kinds, inline, .receiverAccept, relay, direct⟩, rfl⟩

structure CapabilityCodecs : Prop where
  decode : ∀ bytes, (Protocol.decodeApplicationCapabilities bytes).toOption =
    (Core.ApplicationCapabilities.decodeApplicationCapabilities bytes).toOption.map
      relayCapabilities
  relay : ∀ capabilities bytes,
    Protocol.decodeApplicationCapabilities bytes = .ok capabilities ↔
      Protocol.encodeApplicationCapabilities capabilities = .ok bytes
  client : ∀ value bytes,
    Core.ApplicationCapabilities.decodeApplicationCapabilities bytes = .ok value ↔
      Core.ApplicationCapabilities.encodeApplicationCapabilities value = .ok bytes

/-- On every input the decoders return the same capabilities, and they undo the encoders. -/
theorem capabilityCodecs : CapabilityCodecs where
  decode := by
    intro bytes
    refine Option.ext fun capabilities => ?_
    simp only [toOption_eq_some_iff, Option.map_eq_some_iff,
      Protocol.decodeApplicationCapabilities_eq_ok_iff, decodeApplicationCapabilities_eq_ok_iff]
    constructor
    · intro hencode
      have hvalid := (Protocol.encodeApplicationCapabilities_eq_ok_iff.mp hencode).2.1
      obtain ⟨value, rfl⟩ := exists_relayCapabilities hvalid
      exact ⟨value, hencode, rfl⟩
    · rintro ⟨value, hencode, rfl⟩
      exact hencode
  relay := fun _ _ => Protocol.decodeApplicationCapabilities_eq_ok_iff
  client := fun _ _ =>
    decodeApplicationCapabilities_eq_ok_iff.trans encodeApplicationCapabilities_eq_ok_iff.symm

end Codecs

end Branch.Agreement
