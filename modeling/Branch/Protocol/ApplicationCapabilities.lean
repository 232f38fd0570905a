import Branch.Lib.Increasing
import Branch.Protocol.CborDecode

/-!
What an application can do, as Go writes and reads it in the body of a control.
-/

namespace Branch.Protocol

open Branch.Lib

def maxApplicationCapabilitiesBytes : Nat := 2048
def maxApplicationCapabilityIdentifiers : Nat := 16
def maxApplicationCapabilityIdentifierLen : Nat := 96
def maxInlineBinaryBytes : Nat := 3000
def maxRelayAttachmentBytes : Nat := 4 * 1024 * 1024
def maxDirectAttachmentBytes : Nat := 16 * 1024 * 1024

/-- An identifier or a mode that is no text is not valid either. -/
structure ApplicationCapabilities where
  applicationVersions : List String
  kinds : List String
  maxInlineBytes : Nat
  attachmentMode : String
  maxRelayAttachmentBytes : Nat
  maxDirectAttachmentBytes : Nat
  deriving DecidableEq

def invalidApplicationCapabilities : String := "invalid application capabilities"

def applicationCapabilitiesError (err : String) : String :=
  invalidApplicationCapabilities ++ ": " ++ err

section Validators

def applicationCapabilityIdentifier (value : String) : Bool :=
  let data := Utf8.bytes value
  if data.length = 0 || maxApplicationCapabilityIdentifierLen < data.length then false
  else data.all fun character => !(character < 0x21 || 0x7e < character)

def validateApplicationCapabilityIdentifiers (identifiers : List String) :
    Except String Unit := do
  throwIf (maxApplicationCapabilityIdentifiers < identifiers.length)
    invalidApplicationCapabilities
  checkIncreasing applicationCapabilityIdentifier Utf8.bytes invalidApplicationCapabilities none
    identifiers

def ApplicationCapabilities.validate (capabilities : ApplicationCapabilities) :
    Except String Unit := do
  validateApplicationCapabilityIdentifiers capabilities.applicationVersions
  validateApplicationCapabilityIdentifiers capabilities.kinds
  throwIf (maxInlineBinaryBytes < capabilities.maxInlineBytes ∨
    (capabilities.attachmentMode ≠ "none" ∧ capabilities.attachmentMode ≠ "receiver-accept") ∨
    Protocol.maxRelayAttachmentBytes < capabilities.maxRelayAttachmentBytes ∨
    Protocol.maxDirectAttachmentBytes < capabilities.maxDirectAttachmentBytes)
    invalidApplicationCapabilities

end Validators

def stringArrayValue (values : List String) : Cbor := .array (values.map .text)

def applicationCapabilitiesMap (capabilities : ApplicationCapabilities) : CborMap :=
  [("application_versions", stringArrayValue capabilities.applicationVersions),
    ("kinds", stringArrayValue capabilities.kinds),
    ("max_inline_bytes", .uint capabilities.maxInlineBytes),
    ("attachment_mode", .text capabilities.attachmentMode),
    ("max_relay_attachment_bytes", .uint capabilities.maxRelayAttachmentBytes),
    ("max_direct_attachment_bytes", .uint capabilities.maxDirectAttachmentBytes)]

def encodeApplicationCapabilities (capabilities : ApplicationCapabilities) :
    Except String (List UInt8) := do
  capabilities.validate
  let encoded ← (encodeCbor (.map (applicationCapabilitiesMap capabilities))).mapError
    fun err => applicationCapabilitiesError err.message
  throwIf (maxApplicationCapabilitiesBytes < encoded.length) invalidApplicationCapabilities
  return encoded

section Decoder

def applicationCapabilityText : Cbor → Except String String
  | .text identifier => .ok identifier
  | _ => .error invalidApplicationCapabilities

def applicationCapabilityIdentifiers (m : CborMap) (key : String) :
    Except String (List String) := do
  let value ← (cborRequired m key).mapError applicationCapabilitiesError
  match value with
  | .array values =>
    throwIf (maxApplicationCapabilityIdentifiers < values.length) invalidApplicationCapabilities
    let identifiers ← values.mapM applicationCapabilityText
    validateApplicationCapabilityIdentifiers identifiers
    return identifiers
  | _ => throw invalidApplicationCapabilities

def applicationCapabilityKeys : List String :=
  ["application_versions", "kinds", "max_inline_bytes", "attachment_mode",
    "max_relay_attachment_bytes", "max_direct_attachment_bytes"]

def decodeApplicationCapabilities (data : List UInt8) :
    Except String ApplicationCapabilities := do
  throwIf (data.length = 0 ∨ maxApplicationCapabilitiesBytes < data.length)
    invalidApplicationCapabilities
  let value ← (decodeDeterministicCBOR data).mapError fun err =>
    applicationCapabilitiesError err.message
  let m ← (cborMap value "application_capabilities").mapError applicationCapabilitiesError
  (cborRejectUnknown m applicationCapabilityKeys).mapError applicationCapabilitiesError
  let applicationVersions ← applicationCapabilityIdentifiers m "application_versions"
  let kinds ← applicationCapabilityIdentifiers m "kinds"
  let maxInlineBytes ← (cborUint m "max_inline_bytes").mapError applicationCapabilitiesError
  let attachmentMode ← (cborText m "attachment_mode").mapError applicationCapabilitiesError
  let maxRelayAttachmentBytes ←
    (cborUint m "max_relay_attachment_bytes").mapError applicationCapabilitiesError
  let maxDirectAttachmentBytes ←
    (cborUint m "max_direct_attachment_bytes").mapError applicationCapabilitiesError
  let capabilities : ApplicationCapabilities :=
    { applicationVersions, kinds, maxInlineBytes, attachmentMode, maxRelayAttachmentBytes
      maxDirectAttachmentBytes }
  capabilities.validate
  return capabilities

end Decoder

section Valid

/-- Identifiers in the order of their bytes, each of them once. -/
structure Identifiers (values : List String) : Prop where
  count : values.length ≤ maxApplicationCapabilityIdentifiers
  identifier : ∀ value ∈ values, applicationCapabilityIdentifier value = true
  increasing : values.Pairwise fun a b => Utf8.bytes a < Utf8.bytes b

structure ApplicationCapabilities.Valid (capabilities : ApplicationCapabilities) : Prop where
  applicationVersions : Identifiers capabilities.applicationVersions
  kinds : Identifiers capabilities.kinds
  maxInlineBytes : capabilities.maxInlineBytes ≤ maxInlineBinaryBytes
  attachmentMode : capabilities.attachmentMode = "none" ∨
    capabilities.attachmentMode = "receiver-accept"
  maxRelayAttachmentBytes : capabilities.maxRelayAttachmentBytes ≤ Protocol.maxRelayAttachmentBytes
  maxDirectAttachmentBytes :
    capabilities.maxDirectAttachmentBytes ≤ Protocol.maxDirectAttachmentBytes

theorem validateApplicationCapabilityIdentifiers_eq_ok_iff {values : List String} :
    validateApplicationCapabilityIdentifiers values = .ok () ↔ Identifiers values := by
  rw [validateApplicationCapabilityIdentifiers, throwIf_bind_eq_ok, Nat.not_lt,
    checkIncreasing_eq_ok_iff]
  constructor
  · rintro ⟨hcount, hidentifier, hincreasing⟩
    exact ⟨hcount, hidentifier, hincreasing⟩
  · rintro ⟨hcount, hidentifier, hincreasing⟩
    exact ⟨hcount, hidentifier, hincreasing⟩

variable {capabilities : ApplicationCapabilities}

theorem ApplicationCapabilities.validate_eq_ok_iff :
    capabilities.validate = .ok () ↔ capabilities.Valid := by
  simp only [ApplicationCapabilities.validate, bind_eq_ok, exists_unit,
    validateApplicationCapabilityIdentifiers_eq_ok_iff, throwIf_eq_ok]
  constructor
  · rintro ⟨hversions, hkinds, hrest⟩
    simp only [not_or, not_and_or, not_not, Nat.not_lt] at hrest
    obtain ⟨hinline, hmode, hrelay, hdirect⟩ := hrest
    exact ⟨hversions, hkinds, hinline, hmode, hrelay, hdirect⟩
  · rintro ⟨hversions, hkinds, hinline, hmode, hrelay, hdirect⟩
    refine ⟨hversions, hkinds, ?_⟩
    simp only [not_or, not_and_or, not_not, Nat.not_lt]
    exact ⟨hinline, hmode, hrelay, hdirect⟩

theorem applicationCapabilityIdentifier_iff {value : String} :
    applicationCapabilityIdentifier value = true ↔
      (value ≠ "" ∧ value.utf8ByteSize ≤ maxApplicationCapabilityIdentifierLen) ∧
        ∀ b ∈ Utf8.bytes value, 0x21 ≤ b ∧ b ≤ 0x7e := by
  have hempty : value.utf8ByteSize = 0 ↔ value = "" := String.utf8ByteSize_eq_zero_iff
  unfold applicationCapabilityIdentifier
  simp only [Utf8.length_bytes]
  split
  · rename_i hsize
    simp only [Bool.or_eq_true, decide_eq_true_eq, hempty] at hsize
    simp only [Bool.false_eq_true, false_iff]
    rintro ⟨⟨hne, hle⟩, _⟩
    exact hsize.elim hne (Nat.not_lt.mpr hle)
  · rename_i hsize
    simp only [Bool.or_eq_true, decide_eq_true_eq, hempty, not_or, Nat.not_lt] at hsize
    simp [hsize]

theorem isAscii_of_identifier {value : String} (h : applicationCapabilityIdentifier value = true) :
    IsAscii value := by
  intro b hb
  have hle := ((applicationCapabilityIdentifier_iff.mp h).2 b hb).2
  exact Nat.lt_of_le_of_lt (UInt8.le_iff_toNat_le.mp hle) (by decide)

end Valid

section Records

variable {r : Cbor.Rules} {capabilities : ApplicationCapabilities}

theorem Identifiers.fits {values : List String} (h : Identifiers values) (hr : Roomy r) :
    Cbor.Fits r (stringArrayValue values) := by
  have hcount := h.count
  have hentries := hr.entries
  have hmax : maxApplicationCapabilityIdentifiers = 16 := rfl
  have hmax' : maxDecodedCBOREntries = 64 := rfl
  refine .array (by rw [List.length_map]; omega) (List.forall_mem_map.mpr fun value hvalue => ?_)
  obtain ⟨⟨hne, hsize⟩, _⟩ := applicationCapabilityIdentifier_iff.mp (h.identifier value hvalue)
  exact .text (hr.texts value hne (hsize.trans (by decide)))

theorem ApplicationCapabilities.Valid.mode_ne (h : capabilities.Valid) :
    capabilities.attachmentMode ≠ "" ∧
      capabilities.attachmentMode.utf8ByteSize ≤ maxDraftStringBytes := by
  rcases h.attachmentMode with hmode | hmode
  · rw [hmode]
    decide
  · rw [hmode]
    decide

theorem keys_applicationCapabilitiesMap (capabilities : ApplicationCapabilities) :
    (applicationCapabilitiesMap capabilities).map Prod.fst = applicationCapabilityKeys := rfl

theorem ApplicationCapabilities.Valid.fits (h : capabilities.Valid) (hr : Roomy r) :
    Cbor.Fits r (.map (applicationCapabilitiesMap capabilities)) := by
  have hargument := hr.argument
  have hinline := h.maxInlineBytes
  have hrelay := h.maxRelayAttachmentBytes
  have hdirect := h.maxDirectAttachmentBytes
  have hmax : maxInlineBinaryBytes = 3000 := rfl
  have hmax' : Protocol.maxRelayAttachmentBytes = 4194304 := rfl
  have hmax'' : Protocol.maxDirectAttachmentBytes = 16777216 := rfl
  have hentries : 6 ≤ r.maxEntries := le_trans (by decide) hr.entries
  have hkeys : ∀ key ∈ applicationCapabilityKeys,
      key ≠ "" ∧ key.utf8ByteSize ≤ maxDraftStringBytes := by
    decide
  refine .map hentries ?_ (by rw [keys_applicationCapabilitiesMap]; decide) ?_
  · intro entry hentry
    obtain ⟨hne, hsize⟩ := hkeys entry.1
      (keys_applicationCapabilitiesMap capabilities ▸ List.mem_map_of_mem hentry)
    exact hr.texts _ hne hsize
  · simp only [applicationCapabilitiesMap, List.forall_mem_cons, forall_mem_nil, and_true]
    exact ⟨h.applicationVersions.fits hr, h.kinds.fits hr, .uint (by omega),
      .text (hr.texts _ h.mode_ne.1 h.mode_ne.2), .uint (by omega), .uint (by omega)⟩

theorem flat_applicationCapabilitiesMap (capabilities : ApplicationCapabilities) :
    ∀ entry ∈ applicationCapabilitiesMap capabilities, entry.2.sortKeys = entry.2 := by
  have htexts : ∀ values : List String, (stringArrayValue values).sortKeys =
      stringArrayValue values := by
    intro values
    rw [stringArrayValue, Cbor.sortKeys, Cbor.sortKeysItems_eq, List.map_map]
    rfl
  simp [applicationCapabilitiesMap, htexts, Cbor.sortKeys]

theorem depth_applicationCapabilitiesMap (capabilities : ApplicationCapabilities) :
    (Cbor.map (applicationCapabilitiesMap capabilities)).depth ≤
      maxDeterministicCBORNestingDepth := by
  have htexts : ∀ values : List String, (stringArrayValue values).depth ≤ 1 := by
    intro values
    have hitems : Cbor.depthItems (values.map .text) ≤ 0 :=
      Cbor.depthItems_le_iff.mpr (List.forall_mem_map.mpr fun _ _ => le_rfl)
    rw [stringArrayValue, Cbor.depth]
    omega
  have hentries : Cbor.depthEntries (applicationCapabilitiesMap capabilities) ≤ 1 := by
    rw [Cbor.depthEntries_le_iff]
    simp [applicationCapabilitiesMap, htexts, Cbor.depth]
  have hmax : maxDeterministicCBORNestingDepth = 8 := rfl
  rw [Cbor.depth]
  omega

end Records

section Exact

variable {m : CborMap} {data : List UInt8} {capabilities : ApplicationCapabilities}

theorem applicationCapabilityText_eq_ok_iff {value : Cbor} {identifier : String} :
    applicationCapabilityText value = .ok identifier ↔ value = .text identifier := by
  cases value <;> simp [applicationCapabilityText]

theorem mapM_applicationCapabilityText_eq_ok_iff {values : List Cbor}
    {identifiers : List String} :
    values.mapM applicationCapabilityText = .ok identifiers ↔ values = identifiers.map .text := by
  simp only [mapM_eq_ok_iff, applicationCapabilityText_eq_ok_iff]
  rw [← @List.forall₂_map_right_iff _ _ _ Eq, List.forall₂_eq_eq_eq]

theorem applicationCapabilityIdentifiers_eq_ok_iff {key : String} {identifiers : List String} :
    applicationCapabilityIdentifiers m key = .ok identifiers ↔
      m.lookup key = some (stringArrayValue identifiers) ∧ Identifiers identifiers := by
  simp only [applicationCapabilityIdentifiers, bind_eq_ok, mapError_eq_ok, cborRequired_eq_ok_iff]
  constructor
  · rintro ⟨value, hlookup, h⟩
    cases value with
    | array values =>
      obtain ⟨_, h⟩ := throwIf_bind_eq_ok.mp h
      obtain ⟨_, hitems, h⟩ := bind_eq_ok.mp h
      obtain ⟨_, hvalid, heq⟩ := bind_eq_ok.mp h
      obtain rfl := Except.ok.inj heq
      rw [mapM_applicationCapabilityText_eq_ok_iff.mp hitems] at hlookup
      exact ⟨hlookup, validateApplicationCapabilityIdentifiers_eq_ok_iff.mp hvalid⟩
    | _ => cases h
  · rintro ⟨hlookup, hvalid⟩
    refine ⟨_, hlookup, throwIf_bind_eq_ok.mpr ⟨?_, bind_eq_ok.mpr ⟨identifiers, ?_, ?_⟩⟩⟩
    · rw [List.length_map]
      exact Nat.not_lt.mpr hvalid.count
    · exact mapM_applicationCapabilityText_eq_ok_iff.mpr rfl
    · exact bind_eq_ok.mpr
        ⟨(), validateApplicationCapabilityIdentifiers_eq_ok_iff.mpr hvalid, rfl⟩

theorem decodeApplicationCapabilities_reads_iff :
    decodeApplicationCapabilities data = .ok capabilities ↔
      data.length ≤ maxApplicationCapabilitiesBytes ∧ capabilities.Valid ∧
        ∃ m, decodeDeterministicCBOR data = .ok (.map m) ∧
          Cbor.Reads m (applicationCapabilitiesMap capabilities) := by
  simp only [decodeApplicationCapabilities, bind_eq_ok, mapError_eq_ok, exists_unit, throwIf_eq_ok,
    cborMap_eq_ok_iff, cborRejectUnknown_eq_ok_iff, applicationCapabilityIdentifiers_eq_ok_iff,
    cborUint_eq_ok_iff, cborText_eq_ok_iff, ApplicationCapabilities.validate_eq_ok_iff, pure_eq_ok]
  constructor
  · rintro ⟨hsize, _, hdecode, m, rfl, hknown, versions, ⟨hversions, _⟩, kinds, ⟨hkinds, _⟩,
      inline, ⟨hinline, _⟩, mode, ⟨hmode, _⟩, relay, ⟨hrelay, _⟩, direct, ⟨hdirect, _⟩, hvalid,
      rfl⟩
    refine ⟨by omega, hvalid, m, hdecode, hknown, ?_⟩
    simp only [applicationCapabilitiesMap, List.forall_mem_cons, forall_mem_nil, and_true]
    exact ⟨hversions, hkinds, hinline, hmode, hrelay, hdirect⟩
  · rintro ⟨hsize, hvalid, m, hdecode, hknown, hlookup⟩
    simp only [applicationCapabilitiesMap, List.forall_mem_cons, forall_mem_nil,
      and_true] at hlookup
    obtain ⟨hversions, hkinds, hinline, hmode, hrelay, hdirect⟩ := hlookup
    have hne := ((decodeDeterministicCBORWithTextLimit_eq_ok_iff (by decide)
      maxDraftStringBytes_le_decoded).mp hdecode).1.1
    have hbound : ∀ n limit : Nat, n ≤ limit → limit ≤ 2 ^ 53 - 1 → (n : Int) ≤ maxDraftTimestamp :=
      fun n limit hn hlimit => le_maxDraftTimestamp_iff.mpr (hn.trans hlimit)
    exact ⟨by omega, _, hdecode, m, rfl, hknown, _, ⟨hversions, hvalid.applicationVersions⟩,
      _, ⟨hkinds, hvalid.kinds⟩, _, ⟨hinline, hbound _ _ hvalid.maxInlineBytes (by decide)⟩,
      _, ⟨hmode, hvalid.mode_ne⟩, _, ⟨hrelay, hbound _ _ hvalid.maxRelayAttachmentBytes (by decide)⟩,
      _, ⟨hdirect, hbound _ _ hvalid.maxDirectAttachmentBytes (by decide)⟩, hvalid, rfl⟩

def capabilitiesBody (capabilities : ApplicationCapabilities) : List UInt8 :=
  Cbor.encode (.map (Cbor.inKeyOrder (applicationCapabilitiesMap capabilities)))

theorem encodeApplicationCapabilities_eq_ok_iff :
    encodeApplicationCapabilities capabilities = .ok data ↔
      data.length ≤ maxApplicationCapabilitiesBytes ∧ capabilities.Valid ∧
        data = capabilitiesBody capabilities := by
  have hencode : capabilities.Valid →
      encodeCbor (.map (applicationCapabilitiesMap capabilities)) =
        .ok (capabilitiesBody capabilities) := by
    intro hvalid
    rw [capabilitiesBody, ← Cbor.sortKeys_record (flat_applicationCapabilitiesMap capabilities)]
    exact encodeCbor_of_fits (hvalid.fits roomy_goRules)
  simp only [encodeApplicationCapabilities, bind_eq_ok, mapError_eq_ok, exists_unit, throwIf_eq_ok,
    ApplicationCapabilities.validate_eq_ok_iff, pure_eq_ok, Nat.not_lt]
  constructor
  · rintro ⟨hvalid, _, hencoded, hsize, rfl⟩
    exact ⟨hsize, hvalid, Except.ok.inj (hencoded.symm.trans (hencode hvalid))⟩
  · rintro ⟨hsize, hvalid, rfl⟩
    exact ⟨hvalid, _, hencode hvalid, hsize, rfl⟩

theorem decodeApplicationCapabilities_eq_ok_iff :
    decodeApplicationCapabilities data = .ok capabilities ↔
      encodeApplicationCapabilities capabilities = .ok data := by
  rw [decodeApplicationCapabilities_reads_iff, encodeApplicationCapabilities_eq_ok_iff]
  refine and_congr_right fun hsize => and_congr_right fun hvalid => ?_
  rw [decode_reads_iff (hvalid.fits roomy_goRules) (depth_applicationCapabilitiesMap capabilities)
    (flat_applicationCapabilitiesMap capabilities)]
  exact and_iff_right (hsize.trans (by decide))

end Exact

end Branch.Protocol
