import Branch.Core.ImageWire

/-!
The records of attachments and of images together: which of them come back from their
decoders as they were.
-/

namespace Branch.Core.ImageWire

open Branch.Lib FlatRecords AttachmentWire

inductive MediaRecord where
  | attachmentManifest (value : AttachmentManifest)
  | attachmentDecision (value : AttachmentDecision)
  | attachmentChunk (value : AttachmentChunk)
  | inlineImage (value : InlineImage)
  | imageTransferManifest (value : ImageTransferManifest)
  | imageTransferChunk (value : ImageTransferChunk)
  | imageCapabilities (value : ImageCapabilities)
  deriving DecidableEq

namespace MediaRecord

def encode : MediaRecord → Except String (List UInt8)
  | attachmentManifest value => encodeAttachmentManifest value
  | attachmentDecision value => encodeAttachmentDecision value
  | attachmentChunk value => encodeAttachmentChunk value
  | inlineImage value => encodeInlineImage value
  | imageTransferManifest value => encodeImageTransferManifest value
  | imageTransferChunk value => encodeImageTransferChunk value
  | imageCapabilities value => encodeImageCapabilities value

def decodeLike (bytes : List UInt8) : MediaRecord → Except String MediaRecord
  | attachmentManifest _ => (decodeAttachmentManifest bytes).map attachmentManifest
  | attachmentDecision _ => (decodeAttachmentDecision bytes).map attachmentDecision
  | attachmentChunk _ => (decodeAttachmentChunk bytes).map attachmentChunk
  | inlineImage _ => (decodeInlineImage bytes).map inlineImage
  | imageTransferManifest _ => (decodeImageTransferManifest bytes).map imageTransferManifest
  | imageTransferChunk _ => (decodeImageTransferChunk bytes).map imageTransferChunk
  | imageCapabilities _ => (decodeImageCapabilities bytes).map imageCapabilities

/-- What is signed of a record; chunks, images in a message and capabilities are not. -/
def signingBytes : MediaRecord → Option (Except String (List UInt8))
  | attachmentManifest value => some (attachmentManifestSigningBytes value)
  | attachmentDecision value => some (attachmentDecisionSigningBytes value)
  | imageTransferManifest value => some (imageTransferManifestSigningBytes value)
  | _ => none

/-- The decoder returns the record that was encoded, with the same bytes to sign. -/
def RoundTrips (record : MediaRecord) (encoded : List UInt8) : Prop :=
  ∃ decoded, record.decodeLike encoded = .ok decoded ∧ decoded = record ∧
    decoded.signingBytes = record.signingBytes

/-- Tokens are spelled as the encoder of tokens spells them, every half of a pair in a text has
its other half and no text begins with U+FEFF. -/
def Returns : MediaRecord → Prop
  | attachmentManifest value =>
    (CanonicalToken value.transferId ∧ CanonicalToken value.manifestId ∧
      CanonicalToken value.sha256) ∧ TextReturns value.fileName ∧ TextReturns value.mediaType
  | attachmentDecision value =>
    CanonicalToken value.transferId ∧ CanonicalToken value.manifestId
  | attachmentChunk value => CanonicalToken value.transferId ∧ CanonicalToken value.manifestId
  | inlineImage value =>
    (∀ caption ∈ value.caption, TextReturns caption) ∧
      ∀ token ∈ value.replyToMessageId, CanonicalToken token
  | imageTransferManifest value =>
    (CanonicalToken value.transferId ∧ CanonicalToken value.manifestId ∧
      CanonicalToken value.messageId ∧ CanonicalToken value.sha256) ∧
    (∀ caption ∈ value.caption, TextReturns caption) ∧
      ∀ token ∈ value.replyToMessageId, CanonicalToken token
  | imageTransferChunk value =>
    CanonicalToken value.transferId ∧ CanonicalToken value.manifestId
  | imageCapabilities _ => True

theorem roundTrips_iff_decodeLike {record : MediaRecord} {encoded : List UInt8} :
    record.RoundTrips encoded ↔ record.decodeLike encoded = .ok record := by
  constructor
  · rintro ⟨decoded, hdecode, rfl, -⟩
    exact hdecode
  · exact fun hdecode => ⟨record, hdecode, rfl, rfl⟩

section RoundTrip

variable {α : Type} {x : Except String α} {make : α → MediaRecord} {value respelled : α}
  {unmarked spelled returns : Prop}

theorem decodeLike_iff (hmake : Function.Injective make)
    (hdecode : ∀ result, x = .ok result ↔ unmarked ∧ result = respelled)
    (hspelled : respelled = value ↔ spelled) (hreturns : unmarked ∧ spelled ↔ returns)
    (hsigning : (make respelled).signingBytes = (make value).signingBytes) :
    (x.map make = .ok (make value) ↔ returns) ∧
      ∀ decoded, x.map make = .ok decoded →
        decoded.signingBytes = (make value).signingBytes := by
  constructor
  · rw [map_eq_ok, ← hreturns, ← hspelled]
    constructor
    · rintro ⟨result, hx, heq⟩
      obtain rfl := hmake heq
      obtain ⟨hunmarked, heq⟩ := (hdecode _).mp hx
      exact ⟨hunmarked, heq.symm⟩
    · rintro ⟨hunmarked, rfl⟩
      exact ⟨_, (hdecode _).mpr ⟨hunmarked, rfl⟩, rfl⟩
  · intro decoded hdecoded
    obtain ⟨result, hx, rfl⟩ := map_eq_ok.mp hdecoded
    obtain ⟨-, rfl⟩ := (hdecode _).mp hx
    exact hsigning

end RoundTrip

/-- A record that is encoded comes back as it was exactly when its tokens are spelled
canonically and its texts are texts that return, and whatever comes back has the same bytes to
sign. -/
theorem roundTrips_iff_returns (record : MediaRecord) (encoded : List UInt8)
    (h : record.encode = .ok encoded) :
    (record.RoundTrips encoded ↔ record.Returns) ∧
      ∀ decoded, record.decodeLike encoded = .ok decoded →
        decoded.signingBytes = record.signingBytes := by
  rw [roundTrips_iff_decodeLike]
  cases record with
  | attachmentManifest value =>
    obtain ⟨_, hcheck, -⟩ := bind_eq_ok.mp h
    have hvalid : validateManifest value = true := not_not.mp (throwIf_eq_ok.mp hcheck)
    refine decodeLike_iff (fun _ _ heq => attachmentManifest.inj heq)
      (fun result => decodeAttachmentManifest_eq_ok_iff h) (respellManifest_eq_iff hvalid) ?_
      (congrArg some (attachmentManifestSigningBytes_respell hvalid))
    simp only [Returns, TextReturns]
    tauto
  | attachmentDecision value =>
    obtain ⟨_, hcheck, -⟩ := bind_eq_ok.mp h
    have hvalid : validateDecision value = true := not_not.mp (throwIf_eq_ok.mp hcheck)
    exact decodeLike_iff (fun _ _ heq => attachmentDecision.inj heq)
      (fun result => (decodeAttachmentDecision_eq_ok_iff h).trans (true_and _).symm.to_iff)
      (respellDecision_eq_iff hvalid) (true_and _).to_iff
      (congrArg some (attachmentDecisionSigningBytes_respell hvalid))
  | attachmentChunk value =>
    obtain ⟨_, hcheck, -⟩ := bind_eq_ok.mp h
    have hvalid : validateChunk value = true := not_not.mp (throwIf_eq_ok.mp hcheck)
    exact decodeLike_iff (fun _ _ heq => attachmentChunk.inj heq)
      (fun result => (decodeAttachmentChunk_eq_ok_iff h).trans (true_and _).symm.to_iff)
      (respellChunk_eq_iff hvalid) (true_and _).to_iff rfl
  | inlineImage value =>
    obtain ⟨_, hcheck, -⟩ := bind_eq_ok.mp h
    refine decodeLike_iff (fun _ _ heq => inlineImage.inj heq)
      (fun result => decodeInlineImage_eq_ok_iff h) (respellInlineImage_eq_iff hcheck) ?_ rfl
    simp only [Returns, TextReturns, forall₂_and]
    tauto
  | imageTransferManifest value =>
    obtain ⟨_, hcheck, -⟩ := bind_eq_ok.mp h
    have hvalid := checkImageTransferManifest_eq_ok_iff.mp hcheck
    refine decodeLike_iff (fun _ _ heq => imageTransferManifest.inj heq)
      (fun result => decodeImageTransferManifest_eq_ok_iff h)
      (respellImageManifest_eq_iff hvalid) ?_
      (congrArg some (imageTransferManifestSigningBytes_respell hvalid))
    simp only [Returns, TextReturns, forall₂_and]
    tauto
  | imageTransferChunk value =>
    obtain ⟨_, hcheck, -⟩ := bind_eq_ok.mp h
    have hvalid : validateImageTransferChunk value = true :=
      not_not.mp (throwIf_eq_ok.mp hcheck)
    exact decodeLike_iff (fun _ _ heq => imageTransferChunk.inj heq)
      (fun result => (decodeImageTransferChunk_eq_ok_iff h).trans (true_and _).symm.to_iff)
      (respellImageChunk_eq_iff hvalid) (true_and _).to_iff rfl
  | imageCapabilities value =>
    exact decodeLike_iff (fun _ _ heq => imageCapabilities.inj heq)
      (fun result => (decodeImageCapabilities_eq_ok_iff h).trans (true_and _).symm.to_iff)
      (iff_of_true rfl trivial) (true_and _).to_iff rfl

/-- Room for images in a message of a hundred bytes, and for no transfers. -/
def smallCapabilities : ImageCapabilities where
  version := imageMessageVersion
  maxInlineBytes := 100
  maxRelayBytes := 0
  maxDirectBytes := 0
  maxWidth := 10
  maxHeight := 10
  maxPixels := 100

theorem roundTrips_smallCapabilities :
    ∃ encoded, (imageCapabilities smallCapabilities).encode = .ok encoded ∧
      (imageCapabilities smallCapabilities).RoundTrips encoded := by
  have hok : (imageCapabilities smallCapabilities).encode.isOk = true := by decide +kernel
  obtain ⟨encoded, h⟩ := exists_of_isOk hok
  exact ⟨encoded, h, (roundTrips_iff_returns _ _ h).1.mpr trivial⟩

def markedManifest : AttachmentManifest where
  version := attachmentVersion
  transferId := "AAAAAAAAAAAAAAAAAAAAAA"
  manifestId := "AAAAAAAAAAAAAAAAAAAAAAAAAAAAAAAAAAAAAAAAAAA"
  issuedAt := 0
  expiresAt := 100
  fileName := [0xFEFF, 0x61]
  mediaType := Utf16.units "text/plain"
  byteCount := 1
  chunkBytes := 256
  chunkCount := 1
  sha256 := "AAAAAAAAAAAAAAAAAAAAAAAAAAAAAAAAAAAAAAAAAAA"
  signature := .replicate 64 0

/-- Its encoding is not accepted. -/
theorem not_roundTrips_markedManifest :
    ¬ ∀ (record : MediaRecord) (encoded : List UInt8), record.encode = .ok encoded →
      record.RoundTrips encoded := by
  intro hall
  have hok : (attachmentManifest markedManifest).encode.isOk = true := by decide +kernel
  obtain ⟨encoded, h⟩ := exists_of_isOk hok
  have hreturned := roundTrips_iff_decodeLike.mp (hall _ encoded h)
  obtain ⟨result, hresult, -⟩ := map_eq_ok.mp hreturned
  have hmarked : Utf8.Marked (Utf16.text markedManifest.fileName) := by decide
  exact ((decodeAttachmentManifest_eq_ok_iff h).mp hresult).1.1 hmarked

end MediaRecord

end Branch.Core.ImageWire
