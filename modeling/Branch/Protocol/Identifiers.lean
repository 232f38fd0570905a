import Branch.Protocol.RelayAttachment

/-!
The identifiers in frames that the relay keeps and compares as texts.
-/

namespace Branch.Protocol

open Branch.Lib

inductive Identifier
  | branchID
  | deliveryID
  | routeID
  | challengeID
  | federationRequestID
  deriving DecidableEq, Repr

namespace Identifier

def key : Identifier → String
  | .branchID => "branch_id"
  | .deliveryID => "delivery_id"
  | .routeID => "route_id"
  | .challengeID => "request_id"
  | .federationRequestID => "request_id"

def read (id : Identifier) (frame : RawFrame) : Except DecodeErr Unit :=
  match id with
  | .branchID => readBranchIDField frame
  | _ => readBase64Field frame id.key 16

def lead : Identifier → List Char
  | .branchID => branchIDPrefix.toList
  | _ => []

def encoded (id : Identifier) (text : String) : List Char := text.toList.drop id.lead.length

/-- The field of the frame is accepted, and its text stands for these bytes. -/
structure Spells (id : Identifier) (frame : RawFrame) (text : String) (data : List UInt8) :
    Prop where
  field : frame.get? id.key = some (.string text)
  accepted : id.read frame = .ok ()
  bytes : Base64.decodeChars (id.encoded text) = some data

def UniqueSpelling (id : Identifier) (data : List UInt8) : Prop :=
  ∀ frame frame' text text', id.Spells frame text data → id.Spells frame' text' data →
    text = text'

variable {frame : RawFrame} {text : String}

theorem readStringField_eq_ok_iff {key : String} :
    readStringField frame key = .ok text ↔
      frame.get? key = some (.string text) ∧ text ≠ "" ∧
        text.utf8ByteSize ≤ maxDraftStringBytes := by
  unfold readStringField
  split
  · rename_i hget
    simp [hget]
  · rename_i s hget
    rw [ite_error_eq_ok, not_or, Nat.not_lt, Except.ok.injEq, hget, Option.some.injEq,
      Json.string.injEq]
    constructor
    · rintro ⟨hbound, rfl⟩
      exact ⟨rfl, hbound⟩
    · rintro ⟨rfl, hbound⟩
      exact ⟨hbound, rfl⟩
  · rename_i v hstring hget
    rw [hget]
    simp only [reduceCtorEq, Option.some.injEq, false_iff, not_and]
    rintro rfl
    exact absurd rfl (hstring text)

theorem readBase64Field_eq_ok_iff {key : String} {size : Nat}
    (hget : frame.get? key = some (.string text)) :
    readBase64Field frame key size = .ok () ↔
      (text ≠ "" ∧ text.utf8ByteSize ≤ maxDraftStringBytes) ∧
        ∃ data, Base64.decodeChars text.toList = some data ∧ data.length = size := by
  have hvalid : validBase64URLBytes text size = true ↔
      (text ≠ "" ∧ text.utf8ByteSize ≤ maxDraftStringBytes) ∧
        ∃ data, Base64.decodeChars text.toList = some data ∧ data.length = size := by
    simp only [validBase64URLBytes, Base64.decode, Bool.and_eq_true, decide_eq_true_eq]
    cases Base64.decodeChars text.toList <;> simp
  rw [← hvalid, readBase64Field, bind_eq_ok]
  constructor
  · rintro ⟨value, hvalue, h⟩
    obtain ⟨hfield, _⟩ := readStringField_eq_ok_iff.mp hvalue
    obtain rfl := Json.string.inj (Option.some.inj (hget.symm.trans hfield))
    by_contra hnot
    rw [if_neg hnot] at h
    cases h
  · intro h
    exact ⟨text, readStringField_eq_ok_iff.mpr ⟨hget, (hvalid.mp h).1⟩, if_pos h⟩

theorem readBranchIDField_eq_ok_iff (hget : frame.get? "branch_id" = some (.string text)) :
    readBranchIDField frame = .ok () ↔
      (text ≠ "" ∧ text.utf8ByteSize ≤ maxDraftStringBytes) ∧ parseBranchID text = true := by
  rw [readBranchIDField, bind_eq_ok]
  constructor
  · rintro ⟨value, hvalue, h⟩
    obtain ⟨hfield, hbound⟩ := readStringField_eq_ok_iff.mp hvalue
    obtain rfl := Json.string.inj (Option.some.inj (hget.symm.trans hfield))
    refine ⟨hbound, ?_⟩
    by_contra hnot
    rw [if_neg hnot] at h
    cases h
  · rintro ⟨hbound, h⟩
    exact ⟨text, readStringField_eq_ok_iff.mpr ⟨hget, hbound⟩, if_pos h⟩

def Sized (id : Identifier) (data : List UInt8) : Prop :=
  match id with
  | .branchID => ∃ digest, data = 0x12 :: 0x20 :: digest ∧ digest.length = 32
  | _ => data.length = 16

theorem parseBranchID_iff :
    parseBranchID text = true ↔ branchIDPrefix.toList <+: text.toList ∧ ∃ data,
      Base64.decodeChars (text.toList.drop branchIDPrefix.toList.length) = some data ∧
        Sized .branchID data := by
  rw [parseBranchID, Bool.and_eq_true, decide_eq_true_eq]
  constructor
  · rintro ⟨hstart, h⟩
    refine ⟨hstart, ?_⟩
    split at h
    · rename_i a b digest hdecode
      simp only [Bool.and_eq_true, decide_eq_true_eq] at h
      obtain ⟨⟨rfl, rfl⟩, hlength⟩ := h
      exact ⟨_, hdecode, digest, rfl, hlength⟩
    · cases h
  · rintro ⟨hstart, data, hdecode, digest, rfl, hlength⟩
    refine ⟨hstart, ?_⟩
    rw [hdecode]
    simpa using hlength

theorem spells_iff {id : Identifier} {data : List UInt8} :
    id.Spells frame text data ↔ frame.get? id.key = some (.string text) ∧
      (text ≠ "" ∧ text.utf8ByteSize ≤ maxDraftStringBytes) ∧
        id.lead <+: text.toList ∧ Base64.decodeChars (id.encoded text) = some data ∧
          id.Sized data := by
  have hbytes : ∀ {key : String}, frame.get? key = some (.string text) →
      (readBase64Field frame key 16 = .ok () ∧ Base64.decodeChars text.toList = some data ↔
        (text ≠ "" ∧ text.utf8ByteSize ≤ maxDraftStringBytes) ∧ [] <+: text.toList ∧
          Base64.decodeChars text.toList = some data ∧ data.length = 16) := by
    intro key hget
    rw [readBase64Field_eq_ok_iff hget]
    constructor
    · rintro ⟨⟨hbound, data', hdecode', hlength⟩, hdecode⟩
      obtain rfl := Option.some.inj (hdecode.symm.trans hdecode')
      exact ⟨hbound, List.nil_prefix, hdecode, hlength⟩
    · rintro ⟨hbound, _, hdecode, hlength⟩
      exact ⟨⟨hbound, data, hdecode, hlength⟩, hdecode⟩
  constructor
  · rintro ⟨hget, hread, hdecode⟩
    refine ⟨hget, ?_⟩
    cases id with
    | branchID =>
      obtain ⟨hbound, hparse⟩ := (readBranchIDField_eq_ok_iff hget).mp hread
      obtain ⟨hstart, data', hdecode', hsized⟩ := parseBranchID_iff.mp hparse
      obtain rfl := Option.some.inj (hdecode.symm.trans hdecode')
      exact ⟨hbound, hstart, hdecode, hsized⟩
    | _ => exact (hbytes hget).mp ⟨hread, hdecode⟩
  · rintro ⟨hget, hbound, hstart, hdecode, hsized⟩
    refine ⟨hget, ?_, hdecode⟩
    cases id with
    | branchID =>
      exact (readBranchIDField_eq_ok_iff hget).mpr
        ⟨hbound, parseBranchID_iff.mpr ⟨hstart, data, hdecode, hsized⟩⟩
    | _ => exact ((hbytes hget).mpr ⟨hbound, hstart, hdecode, hsized⟩).1

theorem length_of_sized {id : Identifier} {data : List UInt8} (h : id.Sized data) :
    data.length % 3 = 1 := by
  cases id with
  | branchID =>
    obtain ⟨digest, rfl, hlength⟩ := h
    simp [hlength]
  | _ =>
    have hlength : data.length = 16 := h
    rw [hlength]

/-- The unused bits of the last character, and line breaks, give every accepted text another
one, with which the frame is accepted as well. -/
theorem exists_other_text {id : Identifier} {data : List UInt8}
    (h : id.Spells frame text data) :
    ∃ other, other ≠ text ∧ id.Spells (frame.insert id.key (.string other)) other data := by
  obtain ⟨_, ⟨_, hbound⟩, hlead, hdecode, hsized⟩ := spells_iff.mp h
  have hlength := length_of_sized hsized
  obtain ⟨cs, hne, hsize, hstrict⟩ := Base64.exists_other_decodeChars hdecode (by omega)
  have htext : text.toList = id.lead ++ id.encoded text :=
    (List.prefix_iff_eq_append.mp hlead).symm
  have hother : id.encoded (String.ofList (id.lead ++ cs)) = cs := by
    rw [encoded, String.toList_ofList, List.drop_left]
  refine ⟨String.ofList (id.lead ++ cs), ?_, spells_iff.mpr ⟨?_, ⟨?_, ?_⟩, ?_, ?_, hsized⟩⟩
  · intro heq
    rw [heq] at hother
    exact hne hother.symm
  · exact Fields.get?_insert_self _ _ _
  · intro hempty
    have hnil : id.lead ++ cs = [] := by simpa using congrArg String.toList hempty
    obtain rfl := (List.append_eq_nil_iff.mp hnil).2
    obtain rfl := Option.some.inj hstrict
    simp at hlength
  · have hencoded := Utf8.length_le_length_encode (id.encoded text)
    have hcs := Base64.length_encode_of_decodeStrict hstrict
    rw [← Utf8.length_bytes, Utf8.bytes, htext] at hbound
    rw [← Utf8.length_bytes, Utf8.bytes, String.toList_ofList]
    simp only [Utf8.encode, List.flatMap_append, List.length_append] at hbound hencoded hcs ⊢
    omega
  · rw [String.toList_ofList]
    exact List.prefix_append _ _
  · rw [hother]
    exact (Base64.decodeStrict_eq_some_iff_decodeChars.mp hstrict).1

/-- Whatever bytes an accepted field stands for, they have several accepted texts. -/
theorem not_uniqueSpelling {id : Identifier} {data : List UInt8}
    (h : id.Spells frame text data) : ¬ id.UniqueSpelling data := by
  intro hunique
  obtain ⟨other, hne, hother⟩ := exists_other_text h
  exact hne (hunique _ _ _ _ hother h)

def deliveryFrame (text : String) : RawFrame := Fields.ofList [("delivery_id", .string text)]

theorem spells_deliveryFrame :
    deliveryID.Spells (deliveryFrame "AAAAAAAAAAAAAAAAAAAAAA") "AAAAAAAAAAAAAAAAAAAAAA"
      (List.replicate 16 0) :=
  spells_iff.mpr ⟨by rfl, ⟨by decide, by decide⟩, List.nil_prefix, by decide +kernel, rfl⟩

theorem not_uniqueSpelling_delivery : ¬ deliveryID.UniqueSpelling (List.replicate 16 0) :=
  not_uniqueSpelling spells_deliveryFrame

/-- Two texts for one delivery, both accepted. -/
theorem two_texts_of_delivery :
    ¬ ∀ (id : Identifier) (data : List UInt8), id.UniqueSpelling data := by
  intro hall
  have hother : deliveryID.Spells (deliveryFrame "AAAAAAAAAAAAAAAAAAAAAB")
      "AAAAAAAAAAAAAAAAAAAAAB" (List.replicate 16 0) :=
    spells_iff.mpr ⟨by rfl, ⟨by decide, by decide⟩, List.nil_prefix, by decide +kernel, rfl⟩
  have heq := hall _ _ _ _ _ _ spells_deliveryFrame hother
  exact absurd heq (by decide)

end Identifier

end Branch.Protocol
