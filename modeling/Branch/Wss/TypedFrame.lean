import Branch.Protocol.RelayAttachment
import Branch.Relay.Config

/-!
The frames of an attachment as the handler reads them: as maps of loosely typed values,
behind the decoder that has accepted their texts.
-/

namespace Branch.Wss

open Branch.Lib
open Branch.Protocol (RawFrame RelayFrameType)

/-- A `map[string]any`. -/
abbrev TypedFrame := Fields Json

/-- The errors of the handler, of the frame decoder and of the hub. `io` is an error of the
connection or of the source of random bytes. -/
inductive HandlerErr
  | invalidFrame
  | authenticationFailed
  | frameReplayed
  | decode (err : Protocol.DecodeErr)
  | relay (err : Relay.Err)
  | io
  deriving DecidableEq, Repr

def decodeTypedFrame (raw : List UInt8) : Except HandlerErr TypedFrame := do
  let _ ← (Protocol.decodeDraftRelayAttachmentFrame raw).mapError .decode
  match Json.unmarshal raw with
  | none => throw .invalidFrame
  | some frame => return frame

/-- The greatest timestamp is a double, and so is every integer below it. -/
def numericField : Option Json → Option Nat
  | some (.number number) =>
    let (num, den) := number.quotient
    if num % den ≠ 0 ∨ (number.negative ∧ num ≠ 0) ∨
        Protocol.maxDraftTimestamp < (num / den : Nat) then none
    else some (num / den)
  | _ => none

/-- The loosely typed frame has the values of the frame that was validated. -/
def Reads (raw : RawFrame) (frame : TypedFrame) : Prop :=
  List.Forall₂ Json.ReadAs raw.entries frame.entries

section Reads

variable {raw : RawFrame} {frame : TypedFrame} {key : String}

theorem lookup_of_readAs {xs ys : List (String × Json)} (h : List.Forall₂ Json.ReadAs xs ys)
    (key : String) :
    (xs.lookup key = none ∧ ys.lookup key = none) ∨
      ∃ v w, xs.lookup key = some v ∧ ys.lookup key = some w ∧ Json.toAny v = some w := by
  induction h with
  | nil => exact .inl ⟨rfl, rfl⟩
  | @cons a b xs ys hentry _ ih =>
    obtain ⟨name, v⟩ := a
    obtain ⟨name', w⟩ := b
    obtain ⟨rfl, hvalue⟩ := hentry
    rw [List.lookup_cons, List.lookup_cons]
    cases hkey : key == name with
    | true => exact .inr ⟨v, w, rfl, rfl, hvalue⟩
    | false => exact ih

theorem Reads.get?_eq_none (h : Reads raw frame) (hnone : raw.get? key = none) :
    frame.get? key = none := by
  rcases lookup_of_readAs h key with ⟨_, hframe⟩ | ⟨v, _, hv, _⟩
  · exact hframe
  · rw [Fields.get?, hv] at hnone
    cases hnone

theorem Reads.get?_eq_some {v : Json} (h : Reads raw frame) (hsome : raw.get? key = some v) :
    ∃ w, frame.get? key = some w ∧ Json.toAny v = some w := by
  rcases lookup_of_readAs h key with ⟨hnone, _⟩ | ⟨v', w, hv, hw, hvalue⟩
  · rw [Fields.get?, hnone] at hsome
    cases hsome
  · obtain rfl : v' = v := Option.some.inj (hv.symm.trans hsome)
    exact ⟨w, hw, hvalue⟩

theorem Reads.string {s : String} (h : Reads raw frame)
    (hfield : Protocol.readStringField raw key = .ok s) : frame.get? key = some (.string s) := by
  obtain ⟨w, hw, hvalue⟩ := h.get?_eq_some (Protocol.get?_of_readStringField hfield)
  rw [hw]
  exact hvalue.symm

theorem Reads.base64 {size : Nat} {u : Unit} (h : Reads raw frame)
    (hfield : Protocol.readBase64Field raw key size = .ok u) :
    ∃ s, frame.get? key = some (.string s) ∧ Protocol.validBase64URLBytes s size = true := by
  obtain ⟨s, hs, hvalid⟩ := bind_eq_ok.mp hfield
  refine ⟨s, h.string hs, ?_⟩
  split at hvalid
  · assumption
  · cases hvalid

theorem Reads.branchID {u : Unit} (h : Reads raw frame)
    (hfield : Protocol.readBranchIDField raw = .ok u) :
    ∃ s, frame.get? "branch_id" = some (.string s) ∧ Protocol.parseBranchID s = true := by
  obtain ⟨s, hs, hvalid⟩ := bind_eq_ok.mp hfield
  refine ⟨s, h.string hs, ?_⟩
  split at hvalid
  · assumption
  · cases hvalid

end Reads

theorem decodeTypedFrame_eq_ok {text : List UInt8} {frame : TypedFrame}
    (h : decodeTypedFrame text = .ok frame) :
    ∃ raw frameType, Reads raw frame ∧ Protocol.readFrameType raw = .ok frameType ∧
      Protocol.validateRelayFrame raw frameType = .ok () := by
  obtain ⟨frameType, hdecode, hunmarshal⟩ := bind_eq_ok.mp h
  have hdecode := mapError_eq_ok.mp hdecode
  unfold Protocol.decodeDraftRelayAttachmentFrame at hdecode
  split at hdecode
  · cases hdecode
  · obtain ⟨raw, hraw, hdecode⟩ := bind_eq_ok.mp hdecode
    obtain ⟨frameType', htype, hdecode⟩ := bind_eq_ok.mp hdecode
    obtain ⟨_, hvalid, heq⟩ := bind_eq_ok.mp hdecode
    refine ⟨raw, frameType', ?_, htype, hvalid⟩
    unfold Protocol.decodeRawObject at hraw
    split at hraw
    · rename_i members hmembers
      obtain rfl := Except.ok.inj hraw
      split at hunmarshal
      · cases hunmarshal
      · rename_i frame' hframe
        obtain rfl := Except.ok.inj hunmarshal
        rw [Json.unmarshal, hmembers] at hframe
        exact Json.readAs_toAnyMembers (f := Fields.empty) .nil hframe
    · cases hraw
    · cases hraw

section Marshal

variable {frame : TypedFrame}

theorem decodeTypedFrame_marshal {frameType : RelayFrameType}
    (h : Json.Canonical Json.maxNestingDepth (.object frame.entries))
    (hdecode : Protocol.decodeDraftRelayAttachmentFrame (Json.marshal frame) = .ok frameType) :
    decodeTypedFrame (Json.marshal frame) = .ok frame := by
  rw [decodeTypedFrame, hdecode, Json.unmarshal_marshal h]
  rfl

end Marshal

section Flat

variable {frame frame' : TypedFrame}

def Flat (frame : TypedFrame) : Prop := ∀ entry ∈ frame.entries, Json.Canonical 0 entry.2

theorem canonical_of_flat {n : Nat} {v : Json} (h : Json.Canonical 0 v) : Json.Canonical n v := by
  cases h with
  | null => exact .null
  | bool b => exact .bool b
  | number hinteger hbound => exact .number hinteger hbound
  | string s => exact .string s

theorem Flat.canonical (h : Flat frame) :
    Json.Canonical Json.maxNestingDepth (.object frame.entries) :=
  .object frame.sorted fun entry hentry => canonical_of_flat (h entry hentry)

theorem Flat.insert {v : Json} (h : Flat frame) (name : String) (hv : Json.Canonical 0 v) :
    Flat (frame.insert name v) := by
  intro entry hentry
  rcases Fields.mem_insertEntry hentry with rfl | hentry
  · exact hv
  · exact h entry hentry

theorem flat_ofList {entries : List (String × Json)}
    (h : ∀ entry ∈ entries, Json.Canonical 0 entry.2) : Flat (Fields.ofList entries) :=
  fun entry hentry => h entry (Fields.mem_of_mem_ofList hentry)

theorem Flat.eq_of_decode (h : Flat frame)
    (hdecode : decodeTypedFrame (Json.marshal frame) = .ok frame') : frame' = frame := by
  obtain ⟨_, _, hread⟩ := bind_eq_ok.mp hdecode
  rw [Json.unmarshal_marshal h.canonical] at hread
  exact (Except.ok.inj hread).symm

end Flat

end Branch.Wss
