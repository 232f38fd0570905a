import Branch.Core.RtcWire

/-!
The controls of a direct connection that carry no description: what a peer can take, a candidate,
and the end of a session.
-/

namespace Branch.Core.RtcWire

open Branch.Lib

structure Capabilities where
  version : String
  maxDescriptionBytes : Nat
  maxCandidateBytes : Nat
  maxCandidatesPerDirection : Nat
  deriving DecidableEq

structure Candidate where
  version : String
  rtcSessionId : String
  generation : Nat
  direction : RtcCandidateDirection
  descriptionSHA256 : String
  candidate : JsString
  deriving DecidableEq

structure Cancel where
  version : String
  rtcSessionId : String
  generation : Nat
  descriptionSHA256 : String
  reason : RtcCancelReason
  deriving DecidableEq

inductive SignalingBody where
  | capabilities (value : Capabilities)
  | offer (value : Offer)
  | answer (value : Answer)
  | candidate (value : Candidate)
  | restart (value : Restart)
  | cancel (value : Cancel)
  deriving DecidableEq

section Validators

def boundedInteger (value minimum maximum : Nat) : Bool :=
  value ≤ maxSafeInteger && minimum ≤ value && value ≤ maximum

def validateRtcCapabilities (value : Capabilities) : Except String Unit :=
  throwIf (value.version ≠ rtcSignalingVersion ∨
    ¬ boundedInteger value.maxDescriptionBytes 1 maxRtcDescriptionBytes ∨
    ¬ boundedInteger value.maxCandidateBytes 1 maxRtcCandidateBytes ∨
    ¬ boundedInteger value.maxCandidatesPerDirection 1 maxRtcCandidatesPerDirection)
    "invalid rtc capabilities"

def validateRtcCandidate (value : Candidate) : Except String Unit :=
  throwIf (value.version ≠ rtcSignalingVersion ∨ ¬ validToken value.rtcSessionId 16 ∨
    ¬ validGeneration value.generation ∨ ¬ validToken value.descriptionSHA256 32 ∨
    ¬ validBoundedUtf8 value.candidate maxRtcCandidateBytes) "invalid rtc candidate"

def validateRtcCancel (value : Cancel) : Except String Unit :=
  throwIf (value.version ≠ rtcSignalingVersion ∨ ¬ validToken value.rtcSessionId 16 ∨
    ¬ validGeneration value.generation ∨ ¬ validToken value.descriptionSHA256 32)
    "invalid rtc cancel"

end Validators

section Decoder

variable (map : CborMap)

def readDirection : Except String RtcCandidateDirection := do
  let value ← requiredText map "direction"
  if value = "offerer" then return .offerer
  else if value = "answerer" then return .answerer
  else throw "invalid rtc candidate direction"

def readCancelReason : Except String RtcCancelReason := do
  let value ← requiredText map "reason"
  if value = "cancelled" then return .cancelled
  else if value = "rejected" then return .rejected
  else if value = "glare" then return .glare
  else throw "invalid rtc cancel reason"

def decodeRtcCapabilities (bytes : List UInt8) : Except String Capabilities := do
  let map ← strictMap bytes "rtc capabilities"
    ["version", "max_description_bytes", "max_candidate_bytes", "max_candidates_per_direction"]
  let version ← readRtcSignalingVersion map
  let maxDescriptionBytes ← requiredUint map "max_description_bytes"
  let maxCandidateBytes ← requiredUint map "max_candidate_bytes"
  let maxCandidatesPerDirection ← requiredUint map "max_candidates_per_direction"
  let value : Capabilities :=
    { version, maxDescriptionBytes, maxCandidateBytes, maxCandidatesPerDirection }
  validateRtcCapabilities value
  return value

def decodeRtcCandidate (bytes : List UInt8) : Except String Candidate := do
  let map ← strictMap bytes "rtc candidate"
    ["version", "rtc_session_id", "generation", "direction", "description_sha256", "candidate"]
  let version ← readRtcSignalingVersion map
  let rtcSessionId ← tokenFromMap map "rtc_session_id" 16
  let generation ← readGeneration map
  let direction ← readDirection map
  let descriptionSHA256 ← digestFromMap map "description_sha256"
  let candidate ← readBoundedUtf8 map "candidate" maxRtcCandidateBytes
  let value : Candidate :=
    { version, rtcSessionId, generation, direction, descriptionSHA256, candidate }
  validateRtcCandidate value
  return value

def decodeRtcCancel (bytes : List UInt8) : Except String Cancel := do
  let map ← strictMap bytes "rtc cancel"
    ["version", "rtc_session_id", "generation", "description_sha256", "reason"]
  let version ← readRtcSignalingVersion map
  let rtcSessionId ← tokenFromMap map "rtc_session_id" 16
  let generation ← readGeneration map
  let descriptionSHA256 ← digestFromMap map "description_sha256"
  let reason ← readCancelReason map
  let value : Cancel := { version, rtcSessionId, generation, descriptionSHA256, reason }
  validateRtcCancel value
  return value

end Decoder

section Readers

variable {map : CborMap}

theorem hasUnpairedSurrogate_of_paired {value : JsString} (h : Utf16.paired value = true) :
    hasUnpairedSurrogate value = false := by
  induction value using hasUnpairedSurrogate.induct with
  | case1 => rfl
  | case2 code =>
    rw [hasUnpairedSurrogate]
    simp only [Utf16.paired, Bool.and_eq_true, Bool.not_eq_true'] at h
    exact h.2
  | case3 code next rest hhigh houtside =>
    rw [Utf16.paired, if_pos hhigh, Bool.and_eq_true] at h
    have hlow := h.1
    have hbottom : (0xDC00 : UInt16).toNat = 0xDC00 := rfl
    have htop : (0xDFFF : UInt16).toNat = 0xDFFF := rfl
    simp only [Utf16.isLow, Bool.and_eq_true, decide_eq_true_eq] at hlow
    simp only [Bool.or_eq_true, decide_eq_true_eq, UInt16.lt_iff_toNat_lt] at houtside
    omega
  | case4 code next rest hhigh houtside ih =>
    rw [Utf16.paired, if_pos hhigh, Bool.and_eq_true] at h
    rw [hasUnpairedSurrogate, if_pos hhigh, if_neg houtside]
    exact ih h.2
  | case5 code next rest hhigh hlow =>
    rw [Utf16.paired, if_neg hhigh, hlow] at h
    cases h
  | case6 code next rest hhigh hlow ih =>
    rw [Utf16.paired, if_neg hhigh, Bool.and_eq_true] at h
    rw [hasUnpairedSurrogate, if_neg hhigh, if_neg hlow]
    exact ih h.2

theorem validBoundedUtf8_units_iff {text : String} {maximumBytes : Nat} :
    validBoundedUtf8 (Utf16.units text) maximumBytes = true ↔
      text ≠ "" ∧ text.utf8ByteSize ≤ maximumBytes := by
  have hempty : (Utf16.units text).length = 0 ↔ text = "" := by
    rw [List.length_eq_zero_iff, ← show Utf16.units "" = [] from rfl,
      Utf16.units_injective.eq_iff]
  have htext : Utf16.text (Utf16.units text) = text :=
    Utf16.units_injective (Utf16.units_text_eq_iff.mpr (Utf16.paired_units text))
  rw [validBoundedUtf8, hasUnpairedSurrogate_of_paired (Utf16.paired_units text), textEncode,
    htext, Utf8.length_bytes, Bool.or_false]
  simp only [decide_eq_true_eq, hempty, Bool.if_false_left, Bool.and_eq_true, Bool.not_eq_true',
    decide_eq_false_iff_not, ne_eq]

theorem readRtcSignalingVersion_eq_ok_iff {version : String} :
    readRtcSignalingVersion map = .ok version ↔
      map.lookup "version" = some (.text version) ∧ version = rtcSignalingVersion := by
  simp only [readRtcSignalingVersion, bind_eq_ok, exists_unit, throwIf_eq_ok, not_not, pure_eq_ok,
    requiredText_eq_ok_iff]
  constructor
  · rintro ⟨_, ⟨hlookup, _⟩, rfl, rfl⟩
    exact ⟨hlookup, rfl⟩
  · rintro ⟨hlookup, rfl⟩
    exact ⟨_, ⟨hlookup, by decide⟩, rfl, rfl⟩

theorem readGeneration_eq_ok_iff {generation : Nat} :
    readGeneration map = .ok generation ↔
      map.lookup "generation" = some (.uint generation) ∧ generation ≤ 65535 := by
  have hmax : maxSafeInteger = 2 ^ 53 - 1 := rfl
  simp only [readGeneration, bind_eq_ok, exists_unit, throwIf_eq_ok, not_not, pure_eq_ok,
    requiredUint_eq_ok_iff, validGeneration, decide_eq_true_eq]
  constructor
  · rintro ⟨_, ⟨hlookup, _⟩, hle, rfl⟩
    exact ⟨hlookup, hle⟩
  · rintro ⟨hlookup, hle⟩
    exact ⟨_, ⟨hlookup, by omega⟩, hle, rfl⟩

theorem tokenFromMap_iff {key token : String} {size : Nat} (hpos : 0 < size)
    (hsize : size ≤ maxCborBytes) :
    tokenFromMap map key size = .ok token ↔ ∃ bytes : List UInt8,
      map.lookup key = some (.bytes bytes) ∧ bytes.length = size ∧ Base64.encode bytes = token := by
  simp only [tokenFromMap, bind_eq_ok, requiredBytes_eq_ok_iff, pure_eq_ok]
  constructor
  · rintro ⟨bytes, ⟨hlookup, _, hlength⟩, htoken⟩
    exact ⟨bytes, hlookup, hlength _ rfl, htoken⟩
  · rintro ⟨bytes, hlookup, hlength, htoken⟩
    refine ⟨bytes, ⟨hlookup, ⟨by omega, by omega⟩, fun n hn => ?_⟩, htoken⟩
    rw [← Option.some.inj hn]
    exact hlength

theorem readBoundedUtf8_iff {key : String} {maximumBytes : Nat} {value : JsString} :
    readBoundedUtf8 map key maximumBytes = .ok value ↔ ∃ text : String,
      map.lookup key = some (.text text) ∧ text ≠ "" ∧ text.utf8ByteSize ≤ maximumBytes ∧
        text.utf8ByteSize ≤ maxCborTextBytes ∧ Utf16.units text = value := by
  simp only [readBoundedUtf8, bind_eq_ok, exists_unit, throwIf_eq_ok, not_not, pure_eq_ok,
    requiredText_eq_ok_iff, validBoundedUtf8_units_iff]
  constructor
  · rintro ⟨text, ⟨hlookup, hne, hshort⟩, ⟨_, hle⟩, hvalue⟩
    exact ⟨text, hlookup, hne, hle, hshort, hvalue⟩
  · rintro ⟨text, hlookup, hne, hle, hshort, hvalue⟩
    exact ⟨text, ⟨hlookup, hne, hshort⟩, ⟨hne, hle⟩, hvalue⟩

def directionText : RtcCandidateDirection → String
  | .offerer => "offerer"
  | .answerer => "answerer"

def cancelReasonText : RtcCancelReason → String
  | .cancelled => "cancelled"
  | .rejected => "rejected"
  | .glare => "glare"

theorem readDirection_eq_ok_iff {direction : RtcCandidateDirection} :
    readDirection map = .ok direction ↔
      map.lookup "direction" = some (.text (directionText direction)) := by
  simp only [readDirection, bind_eq_ok, requiredText_eq_ok_iff, ite_eq_ok, pure_eq_ok,
    throw_eq_ok]
  constructor
  · rintro ⟨value, ⟨hlookup, _⟩, ⟨rfl, rfl⟩ | ⟨_, ⟨rfl, rfl⟩ | ⟨_, h⟩⟩⟩
    · exact hlookup
    · exact hlookup
    · exact h.elim
  · intro hlookup
    cases direction with
    | offerer => exact ⟨_, ⟨hlookup, by decide⟩, .inl ⟨rfl, rfl⟩⟩
    | answerer => exact ⟨_, ⟨hlookup, by decide⟩, .inr ⟨by decide, .inl ⟨rfl, rfl⟩⟩⟩

theorem readCancelReason_eq_ok_iff {reason : RtcCancelReason} :
    readCancelReason map = .ok reason ↔
      map.lookup "reason" = some (.text (cancelReasonText reason)) := by
  simp only [readCancelReason, bind_eq_ok, requiredText_eq_ok_iff, ite_eq_ok, pure_eq_ok,
    throw_eq_ok]
  constructor
  · rintro ⟨value, ⟨hlookup, _⟩, ⟨rfl, rfl⟩ | ⟨_, ⟨rfl, rfl⟩ | ⟨_, ⟨rfl, rfl⟩ | ⟨_, h⟩⟩⟩⟩
    · exact hlookup
    · exact hlookup
    · exact hlookup
    · exact h.elim
  · intro hlookup
    cases reason with
    | cancelled => exact ⟨_, ⟨hlookup, by decide⟩, .inl ⟨rfl, rfl⟩⟩
    | rejected => exact ⟨_, ⟨hlookup, by decide⟩, .inr ⟨by decide, .inl ⟨rfl, rfl⟩⟩⟩
    | glare =>
      exact ⟨_, ⟨hlookup, by decide⟩, .inr ⟨by decide, .inr ⟨by decide, .inl ⟨rfl, rfl⟩⟩⟩⟩

end Readers

end Branch.Core.RtcWire
