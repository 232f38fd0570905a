import Branch.Lib.Sha256
import Branch.Protocol.ApplicationControl

/-!
The controls by which two peers set up a direct connection, as Go writes and reads them. A string
that is no text is not valid, so the strings are texts here.
-/

namespace Branch.Protocol

open Branch.Lib

def rtcSignalingVersion : String := "branch.rtc.signaling/0.draft"
def maxRTCDescriptionBytes : Nat := 1536
def maxRTCCandidateBytes : Nat := 1024
def maxRTCCandidatesPerDirection : Nat := 32
def maxRTCGeneration : Nat := 65535

structure RTCCapabilities where
  version : String
  maxDescriptionBytes : Nat
  maxCandidateBytes : Nat
  maxCandidatesPerDirection : Nat
  deriving DecidableEq

structure RTCOffer where
  version : String
  rtcSessionID : List UInt8
  generation : Nat
  description : String
  descriptionSHA256 : List UInt8
  dtlsFingerprintSHA256 : List UInt8
  deriving DecidableEq

structure RTCAnswer extends RTCOffer where
  offerDescriptionSHA256 : List UInt8
  deriving DecidableEq

/-- The direction is a string like any other until it is validated. -/
structure RTCCandidate where
  version : String
  rtcSessionID : List UInt8
  generation : Nat
  direction : String
  descriptionSHA256 : List UInt8
  candidate : String
  deriving DecidableEq

structure RTCRestart extends RTCOffer where
  priorDescriptionSHA256 : List UInt8
  deriving DecidableEq

structure RTCCancel where
  version : String
  rtcSessionID : List UInt8
  generation : Nat
  descriptionSHA256 : List UInt8
  reason : String
  deriving DecidableEq

def invalidRTCSignaling : String := "invalid rtc signaling"

def rtcError (err : String) : String := invalidRTCSignaling ++ ": " ++ err

section Validators

def validRTCText (value : String) (maximum : Nat) : Bool :=
  0 < value.utf8ByteSize && value.utf8ByteSize ≤ maximum

def validateRTCSession (version : String) (sessionID : List UInt8) (generation : Nat) :
    Except String Unit :=
  throwIf (version ≠ rtcSignalingVersion ∨ sessionID.length ≠ 16 ∨ maxRTCGeneration < generation)
    invalidRTCSignaling

def validateRTCDescription (offer : RTCOffer) : Except String Unit := do
  validateRTCSession offer.version offer.rtcSessionID offer.generation
  throwIf (¬ validRTCText offer.description maxRTCDescriptionBytes ∨
    offer.descriptionSHA256.length ≠ 32 ∨ offer.dtlsFingerprintSHA256.length ≠ 32)
    invalidRTCSignaling
  let digest := Sha256.sum256 (Utf8.bytes offer.description)
  throwIf (offer.descriptionSHA256 ≠ digest.toList) invalidRTCSignaling

def RTCCapabilities.validate (capabilities : RTCCapabilities) : Except String Unit :=
  throwIf (capabilities.version ≠ rtcSignalingVersion ∨
    capabilities.maxDescriptionBytes = 0 ∨
    maxRTCDescriptionBytes < capabilities.maxDescriptionBytes ∨
    capabilities.maxCandidateBytes = 0 ∨ maxRTCCandidateBytes < capabilities.maxCandidateBytes ∨
    capabilities.maxCandidatesPerDirection = 0 ∨
    maxRTCCandidatesPerDirection < capabilities.maxCandidatesPerDirection) invalidRTCSignaling

def RTCOffer.validate (offer : RTCOffer) : Except String Unit := validateRTCDescription offer

def RTCAnswer.validate (answer : RTCAnswer) : Except String Unit := do
  validateRTCDescription answer.toRTCOffer
  throwIf (answer.offerDescriptionSHA256.length ≠ 32) invalidRTCSignaling

def RTCCandidate.validate (candidate : RTCCandidate) : Except String Unit := do
  validateRTCSession candidate.version candidate.rtcSessionID candidate.generation
  throwIf ((candidate.direction ≠ "offerer" ∧ candidate.direction ≠ "answerer") ∨
    candidate.descriptionSHA256.length ≠ 32 ∨
    ¬ validRTCText candidate.candidate maxRTCCandidateBytes) invalidRTCSignaling

def RTCRestart.validate (restart : RTCRestart) : Except String Unit := do
  validateRTCDescription restart.toRTCOffer
  throwIf (restart.priorDescriptionSHA256.length ≠ 32) invalidRTCSignaling

def RTCCancel.validate (cancel : RTCCancel) : Except String Unit := do
  validateRTCSession cancel.version cancel.rtcSessionID cancel.generation
  throwIf (cancel.descriptionSHA256.length ≠ 32 ∨
    (cancel.reason ≠ "cancelled" ∧ cancel.reason ≠ "rejected" ∧ cancel.reason ≠ "glare"))
    invalidRTCSignaling

end Validators

section Encoder

def rtcCapabilitiesMap (capabilities : RTCCapabilities) : CborMap :=
  [("version", .text capabilities.version),
    ("max_description_bytes", .uint capabilities.maxDescriptionBytes),
    ("max_candidate_bytes", .uint capabilities.maxCandidateBytes),
    ("max_candidates_per_direction", .uint capabilities.maxCandidatesPerDirection)]

def rtcOfferMap (offer : RTCOffer) : CborMap :=
  [("version", .text offer.version),
    ("rtc_session_id", .bytes offer.rtcSessionID),
    ("generation", .uint offer.generation),
    ("description", .text offer.description),
    ("description_sha256", .bytes offer.descriptionSHA256),
    ("dtls_fingerprint_sha256", .bytes offer.dtlsFingerprintSHA256)]

def rtcAnswerMap (answer : RTCAnswer) : CborMap :=
  rtcOfferMap answer.toRTCOffer ++
    [("offer_description_sha256", .bytes answer.offerDescriptionSHA256)]

def rtcCandidateMap (candidate : RTCCandidate) : CborMap :=
  [("version", .text candidate.version),
    ("rtc_session_id", .bytes candidate.rtcSessionID),
    ("generation", .uint candidate.generation),
    ("direction", .text candidate.direction),
    ("description_sha256", .bytes candidate.descriptionSHA256),
    ("candidate", .text candidate.candidate)]

def rtcRestartMap (restart : RTCRestart) : CborMap :=
  [("version", .text restart.version),
    ("rtc_session_id", .bytes restart.rtcSessionID),
    ("generation", .uint restart.generation),
    ("prior_description_sha256", .bytes restart.priorDescriptionSHA256),
    ("description", .text restart.description),
    ("description_sha256", .bytes restart.descriptionSHA256),
    ("dtls_fingerprint_sha256", .bytes restart.dtlsFingerprintSHA256)]

def rtcCancelMap (cancel : RTCCancel) : CborMap :=
  [("version", .text cancel.version),
    ("rtc_session_id", .bytes cancel.rtcSessionID),
    ("generation", .uint cancel.generation),
    ("description_sha256", .bytes cancel.descriptionSHA256),
    ("reason", .text cancel.reason)]

def encodeRTCSignalingBody (value : CborMap) : Except String (List UInt8) :=
  match encodeCbor (.map value) with
  | .error _ => .error invalidRTCSignaling
  | .ok encoded =>
    if encoded.length = 0 ∨ maxApplicationControlBodyBytes < encoded.length then
      .error invalidRTCSignaling
    else .ok encoded

def encodeRTCCapabilities (capabilities : RTCCapabilities) : Except String (List UInt8) := do
  capabilities.validate
  encodeRTCSignalingBody (rtcCapabilitiesMap capabilities)

def encodeRTCOffer (offer : RTCOffer) : Except String (List UInt8) := do
  offer.validate
  encodeRTCSignalingBody (rtcOfferMap offer)

def encodeRTCAnswer (answer : RTCAnswer) : Except String (List UInt8) := do
  answer.validate
  encodeRTCSignalingBody (rtcAnswerMap answer)

def encodeRTCCandidate (candidate : RTCCandidate) : Except String (List UInt8) := do
  candidate.validate
  encodeRTCSignalingBody (rtcCandidateMap candidate)

def encodeRTCRestart (restart : RTCRestart) : Except String (List UInt8) := do
  restart.validate
  encodeRTCSignalingBody (rtcRestartMap restart)

def encodeRTCCancel (cancel : RTCCancel) : Except String (List UInt8) := do
  cancel.validate
  encodeRTCSignalingBody (rtcCancelMap cancel)

end Encoder

section Decoder

def decodeRTCSignalingMap (data : List UInt8) (label : String) (fields : List String) :
    Except String CborMap := do
  throwIf (data.length = 0 ∨ maxApplicationControlBodyBytes < data.length) invalidRTCSignaling
  let value ← (decodeDeterministicCBORWithTextLimit data maxRTCDescriptionBytes).mapError
    fun err => rtcError err.message
  let m ← (cborMap value label).mapError rtcError
  (cborRejectUnknown m fields).mapError rtcError
  return m

variable (m : CborMap)

def rtcVersion : Except String String := do
  let version ← (cborText m "version").mapError fun _ => invalidRTCSignaling
  throwIf (version ≠ rtcSignalingVersion) invalidRTCSignaling
  return version

def rtcSessionID : Except String (List UInt8) :=
  (cborBytes m "rtc_session_id" 16).mapError rtcError

def rtcGeneration : Except String Nat := do
  let value ← (cborUint m "generation").mapError fun _ => invalidRTCSignaling
  throwIf (maxRTCGeneration < value) invalidRTCSignaling
  return value

def rtcHash (key : String) : Except String (List UInt8) := (cborBytes m key 32).mapError rtcError

def rtcCandidateDirection : Except String String := do
  let value ← (cborText m "direction").mapError fun _ => invalidRTCSignaling
  throwIf (value ≠ "offerer" ∧ value ≠ "answerer") invalidRTCSignaling
  return value

def rtcText (key : String) (maximum : Nat) : Except String String := do
  let value ← (cborRequired m key).mapError rtcError
  match value with
  | .text text =>
    throwIf (¬ validRTCText text maximum) invalidRTCSignaling
    return text
  | _ => throw invalidRTCSignaling

def rtcOfferFromMap : Except String RTCOffer := do
  let version ← rtcVersion m
  let rtcSessionID ← rtcSessionID m
  let generation ← rtcGeneration m
  let description ← rtcText m "description" maxRTCDescriptionBytes
  let descriptionSHA256 ← rtcHash m "description_sha256"
  let dtlsFingerprintSHA256 ← rtcHash m "dtls_fingerprint_sha256"
  return { version, rtcSessionID, generation, description, descriptionSHA256
           dtlsFingerprintSHA256 }

def decodeRTCCapabilities (data : List UInt8) : Except String RTCCapabilities := do
  let m ← decodeRTCSignalingMap data "rtc_capabilities"
    ["version", "max_description_bytes", "max_candidate_bytes", "max_candidates_per_direction"]
  let version ← rtcVersion m
  let maxDescriptionBytes ← (cborUint m "max_description_bytes").mapError rtcError
  let maxCandidateBytes ← (cborUint m "max_candidate_bytes").mapError rtcError
  let maxCandidatesPerDirection ← (cborUint m "max_candidates_per_direction").mapError rtcError
  let capabilities : RTCCapabilities :=
    { version, maxDescriptionBytes, maxCandidateBytes, maxCandidatesPerDirection }
  capabilities.validate
  return capabilities

def decodeRTCOffer (data : List UInt8) : Except String RTCOffer := do
  let m ← decodeRTCSignalingMap data "rtc_offer"
    ["version", "rtc_session_id", "generation", "description", "description_sha256",
      "dtls_fingerprint_sha256"]
  let offer ← rtcOfferFromMap m
  offer.validate
  return offer

def decodeRTCAnswer (data : List UInt8) : Except String RTCAnswer := do
  let m ← decodeRTCSignalingMap data "rtc_answer"
    ["version", "rtc_session_id", "generation", "description", "description_sha256",
      "dtls_fingerprint_sha256", "offer_description_sha256"]
  let offer ← rtcOfferFromMap m
  let offerDescriptionSHA256 ← rtcHash m "offer_description_sha256"
  let answer : RTCAnswer := { offer with offerDescriptionSHA256 }
  answer.validate
  return answer

def decodeRTCCandidate (data : List UInt8) : Except String RTCCandidate := do
  let m ← decodeRTCSignalingMap data "rtc_candidate"
    ["version", "rtc_session_id", "generation", "direction", "description_sha256", "candidate"]
  let version ← rtcVersion m
  let rtcSessionID ← rtcSessionID m
  let generation ← rtcGeneration m
  let direction ← rtcCandidateDirection m
  let descriptionSHA256 ← rtcHash m "description_sha256"
  let candidateText ← rtcText m "candidate" maxRTCCandidateBytes
  let candidate : RTCCandidate :=
    { version, rtcSessionID, generation, direction, descriptionSHA256, candidate := candidateText }
  candidate.validate
  return candidate

def decodeRTCRestart (data : List UInt8) : Except String RTCRestart := do
  let m ← decodeRTCSignalingMap data "rtc_restart"
    ["version", "rtc_session_id", "generation", "prior_description_sha256", "description",
      "description_sha256", "dtls_fingerprint_sha256"]
  let offer ← rtcOfferFromMap m
  let priorDescriptionSHA256 ← rtcHash m "prior_description_sha256"
  let restart : RTCRestart := { offer with priorDescriptionSHA256 }
  restart.validate
  return restart

def decodeRTCCancel (data : List UInt8) : Except String RTCCancel := do
  let m ← decodeRTCSignalingMap data "rtc_cancel"
    ["version", "rtc_session_id", "generation", "description_sha256", "reason"]
  let version ← rtcVersion m
  let rtcSessionID ← rtcSessionID m
  let generation ← rtcGeneration m
  let descriptionSHA256 ← rtcHash m "description_sha256"
  let reason ← (cborText m "reason").mapError rtcError
  let cancel : RTCCancel := { version, rtcSessionID, generation, descriptionSHA256, reason }
  cancel.validate
  return cancel

end Decoder

section Signals

inductive RTCKind
  | capabilities
  | offer
  | answer
  | candidate
  | restart
  | cancel
  deriving DecidableEq

inductive RTCSignal
  | capabilities (value : RTCCapabilities)
  | offer (value : RTCOffer)
  | answer (value : RTCAnswer)
  | candidate (value : RTCCandidate)
  | restart (value : RTCRestart)
  | cancel (value : RTCCancel)
  deriving DecidableEq

namespace RTCSignal

def kind : RTCSignal → RTCKind
  | .capabilities _ => .capabilities
  | .offer _ => .offer
  | .answer _ => .answer
  | .candidate _ => .candidate
  | .restart _ => .restart
  | .cancel _ => .cancel

def validate : RTCSignal → Except String Unit
  | .capabilities value => value.validate
  | .offer value => value.validate
  | .answer value => value.validate
  | .candidate value => value.validate
  | .restart value => value.validate
  | .cancel value => value.validate

def entries : RTCSignal → CborMap
  | .capabilities value => rtcCapabilitiesMap value
  | .offer value => rtcOfferMap value
  | .answer value => rtcAnswerMap value
  | .candidate value => rtcCandidateMap value
  | .restart value => rtcRestartMap value
  | .cancel value => rtcCancelMap value

def encode : RTCSignal → Except String (List UInt8)
  | .capabilities value => encodeRTCCapabilities value
  | .offer value => encodeRTCOffer value
  | .answer value => encodeRTCAnswer value
  | .candidate value => encodeRTCCandidate value
  | .restart value => encodeRTCRestart value
  | .cancel value => encodeRTCCancel value

def content : RTCSignal → Option String
  | .capabilities _ => none
  | .offer value => some value.description
  | .answer value => some value.description
  | .candidate value => some value.candidate
  | .restart value => some value.description
  | .cancel _ => none

end RTCSignal

def decodeRTC (kind : RTCKind) (data : List UInt8) : Except String RTCSignal :=
  match kind with
  | .capabilities => (decodeRTCCapabilities data).map .capabilities
  | .offer => (decodeRTCOffer data).map .offer
  | .answer => (decodeRTCAnswer data).map .answer
  | .candidate => (decodeRTCCandidate data).map .candidate
  | .restart => (decodeRTCRestart data).map .restart
  | .cancel => (decodeRTCCancel data).map .cancel

end Signals

section Validity

theorem validRTCText_iff {value : String} {maximum : Nat} :
    validRTCText value maximum = true ↔ value ≠ "" ∧ value.utf8ByteSize ≤ maximum := by
  have hempty : value.utf8ByteSize = 0 ↔ value = "" := String.utf8ByteSize_eq_zero_iff
  rw [validRTCText, Bool.and_eq_true, decide_eq_true_eq, decide_eq_true_eq, Nat.pos_iff_ne_zero,
    ne_eq, hempty]

structure RTCOffer.Bounded (offer : RTCOffer) : Prop where
  version : offer.version = rtcSignalingVersion
  rtcSessionID : offer.rtcSessionID.length = 16
  generation : offer.generation ≤ maxRTCGeneration
  description_ne : offer.description ≠ ""
  description_le : offer.description.utf8ByteSize ≤ maxRTCDescriptionBytes
  descriptionSHA256 : offer.descriptionSHA256.length = 32
  dtlsFingerprintSHA256 : offer.dtlsFingerprintSHA256.length = 32

def RTCOffer.Hashed (offer : RTCOffer) : Prop :=
  offer.descriptionSHA256 = (Sha256.sum256 (Utf8.bytes offer.description)).toList

theorem validateRTCDescription_iff {offer : RTCOffer} :
    validateRTCDescription offer = .ok () ↔ offer.Bounded ∧ offer.Hashed := by
  simp only [validateRTCDescription, validateRTCSession, bind_eq_ok, exists_unit, throwIf_eq_ok,
    validRTCText_iff, not_or, not_not, ne_eq, Nat.not_lt]
  constructor
  · rintro ⟨⟨hversion, hsession, hgeneration⟩, ⟨⟨hne, hle⟩, hdigest, hfingerprint⟩, hhash⟩
    exact ⟨⟨hversion, hsession, hgeneration, hne, hle, hdigest, hfingerprint⟩, hhash⟩
  · rintro ⟨⟨hversion, hsession, hgeneration, hne, hle, hdigest, hfingerprint⟩, hhash⟩
    exact ⟨⟨hversion, hsession, hgeneration⟩, ⟨⟨hne, hle⟩, hdigest, hfingerprint⟩, hhash⟩

theorem RTCCapabilities.validate_iff {capabilities : RTCCapabilities} :
    capabilities.validate = .ok () ↔
      capabilities.version = rtcSignalingVersion ∧
      (capabilities.maxDescriptionBytes ≠ 0 ∧
        capabilities.maxDescriptionBytes ≤ maxRTCDescriptionBytes) ∧
      (capabilities.maxCandidateBytes ≠ 0 ∧
        capabilities.maxCandidateBytes ≤ maxRTCCandidateBytes) ∧
      capabilities.maxCandidatesPerDirection ≠ 0 ∧
        capabilities.maxCandidatesPerDirection ≤ maxRTCCandidatesPerDirection := by
  simp only [RTCCapabilities.validate, throwIf_eq_ok, not_or, not_not, ne_eq, Nat.not_lt,
    and_assoc]

theorem RTCAnswer.validate_iff {answer : RTCAnswer} :
    answer.validate = .ok () ↔ (answer.toRTCOffer.Bounded ∧ answer.toRTCOffer.Hashed) ∧
      answer.offerDescriptionSHA256.length = 32 := by
  simp only [RTCAnswer.validate, bind_eq_ok, exists_unit, throwIf_eq_ok, not_not, ne_eq,
    validateRTCDescription_iff]

theorem RTCRestart.validate_iff {restart : RTCRestart} :
    restart.validate = .ok () ↔ (restart.toRTCOffer.Bounded ∧ restart.toRTCOffer.Hashed) ∧
      restart.priorDescriptionSHA256.length = 32 := by
  simp only [RTCRestart.validate, bind_eq_ok, exists_unit, throwIf_eq_ok, not_not, ne_eq,
    validateRTCDescription_iff]

theorem RTCCandidate.validate_iff {candidate : RTCCandidate} :
    candidate.validate = .ok () ↔
      candidate.version = rtcSignalingVersion ∧ candidate.rtcSessionID.length = 16 ∧
      candidate.generation ≤ maxRTCGeneration ∧
      (candidate.direction = "offerer" ∨ candidate.direction = "answerer") ∧
      candidate.descriptionSHA256.length = 32 ∧ candidate.candidate ≠ "" ∧
      candidate.candidate.utf8ByteSize ≤ maxRTCCandidateBytes := by
  simp only [RTCCandidate.validate, validateRTCSession, bind_eq_ok, exists_unit, throwIf_eq_ok,
    validRTCText_iff, not_or, not_and_or, not_not, ne_eq, Nat.not_lt, and_assoc]

theorem RTCCancel.validate_iff {cancel : RTCCancel} :
    cancel.validate = .ok () ↔
      cancel.version = rtcSignalingVersion ∧ cancel.rtcSessionID.length = 16 ∧
      cancel.generation ≤ maxRTCGeneration ∧ cancel.descriptionSHA256.length = 32 ∧
      (cancel.reason = "cancelled" ∨ cancel.reason = "rejected" ∨ cancel.reason = "glare") := by
  simp only [RTCCancel.validate, validateRTCSession, bind_eq_ok, exists_unit, throwIf_eq_ok,
    not_or, not_and_or, not_not, ne_eq, Nat.not_lt, and_assoc]

end Validity

section Readers

variable {m : CborMap}

theorem rtcVersion_eq_ok_iff {version : String} :
    rtcVersion m = .ok version ↔
      m.lookup "version" = some (.text version) ∧ version = rtcSignalingVersion := by
  simp only [rtcVersion, bind_eq_ok, mapError_eq_ok, cborText_eq_ok_iff, exists_unit,
    throwIf_eq_ok, not_not, pure_eq_ok]
  constructor
  · rintro ⟨_, ⟨hlookup, _⟩, rfl, rfl⟩
    exact ⟨hlookup, rfl⟩
  · rintro ⟨hlookup, rfl⟩
    exact ⟨_, ⟨hlookup, by decide⟩, rfl, rfl⟩

theorem rtcSessionID_eq_ok_iff {id : List UInt8} :
    rtcSessionID m = .ok id ↔ m.lookup "rtc_session_id" = some (.bytes id) ∧ id.length = 16 := by
  rw [rtcSessionID, mapError_eq_ok, cborBytes_size_iff (by decide) (by decide)]

theorem rtcHash_eq_ok_iff {key : String} {hash : List UInt8} :
    rtcHash m key = .ok hash ↔ m.lookup key = some (.bytes hash) ∧ hash.length = 32 := by
  rw [rtcHash, mapError_eq_ok, cborBytes_size_iff (by decide) (by decide)]

theorem rtcGeneration_eq_ok_iff {generation : Nat} :
    rtcGeneration m = .ok generation ↔
      m.lookup "generation" = some (.uint generation) ∧ generation ≤ maxRTCGeneration := by
  have hmax : maxRTCGeneration = 65535 := rfl
  simp only [rtcGeneration, bind_eq_ok, mapError_eq_ok, cborUint_eq_ok_iff, exists_unit,
    throwIf_eq_ok, Nat.not_lt, pure_eq_ok, le_maxDraftTimestamp_iff]
  constructor
  · rintro ⟨_, ⟨hlookup, _⟩, hle, rfl⟩
    exact ⟨hlookup, hle⟩
  · rintro ⟨hlookup, hle⟩
    exact ⟨_, ⟨hlookup, by omega⟩, hle, rfl⟩

theorem rtcCandidateDirection_eq_ok_iff {direction : String} :
    rtcCandidateDirection m = .ok direction ↔
      m.lookup "direction" = some (.text direction) ∧
        (direction = "offerer" ∨ direction = "answerer") := by
  simp only [rtcCandidateDirection, bind_eq_ok, mapError_eq_ok, cborText_eq_ok_iff, exists_unit,
    throwIf_eq_ok, not_and_or, not_not, pure_eq_ok]
  constructor
  · rintro ⟨_, ⟨hlookup, _⟩, hdirection, rfl⟩
    exact ⟨hlookup, hdirection⟩
  · rintro ⟨hlookup, hdirection⟩
    refine ⟨_, ⟨hlookup, ?_⟩, hdirection, rfl⟩
    rcases hdirection with rfl | rfl <;> decide

theorem rtcText_eq_ok_iff {key text : String} {maximum : Nat} :
    rtcText m key maximum = .ok text ↔
      m.lookup key = some (.text text) ∧ text ≠ "" ∧ text.utf8ByteSize ≤ maximum := by
  simp only [rtcText, bind_eq_ok, mapError_eq_ok, cborRequired_eq_ok_iff]
  constructor
  · rintro ⟨value, hlookup, h⟩
    cases value with
    | text text' =>
      obtain ⟨hvalid, heq⟩ := throwIf_bind_eq_ok.mp h
      obtain rfl := Except.ok.inj heq
      exact ⟨hlookup, validRTCText_iff.mp (not_not.mp hvalid)⟩
    | _ => cases h
  · rintro ⟨hlookup, hbound⟩
    exact ⟨_, hlookup, throwIf_bind_eq_ok.mpr
      ⟨not_not.mpr (validRTCText_iff.mpr hbound), rfl⟩⟩

theorem rtcOfferFromMap_eq_ok_iff {offer : RTCOffer} :
    rtcOfferFromMap m = .ok offer ↔
      offer.Bounded ∧ ∀ entry ∈ rtcOfferMap offer, m.lookup entry.1 = some entry.2 := by
  simp only [rtcOfferFromMap, bind_eq_ok, rtcVersion_eq_ok_iff, rtcSessionID_eq_ok_iff,
    rtcGeneration_eq_ok_iff, rtcText_eq_ok_iff, rtcHash_eq_ok_iff, pure_eq_ok, rtcOfferMap,
    List.forall_mem_cons, forall_mem_nil, and_true]
  constructor
  · rintro ⟨version, ⟨hversion, rfl⟩, id, ⟨hid, hidLength⟩, generation,
      ⟨hgeneration, hgenerationLe⟩, description, ⟨hdescription, hne, hle⟩, digest,
      ⟨hdigest, hdigestLength⟩, fingerprint, ⟨hfingerprint, hfingerprintLength⟩, rfl⟩
    exact ⟨⟨rfl, hidLength, hgenerationLe, hne, hle, hdigestLength, hfingerprintLength⟩, hversion,
      hid, hgeneration, hdescription, hdigest, hfingerprint⟩
  · rintro ⟨⟨hversionEq, hidLength, hgenerationLe, hne, hle, hdigestLength, hfingerprintLength⟩,
      hversion, hid, hgeneration, hdescription, hdigest, hfingerprint⟩
    exact ⟨_, ⟨hversion, hversionEq⟩, _, ⟨hid, hidLength⟩, _, ⟨hgeneration, hgenerationLe⟩, _,
      ⟨hdescription, hne, hle⟩, _, ⟨hdigest, hdigestLength⟩, _,
      ⟨hfingerprint, hfingerprintLength⟩, rfl⟩

end Readers

section Exact

variable {data : List UInt8}

def Holds (m entries : CborMap) : Prop := ∀ entry ∈ entries, m.lookup entry.1 = some entry.2

theorem decodeRTCCapabilities_holds_iff {capabilities : RTCCapabilities} :
    decodeRTCCapabilities data = .ok capabilities ↔ capabilities.validate = .ok () ∧
      ∃ m, decodeRTCSignalingMap data "rtc_capabilities"
          ["version", "max_description_bytes", "max_candidate_bytes",
            "max_candidates_per_direction"] = .ok m ∧
        Holds m (rtcCapabilitiesMap capabilities) := by
  have hmax : maxRTCDescriptionBytes ≤ 2 ^ 53 - 1 := by decide
  have hmax' : maxRTCCandidateBytes ≤ 2 ^ 53 - 1 := by decide
  have hmax'' : maxRTCCandidatesPerDirection ≤ 2 ^ 53 - 1 := by decide
  simp only [decodeRTCCapabilities, bind_eq_ok, mapError_eq_ok, exists_unit, rtcVersion_eq_ok_iff,
    cborUint_eq_ok_iff, le_maxDraftTimestamp_iff, pure_eq_ok, Holds, rtcCapabilitiesMap,
    List.forall_mem_cons, forall_mem_nil, and_true]
  constructor
  · rintro ⟨m, hm, _, ⟨hversion, _⟩, _, ⟨hdescription, _⟩, _, ⟨hcandidate, _⟩, _, ⟨hcount, _⟩,
      hvalid, rfl⟩
    exact ⟨hvalid, m, hm, hversion, hdescription, hcandidate, hcount⟩
  · rintro ⟨hvalid, m, hm, hversion, hdescription, hcandidate, hcount⟩
    obtain ⟨hversionEq, ⟨_, hdescriptionLe⟩, ⟨_, hcandidateLe⟩, _, hcountLe⟩ :=
      RTCCapabilities.validate_iff.mp hvalid
    exact ⟨m, hm, _, ⟨hversion, hversionEq⟩, _, ⟨hdescription, hdescriptionLe.trans hmax⟩,
      _, ⟨hcandidate, hcandidateLe.trans hmax'⟩, _, ⟨hcount, hcountLe.trans hmax''⟩, hvalid, rfl⟩

theorem decodeRTCOffer_holds_iff {offer : RTCOffer} :
    decodeRTCOffer data = .ok offer ↔ offer.validate = .ok () ∧
      ∃ m, decodeRTCSignalingMap data "rtc_offer"
          ["version", "rtc_session_id", "generation", "description", "description_sha256",
            "dtls_fingerprint_sha256"] = .ok m ∧ Holds m (rtcOfferMap offer) := by
  simp only [decodeRTCOffer, bind_eq_ok, exists_unit, rtcOfferFromMap_eq_ok_iff, pure_eq_ok, Holds]
  constructor
  · rintro ⟨m, hm, offer, ⟨_, hholds⟩, hvalid, rfl⟩
    exact ⟨hvalid, m, hm, hholds⟩
  · rintro ⟨hvalid, m, hm, hholds⟩
    exact ⟨m, hm, _, ⟨(validateRTCDescription_iff.mp hvalid).1, hholds⟩, hvalid, rfl⟩

theorem decodeRTCAnswer_holds_iff {answer : RTCAnswer} :
    decodeRTCAnswer data = .ok answer ↔ answer.validate = .ok () ∧
      ∃ m, decodeRTCSignalingMap data "rtc_answer"
          ["version", "rtc_session_id", "generation", "description", "description_sha256",
            "dtls_fingerprint_sha256", "offer_description_sha256"] = .ok m ∧
        Holds m (rtcAnswerMap answer) := by
  simp only [decodeRTCAnswer, bind_eq_ok, exists_unit, rtcOfferFromMap_eq_ok_iff,
    rtcHash_eq_ok_iff, pure_eq_ok, Holds, rtcAnswerMap, List.forall_mem_append,
    List.forall_mem_singleton]
  constructor
  · rintro ⟨m, hm, offer, ⟨_, hholds⟩, hash, ⟨hlookup, _⟩, hvalid, rfl⟩
    exact ⟨hvalid, m, hm, hholds, hlookup⟩
  · rintro ⟨hvalid, m, hm, hholds, hlookup⟩
    obtain ⟨⟨hbounded, _⟩, hlength⟩ := RTCAnswer.validate_iff.mp hvalid
    exact ⟨m, hm, _, ⟨hbounded, hholds⟩, _, ⟨hlookup, hlength⟩, hvalid, rfl⟩

theorem holds_rtcRestartMap_iff {m : CborMap} {restart : RTCRestart} :
    Holds m (rtcRestartMap restart) ↔ Holds m (rtcOfferMap restart.toRTCOffer) ∧
      m.lookup "prior_description_sha256" = some (.bytes restart.priorDescriptionSHA256) := by
  simp only [Holds, rtcRestartMap, rtcOfferMap, List.forall_mem_cons, forall_mem_nil, and_true]
  constructor
  · rintro ⟨hversion, hid, hgeneration, hprior, hrest⟩
    exact ⟨⟨hversion, hid, hgeneration, hrest⟩, hprior⟩
  · rintro ⟨⟨hversion, hid, hgeneration, hrest⟩, hprior⟩
    exact ⟨hversion, hid, hgeneration, hprior, hrest⟩

theorem decodeRTCRestart_holds_iff {restart : RTCRestart} :
    decodeRTCRestart data = .ok restart ↔ restart.validate = .ok () ∧
      ∃ m, decodeRTCSignalingMap data "rtc_restart"
          ["version", "rtc_session_id", "generation", "prior_description_sha256", "description",
            "description_sha256", "dtls_fingerprint_sha256"] = .ok m ∧
        Holds m (rtcRestartMap restart) := by
  simp only [decodeRTCRestart, bind_eq_ok, exists_unit, rtcOfferFromMap_eq_ok_iff,
    rtcHash_eq_ok_iff, pure_eq_ok, holds_rtcRestartMap_iff]
  constructor
  · rintro ⟨m, hm, offer, ⟨_, hholds⟩, hash, ⟨hlookup, _⟩, hvalid, rfl⟩
    exact ⟨hvalid, m, hm, hholds, hlookup⟩
  · rintro ⟨hvalid, m, hm, hholds, hlookup⟩
    obtain ⟨⟨hbounded, _⟩, hlength⟩ := RTCRestart.validate_iff.mp hvalid
    exact ⟨m, hm, _, ⟨hbounded, hholds⟩, _, ⟨hlookup, hlength⟩, hvalid, rfl⟩

theorem decodeRTCCandidate_holds_iff {candidate : RTCCandidate} :
    decodeRTCCandidate data = .ok candidate ↔ candidate.validate = .ok () ∧
      ∃ m, decodeRTCSignalingMap data "rtc_candidate"
          ["version", "rtc_session_id", "generation", "direction", "description_sha256",
            "candidate"] = .ok m ∧ Holds m (rtcCandidateMap candidate) := by
  simp only [decodeRTCCandidate, bind_eq_ok, exists_unit, rtcVersion_eq_ok_iff,
    rtcSessionID_eq_ok_iff, rtcGeneration_eq_ok_iff, rtcCandidateDirection_eq_ok_iff,
    rtcHash_eq_ok_iff, rtcText_eq_ok_iff, pure_eq_ok, Holds, rtcCandidateMap, List.forall_mem_cons,
    forall_mem_nil, and_true]
  constructor
  · rintro ⟨m, hm, _, ⟨hversion, _⟩, _, ⟨hid, _⟩, _, ⟨hgeneration, _⟩, _, ⟨hdirection, _⟩, _,
      ⟨hdigest, _⟩, _, ⟨hcandidate, _⟩, hvalid, rfl⟩
    exact ⟨hvalid, m, hm, hversion, hid, hgeneration, hdirection, hdigest, hcandidate⟩
  · rintro ⟨hvalid, m, hm, hversion, hid, hgeneration, hdirection, hdigest, hcandidate⟩
    obtain ⟨hversionEq, hidLength, hgenerationLe, hdirectionEq, hdigestLength, hne, hle⟩ :=
      RTCCandidate.validate_iff.mp hvalid
    exact ⟨m, hm, _, ⟨hversion, hversionEq⟩, _, ⟨hid, hidLength⟩, _, ⟨hgeneration, hgenerationLe⟩,
      _, ⟨hdirection, hdirectionEq⟩, _, ⟨hdigest, hdigestLength⟩, _, ⟨hcandidate, hne, hle⟩,
      hvalid, rfl⟩

theorem decodeRTCCancel_holds_iff {cancel : RTCCancel} :
    decodeRTCCancel data = .ok cancel ↔ cancel.validate = .ok () ∧
      ∃ m, decodeRTCSignalingMap data "rtc_cancel"
          ["version", "rtc_session_id", "generation", "description_sha256", "reason"] = .ok m ∧
        Holds m (rtcCancelMap cancel) := by
  simp only [decodeRTCCancel, bind_eq_ok, mapError_eq_ok, exists_unit, rtcVersion_eq_ok_iff,
    rtcSessionID_eq_ok_iff, rtcGeneration_eq_ok_iff, rtcHash_eq_ok_iff, cborText_eq_ok_iff,
    pure_eq_ok, Holds, rtcCancelMap, List.forall_mem_cons, forall_mem_nil, and_true]
  constructor
  · rintro ⟨m, hm, _, ⟨hversion, _⟩, _, ⟨hid, _⟩, _, ⟨hgeneration, _⟩, _, ⟨hdigest, _⟩, _,
      ⟨hreason, _⟩, hvalid, rfl⟩
    exact ⟨hvalid, m, hm, hversion, hid, hgeneration, hdigest, hreason⟩
  · rintro ⟨hvalid, m, hm, hversion, hid, hgeneration, hdigest, hreason⟩
    obtain ⟨hversionEq, hidLength, hgenerationLe, hdigestLength, hreasonEq⟩ :=
      RTCCancel.validate_iff.mp hvalid
    have hshort : cancel.reason ≠ "" ∧ cancel.reason.utf8ByteSize ≤ maxDraftStringBytes := by
      rcases hreasonEq with heq | heq | heq <;> rw [heq] <;> decide
    exact ⟨m, hm, _, ⟨hversion, hversionEq⟩, _, ⟨hid, hidLength⟩, _, ⟨hgeneration, hgenerationLe⟩,
      _, ⟨hdigest, hdigestLength⟩, _, ⟨hreason, hshort⟩, hvalid, rfl⟩

theorem maxRTCDescriptionBytes_le : maxRTCDescriptionBytes ≤ maxDecodedCBORBytes := by decide

theorem decodeRTCSignalingMap_holds_iff {record : CborMap} {label : String}
    (h : Cbor.Fits (goRules maxRTCDescriptionBytes maxRTCDescriptionBytes_le) (.map record))
    (hdepth : (Cbor.map record).depth ≤ maxDeterministicCBORNestingDepth)
    (hflat : ∀ entry ∈ record, entry.2.sortKeys = entry.2) :
    (∃ m, decodeRTCSignalingMap data label (record.map Prod.fst) = .ok m ∧ Holds m record) ↔
      data.length ≤ maxApplicationControlBodyBytes ∧
        data = Cbor.encode (.map (Cbor.inKeyOrder record)) := by
  have hdistinct : (record.map Prod.fst).Nodup := by
    cases h with
    | map hlength hkeys hdistinct hvalues => exact hdistinct
  have hsorted := Cbor.sortKeys_record hflat
  have hmax : maxApplicationControlBodyBytes ≤ maxDraftEnvelopeBytes := by decide
  simp only [decodeRTCSignalingMap, bind_eq_ok, mapError_eq_ok, exists_unit, throwIf_eq_ok,
    not_or, Nat.not_lt, cborMap_eq_ok_iff, cborRejectUnknown_eq_ok_iff, pure_eq_ok]
  constructor
  · rintro ⟨m, ⟨⟨_, hsize⟩, _, hdecode, _, rfl, hknown, rfl⟩, hholds⟩
    obtain ⟨_, hwire, _, hencode⟩ := (decodeDeterministicCBORWithTextLimit_eq_ok_iff
      (by decide) maxRTCDescriptionBytes_le).mp hdecode
    refine ⟨hsize, ?_⟩
    rw [← hencode, (Cbor.reads_iff hwire hdistinct).mp ⟨hknown, hholds⟩]
  · rintro ⟨hsize, rfl⟩
    have hlength := Cbor.length_encode_sortKeys h
    rw [hsorted] at hlength
    have hdecode := decode_encode_of_withinLimits (by decide)
      ⟨h, hdepth, hlength ▸ hsize.trans hmax⟩
    rw [hsorted] at hdecode
    obtain ⟨⟨hne, _⟩, hwire, _⟩ := (decodeDeterministicCBORWithTextLimit_eq_ok_iff (by decide)
      maxRTCDescriptionBytes_le).mp hdecode
    obtain ⟨hknown, hholds⟩ := (Cbor.reads_iff hwire hdistinct).mpr rfl
    exact ⟨_, ⟨⟨hne, hsize⟩, _, hdecode, _, rfl, hknown, rfl⟩, hholds⟩

end Exact

section Codec

namespace RTCKind

def label : RTCKind → String
  | .capabilities => "rtc_capabilities"
  | .offer => "rtc_offer"
  | .answer => "rtc_answer"
  | .candidate => "rtc_candidate"
  | .restart => "rtc_restart"
  | .cancel => "rtc_cancel"

def fields : RTCKind → List String
  | .capabilities =>
    ["version", "max_description_bytes", "max_candidate_bytes", "max_candidates_per_direction"]
  | .offer =>
    ["version", "rtc_session_id", "generation", "description", "description_sha256",
      "dtls_fingerprint_sha256"]
  | .answer =>
    ["version", "rtc_session_id", "generation", "description", "description_sha256",
      "dtls_fingerprint_sha256", "offer_description_sha256"]
  | .candidate =>
    ["version", "rtc_session_id", "generation", "direction", "description_sha256", "candidate"]
  | .restart =>
    ["version", "rtc_session_id", "generation", "prior_description_sha256", "description",
      "description_sha256", "dtls_fingerprint_sha256"]
  | .cancel => ["version", "rtc_session_id", "generation", "description_sha256", "reason"]

theorem nodup_fields (kind : RTCKind) : kind.fields.Nodup := by
  cases kind <;> decide

theorem length_fields (kind : RTCKind) : kind.fields.length ≤ 7 := by
  cases kind <;> decide

theorem short_fields (kind : RTCKind) :
    ∀ key ∈ kind.fields, key ≠ "" ∧ key.utf8ByteSize ≤ maxDraftStringBytes := by
  cases kind <;> decide

end RTCKind

namespace RTCSignal

variable {s : RTCSignal} {r : Cbor.Rules} {data : List UInt8}

theorem map_fst_entries (s : RTCSignal) : s.entries.map Prod.fst = s.kind.fields := by
  cases s <;> rfl

theorem flat_entries (s : RTCSignal) : ∀ entry ∈ s.entries, entry.2.sortKeys = entry.2 := by
  cases s <;> simp [entries, rtcCapabilitiesMap, rtcOfferMap, rtcAnswerMap, rtcCandidateMap,
    rtcRestartMap, rtcCancelMap, Cbor.sortKeys]

theorem depth_entries (s : RTCSignal) :
    (Cbor.map s.entries).depth ≤ maxDeterministicCBORNestingDepth := by
  cases s <;> simp [entries, rtcCapabilitiesMap, rtcOfferMap, rtcAnswerMap, rtcCandidateMap,
    rtcRestartMap, rtcCancelMap, Cbor.depth, Cbor.depthEntries, maxDeterministicCBORNestingDepth]

theorem version_textOk (hr : Roomy r) {version : String} (h : version = rtcSignalingVersion) :
    Cbor.TextOk r version := by
  rw [h]
  exact hr.texts _ (by decide) (by decide)

theorem fits_rtcOfferMap {offer : RTCOffer} (h : offer.Bounded) (hr : Roomy r)
    (hdescription : Cbor.TextOk r offer.description) :
    ∀ entry ∈ rtcOfferMap offer, Cbor.Fits r entry.2 := by
  have hbytes : 48 * 1024 ≤ r.maxBytes := hr.bytes
  have hargument : 2 ^ 53 - 1 ≤ r.maxArgument := hr.argument
  have hmax : maxRTCGeneration = 65535 := rfl
  obtain ⟨hversion, hid, hgeneration, _, _, hdigest, hfingerprint⟩ := h
  simp only [rtcOfferMap, List.forall_mem_cons, forall_mem_nil, and_true]
  exact ⟨.text (version_textOk hr hversion), .bytes (by omega), .uint (by omega),
    .text hdescription, .bytes (by omega), .bytes (by omega)⟩

theorem fits_entry (h : s.validate = .ok ()) (hr : Roomy r)
    (hcontent : ∀ text ∈ s.content, Cbor.TextOk r text) :
    ∀ entry ∈ s.entries, Cbor.Fits r entry.2 := by
  have hbytes : 48 * 1024 ≤ r.maxBytes := hr.bytes
  have hargument : 2 ^ 53 - 1 ≤ r.maxArgument := hr.argument
  have hmax : maxRTCGeneration = 65535 := rfl
  have hdescriptionMax : maxRTCDescriptionBytes = 1536 := rfl
  have hcandidateMax : maxRTCCandidateBytes = 1024 := rfl
  have hcountMax : maxRTCCandidatesPerDirection = 32 := rfl
  cases s with
  | capabilities value =>
    obtain ⟨hversion, ⟨_, hdescription⟩, ⟨_, hcandidate⟩, _, hcount⟩ :=
      RTCCapabilities.validate_iff.mp h
    simp only [entries, rtcCapabilitiesMap, List.forall_mem_cons, forall_mem_nil, and_true]
    exact ⟨.text (version_textOk hr hversion), .uint (by omega), .uint (by omega),
      .uint (by omega)⟩
  | offer value =>
    exact fits_rtcOfferMap (validateRTCDescription_iff.mp h).1 hr (hcontent _ rfl)
  | answer value =>
    obtain ⟨⟨hbounded, _⟩, hlength⟩ := RTCAnswer.validate_iff.mp h
    rw [entries, rtcAnswerMap, List.forall_mem_append, List.forall_mem_singleton]
    exact ⟨fits_rtcOfferMap hbounded hr (hcontent _ rfl), .bytes (by omega)⟩
  | candidate value =>
    obtain ⟨hversion, hid, hgeneration, hdirection, hdigest, _⟩ :=
      RTCCandidate.validate_iff.mp h
    have hdirectionOk : Cbor.TextOk r value.direction := by
      rcases hdirection with heq | heq <;> rw [heq] <;> exact hr.texts _ (by decide) (by decide)
    simp only [entries, rtcCandidateMap, List.forall_mem_cons, forall_mem_nil, and_true]
    exact ⟨.text (version_textOk hr hversion), .bytes (by omega), .uint (by omega),
      .text hdirectionOk, .bytes (by omega), .text (hcontent _ rfl)⟩
  | restart value =>
    obtain ⟨⟨hbounded, _⟩, hlength⟩ := RTCRestart.validate_iff.mp h
    have hoffer := fits_rtcOfferMap hbounded hr (hcontent _ rfl)
    simp only [entries, rtcRestartMap, rtcOfferMap, List.forall_mem_cons, forall_mem_nil,
      and_true] at hoffer ⊢
    obtain ⟨hversion, hid, hgeneration, hrest⟩ := hoffer
    exact ⟨hversion, hid, hgeneration, .bytes (by omega), hrest⟩
  | cancel value =>
    obtain ⟨hversion, hid, hgeneration, hdigest, hreason⟩ := RTCCancel.validate_iff.mp h
    have hreasonOk : Cbor.TextOk r value.reason := by
      rcases hreason with heq | heq | heq <;> rw [heq] <;>
        exact hr.texts _ (by decide) (by decide)
    simp only [entries, rtcCancelMap, List.forall_mem_cons, forall_mem_nil, and_true]
    exact ⟨.text (version_textOk hr hversion), .bytes (by omega), .uint (by omega),
      .bytes (by omega), .text hreasonOk⟩

theorem fits (h : s.validate = .ok ()) (hr : Roomy r)
    (hcontent : ∀ text ∈ s.content, Cbor.TextOk r text) : Cbor.Fits r (.map s.entries) := by
  have hroom : 64 ≤ r.maxEntries := hr.entries
  have hlength : s.entries.length ≤ 7 := by
    rw [← List.length_map Prod.fst, map_fst_entries]
    exact s.kind.length_fields
  refine .map (by omega) ?_ ?_ (fits_entry h hr hcontent)
  · intro entry hentry
    have hkey : entry.1 ∈ s.kind.fields := map_fst_entries s ▸ List.mem_map_of_mem hentry
    exact hr.texts _ (s.kind.short_fields _ hkey).1 (s.kind.short_fields _ hkey).2
  · rw [map_fst_entries]
    exact s.kind.nodup_fields

theorem content_bound (h : s.validate = .ok ()) :
    ∀ text ∈ s.content, text ≠ "" ∧ text.utf8ByteSize ≤ maxRTCDescriptionBytes := by
  have hmax : maxRTCCandidateBytes ≤ maxRTCDescriptionBytes := by decide
  intro text htext
  cases s with
  | capabilities value => cases htext
  | cancel value => cases htext
  | offer value =>
    obtain rfl := Option.some.inj htext
    obtain ⟨hbounded, _⟩ := validateRTCDescription_iff.mp h
    exact ⟨hbounded.description_ne, hbounded.description_le⟩
  | answer value =>
    obtain rfl := Option.some.inj htext
    obtain ⟨⟨hbounded, _⟩, _⟩ := RTCAnswer.validate_iff.mp h
    exact ⟨hbounded.description_ne, hbounded.description_le⟩
  | restart value =>
    obtain rfl := Option.some.inj htext
    obtain ⟨⟨hbounded, _⟩, _⟩ := RTCRestart.validate_iff.mp h
    exact ⟨hbounded.description_ne, hbounded.description_le⟩
  | candidate value =>
    obtain rfl := Option.some.inj htext
    obtain ⟨_, _, _, _, _, hne, hle⟩ := RTCCandidate.validate_iff.mp h
    exact ⟨hne, hle.trans hmax⟩

theorem roomy_rtcRules :
    Roomy (goRules maxRTCDescriptionBytes maxRTCDescriptionBytes_le) where
  argument := by decide
  bytes := le_rfl
  entries := le_rfl
  texts := fun _ hne hsize => ⟨decide_eq_true hne, hsize.trans (by decide)⟩

theorem fits_rtcRules (h : s.validate = .ok ()) :
    Cbor.Fits (goRules maxRTCDescriptionBytes maxRTCDescriptionBytes_le) (.map s.entries) :=
  fits h roomy_rtcRules fun text htext =>
    ⟨decide_eq_true (content_bound h text htext).1, (content_bound h text htext).2⟩

theorem encodeRTCSignalingBody_eq_ok_iff (h : s.validate = .ok ()) :
    encodeRTCSignalingBody s.entries = .ok data ↔
      data.length ≤ maxApplicationControlBodyBytes ∧
        data = Cbor.encode (.map (Cbor.inKeyOrder s.entries)) := by
  have hwrite : encodeCbor (.map s.entries) =
      .ok (Cbor.encode (.map (Cbor.inKeyOrder s.entries))) := by
    rw [encodeCbor_of_fits (fits_rtcRules h), Cbor.sortKeys_record s.flat_entries]
  have hone := Cbor.one_le_length_encode (.map (Cbor.inKeyOrder s.entries))
  rw [encodeRTCSignalingBody, hwrite]
  simp only [ite_error_eq_ok, Except.ok.injEq, not_or, Nat.not_lt]
  constructor
  · rintro ⟨⟨_, hsize⟩, rfl⟩
    exact ⟨hsize, rfl⟩
  · rintro ⟨hsize, rfl⟩
    exact ⟨⟨by omega, hsize⟩, rfl⟩

theorem encode_eq_ok_iff :
    s.encode = .ok data ↔ s.validate = .ok () ∧
      data.length ≤ maxApplicationControlBodyBytes ∧
        data = Cbor.encode (.map (Cbor.inKeyOrder s.entries)) := by
  have hencode : s.encode = .ok data ↔
      s.validate = .ok () ∧ encodeRTCSignalingBody s.entries = .ok data := by
    cases s <;> simp only [encode, encodeRTCCapabilities, encodeRTCOffer, encodeRTCAnswer,
      encodeRTCCandidate, encodeRTCRestart, encodeRTCCancel, validate, entries, bind_eq_ok,
      exists_unit]
  rw [hencode]
  exact and_congr_right fun h => encodeRTCSignalingBody_eq_ok_iff h

end RTCSignal

theorem decodeRTC_holds_iff {kind : RTCKind} {data : List UInt8} {s : RTCSignal} :
    decodeRTC kind data = .ok s ↔ s.kind = kind ∧ s.validate = .ok () ∧
      ∃ m, decodeRTCSignalingMap data kind.label kind.fields = .ok m ∧ Holds m s.entries := by
  cases kind <;> cases s <;>
    simp [decodeRTC, map_eq_ok, RTCSignal.kind, RTCSignal.validate, RTCSignal.entries,
      RTCKind.label, RTCKind.fields, decodeRTCCapabilities_holds_iff, decodeRTCOffer_holds_iff,
      decodeRTCAnswer_holds_iff, decodeRTCCandidate_holds_iff, decodeRTCRestart_holds_iff,
      decodeRTCCancel_holds_iff]

theorem decodeRTC_eq_ok_iff {kind : RTCKind} {data : List UInt8} {s : RTCSignal} :
    decodeRTC kind data = .ok s ↔ s.kind = kind ∧ s.encode = .ok data := by
  rw [decodeRTC_holds_iff, RTCSignal.encode_eq_ok_iff]
  refine and_congr_right fun hkind => and_congr_right fun h => ?_
  rw [← hkind, ← s.map_fst_entries]
  exact decodeRTCSignalingMap_holds_iff (RTCSignal.fits_rtcRules h) s.depth_entries s.flat_entries

end Codec

end Branch.Protocol
