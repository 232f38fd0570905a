import Branch.Agreement.Cbor
import Branch.Core.RtcBodies
import Branch.Protocol.RtcSignaling

/-!
The controls of a direct connection in the decoders of relay and client. The relay reads longer
texts for them than the client.
-/

namespace Branch.Agreement

open Branch.Lib
open Branch.Core
open Branch.Core.RtcWire
open Branch.Protocol (RTCCapabilities RTCOffer RTCAnswer RTCCandidate RTCRestart RTCCancel RTCKind
  RTCSignal Holds)

section Fields

structure SameCapabilities (value : Capabilities) (capabilities : RTCCapabilities) : Prop where
  version : value.version = capabilities.version
  maxDescriptionBytes : value.maxDescriptionBytes = capabilities.maxDescriptionBytes
  maxCandidateBytes : value.maxCandidateBytes = capabilities.maxCandidateBytes
  maxCandidatesPerDirection :
    value.maxCandidatesPerDirection = capabilities.maxCandidatesPerDirection

structure SameOffer (value : Offer) (offer : RTCOffer) : Prop where
  version : value.version = offer.version
  rtcSessionId : value.rtcSessionId = Base64.encode offer.rtcSessionID
  generation : value.generation = offer.generation
  description : value.description = Utf16.units offer.description
  descriptionSHA256 : value.descriptionSHA256 = Base64.encode offer.descriptionSHA256
  dtlsFingerprintSHA256 : value.dtlsFingerprintSHA256 = Base64.encode offer.dtlsFingerprintSHA256

structure SameAnswer (value : Answer) (answer : RTCAnswer) : Prop where
  offer : SameOffer value.toOffer answer.toRTCOffer
  offerDescriptionSHA256 :
    value.offerDescriptionSHA256 = Base64.encode answer.offerDescriptionSHA256

structure SameCandidate (value : Candidate) (candidate : RTCCandidate) : Prop where
  version : value.version = candidate.version
  rtcSessionId : value.rtcSessionId = Base64.encode candidate.rtcSessionID
  generation : value.generation = candidate.generation
  direction : directionText value.direction = candidate.direction
  descriptionSHA256 : value.descriptionSHA256 = Base64.encode candidate.descriptionSHA256
  candidate : value.candidate = Utf16.units candidate.candidate

structure SameRestart (value : Restart) (restart : RTCRestart) : Prop where
  offer : SameOffer value.toOffer restart.toRTCOffer
  priorDescriptionSHA256 :
    value.priorDescriptionSHA256 = Base64.encode restart.priorDescriptionSHA256

structure SameCancel (value : Cancel) (cancel : RTCCancel) : Prop where
  version : value.version = cancel.version
  rtcSessionId : value.rtcSessionId = Base64.encode cancel.rtcSessionID
  generation : value.generation = cancel.generation
  descriptionSHA256 : value.descriptionSHA256 = Base64.encode cancel.descriptionSHA256
  reason : cancelReasonText value.reason = cancel.reason

/-- The signal of the client has the fields of that of the relay. -/
def SameSignal : SignalingBody → RTCSignal → Prop
  | .capabilities value, .capabilities capabilities => SameCapabilities value capabilities
  | .offer value, .offer offer => SameOffer value offer
  | .answer value, .answer answer => SameAnswer value answer
  | .candidate value, .candidate candidate => SameCandidate value candidate
  | .restart value, .restart restart => SameRestart value restart
  | .cancel value, .cancel cancel => SameCancel value cancel
  | _, _ => False

def decodeClientSignal (kind : RTCKind) (bytes : List UInt8) : Except String SignalingBody :=
  match kind with
  | .capabilities => (decodeRtcCapabilities bytes).map .capabilities
  | .offer => (decodeRtcOffer bytes).map .offer
  | .answer => (decodeRtcAnswer bytes).map .answer
  | .candidate => (decodeRtcCandidate bytes).map .candidate
  | .restart => (decodeRtcRestart bytes).map .restart
  | .cancel => (decodeRtcCancel bytes).map .cancel

end Fields

section Descriptions

variable {map : Core.CborMap} {value : Offer} {offer : RTCOffer} {bytes : List UInt8}

theorem encode_eq_encode_iff {data data' : List UInt8} (h : data.length ≠ 0)
    (h' : data'.length ≠ 0) : Base64.encode data = Base64.encode data' ↔ data = data' := by
  constructor
  · intro heq
    have hdecode := decodeBase64URL_encode h
    rw [heq, decodeBase64URL_encode h'] at hdecode
    exact (Except.ok.inj hdecode).symm
  · exact congrArg _

theorem descriptionFromMap_iff :
    descriptionFromMap map = .ok value ↔ ∃ offer : RTCOffer, SameOffer value offer ∧
      offer.Bounded ∧ offer.description.utf8ByteSize ≤ maxCborTextBytes ∧
        Holds map (Protocol.rtcOfferMap offer) := by
  simp only [descriptionFromMap, digestFromMap, bind_eq_ok, readRtcSignalingVersion_eq_ok_iff,
    tokenFromMap_iff (by decide : 0 < 16) (by decide),
    tokenFromMap_iff (by decide : 0 < 32) (by decide), readGeneration_eq_ok_iff,
    readBoundedUtf8_iff, pure_eq_ok]
  constructor
  · rintro ⟨version, ⟨hversion, hversionEq⟩, _, ⟨id, hid, hidLength, rfl⟩, generation,
      ⟨hgeneration, hgenerationLe⟩, _, ⟨description, hdescription, hne, hle, hshort, rfl⟩, _,
      ⟨digest, hdigest, hdigestLength, rfl⟩, _,
      ⟨fingerprint, hfingerprint, hfingerprintLength, rfl⟩, rfl⟩
    refine ⟨⟨version, id, generation, description, digest, fingerprint⟩,
      ⟨rfl, rfl, rfl, rfl, rfl, rfl⟩, ⟨hversionEq, hidLength, hgenerationLe, hne, hle,
      hdigestLength, hfingerprintLength⟩, hshort, ?_⟩
    simp only [Holds, Protocol.rtcOfferMap, List.forall_mem_cons, forall_mem_nil, and_true]
    exact ⟨hversion, hid, hgeneration, hdescription, hdigest, hfingerprint⟩
  · rintro ⟨offer, ⟨hversion', hid', hgeneration', hdescription', hdigest', hfingerprint'⟩,
      ⟨hversionEq, hidLength, hgenerationLe, hne, hle, hdigestLength, hfingerprintLength⟩, hshort,
      hholds⟩
    simp only [Holds, Protocol.rtcOfferMap, List.forall_mem_cons, forall_mem_nil,
      and_true] at hholds
    obtain ⟨hversion, hid, hgeneration, hdescription, hdigest, hfingerprint⟩ := hholds
    refine ⟨_, ⟨hversion, hversionEq⟩, _, ⟨_, hid, hidLength, rfl⟩, _,
      ⟨hgeneration, hgenerationLe⟩, _, ⟨_, hdescription, hne, hle, hshort, rfl⟩, _,
      ⟨_, hdigest, hdigestLength, rfl⟩, _, ⟨_, hfingerprint, hfingerprintLength, rfl⟩, ?_⟩
    rw [← hversion', ← hid', ← hgeneration', ← hdescription', ← hdigest', ← hfingerprint']

theorem validateRtcDescription_iff {label : String} (hsame : SameOffer value offer)
    (hbounded : offer.Bounded) :
    RtcWire.validateRtcDescription value label = .ok () ↔ offer.Hashed := by
  obtain ⟨hversion, hid, hgeneration, hdescription, hdigest, hfingerprint⟩ := hsame
  have hbounded' := hbounded
  obtain ⟨hversionEq, hidLength, hgenerationLe, hne, hle, hdigestLength, hfingerprintLength⟩ :=
    hbounded'
  have hgenerationOk : validGeneration offer.generation = true := decide_eq_true hgenerationLe
  have hidOk := validToken_encode hidLength (by decide)
  have hdigestOk := validToken_encode hdigestLength (by decide)
  have hfingerprintOk := validToken_encode hfingerprintLength (by decide)
  have hdescriptionOk : RtcWire.validBoundedUtf8 (Utf16.units offer.description)
      Core.maxRtcDescriptionBytes = true := validBoundedUtf8_units_iff.mpr ⟨hne, hle⟩
  have htext : textEncode (Utf16.units offer.description) = Utf8.bytes offer.description := by
    rw [textEncode, Utf16.units_injective
      (Utf16.units_text_eq_iff.mpr (Utf16.paired_units offer.description))]
  have hversionOk : offer.version = Core.rtcSignalingVersion := hversionEq
  have hsum := @Vector.length_toList _ _ (Sha256.sum256 (Utf8.bytes offer.description))
  rw [RtcWire.validateRtcDescription, RtcWire.rtcDescriptionSHA256, hversion, hid, hgeneration,
    hdescription, hdigest, hfingerprint, htext, hdescriptionOk, hidOk, hdigestOk, hfingerprintOk,
    hgenerationOk]
  simp only [bind_eq_ok, exists_unit, throwIf_eq_ok, hversionOk, not_true_eq_false, ne_eq,
    or_false, not_false_eq_true, true_and, if_false, Except.ok.injEq, exists_eq_left', not_not]
  rw [encode_eq_encode_iff (by omega) (by omega), RTCOffer.Hashed, eq_comm]

theorem decodeRtcOffer_holds_iff :
    decodeRtcOffer bytes = .ok value ↔ ∃ offer : RTCOffer, SameOffer value offer ∧
      offer.validate = .ok () ∧ offer.description.utf8ByteSize ≤ maxCborTextBytes ∧
        ∃ map, strictMap bytes "rtc offer" descriptionKeys = .ok map ∧
          Holds map (Protocol.rtcOfferMap offer) := by
  simp only [decodeRtcOffer, bind_eq_ok, exists_unit, descriptionFromMap_iff, pure_eq_ok,
    RTCOffer.validate, Protocol.validateRTCDescription_iff]
  constructor
  · rintro ⟨map, hmap, value, ⟨offer, hsame, hbounded, hshort, hholds⟩, hvalid, rfl⟩
    exact ⟨offer, hsame, ⟨hbounded, (validateRtcDescription_iff hsame hbounded).mp hvalid⟩, hshort,
      map, hmap, hholds⟩
  · rintro ⟨offer, hsame, ⟨hbounded, hhashed⟩, hshort, map, hmap, hholds⟩
    exact ⟨map, hmap, _, ⟨offer, hsame, hbounded, hshort, hholds⟩,
      (validateRtcDescription_iff hsame hbounded).mpr hhashed, rfl⟩

theorem decodeDigest_encode {digest : List UInt8} {label : String} (h : digest.length = 32) :
    decodeDigest (Base64.encode digest) label = .ok digest :=
  decodeToken_eq_ok_iff.mpr ⟨decodeBase64URL_encode (by omega), h⟩

theorem decodeRtcAnswer_holds_iff {value : Answer} :
    decodeRtcAnswer bytes = .ok value ↔ ∃ answer : RTCAnswer, SameAnswer value answer ∧
      answer.validate = .ok () ∧ answer.description.utf8ByteSize ≤ maxCborTextBytes ∧
        ∃ map, strictMap bytes "rtc answer" (descriptionKeys ++ ["offer_description_sha256"]) =
            .ok map ∧
          Holds map (Protocol.rtcAnswerMap answer) := by
  simp only [decodeRtcAnswer, RtcWire.validateRtcAnswer, digestFromMap, bind_eq_ok, exists_unit,
    descriptionFromMap_iff, tokenFromMap_iff (by decide : 0 < 32) (by decide), pure_eq_ok,
    Holds, Protocol.rtcAnswerMap, List.forall_mem_append, List.forall_mem_singleton]
  constructor
  · rintro ⟨map, hmap, value, ⟨offer, hsame, hbounded, hshort, hholds⟩, _,
      ⟨digest, hlookup, hlength, rfl⟩, ⟨hvalid, _⟩, rfl⟩
    have hhashed := (validateRtcDescription_iff hsame hbounded).mp hvalid
    exact ⟨⟨offer, digest⟩, ⟨hsame, rfl⟩,
      RTCAnswer.validate_iff.mpr ⟨⟨hbounded, hhashed⟩, hlength⟩, hshort, map, hmap, hholds, hlookup⟩
  · rintro ⟨answer, ⟨hsame, hreference⟩, hvalid, hshort, map, hmap, hholds, hlookup⟩
    obtain ⟨⟨hbounded, hhashed⟩, hlength⟩ := RTCAnswer.validate_iff.mp hvalid
    refine ⟨map, hmap, _, ⟨_, hsame, hbounded, hshort, hholds⟩, _, ⟨_, hlookup, hlength, rfl⟩,
      ⟨(validateRtcDescription_iff hsame hbounded).mpr hhashed, _, decodeDigest_encode hlength,
        trivial⟩, ?_⟩
    rw [← hreference]

theorem decodeRtcRestart_holds_iff {value : Restart} :
    decodeRtcRestart bytes = .ok value ↔ ∃ restart : RTCRestart, SameRestart value restart ∧
      restart.validate = .ok () ∧ restart.description.utf8ByteSize ≤ maxCborTextBytes ∧
        ∃ map, strictMap bytes "rtc restart"
            ["version", "rtc_session_id", "generation", "prior_description_sha256", "description",
              "description_sha256", "dtls_fingerprint_sha256"] = .ok map ∧
          Holds map (Protocol.rtcRestartMap restart) := by
  simp only [decodeRtcRestart, validateRtcRestart, digestFromMap, bind_eq_ok, exists_unit,
    descriptionFromMap_iff, tokenFromMap_iff (by decide : 0 < 32) (by decide), pure_eq_ok,
    Protocol.holds_rtcRestartMap_iff]
  constructor
  · rintro ⟨map, hmap, value, ⟨offer, hsame, hbounded, hshort, hholds⟩, _,
      ⟨digest, hlookup, hlength, rfl⟩, ⟨hvalid, _⟩, rfl⟩
    have hhashed := (validateRtcDescription_iff hsame hbounded).mp hvalid
    exact ⟨⟨offer, digest⟩, ⟨hsame, rfl⟩,
      RTCRestart.validate_iff.mpr ⟨⟨hbounded, hhashed⟩, hlength⟩, hshort, map, hmap, hholds,
      hlookup⟩
  · rintro ⟨restart, ⟨hsame, hreference⟩, hvalid, hshort, map, hmap, hholds, hlookup⟩
    obtain ⟨⟨hbounded, hhashed⟩, hlength⟩ := RTCRestart.validate_iff.mp hvalid
    refine ⟨map, hmap, _, ⟨_, hsame, hbounded, hshort, hholds⟩, _, ⟨_, hlookup, hlength, rfl⟩,
      ⟨(validateRtcDescription_iff hsame hbounded).mpr hhashed, _, decodeDigest_encode hlength,
        trivial⟩, ?_⟩
    rw [← hreference]

end Descriptions

section Bodies

variable {bytes : List UInt8}

theorem decodeRtcCapabilities_holds_iff {value : Capabilities} :
    decodeRtcCapabilities bytes = .ok value ↔ ∃ capabilities : RTCCapabilities,
      SameCapabilities value capabilities ∧ capabilities.validate = .ok () ∧
        ∃ map, strictMap bytes "rtc capabilities"
            ["version", "max_description_bytes", "max_candidate_bytes",
              "max_candidates_per_direction"] = .ok map ∧
          Holds map (Protocol.rtcCapabilitiesMap capabilities) := by
  have hsafe : Core.maxSafeInteger = 2 ^ 53 - 1 := rfl
  have hmax : Core.maxRtcDescriptionBytes = 1536 := rfl
  have hmax' : Core.maxRtcCandidateBytes = 1024 := rfl
  have hmax'' : Core.maxRtcCandidatesPerDirection = 32 := rfl
  have hgo : Protocol.maxRTCDescriptionBytes = 1536 := rfl
  have hgo' : Protocol.maxRTCCandidateBytes = 1024 := rfl
  have hgo'' : Protocol.maxRTCCandidatesPerDirection = 32 := rfl
  have hversionEq : Core.rtcSignalingVersion = Protocol.rtcSignalingVersion := rfl
  simp only [decodeRtcCapabilities, validateRtcCapabilities, bind_eq_ok, exists_unit,
    readRtcSignalingVersion_eq_ok_iff, requiredUint_eq_ok_iff, throwIf_eq_ok, pure_eq_ok,
    boundedInteger, Bool.and_eq_true, decide_eq_true_eq, not_or, not_not, ne_eq, Holds,
    Protocol.rtcCapabilitiesMap, List.forall_mem_cons, forall_mem_nil, and_true, hversionEq]
  constructor
  · rintro ⟨map, hmap, version, ⟨hversion, _⟩, description, ⟨hdescription, _⟩, candidate,
      ⟨hcandidate, _⟩, count, ⟨hcount, _⟩, ⟨hversion', hdescription', hcandidate', hcount'⟩, rfl⟩
    refine ⟨⟨version, description, candidate, count⟩, ⟨rfl, rfl, rfl, rfl⟩,
      RTCCapabilities.validate_iff.mpr ⟨hversion', ?_, ?_, ?_⟩, map, hmap, hversion, hdescription,
      hcandidate, hcount⟩
    · show description ≠ 0 ∧ description ≤ Protocol.maxRTCDescriptionBytes
      omega
    · show candidate ≠ 0 ∧ candidate ≤ Protocol.maxRTCCandidateBytes
      omega
    · show count ≠ 0 ∧ count ≤ Protocol.maxRTCCandidatesPerDirection
      omega
  · rintro ⟨capabilities, ⟨hversion, hdescription, hcandidate, hcount⟩, hvalid, map, hmap, hholds⟩
    obtain ⟨hversionEq, hdescriptionLe, hcandidateLe, hcountLe⟩ :=
      RTCCapabilities.validate_iff.mp hvalid
    obtain ⟨hversion', hdescription', hcandidate', hcount'⟩ := hholds
    refine ⟨map, hmap, _, ⟨hversion', hversionEq⟩, _, ⟨hdescription', by omega⟩, _,
      ⟨hcandidate', by omega⟩, _, ⟨hcount', by omega⟩,
      ⟨hversionEq, by omega, by omega, by omega⟩, ?_⟩
    rw [← hversion, ← hdescription, ← hcandidate, ← hcount]

theorem directionText_mem (direction : RtcCandidateDirection) :
    directionText direction = "offerer" ∨ directionText direction = "answerer" := by
  cases direction with
  | offerer => exact .inl rfl
  | answerer => exact .inr rfl

theorem cancelReasonText_mem (reason : RtcCancelReason) :
    cancelReasonText reason = "cancelled" ∨ cancelReasonText reason = "rejected" ∨
      cancelReasonText reason = "glare" := by
  cases reason with
  | cancelled => exact .inl rfl
  | rejected => exact .inr (.inl rfl)
  | glare => exact .inr (.inr rfl)

theorem decodeRtcCandidate_holds_iff {value : Candidate} :
    decodeRtcCandidate bytes = .ok value ↔ ∃ candidate : RTCCandidate,
      SameCandidate value candidate ∧ candidate.validate = .ok () ∧
        ∃ map, strictMap bytes "rtc candidate"
            ["version", "rtc_session_id", "generation", "direction", "description_sha256",
              "candidate"] = .ok map ∧
          Holds map (Protocol.rtcCandidateMap candidate) := by
  have hversionEq : Core.rtcSignalingVersion = Protocol.rtcSignalingVersion := rfl
  have hmax : Core.maxRtcCandidateBytes = Protocol.maxRTCCandidateBytes := rfl
  have hshort : Protocol.maxRTCCandidateBytes ≤ maxCborTextBytes := by decide
  simp only [decodeRtcCandidate, RtcWire.validateRtcCandidate, digestFromMap, bind_eq_ok,
    exists_unit, readRtcSignalingVersion_eq_ok_iff,
    tokenFromMap_iff (by decide : 0 < 16) (by decide),
    tokenFromMap_iff (by decide : 0 < 32) (by decide), readGeneration_eq_ok_iff,
    readDirection_eq_ok_iff, readBoundedUtf8_iff, throwIf_eq_ok, pure_eq_ok, not_or, not_not, ne_eq,
    Holds, Protocol.rtcCandidateMap, List.forall_mem_cons, forall_mem_nil, and_true, hversionEq,
    hmax]
  constructor
  · rintro ⟨map, hmap, version, ⟨hversion, hversionEq⟩, _, ⟨id, hid, hidLength, rfl⟩, generation,
      ⟨hgeneration, hgenerationLe⟩, direction, hdirection, _, ⟨digest, hdigest, hdigestLength, rfl⟩,
      _, ⟨candidate, hcandidate, hne, hle, _, rfl⟩, _, rfl⟩
    exact ⟨⟨version, id, generation, directionText direction, digest, candidate⟩,
      ⟨rfl, rfl, rfl, rfl, rfl, rfl⟩, RTCCandidate.validate_iff.mpr ⟨hversionEq, hidLength,
      hgenerationLe, directionText_mem direction, hdigestLength, hne, hle⟩, map, hmap, hversion,
      hid, hgeneration, hdirection, hdigest, hcandidate⟩
  · rintro ⟨candidate, ⟨hversion', hid', hgeneration', hdirection', hdigest', hcandidate'⟩, hvalid,
      map, hmap, hversion, hid, hgeneration, hdirection, hdigest, hcandidate⟩
    obtain ⟨hversionEq, hidLength, hgenerationLe, _, hdigestLength, hne, hle⟩ :=
      RTCCandidate.validate_iff.mp hvalid
    refine ⟨map, hmap, _, ⟨hversion, hversionEq⟩, _, ⟨_, hid, hidLength, rfl⟩, _,
      ⟨hgeneration, hgenerationLe⟩, value.direction, ?_, _, ⟨_, hdigest, hdigestLength, rfl⟩, _,
      ⟨_, hcandidate, hne, hle, hle.trans hshort, rfl⟩, ⟨hversionEq,
      validToken_encode hidLength (by decide), decide_eq_true hgenerationLe,
      validToken_encode hdigestLength (by decide), validBoundedUtf8_units_iff.mpr ⟨hne, hle⟩⟩, ?_⟩
    · rw [hdirection']
      exact hdirection
    · rw [← hversion', ← hid', ← hgeneration', ← hdigest', ← hcandidate']

theorem decodeRtcCancel_holds_iff {value : Cancel} :
    decodeRtcCancel bytes = .ok value ↔ ∃ cancel : RTCCancel,
      SameCancel value cancel ∧ cancel.validate = .ok () ∧
        ∃ map, strictMap bytes "rtc cancel"
            ["version", "rtc_session_id", "generation", "description_sha256", "reason"] =
            .ok map ∧
          Holds map (Protocol.rtcCancelMap cancel) := by
  have hversionEq : Core.rtcSignalingVersion = Protocol.rtcSignalingVersion := rfl
  simp only [decodeRtcCancel, validateRtcCancel, digestFromMap, bind_eq_ok, exists_unit,
    readRtcSignalingVersion_eq_ok_iff, tokenFromMap_iff (by decide : 0 < 16) (by decide),
    tokenFromMap_iff (by decide : 0 < 32) (by decide), readGeneration_eq_ok_iff,
    readCancelReason_eq_ok_iff, throwIf_eq_ok, pure_eq_ok, not_or, not_not, ne_eq, Holds,
    Protocol.rtcCancelMap, List.forall_mem_cons, forall_mem_nil, and_true, hversionEq]
  constructor
  · rintro ⟨map, hmap, version, ⟨hversion, hversionEq⟩, _, ⟨id, hid, hidLength, rfl⟩, generation,
      ⟨hgeneration, hgenerationLe⟩, _, ⟨digest, hdigest, hdigestLength, rfl⟩, reason, hreason, _,
      rfl⟩
    exact ⟨⟨version, id, generation, digest, cancelReasonText reason⟩, ⟨rfl, rfl, rfl, rfl, rfl⟩,
      RTCCancel.validate_iff.mpr ⟨hversionEq, hidLength, hgenerationLe, hdigestLength,
      cancelReasonText_mem reason⟩, map, hmap, hversion, hid, hgeneration, hdigest, hreason⟩
  · rintro ⟨cancel, ⟨hversion', hid', hgeneration', hdigest', hreason'⟩, hvalid, map, hmap,
      hversion, hid, hgeneration, hdigest, hreason⟩
    obtain ⟨hversionEq, hidLength, hgenerationLe, hdigestLength, _⟩ :=
      RTCCancel.validate_iff.mp hvalid
    refine ⟨map, hmap, _, ⟨hversion, hversionEq⟩, _, ⟨_, hid, hidLength, rfl⟩, _,
      ⟨hgeneration, hgenerationLe⟩, _, ⟨_, hdigest, hdigestLength, rfl⟩, value.reason, ?_,
      ⟨hversionEq, validToken_encode hidLength (by decide), decide_eq_true hgenerationLe,
      validToken_encode hdigestLength (by decide)⟩, ?_⟩
    · rw [hreason']
      exact hreason
    · rw [← hversion', ← hid', ← hgeneration', ← hdigest']

end Bodies

section Codecs

variable {kind : RTCKind} {bytes : List UInt8} {s : RTCSignal} {body : SignalingBody}

/-- The client reads the content of a signal: it has at most 1024 bytes and does not begin with
U+FEFF. -/
def ReadableContent (s : RTCSignal) : Prop :=
  ∀ text ∈ s.content, text.utf8ByteSize ≤ maxCborTextBytes ∧ ¬ Utf8.Marked text

def clientLabel : RTCKind → String
  | .capabilities => "rtc capabilities"
  | .offer => "rtc offer"
  | .answer => "rtc answer"
  | .candidate => "rtc candidate"
  | .restart => "rtc restart"
  | .cancel => "rtc cancel"

theorem strictMap_holds_iff {record : Core.CborMap} {label : String}
    (h : Cbor.Fits tsRules (.map record))
    (hflat : ∀ entry ∈ record, entry.2.sortKeys = entry.2) :
    (∃ map, strictMap bytes label (record.map Prod.fst) = .ok map ∧ Holds map record) ↔
      bytes.length ≤ maxRtcSignalingBodyBytes ∧
        (∀ text ∈ (Cbor.map record).texts, ¬ Utf8.Marked text) ∧
          bytes = Cbor.encode (.map (Cbor.inKeyOrder record)) := by
  have hread := @Core.decode_reads_iff record bytes maxRtcSignalingBodyBytes h hflat
  rw [← hread]
  simp only [strictMap, bind_eq_ok, mapError_eq_ok, exists_unit, throwIf_eq_ok,
    readCborMap_eq_ok_iff, rejectUnknownEntries_eq_ok_iff, pure_eq_ok]
  constructor
  · rintro ⟨map, ⟨_, _, hdecode, _, rfl, hknown, rfl⟩, hholds⟩
    exact ⟨_, hdecode, hknown, hholds⟩
  · rintro ⟨map, hdecode, hknown, hholds⟩
    obtain ⟨hsize, _⟩ := Core.decodeDeterministicCbor_eq_ok_iff.mp hdecode
    exact ⟨_, ⟨by omega, _, hdecode, _, rfl, hknown, rfl⟩, hholds⟩

theorem decodeClientSignal_holds_iff :
    decodeClientSignal kind bytes = .ok body ↔ ∃ s, SameSignal body s ∧ s.kind = kind ∧
      s.validate = .ok () ∧ (∀ text ∈ s.content, text.utf8ByteSize ≤ maxCborTextBytes) ∧
        ∃ map, strictMap bytes (clientLabel kind) kind.fields = .ok map ∧ Holds map s.entries := by
  have hcandidate : Protocol.maxRTCCandidateBytes ≤ maxCborTextBytes := by decide
  cases kind with
  | capabilities =>
    simp only [decodeClientSignal, map_eq_ok, decodeRtcCapabilities_holds_iff]
    constructor
    · rintro ⟨value, ⟨capabilities, hsame, hvalid, hmap⟩, rfl⟩
      exact ⟨.capabilities capabilities, hsame, rfl, hvalid, fun _ h => (by cases h), hmap⟩
    · rintro ⟨s, hsame, hkind, hvalid, _, hmap⟩
      cases s <;> cases hkind
      cases body <;> first | exact hsame.elim | exact ⟨_, ⟨_, hsame, hvalid, hmap⟩, rfl⟩
  | offer =>
    simp only [decodeClientSignal, map_eq_ok, decodeRtcOffer_holds_iff]
    constructor
    · rintro ⟨value, ⟨offer, hsame, hvalid, hshort, hmap⟩, rfl⟩
      exact ⟨.offer offer, hsame, rfl, hvalid, fun _ h => Option.some.inj h ▸ hshort, hmap⟩
    · rintro ⟨s, hsame, hkind, hvalid, hshort, hmap⟩
      cases s <;> cases hkind
      cases body <;>
        first | exact hsame.elim | exact ⟨_, ⟨_, hsame, hvalid, hshort _ rfl, hmap⟩, rfl⟩
  | answer =>
    simp only [decodeClientSignal, map_eq_ok, decodeRtcAnswer_holds_iff]
    constructor
    · rintro ⟨value, ⟨answer, hsame, hvalid, hshort, hmap⟩, rfl⟩
      exact ⟨.answer answer, hsame, rfl, hvalid, fun _ h => Option.some.inj h ▸ hshort, hmap⟩
    · rintro ⟨s, hsame, hkind, hvalid, hshort, hmap⟩
      cases s <;> cases hkind
      cases body <;>
        first | exact hsame.elim | exact ⟨_, ⟨_, hsame, hvalid, hshort _ rfl, hmap⟩, rfl⟩
  | restart =>
    simp only [decodeClientSignal, map_eq_ok, decodeRtcRestart_holds_iff]
    constructor
    · rintro ⟨value, ⟨restart, hsame, hvalid, hshort, hmap⟩, rfl⟩
      exact ⟨.restart restart, hsame, rfl, hvalid, fun _ h => Option.some.inj h ▸ hshort, hmap⟩
    · rintro ⟨s, hsame, hkind, hvalid, hshort, hmap⟩
      cases s <;> cases hkind
      cases body <;>
        first | exact hsame.elim | exact ⟨_, ⟨_, hsame, hvalid, hshort _ rfl, hmap⟩, rfl⟩
  | candidate =>
    simp only [decodeClientSignal, map_eq_ok, decodeRtcCandidate_holds_iff]
    constructor
    · rintro ⟨value, ⟨candidate, hsame, hvalid, hmap⟩, rfl⟩
      have hle := (RTCCandidate.validate_iff.mp hvalid).2.2.2.2.2.2
      exact ⟨.candidate candidate, hsame, rfl, hvalid,
        fun _ h => Option.some.inj h ▸ hle.trans hcandidate, hmap⟩
    · rintro ⟨s, hsame, hkind, hvalid, _, hmap⟩
      cases s <;> cases hkind
      cases body <;> first | exact hsame.elim | exact ⟨_, ⟨_, hsame, hvalid, hmap⟩, rfl⟩
  | cancel =>
    simp only [decodeClientSignal, map_eq_ok, decodeRtcCancel_holds_iff]
    constructor
    · rintro ⟨value, ⟨cancel, hsame, hvalid, hmap⟩, rfl⟩
      exact ⟨.cancel cancel, hsame, rfl, hvalid, fun _ h => (by cases h), hmap⟩
    · rintro ⟨s, hsame, hkind, hvalid, _, hmap⟩
      cases s <;> cases hkind
      cases body <;> first | exact hsame.elim | exact ⟨_, ⟨_, hsame, hvalid, hmap⟩, rfl⟩

theorem unmarked_keys (kind : RTCKind) : ∀ key ∈ kind.fields, ¬ Utf8.Marked key := by
  have hall : ∀ key ∈ kind.fields, key.toList.head? ≠ some Utf8.byteOrderMark := by
    cases kind <;> decide
  exact hall

theorem unmarked_iff (h : s.validate = .ok ()) :
    (∀ text ∈ (Cbor.map s.entries).texts, ¬ Utf8.Marked text) ↔
      ∀ text ∈ s.content, ¬ Utf8.Marked text := by
  have hversion : ¬ Utf8.Marked Protocol.rtcSignalingVersion :=
    (by decide : Protocol.rtcSignalingVersion.toList.head? ≠ some Utf8.byteOrderMark)
  have hwords : ∀ word ∈ ["offerer", "answerer", "cancelled", "rejected", "glare"],
      ¬ Utf8.Marked word :=
    (by decide : ∀ word ∈ ["offerer", "answerer", "cancelled", "rejected", "glare"],
      word.toList.head? ≠ some Utf8.byteOrderMark)
  have htexts : (∀ text ∈ (Cbor.map s.entries).texts, ¬ Utf8.Marked text) ↔
      ∀ entry ∈ s.entries, ∀ text ∈ entry.2.texts, ¬ Utf8.Marked text := by
    simp only [Cbor.texts, Cbor.mem_textsEntries]
    constructor
    · exact fun hall entry hentry text htext => hall text ⟨entry, hentry, .inr htext⟩
    · rintro hall text ⟨entry, hentry, rfl | htext⟩
      · exact unmarked_keys s.kind _ (s.map_fst_entries ▸ List.mem_map_of_mem hentry)
      · exact hall entry hentry text htext
  have hoffer : ∀ {offer : RTCOffer}, offer.Bounded →
      ((∀ entry ∈ Protocol.rtcOfferMap offer, ∀ text ∈ entry.2.texts, ¬ Utf8.Marked text) ↔
        ¬ Utf8.Marked offer.description) := by
    intro offer hbounded
    simp only [Protocol.rtcOfferMap, List.forall_mem_cons, forall_mem_nil, and_true, Cbor.texts,
      true_and, hbounded.version, hversion, not_false_eq_true]
  rw [htexts]
  cases s with
  | capabilities value =>
    have hversionEq := (RTCCapabilities.validate_iff.mp h).1
    simp [RTCSignal.entries, RTCSignal.content, Protocol.rtcCapabilitiesMap, Cbor.texts,
      hversionEq, hversion]
  | offer value =>
    rw [RTCSignal.entries, hoffer (Protocol.validateRTCDescription_iff.mp h).1]
    simp [RTCSignal.content]
  | answer value =>
    rw [RTCSignal.entries, Protocol.rtcAnswerMap, List.forall_mem_append,
      hoffer (RTCAnswer.validate_iff.mp h).1.1]
    simp [RTCSignal.content, Cbor.texts]
  | restart value =>
    have hdescription := hoffer (RTCRestart.validate_iff.mp h).1.1
    simp only [Protocol.rtcOfferMap, List.forall_mem_cons, forall_mem_nil, and_true] at hdescription
    simpa [RTCSignal.entries, RTCSignal.content, Protocol.rtcRestartMap, Cbor.texts]
      using hdescription
  | candidate value =>
    obtain ⟨hversionEq, _, _, hdirection, _⟩ := RTCCandidate.validate_iff.mp h
    have hword : ¬ Utf8.Marked value.direction := by
      rcases hdirection with heq | heq <;> rw [heq] <;> exact hwords _ (by simp)
    simp [RTCSignal.entries, RTCSignal.content, Protocol.rtcCandidateMap, Cbor.texts,
      hversionEq, hversion, hword]
  | cancel value =>
    obtain ⟨hversionEq, _, _, _, hreason⟩ := RTCCancel.validate_iff.mp h
    have hword : ¬ Utf8.Marked value.reason := by
      rcases hreason with heq | heq | heq <;> rw [heq] <;> exact hwords _ (by simp)
    simp [RTCSignal.entries, RTCSignal.content, Protocol.rtcCancelMap, Cbor.texts, hversionEq,
      hversion, hword]

theorem decodeClientSignal_eq_ok_iff :
    decodeClientSignal kind bytes = .ok body ↔ ∃ s : RTCSignal, SameSignal body s ∧
      s.kind = kind ∧ s.encode = .ok bytes ∧ ReadableContent s := by
  have hreads : ∀ s : RTCSignal, s.validate = .ok () →
      (∀ text ∈ s.content, text.utf8ByteSize ≤ maxCborTextBytes) →
      ((∃ map, strictMap bytes (clientLabel s.kind) s.kind.fields = .ok map ∧
        Holds map s.entries) ↔
        s.encode = .ok bytes ∧ ∀ text ∈ s.content, ¬ Utf8.Marked text) := by
    intro s hvalid hshort
    have hbody : maxRtcSignalingBodyBytes = Protocol.maxApplicationControlBodyBytes := rfl
    have hfits : Cbor.Fits tsRules (.map s.entries) :=
      RTCSignal.fits hvalid roomy_tsRules fun text htext => ⟨rfl, hshort text htext⟩
    rw [← s.map_fst_entries, strictMap_holds_iff hfits s.flat_entries, unmarked_iff hvalid,
      RTCSignal.encode_eq_ok_iff, hbody]
    constructor
    · exact fun ⟨hsize, hunmarked, hbytes⟩ => ⟨⟨hvalid, hsize, hbytes⟩, hunmarked⟩
    · exact fun ⟨⟨_, hsize, hbytes⟩, hunmarked⟩ => ⟨hsize, hunmarked, hbytes⟩
  rw [decodeClientSignal_holds_iff]
  constructor
  · rintro ⟨s, hsame, rfl, hvalid, hshort, hmap⟩
    obtain ⟨hencode, hunmarked⟩ := (hreads s hvalid hshort).mp hmap
    exact ⟨s, hsame, rfl, hencode, fun text htext => ⟨hshort text htext, hunmarked text htext⟩⟩
  · rintro ⟨s, hsame, rfl, hencode, hreadable⟩
    have hvalid := (RTCSignal.encode_eq_ok_iff.mp hencode).1
    have hshort : ∀ text ∈ s.content, text.utf8ByteSize ≤ maxCborTextBytes :=
      fun text htext => (hreadable text htext).1
    exact ⟨s, hsame, rfl, hvalid, hshort,
      (hreads s hvalid hshort).mpr ⟨hencode, fun text htext => (hreadable text htext).2⟩⟩

/-- Both decoders reject the bytes, or both return the same signal. -/
structure SignalDecodersAgree (kind : RTCKind) (bytes : List UInt8) : Prop where
  relay : ∀ s, Protocol.decodeRTC kind bytes = .ok s →
    ∃ body, decodeClientSignal kind bytes = .ok body ∧ SameSignal body s
  client : ∀ body, decodeClientSignal kind bytes = .ok body →
    ∃ s, Protocol.decodeRTC kind bytes = .ok s ∧ SameSignal body s

theorem exists_sameSignal (h : s.validate = .ok ()) : ∃ body, SameSignal body s := by
  cases s with
  | capabilities value => exact ⟨.capabilities ⟨_, _, _, _⟩, rfl, rfl, rfl, rfl⟩
  | offer value => exact ⟨.offer ⟨_, _, _, _, _, _⟩, rfl, rfl, rfl, rfl, rfl, rfl⟩
  | answer value =>
    exact ⟨.answer ⟨⟨_, _, _, _, _, _⟩, _⟩, ⟨rfl, rfl, rfl, rfl, rfl, rfl⟩, rfl⟩
  | restart value =>
    exact ⟨.restart ⟨⟨_, _, _, _, _, _⟩, _⟩, ⟨rfl, rfl, rfl, rfl, rfl, rfl⟩, rfl⟩
  | candidate value =>
    obtain ⟨direction, hdirection⟩ :
        ∃ direction, directionText direction = value.direction := by
      rcases (RTCCandidate.validate_iff.mp h).2.2.2.1 with heq | heq
      · exact ⟨.offerer, heq.symm⟩
      · exact ⟨.answerer, heq.symm⟩
    exact ⟨.candidate ⟨_, _, _, direction, _, _⟩, rfl, rfl, rfl, hdirection, rfl, rfl⟩
  | cancel value =>
    obtain ⟨reason, hreason⟩ : ∃ reason, cancelReasonText reason = value.reason := by
      rcases (RTCCancel.validate_iff.mp h).2.2.2.2 with heq | heq | heq
      · exact ⟨.cancelled, heq.symm⟩
      · exact ⟨.rejected, heq.symm⟩
      · exact ⟨.glare, heq.symm⟩
    exact ⟨.cancel ⟨_, _, _, _, reason⟩, rfl, rfl, rfl, rfl, hreason⟩

/-- The decoders differ on the signals whose content the client does not read, and on nothing
else. -/
theorem signalDecodersAgree_iff (kind : RTCKind) (bytes : List UInt8) :
    SignalDecodersAgree kind bytes ↔
      ∀ s : RTCSignal, s.kind = kind → s.encode = .ok bytes → ReadableContent s := by
  constructor
  · intro hagree s hkind hencode
    have hdecode := Protocol.decodeRTC_eq_ok_iff.mpr ⟨hkind, hencode⟩
    obtain ⟨body, hclient, _⟩ := hagree.relay s hdecode
    obtain ⟨s', _, hkind', hencode', hreadable⟩ := decodeClientSignal_eq_ok_iff.mp hclient
    have hdecode' := Protocol.decodeRTC_eq_ok_iff.mpr ⟨hkind', hencode'⟩
    rwa [Except.ok.inj (hdecode.symm.trans hdecode')]
  · intro hreadable
    constructor
    · intro s hrelay
      obtain ⟨hkind, hencode⟩ := Protocol.decodeRTC_eq_ok_iff.mp hrelay
      obtain ⟨body, hsame⟩ := exists_sameSignal (RTCSignal.encode_eq_ok_iff.mp hencode).1
      exact ⟨body, decodeClientSignal_eq_ok_iff.mpr
        ⟨s, hsame, hkind, hencode, hreadable s hkind hencode⟩, hsame⟩
    · intro body hclient
      obtain ⟨s, hsame, hkind, hencode, _⟩ := decodeClientSignal_eq_ok_iff.mp hclient
      exact ⟨s, Protocol.decodeRTC_eq_ok_iff.mpr ⟨hkind, hencode⟩, hsame⟩

def relayOffer (description : String) (hash : List UInt8) : RTCOffer where
  version := Protocol.rtcSignalingVersion
  rtcSessionID := List.replicate 16 0
  generation := 0
  description := description
  descriptionSHA256 := hash
  dtlsFingerprintSHA256 := List.replicate 32 0

variable {description : String} {hash : List UInt8}

theorem validate_relayOffer (hne : description ≠ "")
    (hle : description.utf8ByteSize ≤ Protocol.maxRTCDescriptionBytes) (hlength : hash.length = 32)
    (hhash : hash = (Sha256.sum256 (Utf8.bytes description)).toList) :
    (RTCSignal.offer (relayOffer description hash)).validate = .ok () := by
  have hbounded : (relayOffer description hash).Bounded :=
    ⟨rfl, List.length_replicate, Nat.zero_le _, hne, hle, hlength, List.length_replicate⟩
  exact Protocol.validateRTCDescription_iff.mpr ⟨hbounded, hhash⟩

theorem encode_relayOffer (hne : description ≠ "")
    (hle : description.utf8ByteSize ≤ Protocol.maxRTCDescriptionBytes) (hlength : hash.length = 32)
    (hhash : hash = (Sha256.sum256 (Utf8.bytes description)).toList) :
    ∃ bytes, (RTCSignal.offer (relayOffer description hash)).encode = .ok bytes := by
  have hvalid := validate_relayOffer hne hle hlength hhash
  have hsize := Cbor.length_encode_sortKeys (RTCSignal.fits_rtcRules hvalid)
  rw [Cbor.sortKeys_record (RTCSignal.flat_entries _)] at hsize
  have hdescription := Cbor.length_head_mono 3 hle
  have hmax : (Cbor.head 3 Protocol.maxRTCDescriptionBytes).length = 3 := by decide
  have hversion : (Cbor.encodeText Protocol.rtcSignalingVersion).length = 30 := by decide
  have hkeys : (RTCKind.offer.fields.map fun key => (Cbor.encodeText key).length) =
      [8, 15, 11, 12, 19, 24] := by decide
  simp only [RTCKind.fields, List.map_cons, List.map_nil, List.cons.injEq, and_true] at hkeys
  obtain ⟨hkey, hkey', hkey'', hkey₃, hkey₄, hkey₅⟩ := hkeys
  have hhead : (Cbor.head 5 6).length = 1 := by decide
  have hid : (Cbor.head 2 16).length = 1 := by decide
  have hdigest : (Cbor.head 2 32).length = 2 := by decide
  have hzero : (Cbor.head 0 0).length = 1 := by decide
  have hbound : Protocol.maxRTCDescriptionBytes = 1536 := rfl
  refine ⟨_, RTCSignal.encode_eq_ok_iff.mpr ⟨hvalid, ?_, rfl⟩⟩
  rw [hsize]
  simp only [RTCSignal.entries, Protocol.rtcOfferMap, relayOffer, Cbor.encode, Cbor.encodeEntries,
    List.length_append, List.length_cons, List.length_nil, List.length_replicate, hlength, hkey, hkey', hkey'', hkey₃, hkey₄, hkey₅, hhead, hid, hdigest, hzero,
    hversion, Nat.zero_add, Nat.reduceAdd, Protocol.maxApplicationControlBodyBytes]
  simp only [Cbor.encodeText, List.length_append, Utf8.length_bytes]
  omega

/-- The relay takes a description of 1025 bytes that the client rejects. -/
theorem not_signalDecodersAgree :
    ¬ ∀ kind bytes, SignalDecodersAgree kind bytes := by
  intro hall
  obtain ⟨description, hsize⟩ : ∃ description : String, description.utf8ByteSize = 1025 :=
    ⟨String.ofList (List.replicate 1025 'a'), by decide +kernel⟩
  have hne : description ≠ "" := by
    rintro rfl
    cases hsize
  have hle : description.utf8ByteSize ≤ Protocol.maxRTCDescriptionBytes := by
    rw [hsize]
    decide
  obtain ⟨hash, hhash⟩ :
      ∃ hash, hash = (Sha256.sum256 (Utf8.bytes description)).toList := ⟨_, rfl⟩
  have hlength : hash.length = 32 := by
    rw [hhash]
    exact Vector.length_toList
  obtain ⟨bytes, hencode⟩ := encode_relayOffer hne hle hlength hhash
  have hdecode := Protocol.decodeRTC_eq_ok_iff.mpr ⟨rfl, hencode⟩
  obtain ⟨body, hclient, _⟩ := (hall .offer bytes).relay _ hdecode
  obtain ⟨s, _, hkind, hencode', hreadable⟩ := decodeClientSignal_eq_ok_iff.mp hclient
  have hdecode' := Protocol.decodeRTC_eq_ok_iff.mpr ⟨hkind, hencode'⟩
  obtain rfl := Except.ok.inj (hdecode.symm.trans hdecode')
  have hshort : description.utf8ByteSize ≤ maxCborTextBytes := (hreadable _ rfl).1
  have hmax : maxCborTextBytes = 1024 := rfl
  omega

end Codecs

end Branch.Agreement
