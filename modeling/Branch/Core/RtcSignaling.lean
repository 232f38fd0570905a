import Branch.Core.Attachment
import Branch.Lib.Sha256

/-!
The controls by which two peers set up a direct connection.
-/

namespace Branch.Core

open Branch.Lib

def rtcSignalingVersion : String := "branch.rtc.signaling/0.draft"
def maxRtcDescriptionBytes : Nat := 1536
def maxRtcCandidateBytes : Nat := 1024
def maxRtcCandidatesPerDirection : Nat := 32
def rtcSignalingControlTTLms : Nat := 60000

inductive RtcCandidateDirection where
  | offerer
  | answerer
  deriving DecidableEq

inductive RtcCancelReason where
  | cancelled
  | rejected
  | glare
  deriving DecidableEq

structure RtcOffer where
  version : String := rtcSignalingVersion
  rtcSessionId : String
  generation : Nat
  description : String
  descriptionSHA256 : String
  dtlsFingerprintSHA256 : String
  deriving DecidableEq

structure RtcAnswer extends RtcOffer where
  offerDescriptionSHA256 : String
  deriving DecidableEq

structure RtcCandidate where
  version : String := rtcSignalingVersion
  rtcSessionId : String
  generation : Nat
  direction : RtcCandidateDirection
  descriptionSHA256 : String
  candidate : String
  deriving DecidableEq

structure RtcCancel where
  version : String := rtcSignalingVersion
  rtcSessionId : String
  generation : Nat
  descriptionSHA256 : String
  reason : RtcCancelReason
  deriving DecidableEq

def validGeneration (value : Nat) : Bool := value ≤ 65535

def validBoundedUtf8 (value : String) (maximumBytes : Nat) : Bool :=
  value ≠ "" && value.utf8ByteSize ≤ maximumBytes

def rtcDescriptionSHA256 (description : String) : Except String String :=
  if ¬ validBoundedUtf8 description maxRtcDescriptionBytes then .error "invalid rtc description"
  else .ok (Base64.encode (Sha256.sum256 (Utf8.bytes description)).toList)

def validateRtcDescription (value : RtcOffer) (label : String) : Except String Unit := do
  throwIf (value.version ≠ rtcSignalingVersion ∨ ¬ validToken value.rtcSessionId 16 ∨
    ¬ validGeneration value.generation ∨
    ¬ validBoundedUtf8 value.description maxRtcDescriptionBytes ∨
    ¬ validToken value.descriptionSHA256 32 ∨ ¬ validToken value.dtlsFingerprintSHA256 32)
    ("invalid rtc " ++ label)
  let digest ← rtcDescriptionSHA256 value.description
  throwIf (digest ≠ value.descriptionSHA256) ("rtc " ++ label ++ " description hash mismatch")

def validateRtcOffer (value : RtcOffer) : Except String Unit :=
  validateRtcDescription value "offer"

def validateRtcAnswer (value : RtcAnswer) : Except String Unit := do
  validateRtcDescription value.toRtcOffer "answer"
  throwIf (¬ validToken value.offerDescriptionSHA256 32) "invalid offer description hash"

def validateRtcCandidate (value : RtcCandidate) : Except String Unit :=
  throwIf (value.version ≠ rtcSignalingVersion ∨ ¬ validToken value.rtcSessionId 16 ∨
    ¬ validGeneration value.generation ∨ ¬ validToken value.descriptionSHA256 32 ∨
    ¬ validBoundedUtf8 value.candidate maxRtcCandidateBytes) "invalid rtc candidate"

end Branch.Core
