import Branch.Core.Attachment

/-!
The frames of a direct data channel between two peers.
-/

namespace Branch.Core

def rtcDataVersion : String := "branch.rtc.data/0.draft"
def maxRtcDataCiphertextBytes : Nat := 6 * 1024

structure RtcData where
  version : String := rtcDataVersion
  rtcSessionId : String
  originRouteId : String
  pathEpoch : Nat
  streamId : Nat
  deliveryId : String
  ackRequested : Bool
  ciphertext : String
  deriving DecidableEq

structure RtcAdmit where
  version : String := rtcDataVersion
  rtcSessionId : String
  deliveryId : String
  deriving DecidableEq

inductive RtcDataFrame where
  | data (value : RtcData)
  | admission (value : RtcAdmit)
  deriving DecidableEq

def validCiphertext (value : String) : Bool :=
  match decodeBase64URL value.toList with
  | .error _ => false
  | .ok bytes => bytes.length ≠ 0 && bytes.length ≤ maxRtcDataCiphertextBytes

def validateRtcData (value : RtcData) : Bool :=
  value.version = rtcDataVersion && validToken value.rtcSessionId 16 &&
    validToken value.originRouteId 16 && value.pathEpoch ≤ maxSafeInteger &&
    value.streamId ≤ maxSafeInteger && validToken value.deliveryId 16 &&
    validCiphertext value.ciphertext

def validateRtcAdmit (value : RtcAdmit) : Bool :=
  value.version = rtcDataVersion && validToken value.rtcSessionId 16 &&
    validToken value.deliveryId 16

def RtcDataFrame.valid : RtcDataFrame → Bool
  | data value => validateRtcData value
  | admission value => validateRtcAdmit value

theorem ciphertext_of_validateRtcData {value : RtcData} (h : validateRtcData value = true) :
    ∃ bytes, decodeBase64URL value.ciphertext.toList = .ok bytes ∧ bytes ≠ [] := by
  have hvalid : validCiphertext value.ciphertext = true := by
    simp only [validateRtcData, Bool.and_eq_true] at h
    exact h.2
  unfold validCiphertext at hvalid
  split at hvalid
  · cases hvalid
  · rename_i bytes heq
    refine ⟨bytes, heq, ?_⟩
    rintro rfl
    simp at hvalid

end Branch.Core
