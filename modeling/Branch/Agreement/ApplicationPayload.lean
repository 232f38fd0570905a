import Branch.Core.ApplicationPayload

/-!
The round trip of an application's payload in the codecs of relay and client.
-/

namespace Branch.Agreement

open Branch.Lib
open Branch.Core.ApplicationPayload (ApplicationPayloadEnvelope)
open Branch.Protocol (ApplicationPayload)

/-- Either codec returns what it has encoded if and only if kind, message id and length are as
its decoder wants them. -/
theorem decode_encode_applicationPayload_iff (encoded : List UInt8) :
    (∀ payload : ApplicationPayload, Protocol.encodeApplicationPayload payload = .ok encoded →
      (Protocol.decodeApplicationPayload encoded = .ok payload ↔ payload.Returns)) ∧
    ∀ envelope : ApplicationPayloadEnvelope,
      Core.ApplicationPayload.encodeApplicationPayload envelope = .ok encoded →
        (Core.ApplicationPayload.decodeApplicationPayload encoded = .ok envelope ↔ envelope.Returns) :=
  ⟨fun _ h => Protocol.decodeApplicationPayload_eq_ok_iff h,
    fun _ h => Core.ApplicationPayload.decodeApplicationPayload_eq_ok_iff h⟩

def payloadOfSize (size : Nat) : ApplicationPayload where
  version := Utf8.bytes Protocol.applicationPayloadVersion
  kind := Utf8.bytes "k"
  messageID := List.replicate 16 0
  body := List.replicate size 0

def envelopeOfSize (size : Nat) : ApplicationPayloadEnvelope where
  version := Protocol.applicationPayloadVersion
  kind := Utf16.units "k"
  messageId := Base64.encode (List.replicate 16 0)
  body := List.replicate size 0

theorem valid_payloadOfSize {size : Nat} (hpos : size ≠ 0)
    (hle : size ≤ Protocol.maxApplicationPayloadBytes) : (payloadOfSize size).Valid where
  version := rfl
  kind := (by decide : (Utf8.bytes "k").length ≠ 0)
  kind_le := (by decide : (Utf8.bytes "k").length ≤ 96)
  messageID := rfl
  body := by rwa [payloadOfSize, List.length_replicate]
  body_le := by rwa [payloadOfSize, List.length_replicate]

theorem valid_envelopeOfSize {size : Nat} (hpos : size ≠ 0)
    (hle : size ≤ Protocol.maxApplicationPayloadBytes) :
    (envelopeOfSize size).Valid (List.replicate 16 0) := by
  have hid : Core.decodeBase64URL (Base64.encode (List.replicate 16 0)).toList =
      .ok (List.replicate 16 0) := by
    decide +kernel
  have hlength : (envelopeOfSize size).body.length = size := List.length_replicate
  exact ⟨rfl, (by decide +kernel : (Core.textEncode (Utf16.units "k")).length ≠ 0),
    (by decide +kernel : (Core.textEncode (Utf16.units "k")).length ≤ 96), by rwa [hlength],
    by rwa [hlength], hid, List.length_replicate⟩

theorem decode_encode_applicationPayload_iff_small :
    (∃ encoded, Protocol.encodeApplicationPayload (payloadOfSize 3) = .ok encoded ∧
      (Protocol.decodeApplicationPayload encoded = .ok (payloadOfSize 3) ↔
        (payloadOfSize 3).Returns)) ∧
    ∃ encoded, Core.ApplicationPayload.encodeApplicationPayload (envelopeOfSize 3) = .ok encoded ∧
      (Core.ApplicationPayload.decodeApplicationPayload encoded = .ok (envelopeOfSize 3) ↔
        (envelopeOfSize 3).Returns) := by
  have hpayload := (@valid_payloadOfSize 3 (by decide) (by decide)).encode_eq
  have henvelope := (@valid_envelopeOfSize 3 (by decide) (by decide)).encode_eq
  exact ⟨⟨_, hpayload, (decode_encode_applicationPayload_iff _).1 _ hpayload⟩,
    ⟨_, henvelope, (decode_encode_applicationPayload_iff _).2 _ henvelope⟩⟩

/-- Either codec encodes a body of 4096 bytes and does not take the encoding back. -/
theorem not_decode_encode_applicationPayload_large :
    (¬ ∀ (payload : ApplicationPayload) (encoded : List UInt8),
      Protocol.encodeApplicationPayload payload = .ok encoded →
        Protocol.decodeApplicationPayload encoded = .ok payload) ∧
    ¬ ∀ (envelope : ApplicationPayloadEnvelope) (encoded : List UInt8),
      Core.ApplicationPayload.encodeApplicationPayload envelope = .ok encoded →
        Core.ApplicationPayload.decodeApplicationPayload encoded = .ok envelope := by
  have hlarge : ∀ kind, Protocol.maxApplicationPayloadBytes <
      Protocol.applicationPayloadSize kind 4096 := by
    intro kind
    have hmax : Protocol.maxApplicationPayloadBytes = 4096 := rfl
    rw [Protocol.applicationPayloadSize]
    omega
  constructor
  · intro hall
    have hencode := (@valid_payloadOfSize 4096 (by decide) (by decide)).encode_eq
    have hreturns :=
      (Protocol.decodeApplicationPayload_eq_ok_iff hencode).mp (hall _ _ hencode)
    have hsize := hreturns.2
    rw [payloadOfSize, List.length_replicate] at hsize
    exact Nat.not_le_of_lt (hlarge _) hsize
  · intro hall
    have hencode := (@valid_envelopeOfSize 4096 (by decide) (by decide)).encode_eq
    have hreturns := (Core.ApplicationPayload.decodeApplicationPayload_eq_ok_iff hencode).mp (hall _ _ hencode)
    have hsize := hreturns.size
    rw [envelopeOfSize, List.length_replicate] at hsize
    exact Nat.not_le_of_lt (hlarge _) hsize

end Branch.Agreement
