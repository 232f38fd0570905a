import Branch.Core.Cbor
import Branch.Protocol.CborDecode

/-!
The CBOR decoders of the relay and of the client on one input.
-/

namespace Branch.Agreement

open Branch.Lib

theorem maxDraftStringBytes_le : Protocol.maxDraftStringBytes ≤ 2 ^ 64 - 1 := by decide

/-- The limits that both decoders have, and none of those that only one has. -/
def sharedRules : Cbor.Rules where
  maxArgument := 2 ^ 64 - 1
  maxBytes := Protocol.maxDecodedCBORBytes
  maxTextBytes := Protocol.maxDraftStringBytes
  maxEntries := Protocol.maxDecodedCBOREntries
  textOk := fun _ => true
  text := id
  maxArgument_lt := Protocol.maxUint64_lt
  maxBytes_le := Protocol.maxDecodedCBORBytes_le
  maxTextBytes_le := maxDraftStringBytes_le
  maxEntries_le := Protocol.maxDecodedCBOREntries_le

/-- The input is the deterministic encoding of the value, within the shared limits. -/
def Canonical (input : List UInt8) (v : Cbor) : Prop :=
  (input.length ≠ 0 ∧ input.length ≤ Protocol.maxDraftEnvelopeBytes) ∧
    Cbor.Wire sharedRules v ∧ Cbor.encode v = input

variable {input : List UInt8}

theorem canonical_iff_read {v : Cbor} :
    Canonical input v ↔ (input.length ≠ 0 ∧ input.length ≤ Protocol.maxDraftEnvelopeBytes) ∧
      Cbor.read sharedRules input.length input = some (v, []) := by
  have hid : ∀ w : Cbor, Cbor.mapText sharedRules.text w = w :=
    fun w => Cbor.mapText_eq_self_iff.mpr fun _ _ => rfl
  rw [Cbor.read_eq_some_iff]
  constructor
  · rintro ⟨hsize, hwire, rfl⟩
    exact ⟨hsize, v, hwire, Cbor.depth_le_length_encode v, hid v, by simp⟩
  · rintro ⟨hsize, w, hwire, _, hw, hinput⟩
    rw [hid] at hw
    subst hw
    exact ⟨hsize, hwire, by simp [hinput]⟩

theorem eq_of_canonical {v w : Cbor} (hv : Canonical input v)
    (hw : Cbor.read sharedRules input.length input = some (w, [])) : v = w := by
  have hread := (canonical_iff_read.mp hv).2
  rw [hw] at hread
  exact (Prod.mk.inj (Option.some.inj hread)).1.symm

theorem Canonical.unique {v w : Cbor} (hv : Canonical input v)
    (hw : Canonical input w) : v = w :=
  eq_of_canonical hv (canonical_iff_read.mp hw).2

/-- The integers of the input, if it is the encoding of a value, are safe integers. -/
def SafeIntegers (input : List UInt8) : Prop :=
  ∀ v, Canonical input v → ∀ n ∈ v.uints, n ≤ Core.maxSafeInteger

theorem relay_accepts_iff {v : Cbor} :
    Protocol.decodeDeterministicCBOR input = .ok v ↔
      Canonical input v ∧ v.depth ≤ Protocol.maxDeterministicCBORNestingDepth ∧
        "" ∉ v.texts := by
  have hlimit : Protocol.maxDraftStringBytes ≤ Protocol.maxDecodedCBORBytes := by decide
  rw [Protocol.decodeDeterministicCBOR,
    Protocol.decodeDeterministicCBORWithTextLimit_eq_ok_iff (by decide) hlimit]
  constructor
  · rintro ⟨hsize, hwire, hdepth, hinput⟩
    refine ⟨⟨hsize, hwire.transfer sharedRules le_rfl le_rfl hwire.uints_le fun s hs =>
      ⟨⟨rfl, (hwire.textOk s hs).2⟩, rfl⟩, hinput⟩, hdepth, ?_⟩
    intro hempty
    have := (hwire.textOk "" hempty).1
    simp [Protocol.goRules] at this
  · rintro ⟨⟨hsize, hwire, hinput⟩, hdepth, hempty⟩
    refine ⟨hsize, hwire.transfer _ le_rfl le_rfl hwire.uints_le ?_, hdepth, hinput⟩
    intro s hs
    have hne : s ≠ "" := fun heq => hempty (heq ▸ hs)
    exact ⟨⟨by simpa [Protocol.goRules] using hne, (hwire.textOk s hs).2⟩, rfl⟩

theorem client_accepts_iff {v : Cbor} :
    Core.decodeDeterministicCbor input Protocol.maxDraftEnvelopeBytes = .ok v ↔
      Canonical input v ∧ (∀ n ∈ v.uints, n ≤ Core.maxSafeInteger) ∧
        ∀ s ∈ v.texts, ¬ Utf8.Marked s := by
  rw [Core.decodeDeterministicCbor_eq_ok_iff]
  constructor
  · rintro ⟨hsize, hwire, hunmarked, hinput⟩
    have huints := hwire.uints_le
    refine ⟨⟨hsize, hwire.transfer sharedRules le_rfl le_rfl ?_ fun s hs =>
      ⟨⟨rfl, (hwire.textOk s hs).2⟩, rfl⟩, hinput⟩, huints, hunmarked⟩
    exact fun n hn => (huints n hn).trans (by decide)
  · rintro ⟨⟨hsize, hwire, hinput⟩, huints, hunmarked⟩
    refine ⟨hsize, hwire.transfer _ le_rfl le_rfl huints fun s hs =>
      ⟨⟨rfl, (hwire.textOk s hs).2⟩, ?_⟩, hunmarked, hinput⟩
    exact Utf8.dropByteOrderMark_of_not_marked (hunmarked s hs)

/-- Both reject the input, or both accept it with the same value. -/
def DecodersAgree (input : List UInt8) : Prop :=
  (Protocol.decodeDeterministicCBOR input).toOption =
    (Core.decodeDeterministicCbor input Protocol.maxDraftEnvelopeBytes).toOption

/-- The decoders disagree on a value that only the depth and the empty texts of the relay
exclude, and on one that only the byte order marks of the client exclude. -/
theorem decodersAgree_iff {input : List UInt8} (hsafe : SafeIntegers input) :
    DecodersAgree input ↔
      ∀ v, Canonical input v →
        ((v.depth ≤ Protocol.maxDeterministicCBORNestingDepth ∧ "" ∉ v.texts) ↔
          ∀ s ∈ v.texts, ¬ Utf8.Marked s) := by
  constructor
  · intro h v hv
    have hsame : Protocol.decodeDeterministicCBOR input = .ok v ↔
        Core.decodeDeterministicCbor input Protocol.maxDraftEnvelopeBytes = .ok v := by
      rw [← toOption_eq_some_iff, h, toOption_eq_some_iff]
    rw [relay_accepts_iff, client_accepts_iff] at hsame
    constructor
    · exact fun hrelay => (hsame.mp ⟨hv, hrelay⟩).2.2
    · exact fun hclient => (hsame.mpr ⟨hv, hsafe v hv, hclient⟩).2
  · intro h
    apply Option.ext
    intro v
    rw [toOption_eq_some_iff, toOption_eq_some_iff, relay_accepts_iff, client_accepts_iff]
    constructor
    · exact fun ⟨hv, hrelay⟩ => ⟨hv, hsafe v hv, (h v hv).mp hrelay⟩
    · exact fun ⟨hv, _, hclient⟩ => ⟨hv, (h v hv).mpr hclient⟩

theorem decodersAgree_on_integer : SafeIntegers [0x05] ∧ DecodersAgree [0x05] := by
  have hvalue : ∀ v, Canonical [0x05] v → v = .uint 5 := fun v hv => eq_of_canonical hv rfl
  have hsafe : SafeIntegers [0x05] := by
    intro v hv
    obtain rfl := hvalue v hv
    decide
  refine ⟨hsafe, (decodersAgree_iff hsafe).mpr fun v hv => ?_⟩
  obtain rfl := hvalue v hv
  simp [Cbor.depth, Cbor.texts]

def nineArrays : List UInt8 := [0x81, 0x81, 0x81, 0x81, 0x81, 0x81, 0x81, 0x81, 0x80]

theorem not_decodersAgree_nineArrays :
    SafeIntegers nineArrays ∧ ¬ DecodersAgree nineArrays := by
  have hrelay : Protocol.decodeDeterministicCBOR nineArrays = .error .invalidCBOR := rfl
  have hclient : Core.decodeDeterministicCbor nineArrays Protocol.maxDraftEnvelopeBytes =
      .ok (Nat.repeat (fun v => .array [v]) 8 (.array [])) := rfl
  constructor
  · intro v hv
    obtain rfl := eq_of_canonical hv rfl
    decide
  · intro h
    rw [DecodersAgree, hrelay, hclient] at h
    cases h

theorem roomy_tsRules : Protocol.Roomy Core.tsRules where
  argument := le_rfl
  bytes := le_rfl
  entries := le_rfl
  texts := fun _ _ hsize => ⟨rfl, hsize⟩

end Branch.Agreement
