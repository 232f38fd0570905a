import Branch.Agreement.IdentityContact

/-!
The wrappers of one signed event. Caches and refreshes compare wrappers as texts, and take two
of them for equivocation.
-/

namespace Branch.Agreement

open Branch.Lib
open Branch.Protocol (SignedEvent)

section Spelling

def spelling (signed : List UInt8) : List UInt8 :=
  Utf8.bytes Protocol.branchTextWrapperPrefix ++ Utf8.encode (Base64.encodeBytes signed)

theorem wrapped_of_length {input signed : List UInt8} (h : Wrapped input signed)
    (hlength : signed.length % 3 = 0) : input = spelling signed := by
  obtain ⟨body, _, hwrapping, hdecode⟩ := h
  rw [spelling, ← Base64.eq_encodeBytes hdecode hlength, hwrapping]

theorem exists_other_wrapped {input signed : List UInt8} (h : Wrapped input signed)
    (hlength : signed.length % 3 ≠ 0) :
    ∃ other, other ≠ input ∧ other.length = input.length ∧ Wrapped other signed := by
  obtain ⟨body, hne, hwrapping, hdecode⟩ := h
  obtain ⟨other, hother, hsize, hsame⟩ := Base64.exists_other_decodeStrict hdecode hlength
  have hnil : other ≠ [] := by
    rw [← List.length_pos_iff, hsize]
    exact List.length_pos_iff.mpr hne
  refine ⟨Utf8.bytes Protocol.branchTextWrapperPrefix ++ Utf8.encode other, ?_, ?_,
    other, hnil, rfl, hsame⟩
  · rw [hwrapping]
    exact fun heq => hother (Utf8.encode_injective (List.append_cancel_left heq))
  · rw [hwrapping, List.length_append, List.length_append, Base64.length_encode_of_decodeStrict hsame,
      Base64.length_encode_of_decodeStrict hdecode, hsize]

theorem spelled_append_lineBreak {input signed : List UInt8} (h : Spelled input signed) :
    Spelled (input ++ [10]) signed := by
  obtain ⟨body, hwrapping, hdecode⟩ := h
  refine ⟨body ++ ['\n'], ?_, (Base64.decodeChars_append_lineBreak body).trans hdecode⟩
  rw [Wrapping, hwrapping, Utf8.encode, Utf8.encode, List.flatMap_append, List.append_assoc]
  rfl

end Spelling

section Accepted

inductive RecordKind
  | bootstrapBeacon
  | identityContact
  deriving DecidableEq

variable (urlParse : String → Option Protocol.ParsedURL)
  (verify : List UInt8 → List UInt8 → List UInt8 → Bool) (clock now : Int)
  (minimumSequence : Nat)

def acceptedBytes (kind : RecordKind) (input : List UInt8) : Option (List UInt8) :=
  match kind with
  | .bootstrapBeacon => (relayBeacon urlParse verify clock now input).map (·.signedEventBytes)
  | .identityContact =>
    (relayContact urlParse verify clock now minimumSequence input).map (·.signedEventBytes)

/-- The wrapper is the encoder's, and no other one with its signed bytes is accepted. -/
def UniqueSpelling (kind : RecordKind) (input signed : List UInt8) : Prop :=
  input = spelling signed ∧
    ∀ other, acceptedBytes urlParse verify clock now minimumSequence kind other = some signed →
      other = input

variable {urlParse verify clock now minimumSequence} {input signed : List UInt8}

theorem acceptedBytes_beacon_iff :
    acceptedBytes urlParse verify clock now minimumSequence .bootstrapBeacon input =
        some signed ↔
      (Wrapped input signed ∧ input.length ≤ Protocol.maxDraftEnvelopeBytes) ∧
        ∃ beacon, Protocol.readSignedBootstrapBeacon urlParse verify (relayNow clock now) 300
          [Protocol.developmentProfileMultihash] signed = .ok beacon := by
  have hsigned : ∀ {signed beacon}, Protocol.readSignedBootstrapBeacon urlParse verify
      (relayNow clock now) 300 [Protocol.developmentProfileMultihash] signed = .ok beacon →
      beacon.signedEventBytes = signed := by
    intro signed beacon hread
    obtain ⟨m, hbeacon, _⟩ := relay_readSignedBootstrapBeacon_eq_ok_iff.mp hread
    exact hbeacon.signed_eq
  simp only [acceptedBytes, Option.map_eq_some_iff, relayBeacon_eq_some_iff]
  constructor
  · rintro ⟨beacon, ⟨signed', hwrapped, hsize, hread⟩, rfl⟩
    obtain rfl := hsigned hread
    exact ⟨⟨hwrapped, hsize⟩, beacon, hread⟩
  · rintro ⟨⟨hwrapped, hsize⟩, beacon, hread⟩
    exact ⟨beacon, ⟨signed, hwrapped, hsize, hread⟩, hsigned hread⟩

theorem acceptedBytes_contact_iff :
    acceptedBytes urlParse verify clock now minimumSequence .identityContact input =
        some signed ↔
      Spelled input signed ∧
        ∃ contact, Protocol.readSignedIdentityContact urlParse verify (relayNow clock now) 300
          [Protocol.developmentProfileMultihash] minimumSequence signed = .ok contact := by
  have hsigned : ∀ {signed contact}, Protocol.readSignedIdentityContact urlParse verify
      (relayNow clock now) 300 [Protocol.developmentProfileMultihash] minimumSequence signed =
        .ok contact → contact.signedEventBytes = signed := by
    intro signed contact hread
    obtain ⟨m, texts, contact', hcontact, _, _, rfl⟩ :=
      relay_readSignedIdentityContact_eq_ok_iff.mp hread
    exact hcontact.signed_eq
  simp only [acceptedBytes, Option.map_eq_some_iff, relayContact_eq_some_iff]
  constructor
  · rintro ⟨contact, ⟨signed', hspelled, hread⟩, rfl⟩
    obtain rfl := hsigned hread
    exact ⟨hspelled, contact, hread⟩
  · rintro ⟨hspelled, contact, hread⟩
    exact ⟨contact, ⟨signed, hspelled, hread⟩, hsigned hread⟩

/-- Only a beacon whose signed bytes leave no bits of the last character unused has one
accepted wrapper. -/
theorem uniqueSpelling_iff {kind : RecordKind}
    (h : acceptedBytes urlParse verify clock now minimumSequence kind input = some signed) :
    UniqueSpelling urlParse verify clock now minimumSequence kind input signed ↔
      kind = .bootstrapBeacon ∧ signed.length % 3 = 0 := by
  cases kind with
  | bootstrapBeacon =>
    obtain ⟨⟨hwrapped, hsize⟩, hread⟩ := acceptedBytes_beacon_iff.mp h
    constructor
    · rintro ⟨_, hunique⟩
      refine ⟨rfl, by_contra fun hlength => ?_⟩
      obtain ⟨other, hne, hsame, hother⟩ := exists_other_wrapped hwrapped hlength
      exact hne (hunique other (acceptedBytes_beacon_iff.mpr
        ⟨⟨hother, hsame.trans_le hsize⟩, hread⟩))
    · rintro ⟨_, hlength⟩
      refine ⟨wrapped_of_length hwrapped hlength, fun other hother => ?_⟩
      obtain ⟨⟨hotherWrapped, _⟩, _⟩ := acceptedBytes_beacon_iff.mp hother
      rw [wrapped_of_length hotherWrapped hlength, wrapped_of_length hwrapped hlength]
  | identityContact =>
    obtain ⟨hspelled, hread⟩ := acceptedBytes_contact_iff.mp h
    constructor
    · rintro ⟨_, hunique⟩
      have heq := hunique (input ++ [10]) (acceptedBytes_contact_iff.mpr
        ⟨spelled_append_lineBreak hspelled, hread⟩)
      simp at heq
    · rintro ⟨hkind, _⟩
      cases hkind

theorem relay_accepts_forwarding :
    (Protocol.readSignedBootstrapBeacon sampleUrlParse (fun _ _ _ => true) 150 300
      [Protocol.developmentProfileMultihash]
      (Cbor.encode (sampleBeacon "relay.forward.live/0"))).toOption.isSome = true := by
  decide +kernel

theorem acceptedBytes_forwarding :
    acceptedBytes sampleUrlParse (fun _ _ _ => true) 0 150 0 .bootstrapBeacon
        (wrapperOf (sampleBeacon "relay.forward.live/0")) =
      some (Cbor.encode (sampleBeacon "relay.forward.live/0")) := by
  obtain ⟨beacon, hread⟩ := Option.isSome_iff_exists.mp relay_accepts_forwarding
  refine acceptedBytes_beacon_iff.mpr
    ⟨⟨wrapped_wrapperOf _, by decide +kernel⟩, beacon, toOption_eq_some_iff.mp hread⟩

theorem length_forwarding :
    (Cbor.encode (sampleBeacon "relay.forward.live/0")).length % 3 = 1 := by
  decide +kernel

theorem uniqueSpelling_forwarding_iff :
    UniqueSpelling sampleUrlParse (fun _ _ _ => true) 0 150 0 .bootstrapBeacon
        (wrapperOf (sampleBeacon "relay.forward.live/0"))
        (Cbor.encode (sampleBeacon "relay.forward.live/0")) ↔
      RecordKind.bootstrapBeacon = .bootstrapBeacon ∧
        (Cbor.encode (sampleBeacon "relay.forward.live/0")).length % 3 = 0 :=
  uniqueSpelling_iff acceptedBytes_forwarding

/-- An accepted wrapper, with another that has the same signed bytes. -/
theorem not_uniqueSpelling_forwarding :
    acceptedBytes sampleUrlParse (fun _ _ _ => true) 0 150 0 .bootstrapBeacon
        (wrapperOf (sampleBeacon "relay.forward.live/0")) =
      some (Cbor.encode (sampleBeacon "relay.forward.live/0")) ∧
    ¬ UniqueSpelling sampleUrlParse (fun _ _ _ => true) 0 150 0 .bootstrapBeacon
        (wrapperOf (sampleBeacon "relay.forward.live/0"))
        (Cbor.encode (sampleBeacon "relay.forward.live/0")) := by
  refine ⟨acceptedBytes_forwarding, fun ⟨_, hunique⟩ => ?_⟩
  obtain ⟨⟨hwrapped, hsize⟩, hread⟩ := acceptedBytes_beacon_iff.mp acceptedBytes_forwarding
  have hlength : (Cbor.encode (sampleBeacon "relay.forward.live/0")).length % 3 ≠ 0 := by
    rw [length_forwarding]
    decide
  obtain ⟨other, hne, hsame, hother⟩ := exists_other_wrapped hwrapped hlength
  exact hne (hunique other (acceptedBytes_beacon_iff.mpr
    ⟨⟨hother, hsame.trans_le hsize⟩, hread⟩))

end Accepted

end Branch.Agreement
