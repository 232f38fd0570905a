import Branch.Lib.Cbor
import Branch.Lib.Except
import Branch.Protocol.RelayAttachment

/-!
The deterministic CBOR of the relay: the decoder, and the encoder that it checks its input
against.
-/

namespace Branch.Protocol

open Branch.Lib

def maxDraftEnvelopeBytes : Nat := 64 * 1024
def maxDecodedCBOREntries : Nat := 64
def maxDecodedCBORBytes : Nat := 48 * 1024

def maxDeterministicCBORNestingDepth : Nat := 8

inductive CborErr
  | invalidCBOR
  | nonCanonicalCBOR
  | duplicateKey
  deriving DecidableEq, Repr

def CborErr.message : CborErr → String
  | .invalidCBOR => "invalid cbor"
  | .nonCanonicalCBOR => "non-canonical cbor"
  | .duplicateKey => "invalid bootstrap beacon: duplicate cbor key"

section Encoder

def encodeCborHeader (major value : Nat) : List UInt8 := Cbor.head major value

def encodeCborBytes (major : Nat) (data : List UInt8) : List UInt8 :=
  encodeCborHeader major data.length ++ data

def cborChecks : Cbor.Checks CborErr where
  uint := fun _ => .ok ()
  entries := fun _ => .ok ()
  duplicate := fun _ => .duplicateKey

def encodeCbor (value : Cbor) : Except CborErr (List UInt8) := Cbor.write cborChecks value

def encodeCborMap (entries : List (String × Cbor)) : Except CborErr (List UInt8) :=
  encodeCbor (.map entries)

end Encoder

section Decoder

/-- A part of the decoder returns what it read and the rest of the input. -/
abbrev CborDecoder (α : Type) := List UInt8 → Except CborErr (α × List UInt8)

def readBytes (size : Nat) : CborDecoder (List UInt8) := fun input =>
  if input.length < size then .error .invalidCBOR
  else .ok (input.take size, input.drop size)

def readByte : CborDecoder UInt8
  | [] => .error .invalidCBOR
  | b :: input => .ok (b, input)

def readUint (size : Nat) : CborDecoder Nat := fun input => do
  let (data, input) ← readBytes size input
  return (Cbor.ofBytes data, input)

def readArgument (additional : Nat) : CborDecoder Nat := fun input =>
  if additional < 24 then .ok (additional, input)
  else if additional = 24 then do
    let (value, input) ← readByte input
    throwIf (value < 24) .nonCanonicalCBOR
    return (value.toNat, input)
  else if additional = 25 then do
    let (value, input) ← readUint 2 input
    throwIf (value ≤ 0xff) .nonCanonicalCBOR
    return (value, input)
  else if additional = 26 then do
    let (value, input) ← readUint 4 input
    throwIf (value ≤ 0xffff) .nonCanonicalCBOR
    return (value, input)
  else if additional = 27 then do
    let (value, input) ← readUint 8 input
    throwIf (value ≤ 0xffffffff) .nonCanonicalCBOR
    return (value, input)
  else .error .invalidCBOR

def readByteString (size : Nat) : CborDecoder Cbor := fun input =>
  if maxDecodedCBORBytes < size then .error .invalidCBOR
  else do
    let (data, input) ← readBytes size input
    return (.bytes data, input)

def readTextString (maxTextBytes size : Nat) : CborDecoder Cbor := fun input =>
  if size = 0 ∨ maxTextBytes < size then .error .invalidCBOR
  else do
    let (data, input) ← readBytes size input
    match Utf8.text? data with
    | none => throw .invalidCBOR
    | some s => return (.text s, input)

def readArrayValues (readValue : CborDecoder Cbor) : Nat → CborDecoder (List Cbor)
  | 0, input => .ok ([], input)
  | size + 1, input => do
    let (value, input) ← readValue input
    let (values, input) ← readArrayValues readValue size input
    return (value :: values, input)

def readArray (readValue : CborDecoder Cbor) (size : Nat) : CborDecoder Cbor := fun input =>
  if maxDecodedCBOREntries < size then .error .invalidCBOR
  else do
    let (values, input) ← readArrayValues readValue size input
    return (.array values, input)

def readMapEntries (readValue : CborDecoder Cbor) :
    Nat → List String → Option (List UInt8) → CborDecoder (List (String × Cbor))
  | 0, _, _, input => .ok ([], input)
  | size + 1, seen, previousKey, input => do
    let (keyValue, rest) ← readValue input
    match keyValue with
    | .text key =>
      throwIf (key ∈ seen) .invalidCBOR
      let encodedKey := input.take (input.length - rest.length)
      throwIf (∃ previous ∈ previousKey, encodedKey ≤ previous) .nonCanonicalCBOR
      let (value, rest) ← readValue rest
      let (entries, rest) ← readMapEntries readValue size (key :: seen) (some encodedKey) rest
      return ((key, value) :: entries, rest)
    | _ => throw .invalidCBOR

def readMap (readValue : CborDecoder Cbor) (size : Nat) : CborDecoder Cbor := fun input =>
  if maxDecodedCBOREntries < size then .error .invalidCBOR
  else do
    let (entries, input) ← readMapEntries readValue size [] none input
    return (.map entries, input)

/-- What follows a head. At the greatest depth there is no reader for the values inside of
an array or a map. -/
def readContent (maxTextBytes : Nat) (nested : Option (CborDecoder Cbor))
    (major argument : Nat) : CborDecoder Cbor := fun input =>
  match major with
  | 0 => .ok (.uint argument, input)
  | 2 => readByteString argument input
  | 3 => readTextString maxTextBytes argument input
  | 4 =>
    match nested with
    | none => .error .invalidCBOR
    | some readValue => readArray readValue argument input
  | 5 =>
    match nested with
    | none => .error .invalidCBOR
    | some readValue => readMap readValue argument input
  | _ => .error .invalidCBOR

def readValueWith (maxTextBytes : Nat) (nested : Option (CborDecoder Cbor)) :
    CborDecoder Cbor := fun input => do
  let (initial, input) ← readByte input
  let major := initial.toNat / 32
  let additional := initial.toNat % 32
  if major = 7 then
    if additional = 20 then return (.bool false, input)
    else if additional = 21 then return (.bool true, input)
    else throw .invalidCBOR
  else
    let (argument, input) ← readArgument additional input
    readContent maxTextBytes nested major argument input

/-- `levels` is how many more arrays and maps may be opened: the maximal depth less the
`nestingDepth` of the source. -/
def readValue (maxTextBytes : Nat) : Nat → CborDecoder Cbor
  | 0 => readValueWith maxTextBytes none
  | levels + 1 => readValueWith maxTextBytes (some (readValue maxTextBytes levels))

def decodeDeterministicCBORWithTextLimit (input : List UInt8) (maxTextBytes : Nat) :
    Except CborErr Cbor :=
  if input.length = 0 ∨ maxDraftEnvelopeBytes < input.length then .error .invalidCBOR
  else if maxTextBytes = 0 ∨ maxDecodedCBORBytes < maxTextBytes then .error .invalidCBOR
  else do
    let (value, rest) ← readValue maxTextBytes maxDeterministicCBORNestingDepth input
    throwIf (rest ≠ []) .invalidCBOR
    match encodeCbor value with
    | .error _ => throw .invalidCBOR
    | .ok encoded =>
      throwIf (encoded ≠ input) .nonCanonicalCBOR
      return value

def decodeDeterministicCBOR (input : List UInt8) : Except CborErr Cbor :=
  decodeDeterministicCBORWithTextLimit input maxDraftStringBytes

end Decoder

section Canonical

@[simp] theorem toOption_readByte_nil : (readByte []).toOption = none := rfl

@[simp] theorem toOption_readByte_cons (b : UInt8) (input : List UInt8) :
    (readByte (b :: input)).toOption = some (b, input) := rfl

@[simp] theorem toOption_readBytes (size : Nat) (input : List UInt8) :
    (readBytes size input).toOption =
      if input.length < size then none else some (input.take size, input.drop size) := by
  simp [readBytes]

@[simp] theorem toOption_readUint (size : Nat) (input : List UInt8) :
    (readUint size input).toOption =
      if input.length < size then none
      else some (Cbor.ofBytes (input.take size), input.drop size) := by
  simp only [readUint, toOption_bind, toOption_readBytes]
  split <;> rfl

theorem toOption_readArgument (additional : Nat) (input : List UInt8) :
    (readArgument additional input).toOption = Cbor.readArgument additional input := by
  unfold readArgument Cbor.readArgument
  by_cases hsmall : additional < 24
  · simp [hsmall]
  by_cases hlarge : 27 < additional
  · rw [if_neg (by omega), if_neg (by omega), if_neg (by omega), if_neg (by omega),
      if_neg (by omega), if_neg hsmall, if_pos hlarge]
    rfl
  have hcases : additional = 24 ∨ additional = 25 ∨ additional = 26 ∨ additional = 27 := by
    omega
  rcases hcases with rfl | rfl | rfl | rfl
  · cases input with
    | nil => rfl
    | cons b input =>
      have htake : List.take 1 (b :: input) = [b] := rfl
      simp [Cbor.least, Cbor.ofBytes, UInt8.lt_iff_toNat_lt, htake]
  · simp [Cbor.least]
    grind
  · simp [Cbor.least]
    grind
  · simp [Cbor.least]
    grind

theorem maxUint64_lt : 2 ^ 64 - 1 < 2 ^ 64 := by decide

theorem maxDecodedCBORBytes_le : maxDecodedCBORBytes ≤ 2 ^ 64 - 1 := by decide

theorem maxDecodedCBOREntries_le : maxDecodedCBOREntries ≤ 2 ^ 64 - 1 := by decide

def goRules (maxTextBytes : Nat) (h : maxTextBytes ≤ maxDecodedCBORBytes) : Cbor.Rules where
  maxArgument := 2 ^ 64 - 1
  maxBytes := maxDecodedCBORBytes
  maxTextBytes := maxTextBytes
  maxEntries := maxDecodedCBOREntries
  textOk := fun s => s ≠ ""
  text := id
  maxArgument_lt := maxUint64_lt
  maxBytes_le := maxDecodedCBORBytes_le
  maxTextBytes_le := h.trans maxDecodedCBORBytes_le
  maxEntries_le := maxDecodedCBOREntries_le

def CborDecoder.erase {α : Type} (decoder : CborDecoder α) : List UInt8 → Option (α × List UInt8) :=
  fun input => (decoder input).toOption

theorem erase_readArrayValues (readValue : CborDecoder Cbor) (size : Nat) (input : List UInt8) :
    (readArrayValues readValue size input).toOption =
      Cbor.readItems readValue.erase size input := by
  induction size generalizing input with
  | zero => rfl
  | succ size ih =>
    simp only [readArrayValues, Cbor.readItems, toOption_bind, ih, toOption_pure,
      Option.map_eq_bind]
    rfl

theorem erase_readMapEntries (readValue : CborDecoder Cbor) (size : Nat) (seen : List String)
    (previousKey : Option (List UInt8)) (input : List UInt8) :
    (readMapEntries readValue size seen previousKey input).toOption =
      Cbor.readEntries readValue.erase size seen previousKey input := by
  induction size generalizing seen previousKey input with
  | zero => rfl
  | succ size ih =>
    simp only [readMapEntries, Cbor.readEntries, toOption_bind]
    rw [CborDecoder.erase]
    cases readValue input with
    | error err => rfl
    | ok result =>
      obtain ⟨keyValue, rest⟩ := result
      cases keyValue with
      | text key =>
        have hvalue : readValue.erase rest = (readValue rest).toOption := rfl
        by_cases hseen : key ∈ seen
        · simp [hseen]
        · simp [hseen, ih, hvalue]
      | _ => rfl

theorem erase_readTextString {maxTextBytes : Nat} (h : maxTextBytes ≤ maxDecodedCBORBytes)
    (inner : Option Cbor.Reader) (size : Nat) (input : List UInt8) :
    (readTextString maxTextBytes size input).toOption =
      Cbor.readBody (goRules maxTextBytes h) inner 3 size input := by
  have hempty : Utf8.text? [] = some "" := Utf8.text?_eq_some_iff.mpr rfl
  by_cases hbound : maxTextBytes < size ∨ input.length < size
  · have heq : Cbor.readBody (goRules maxTextBytes h) inner 3 size input = none := if_pos hbound
    rw [heq, readTextString]
    rcases hbound with hbound | hbound
    · simp [hbound]
    · simp [hbound]
  have heq : Cbor.readBody (goRules maxTextBytes h) inner 3 size input =
      (Utf8.text? (input.take size)).bind fun s =>
        if s ≠ "" then some (.text s, input.drop size) else none := by
    simp [Cbor.readBody, goRules, hbound]
  rw [heq]
  push Not at hbound
  by_cases hsize : size = 0
  · simp [readTextString, hsize, hempty]
  cases htext : Utf8.text? (input.take size) with
  | none => simp [readTextString, hsize, htext]
  | some s =>
    have hne : s ≠ "" := by
      rintro rfl
      have hlength := congrArg List.length (Utf8.text?_eq_some_iff.mp htext)
      rw [Utf8.length_bytes, List.length_take] at hlength
      simp at hlength
      omega
    simp [readTextString, hsize, hbound, htext, hne]

theorem erase_readContent {maxTextBytes : Nat} (h : maxTextBytes ≤ maxDecodedCBORBytes)
    (nested : Option (CborDecoder Cbor)) (major argument : Nat) (input : List UInt8) :
    (readContent maxTextBytes nested major argument input).toOption =
      Cbor.readBody (goRules maxTextBytes h) (nested.map CborDecoder.erase) major argument
        input := by
  unfold readContent
  split
  · rfl
  · by_cases hsize : maxDecodedCBORBytes < argument
    · simp [readByteString, Cbor.readBody, goRules, hsize]
    · simp [readByteString, Cbor.readBody, goRules, hsize]
  · exact erase_readTextString h _ _ _
  · cases nested with
    | none => simp [Cbor.readBody]
    | some readValue =>
      simp [readArray, Cbor.readBody, erase_readArrayValues, goRules]
  · cases nested with
    | none => simp [Cbor.readBody]
    | some readValue =>
      simp [readMap, Cbor.readBody, erase_readMapEntries, goRules]
  · simp [Cbor.readBody]

theorem erase_readValueWith {maxTextBytes : Nat} (h : maxTextBytes ≤ maxDecodedCBORBytes)
    (nested : Option (CborDecoder Cbor)) :
    (readValueWith maxTextBytes nested).erase =
      Cbor.readItem (goRules maxTextBytes h) (nested.map CborDecoder.erase) := by
  funext input
  show (readValueWith maxTextBytes nested input).toOption = _
  cases input with
  | nil => rfl
  | cons initial input =>
    simp only [readValueWith, Cbor.readItem, toOption_bind, toOption_readByte_cons,
      Option.bind_some, toOption_ite, toOption_pure, toOption_throw, toOption_readArgument]
    congr 1
    refine Option.bind_congr ?_
    rintro ⟨argument, rest⟩ hargument
    have hbound : ¬ (goRules maxTextBytes h).maxArgument < argument := by
      have := (Cbor.head_of_readArgument hargument).1
      show ¬ 2 ^ 64 - 1 < argument
      omega
    rw [erase_readContent h, if_neg hbound]

theorem erase_readValue {maxTextBytes : Nat} (h : maxTextBytes ≤ maxDecodedCBORBytes)
    (levels : Nat) :
    (readValue maxTextBytes levels).erase = Cbor.read (goRules maxTextBytes h) levels := by
  induction levels with
  | zero => exact erase_readValueWith h none
  | succ levels ih =>
    rw [readValue, erase_readValueWith h, Option.map_some, ih]
    rfl

theorem encodeCbor_of_wire {r : Cbor.Rules} {v : Cbor} (h : Cbor.Wire r v) :
    encodeCbor v = .ok (Cbor.encode v) :=
  Cbor.write_of_wire h (fun _ _ => rfl) (fun _ _ => rfl)

theorem readValue_eq_ok_iff {maxTextBytes : Nat} (h : maxTextBytes ≤ maxDecodedCBORBytes)
    {levels : Nat} {input rest : List UInt8} {v : Cbor} :
    readValue maxTextBytes levels input = .ok (v, rest) ↔
      Cbor.Wire (goRules maxTextBytes h) v ∧ v.depth ≤ levels ∧
        input = Cbor.encode v ++ rest := by
  have hread : (readValue maxTextBytes levels input).toOption =
      Cbor.read (goRules maxTextBytes h) levels input :=
    congrFun (erase_readValue h levels) input
  have hid : ∀ w : Cbor, Cbor.mapText (goRules maxTextBytes h).text w = w :=
    fun w => Cbor.mapText_eq_self_iff.mpr fun _ _ => rfl
  rw [← toOption_eq_some_iff, hread, Cbor.read_eq_some_iff]
  simp only [hid]
  constructor
  · rintro ⟨w, hwire, hdepth, rfl, hinput⟩
    exact ⟨hwire, hdepth, hinput⟩
  · rintro ⟨hwire, hdepth, hinput⟩
    exact ⟨v, hwire, hdepth, rfl, hinput⟩

theorem decodeDeterministicCBORWithTextLimit_eq_ok_iff {input : List UInt8}
    {maxTextBytes : Nat} (hpos : maxTextBytes ≠ 0) (h : maxTextBytes ≤ maxDecodedCBORBytes)
    {v : Cbor} :
    decodeDeterministicCBORWithTextLimit input maxTextBytes = .ok v ↔
      (input.length ≠ 0 ∧ input.length ≤ maxDraftEnvelopeBytes) ∧
        Cbor.Wire (goRules maxTextBytes h) v ∧ v.depth ≤ maxDeterministicCBORNestingDepth ∧
        Cbor.encode v = input := by
  unfold decodeDeterministicCBORWithTextLimit
  by_cases hsize : input.length = 0 ∨ maxDraftEnvelopeBytes < input.length
  · rw [if_pos hsize]
    constructor
    · rintro ⟨⟩
    · rintro ⟨hlength, _⟩
      omega
  have hlimit : ¬ (maxTextBytes = 0 ∨ maxDecodedCBORBytes < maxTextBytes) := by omega
  rw [if_neg hsize, if_neg hlimit, bind_eq_ok]
  constructor
  · rintro ⟨⟨w, rest⟩, hread, hrest⟩
    obtain ⟨hwire, hdepth, hinput⟩ := (readValue_eq_ok_iff h).mp hread
    obtain ⟨hempty, hrest⟩ := throwIf_bind_eq_ok.mp hrest
    rw [encodeCbor_of_wire hwire] at hrest
    obtain ⟨hsame, heq⟩ := throwIf_bind_eq_ok.mp hrest
    obtain rfl := Except.ok.inj heq
    exact ⟨by omega, hwire, hdepth, not_not.mp hsame⟩
  · rintro ⟨_, hwire, hdepth, rfl⟩
    refine ⟨(v, []), (readValue_eq_ok_iff h).mpr ⟨hwire, hdepth, by simp⟩, ?_⟩
    simp [throwIf, encodeCbor_of_wire hwire]
    rfl

end Canonical

section RoundTrip

/-- A value that the decoder can hold, with its keys in any order: texts of 1 to
`maxTextBytes` bytes, 48 KiB of a byte string, 64 items or entries, no key twice, eight arrays
and maps inside of each other, and 64 KiB in all. -/
structure WithinLimits {maxTextBytes : Nat} (h : maxTextBytes ≤ maxDecodedCBORBytes)
    (v : Cbor) : Prop where
  fits : Cbor.Fits (goRules maxTextBytes h) v
  depth : v.depth ≤ maxDeterministicCBORNestingDepth
  size : (Cbor.encode v).length ≤ maxDraftEnvelopeBytes

variable {maxTextBytes : Nat} {v : Cbor}

theorem encodeCbor_of_fits {r : Cbor.Rules} (h : Cbor.Fits r v) :
    encodeCbor v = .ok (Cbor.encode v.sortKeys) :=
  Cbor.write_of_fits h (fun _ _ => rfl) (fun _ _ => rfl)

theorem decode_encode_of_withinLimits (hpos : maxTextBytes ≠ 0)
    {h : maxTextBytes ≤ maxDecodedCBORBytes} (hv : WithinLimits h v) :
    decodeDeterministicCBORWithTextLimit (Cbor.encode v.sortKeys) maxTextBytes =
      .ok v.sortKeys := by
  have hlength : (Cbor.encode v.sortKeys).length = (Cbor.encode v).length :=
    Cbor.length_encode_sortKeys hv.fits
  have hone := Cbor.one_le_length_encode v
  refine (decodeDeterministicCBORWithTextLimit_eq_ok_iff hpos h).mpr ⟨⟨by omega, ?_⟩, ?_, ?_, rfl⟩
  · rw [hlength]
    exact hv.size
  · exact hv.fits.wire fun _ _ => rfl
  · exact Cbor.depth_sortKeys_le_iff.mpr hv.depth

/-- The reader admits the one encoding of a value, and the encoding of a value within the
limits is read as this value with the keys of its maps in order. -/
theorem canonical_and_round_trip (hpos : maxTextBytes ≠ 0)
    (h : maxTextBytes ≤ maxDecodedCBORBytes) :
    (∀ input v, readValue maxTextBytes maxDeterministicCBORNestingDepth input = .ok (v, []) →
      encodeCbor v = .ok input) ∧
    ∀ v, WithinLimits h v → ∃ encoded, encodeCbor v = .ok encoded ∧
      decodeDeterministicCBORWithTextLimit encoded maxTextBytes = .ok v.sortKeys := by
  constructor
  · intro input v hread
    obtain ⟨hwire, _, hinput⟩ := (readValue_eq_ok_iff h).mp hread
    rw [hinput, List.append_nil]
    exact encodeCbor_of_wire hwire
  · intro v hv
    exact ⟨_, encodeCbor_of_fits hv.fits, decode_encode_of_withinLimits hpos hv⟩

def unsortedRecord : Cbor :=
  .map [("kind", .text "probe"), ("id", .array [.uint 23, .uint 24, .uint 65536, .bool true])]

theorem maxDraftStringBytes_le_decoded : maxDraftStringBytes ≤ maxDecodedCBORBytes := by decide

theorem withinLimits_unsortedRecord : WithinLimits maxDraftStringBytes_le_decoded unsortedRecord where
  fits := by
    refine .map (by decide) ?_ (by decide) ?_
    · simp only [List.forall_mem_cons, forall_mem_nil, and_true]
      exact ⟨⟨by decide, by decide⟩, ⟨by decide, by decide⟩⟩
    · intro entry hentry
      rcases List.mem_pair.mp hentry with rfl | rfl
      · exact .text ⟨by decide, by decide⟩
      · refine .array (by decide) fun v hv => ?_
        simp only [List.mem_cons, List.not_mem_nil, or_false] at hv
        rcases hv with rfl | rfl | rfl | rfl
        · exact .uint (by decide)
        · exact .uint (by decide)
        · exact .uint (by decide)
        · exact .bool true
  depth := by decide
  size := by decide

theorem canonical_and_round_trip_unsorted :
    encodeCbor unsortedRecord.sortKeys = encodeCbor unsortedRecord ∧
      ∃ encoded, encodeCbor unsortedRecord = .ok encoded ∧
        decodeDeterministicCBOR encoded = .ok unsortedRecord.sortKeys := by
  have hcodec := canonical_and_round_trip (by decide) maxDraftStringBytes_le_decoded
  obtain ⟨encoded, hencoded, hdecoded⟩ := hcodec.2 unsortedRecord withinLimits_unsortedRecord
  refine ⟨?_, encoded, hencoded, hdecoded⟩
  obtain ⟨_, hwire, hdepth, hencode⟩ :=
    (decodeDeterministicCBORWithTextLimit_eq_ok_iff (by decide) maxDraftStringBytes_le_decoded).mp
      hdecoded
  have hread := (readValue_eq_ok_iff maxDraftStringBytes_le_decoded).mpr
    ⟨hwire, hdepth, (List.append_nil (Cbor.encode unsortedRecord.sortKeys)).symm⟩
  rw [hencoded, ← hencode]
  exact hcodec.1 _ _ hread

end RoundTrip

section Fields

abbrev CborMap := List (String × Cbor)

def cborMap (value : Cbor) (label : String) : Except String CborMap :=
  match value with
  | .map entries => .ok entries
  | _ => .error ("missing_" ++ label)

def cborRequired (m : CborMap) (key : String) : Except String Cbor :=
  match m.lookup key with
  | some value => .ok value
  | none => .error ("missing_" ++ key)

def cborHas (m : CborMap) (key : String) : Bool := (m.lookup key).isSome

def cborRejectUnknown (m : CborMap) (known : List String) : Except String Unit :=
  match m.find? fun entry => entry.1 ∉ known with
  | some entry => .error ("unknown_" ++ entry.1)
  | none => .ok ()

def cborText (m : CborMap) (key : String) : Except String String := do
  let value ← cborRequired m key
  match value with
  | .text s =>
    throwIf (s = "" ∨ maxDraftStringBytes < s.utf8ByteSize) ("invalid_" ++ key)
    return s
  | _ => throw ("invalid_" ++ key)

def cborUint (m : CborMap) (key : String) : Except String Nat := do
  let value ← cborRequired m key
  match value with
  | .uint n =>
    throwIf (maxDraftTimestamp < n) ("invalid_" ++ key)
    return n
  | _ => throw ("invalid_" ++ key)

def cborBool (m : CborMap) (key : String) : Except String Bool := do
  let value ← cborRequired m key
  match value with
  | .bool b => return b
  | _ => throw ("invalid_" ++ key)

/-- A `size` of zero leaves the length open. -/
def cborBytes (m : CborMap) (key : String) (size : Nat) : Except String (List UInt8) := do
  let value ← cborRequired m key
  match value with
  | .bytes data =>
    throwIf (data.length = 0 ∨ maxDecodedCBORBytes < data.length) ("invalid_" ++ key)
    throwIf (0 < size ∧ data.length ≠ size) ("invalid_" ++ key)
    return data
  | _ => throw ("invalid_" ++ key)

variable {m : CborMap} {key : String}

theorem cborMap_eq_ok_iff {value : Cbor} {label : String} {entries : CborMap} :
    cborMap value label = .ok entries ↔ value = .map entries := by
  unfold cborMap
  split <;> simp_all

theorem cborRequired_eq_ok_iff {value : Cbor} :
    cborRequired m key = .ok value ↔ m.lookup key = some value := by
  unfold cborRequired
  cases m.lookup key <;> simp

theorem cborHas_eq_false_iff : cborHas m key = false ↔ m.lookup key = none := by
  simp [cborHas]

theorem cborRejectUnknown_eq_ok_iff {known : List String} {u : Unit} :
    cborRejectUnknown m known = .ok u ↔ ∀ entry ∈ m, entry.1 ∈ known := by
  unfold cborRejectUnknown
  split
  · rename_i entry hfind
    have hunknown := List.find?_some hfind
    have hmem := List.mem_of_find?_eq_some hfind
    simp only [reduceCtorEq, false_iff]
    exact fun hall => by simp [hall entry hmem] at hunknown
  · rename_i hfind
    simp only [true_iff]
    intro entry hentry
    simpa using List.find?_eq_none.mp hfind entry hentry

theorem cborText_eq_ok_iff {s : String} :
    cborText m key = .ok s ↔
      m.lookup key = some (.text s) ∧ s ≠ "" ∧ s.utf8ByteSize ≤ maxDraftStringBytes := by
  rw [cborText, bind_eq_ok]
  constructor
  · rintro ⟨value, hvalue, h⟩
    rw [cborRequired_eq_ok_iff] at hvalue
    cases value with
    | text s' =>
      obtain ⟨hbound, heq⟩ := throwIf_bind_eq_ok.mp h
      obtain rfl := Except.ok.inj heq
      push Not at hbound
      exact ⟨hvalue, hbound⟩
    | _ => cases h
  · rintro ⟨hvalue, hbound⟩
    refine ⟨.text s, cborRequired_eq_ok_iff.mpr hvalue, ?_⟩
    exact throwIf_bind_eq_ok.mpr ⟨by push Not; exact hbound, rfl⟩

theorem cborUint_eq_ok_iff {n : Nat} :
    cborUint m key = .ok n ↔
      m.lookup key = some (.uint n) ∧ (n : Int) ≤ maxDraftTimestamp := by
  rw [cborUint, bind_eq_ok]
  constructor
  · rintro ⟨value, hvalue, h⟩
    rw [cborRequired_eq_ok_iff] at hvalue
    cases value with
    | uint n' =>
      obtain ⟨hbound, heq⟩ := throwIf_bind_eq_ok.mp h
      obtain rfl := Except.ok.inj heq
      exact ⟨hvalue, Int.not_lt.mp hbound⟩
    | _ => cases h
  · rintro ⟨hvalue, hbound⟩
    refine ⟨.uint n, cborRequired_eq_ok_iff.mpr hvalue, ?_⟩
    exact throwIf_bind_eq_ok.mpr ⟨Int.not_lt.mpr hbound, rfl⟩

theorem le_maxDraftTimestamp_iff {n : Nat} : (n : Int) ≤ maxDraftTimestamp ↔ n ≤ 2 ^ 53 - 1 := by
  rw [maxDraftTimestamp]
  omega

theorem cborBool_eq_ok_iff {b : Bool} : cborBool m key = .ok b ↔ m.lookup key = some (.bool b) := by
  rw [cborBool, bind_eq_ok]
  constructor
  · rintro ⟨value, hvalue, h⟩
    rw [cborRequired_eq_ok_iff] at hvalue
    cases value with
    | bool b' =>
      obtain rfl := Except.ok.inj h
      exact hvalue
    | _ => cases h
  · exact fun hvalue => ⟨.bool b, cborRequired_eq_ok_iff.mpr hvalue, rfl⟩

theorem cborBytes_eq_ok_iff {size : Nat} {data : List UInt8} :
    cborBytes m key size = .ok data ↔
      m.lookup key = some (.bytes data) ∧
        (data.length ≠ 0 ∧ data.length ≤ maxDecodedCBORBytes) ∧
        (0 < size → data.length = size) := by
  rw [cborBytes, bind_eq_ok]
  constructor
  · rintro ⟨value, hvalue, h⟩
    rw [cborRequired_eq_ok_iff] at hvalue
    cases value with
    | bytes data' =>
      obtain ⟨hbound, h⟩ := throwIf_bind_eq_ok.mp h
      obtain ⟨hsize, heq⟩ := throwIf_bind_eq_ok.mp h
      obtain rfl := Except.ok.inj heq
      push Not at hbound hsize
      exact ⟨hvalue, hbound, hsize⟩
    | _ => cases h
  · rintro ⟨hvalue, hbound, hsize⟩
    refine ⟨.bytes data, cborRequired_eq_ok_iff.mpr hvalue, ?_⟩
    refine throwIf_bind_eq_ok.mpr ⟨by push Not; exact hbound, ?_⟩
    exact throwIf_bind_eq_ok.mpr ⟨by push Not; exact hsize, rfl⟩

theorem cborBytes_any_iff {key : String} {data : List UInt8} :
    cborBytes m key 0 = .ok data ↔
      m.lookup key = some (.bytes data) ∧
        (data.length ≠ 0 ∧ data.length ≤ maxDecodedCBORBytes) := by
  simp only [cborBytes_eq_ok_iff, lt_irrefl, false_imp_iff, and_true]

theorem cborBytes_size_iff {key : String} {size : Nat} {bytes : List UInt8} (hpos : 0 < size)
    (hsize : size ≤ maxDecodedCBORBytes) :
    cborBytes m key size = .ok bytes ↔ m.lookup key = some (.bytes bytes) ∧ bytes.length = size := by
  rw [cborBytes_eq_ok_iff]
  constructor
  · rintro ⟨hlookup, _, hlength⟩
    exact ⟨hlookup, hlength hpos⟩
  · rintro ⟨hlookup, hlength⟩
    exact ⟨hlookup, ⟨by omega, by omega⟩, fun _ => hlength⟩

theorem decode_reads_iff {record : CborMap} {input : List UInt8}
    (h : Cbor.Fits (goRules maxDraftStringBytes maxDraftStringBytes_le_decoded) (.map record))
    (hdepth : (Cbor.map record).depth ≤ maxDeterministicCBORNestingDepth)
    (hflat : ∀ entry ∈ record, entry.2.sortKeys = entry.2) :
    (∃ m, decodeDeterministicCBOR input = .ok (.map m) ∧ Cbor.Reads m record) ↔
      input.length ≤ maxDraftEnvelopeBytes ∧
        input = Cbor.encode (.map (Cbor.inKeyOrder record)) := by
  have hdistinct : (record.map Prod.fst).Nodup := by
    cases h with
    | map hlength hkeys hdistinct hvalues => exact hdistinct
  have hsorted := Cbor.sortKeys_record hflat
  have hlength := Cbor.length_encode_sortKeys h
  constructor
  · rintro ⟨m, hdecode, hreads⟩
    obtain ⟨⟨_, hsize⟩, hwire, _, hencode⟩ := (decodeDeterministicCBORWithTextLimit_eq_ok_iff
      (by decide) maxDraftStringBytes_le_decoded).mp hdecode
    exact ⟨hsize, by rw [← hencode, (Cbor.reads_iff hwire hdistinct).mp hreads]⟩
  · rintro ⟨hsize, rfl⟩
    rw [← hsorted, hlength] at hsize
    have hdecode := decode_encode_of_withinLimits (by decide) ⟨h, hdepth, hsize⟩
    rw [hsorted] at hdecode
    have hwire := (decodeDeterministicCBORWithTextLimit_eq_ok_iff (by decide)
      maxDraftStringBytes_le_decoded).mp hdecode
    exact ⟨_, hdecode, (Cbor.reads_iff hwire.2.1 hdistinct).mpr rfl⟩

/-- The rules have room for what the decoder takes, but for the integers that the readers of
fields refuse. -/
structure Roomy (r : Cbor.Rules) : Prop where
  argument : 2 ^ 53 - 1 ≤ r.maxArgument
  bytes : maxDecodedCBORBytes ≤ r.maxBytes
  entries : maxDecodedCBOREntries ≤ r.maxEntries
  texts : ∀ s, s ≠ "" → s.utf8ByteSize ≤ maxDraftStringBytes → Cbor.TextOk r s

theorem roomy_goRules : Roomy (goRules maxDraftStringBytes maxDraftStringBytes_le_decoded) where
  argument := by decide
  bytes := le_rfl
  entries := le_rfl
  texts := fun _ hne hsize => ⟨decide_eq_true hne, hsize⟩

end Fields

end Branch.Protocol
