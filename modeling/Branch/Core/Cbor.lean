import Branch.Lib.Cbor
import Branch.Lib.Except

/-!
The deterministic CBOR of the client: the decoder, and the encoder that it checks its input
against.
-/

namespace Branch.Core

open Branch.Lib

def maxCborCollectionEntries : Nat := 64
def maxCborTextBytes : Nat := 1024
def maxCborBytes : Nat := 48 * 1024

/-- `Number.MAX_SAFE_INTEGER` -/
def maxSafeInteger : Nat := 2 ^ 53 - 1

/-- `stackExhausted` stands for no error of the source: it is reached only by more open
arrays and maps than the input has bytes. -/
inductive CborError
  | invalidCborSize
  | trailingCbor
  | nonCanonicalCbor
  | unsupportedCborType
  | unsupportedCborArgument
  | truncatedCbor
  | invalidCborBytes
  | invalidCborText
  | tooManyArrayEntries
  | tooManyMapEntries
  | nonTextMapKey
  | duplicate (key : String)
  | invalidUnsigned
  | stackExhausted
  deriving DecidableEq, Repr

section Encoder

def encodeHeader (major value : Nat) : List UInt8 := Cbor.head major value

def encodeBytes (major : Nat) (bytes : List UInt8) : List UInt8 :=
  encodeHeader major bytes.length ++ bytes

def cborChecks : Cbor.Checks CborError where
  uint := fun value => throwIf (maxSafeInteger < value) .invalidUnsigned
  entries := fun count => throwIf (maxCborCollectionEntries < count) .tooManyMapEntries
  duplicate := .duplicate

def encodeDeterministicCbor (value : Cbor) : Except CborError (List UInt8) :=
  Cbor.write cborChecks value

end Encoder

section Decoder

abbrev CborDecoder (α : Type) := List UInt8 → Except CborError (α × List UInt8)

def readByte : CborDecoder UInt8
  | [] => .error .truncatedCbor
  | b :: input => .ok (b, input)

def readByteSequence : Nat → CborDecoder (List UInt8)
  | 0, input => .ok ([], input)
  | count + 1, input => do
    let (b, input) ← readByte input
    let (bytes, input) ← readByteSequence count input
    return (b :: bytes, input)

def readArgument (additional : Nat) : CborDecoder Nat := fun input =>
  if additional < 24 then .ok (additional, input)
  else if additional = 24 then do
    let (value, input) ← readByte input
    throwIf (value < 24) .nonCanonicalCbor
    return (value.toNat, input)
  else if additional = 25 then do
    let (bytes, input) ← readByteSequence 2 input
    throwIf (Cbor.ofBytes bytes ≤ 0xff) .nonCanonicalCbor
    return (Cbor.ofBytes bytes, input)
  else if additional = 26 then do
    let (bytes, input) ← readByteSequence 4 input
    throwIf (Cbor.ofBytes bytes ≤ 0xffff) .nonCanonicalCbor
    return (Cbor.ofBytes bytes, input)
  else if additional = 27 then do
    let (bytes, input) ← readByteSequence 8 input
    throwIf (Cbor.ofBytes bytes ≤ 0xffffffff ∨ maxSafeInteger < Cbor.ofBytes bytes)
      .nonCanonicalCbor
    return (Cbor.ofBytes bytes, input)
  else .error .unsupportedCborArgument

def readByteString (length : Nat) : CborDecoder Cbor := fun input =>
  if maxCborBytes < length ∨ input.length < length then .error .invalidCborBytes
  else .ok (.bytes (input.take length), input.drop length)

/-- A fatal `TextDecoder`, which drops a byte order mark. -/
def textDecode (bytes : List UInt8) : Option String :=
  (Utf8.text? bytes).map Utf8.dropByteOrderMark

def readTextString (length : Nat) : CborDecoder Cbor := fun input =>
  if maxCborTextBytes < length ∨ input.length < length then .error .invalidCborText
  else
    match textDecode (input.take length) with
    | none => .error .invalidCborText
    | some s => .ok (.text s, input.drop length)

def readArrayValues (readValue : CborDecoder Cbor) : Nat → CborDecoder (List Cbor)
  | 0, input => .ok ([], input)
  | length + 1, input => do
    let (value, input) ← readValue input
    let (values, input) ← readArrayValues readValue length input
    return (value :: values, input)

def readArray (readValue : CborDecoder Cbor) (length : Nat) : CborDecoder Cbor := fun input =>
  if maxCborCollectionEntries < length then .error .tooManyArrayEntries
  else do
    let (values, input) ← readArrayValues readValue length input
    return (.array values, input)

def readMapEntries (readValue : CborDecoder Cbor) :
    Nat → List String → Option (List UInt8) → CborDecoder (List (String × Cbor))
  | 0, _, _, input => .ok ([], input)
  | length + 1, seen, previousKey, input => do
    let (key, rest) ← readValue input
    match key with
    | .text key =>
      let encodedKey := input.take (input.length - rest.length)
      throwIf (∃ previous ∈ previousKey, encodedKey ≤ previous) .nonCanonicalCbor
      throwIf (key ∈ seen) (.duplicate key)
      let (value, rest) ← readValue rest
      let (entries, rest) ← readMapEntries readValue length (key :: seen) (some encodedKey) rest
      return ((key, value) :: entries, rest)
    | _ => throw .nonTextMapKey

def readMap (readValue : CborDecoder Cbor) (length : Nat) : CborDecoder Cbor := fun input =>
  if maxCborCollectionEntries < length then .error .tooManyMapEntries
  else do
    let (entries, input) ← readMapEntries readValue length [] none input
    return (.map entries, input)

/-- What follows a head. `nested` reads the values inside of an array or a map. -/
def readContent (nested : Option (CborDecoder Cbor)) (major argument : Nat) :
    CborDecoder Cbor := fun input =>
  match major with
  | 0 => .ok (.uint argument, input)
  | 2 => readByteString argument input
  | 3 => readTextString argument input
  | 4 =>
    match nested with
    | none => .error .stackExhausted
    | some readValue => readArray readValue argument input
  | 5 =>
    match nested with
    | none => .error .stackExhausted
    | some readValue => readMap readValue argument input
  | _ => .error .unsupportedCborType

def readValueWith (nested : Option (CborDecoder Cbor)) : CborDecoder Cbor := fun input => do
  let (initial, input) ← readByte input
  let major := initial.toNat / 32
  let additional := initial.toNat % 32
  if major = 7 then
    if additional = 20 then return (.bool false, input)
    else if additional = 21 then return (.bool true, input)
    else throw .unsupportedCborType
  else
    let (argument, input) ← readArgument additional input
    readContent nested major argument input

/-- The source opens arrays and maps without a bound; `levels` bounds them here. -/
def readValue : Nat → CborDecoder Cbor
  | 0 => readValueWith none
  | levels + 1 => readValueWith (some (readValue levels))

/-- There cannot be more arrays and maps open than there are bytes. -/
def decodeDeterministicCbor (bytes : List UInt8) (maxBytes : Nat) : Except CborError Cbor :=
  if bytes.length = 0 ∨ maxBytes < bytes.length then .error .invalidCborSize
  else do
    let (value, rest) ← readValue bytes.length bytes
    throwIf (rest ≠ []) .trailingCbor
    let encoded ← encodeDeterministicCbor value
    throwIf (encoded ≠ bytes) .nonCanonicalCbor
    return value

end Decoder

section Canonical

@[simp] theorem toOption_readByte_nil : (readByte []).toOption = none := rfl

@[simp] theorem toOption_readByte_cons (b : UInt8) (input : List UInt8) :
    (readByte (b :: input)).toOption = some (b, input) := rfl

@[simp] theorem toOption_readByteSequence (count : Nat) (input : List UInt8) :
    (readByteSequence count input).toOption =
      if input.length < count then none else some (input.take count, input.drop count) := by
  induction count generalizing input with
  | zero => rfl
  | succ count ih =>
    cases input with
    | nil => rfl
    | cons b input => simp [readByteSequence, ih]

theorem toOption_readArgument (additional : Nat) (input : List UInt8) :
    (readArgument additional input).toOption =
      (Cbor.readArgument additional input).bind fun argument =>
        if maxSafeInteger < argument.1 then none else some argument := by
  unfold readArgument Cbor.readArgument
  by_cases hsmall : additional < 24
  · have : ¬ maxSafeInteger < additional := by
      unfold maxSafeInteger
      omega
    simp [hsmall, this]
  by_cases hlarge : 27 < additional
  · rw [if_neg (by omega), if_neg (by omega), if_neg (by omega), if_neg (by omega),
      if_neg (by omega), if_neg hsmall, if_pos hlarge]
    rfl
  have hcases : additional = 24 ∨ additional = 25 ∨ additional = 26 ∨ additional = 27 := by
    omega
  have hbound : ∀ count, 256 ^ count ≤ maxSafeInteger →
      ¬ maxSafeInteger < Cbor.ofBytes (input.take count) := by
    intro count hcount
    have hlt := Cbor.ofBytes_lt (input.take count)
    have hpow : 256 ^ (input.take count).length ≤ 256 ^ count :=
      Nat.pow_le_pow_right (by omega) (List.length_take_le _ _)
    omega
  rcases hcases with rfl | rfl | rfl | rfl
  · cases input with
    | nil => rfl
    | cons b input =>
      have htake : List.take 1 (b :: input) = [b] := rfl
      have hsafe := hbound 1 (by decide)
      rw [htake] at hsafe
      have hone : Cbor.ofBytes [b] = b.toNat := by simp [Cbor.ofBytes]
      rw [hone] at hsafe
      by_cases hleast : b.toNat < 24
      · simp [Cbor.least, hone, UInt8.lt_iff_toNat_lt, htake, hleast]
      · simp [Cbor.least, hone, UInt8.lt_iff_toNat_lt, htake, hleast, hsafe]
  · by_cases hlength : input.length < 2
    · simp [hlength]
    by_cases hleast : Cbor.ofBytes (input.take 2) < 0x100
    · simp [Cbor.least, ← Nat.lt_add_one_iff, hlength, hleast]
    · simp [Cbor.least, ← Nat.lt_add_one_iff, hlength, hleast, hbound 2 (by decide)]
  · by_cases hlength : input.length < 4
    · simp [hlength]
    by_cases hleast : Cbor.ofBytes (input.take 4) < 0x10000
    · simp [Cbor.least, ← Nat.lt_add_one_iff, hlength, hleast]
    · simp [Cbor.least, ← Nat.lt_add_one_iff, hlength, hleast, hbound 4 (by decide)]
  · by_cases hlength : input.length < 8
    · simp [hlength]
    by_cases hleast : Cbor.ofBytes (input.take 8) < 0x100000000
    · simp [Cbor.least, ← Nat.lt_add_one_iff, hlength, hleast]
    · simp [Cbor.least, ← Nat.lt_add_one_iff, hlength, hleast]

/-- What the decoder reads, before it looks at the encoding of what it has read. -/
def tsRules : Cbor.Rules where
  maxArgument := maxSafeInteger
  maxBytes := maxCborBytes
  maxTextBytes := maxCborTextBytes
  maxEntries := maxCborCollectionEntries
  textOk := fun _ => true
  text := Utf8.dropByteOrderMark
  maxArgument_lt := by decide
  maxBytes_le := by decide
  maxTextBytes_le := by decide
  maxEntries_le := by decide

def CborDecoder.erase {α : Type} (decoder : CborDecoder α) :
    List UInt8 → Option (α × List UInt8) :=
  fun input => (decoder input).toOption

theorem erase_readArrayValues (readValue : CborDecoder Cbor) (length : Nat)
    (input : List UInt8) :
    (readArrayValues readValue length input).toOption =
      Cbor.readItems readValue.erase length input := by
  induction length generalizing input with
  | zero => rfl
  | succ length ih =>
    simp only [readArrayValues, Cbor.readItems, toOption_bind, ih, toOption_pure,
      Option.map_eq_bind]
    rfl

theorem erase_readMapEntries (readValue : CborDecoder Cbor) (length : Nat)
    (seen : List String) (previousKey : Option (List UInt8)) (input : List UInt8) :
    (readMapEntries readValue length seen previousKey input).toOption =
      Cbor.readEntries readValue.erase length seen previousKey input := by
  induction length generalizing seen previousKey input with
  | zero => rfl
  | succ length ih =>
    simp only [readMapEntries, Cbor.readEntries, toOption_bind]
    rw [CborDecoder.erase]
    cases readValue input with
    | error err => rfl
    | ok result =>
      obtain ⟨keyValue, rest⟩ := result
      cases keyValue with
      | text key =>
        have hvalue : readValue.erase rest = (readValue rest).toOption := rfl
        by_cases hseen : key ∈ seen
        · simp [hseen]
        · simp [hseen, ih, hvalue]
      | _ => rfl

theorem erase_readContent (nested : Option (CborDecoder Cbor)) (major argument : Nat)
    (input : List UInt8) :
    (readContent nested major argument input).toOption =
      Cbor.readBody tsRules (nested.map CborDecoder.erase) major argument input := by
  unfold readContent
  split
  · rfl
  · by_cases hbound : maxCborBytes < argument ∨ input.length < argument
    · simp [readByteString, Cbor.readBody, tsRules, hbound]
    · simp [readByteString, Cbor.readBody, tsRules, hbound]
  · by_cases hbound : maxCborTextBytes < argument ∨ input.length < argument
    · simp [readTextString, Cbor.readBody, tsRules, hbound]
    · cases htext : Utf8.text? (input.take argument) with
      | none => simp [readTextString, textDecode, Cbor.readBody, tsRules, hbound, htext]
      | some s => simp [readTextString, textDecode, Cbor.readBody, tsRules, hbound, htext]
  · cases nested with
    | none => simp [Cbor.readBody]
    | some readValue =>
      simp [readArray, Cbor.readBody, erase_readArrayValues, tsRules]
      rfl
  · cases nested with
    | none => simp [Cbor.readBody]
    | some readValue =>
      simp [readMap, Cbor.readBody, erase_readMapEntries, tsRules]
      rfl
  · simp [Cbor.readBody]

theorem erase_readValueWith (nested : Option (CborDecoder Cbor)) :
    (readValueWith nested).erase =
      Cbor.readItem tsRules (nested.map CborDecoder.erase) := by
  funext input
  show (readValueWith nested input).toOption = _
  cases input with
  | nil => rfl
  | cons initial input =>
    simp only [readValueWith, Cbor.readItem, toOption_bind, toOption_readByte_cons,
      Option.bind_some, toOption_ite, toOption_pure, toOption_throw, toOption_readArgument]
    congr 1
    rw [Option.bind_assoc]
    refine Option.bind_congr ?_
    rintro ⟨argument, rest⟩ _
    rw [bind_ite_none, erase_readContent]
    rfl

theorem erase_readValue (levels : Nat) :
    (readValue levels).erase = Cbor.read tsRules levels := by
  induction levels with
  | zero => exact erase_readValueWith none
  | succ levels ih =>
    rw [readValue, erase_readValueWith, Option.map_some, ih]
    rfl

theorem readValue_eq_ok_iff {levels : Nat} {input rest : List UInt8} {w : Cbor} :
    readValue levels input = .ok (w, rest) ↔
      ∃ v, Cbor.Wire tsRules v ∧ v.depth ≤ levels ∧
        Cbor.mapText Utf8.dropByteOrderMark v = w ∧ input = Cbor.encode v ++ rest := by
  have hread : (readValue levels input).toOption = Cbor.read tsRules levels input :=
    congrFun (erase_readValue levels) input
  rw [← toOption_eq_some_iff, hread, Cbor.read_eq_some_iff]
  rfl

theorem encodeDeterministicCbor_of_wire {v : Cbor} (h : Cbor.Wire tsRules v) :
    encodeDeterministicCbor v = .ok (Cbor.encode v) :=
  Cbor.write_of_wire h (fun _ hn => throwIf_eq_ok.mpr (Nat.not_lt.mpr hn))
    (fun _ hn => throwIf_eq_ok.mpr (Nat.not_lt.mpr hn))

theorem shortens_dropByteOrderMark : Cbor.Shortens Utf8.dropByteOrderMark := by
  intro s hs
  have hmarked : Utf8.Marked s := by
    by_contra h
    exact hs (Utf8.dropByteOrderMark_of_not_marked h)
  have hlength := Utf8.length_bytes_of_marked hmarked
  rw [Utf8.length_bytes, Utf8.length_bytes] at hlength
  omega

theorem eq_of_encodeDeterministicCbor {v : Cbor}
    (h : encodeDeterministicCbor (Cbor.mapText Utf8.dropByteOrderMark v) =
      .ok (Cbor.encode v)) :
    Cbor.mapText Utf8.dropByteOrderMark v = v :=
  (shortens_dropByteOrderMark.encode v).2 (Cbor.length_of_write h).symm

theorem decodeDeterministicCbor_eq_ok_iff {bytes : List UInt8} {maxBytes : Nat} {v : Cbor} :
    decodeDeterministicCbor bytes maxBytes = .ok v ↔
      (bytes.length ≠ 0 ∧ bytes.length ≤ maxBytes) ∧ Cbor.Wire tsRules v ∧
        (∀ s ∈ v.texts, ¬ Utf8.Marked s) ∧ Cbor.encode v = bytes := by
  unfold decodeDeterministicCbor
  by_cases hsize : bytes.length = 0 ∨ maxBytes < bytes.length
  · rw [if_pos hsize]
    constructor
    · rintro ⟨⟩
    · rintro ⟨hlength, _⟩
      omega
  rw [if_neg hsize, bind_eq_ok]
  have hmarks : ∀ {v : Cbor}, Cbor.mapText Utf8.dropByteOrderMark v = v ↔
      ∀ s ∈ v.texts, ¬ Utf8.Marked s := by
    intro v
    simp only [Cbor.mapText_eq_self_iff, Utf8.dropByteOrderMark_eq_self_iff]
  constructor
  · rintro ⟨⟨w, rest⟩, hread, hrest⟩
    obtain ⟨u, hwire, _, rfl, hinput⟩ := readValue_eq_ok_iff.mp hread
    obtain ⟨hempty, hrest⟩ := throwIf_bind_eq_ok.mp hrest
    obtain ⟨encoded, hencoded, hrest⟩ := bind_eq_ok.mp hrest
    obtain ⟨hsame, heq⟩ := throwIf_bind_eq_ok.mp hrest
    obtain rfl := Except.ok.inj heq
    obtain rfl := not_not.mp hempty
    obtain rfl := not_not.mp hsame
    rw [List.append_nil] at hinput
    have hu := eq_of_encodeDeterministicCbor (hinput ▸ hencoded)
    rw [hu]
    exact ⟨by omega, hwire, hmarks.mp hu, hinput.symm⟩
  · rintro ⟨_, hwire, hunmarked, rfl⟩
    refine ⟨(v, []), readValue_eq_ok_iff.mpr ⟨v, hwire, Cbor.depth_le_length_encode v,
      hmarks.mpr hunmarked, by simp⟩, ?_⟩
    refine throwIf_bind_eq_ok.mpr ⟨by simp, ?_⟩
    refine bind_eq_ok.mpr ⟨_, encodeDeterministicCbor_of_wire hwire, ?_⟩
    exact throwIf_bind_eq_ok.mpr ⟨by simp, rfl⟩

end Canonical

section RoundTrip

variable {v : Cbor} {maxBytes : Nat}

/-- What the encoder takes: it does not look at the length of a text. -/
def encoderRules : Cbor.Rules where
  maxArgument := maxSafeInteger
  maxBytes := maxCborBytes
  maxTextBytes := maxCborBytes
  maxEntries := maxCborCollectionEntries
  textOk := fun _ => true
  text := id
  maxArgument_lt := by decide
  maxBytes_le := by decide
  maxTextBytes_le := by decide
  maxEntries_le := by decide

theorem fits_encoderRules (h : Cbor.Fits tsRules v) : Cbor.Fits encoderRules v :=
  h.mono le_rfl le_rfl le_rfl fun _ hs => ⟨rfl, hs.2.trans (by decide)⟩

theorem encodeDeterministicCbor_of_fits (h : Cbor.Fits encoderRules v) :
    encodeDeterministicCbor v = .ok (Cbor.encode v.sortKeys) :=
  Cbor.write_of_fits h (fun _ hn => throwIf_eq_ok.mpr (Nat.not_lt.mpr hn))
    (fun _ hn => throwIf_eq_ok.mpr (Nat.not_lt.mpr hn))

/-- The decoder makes of an encoding the encoded value with its keys in order, if the texts are
short enough and do not begin with U+FEFF, and nothing otherwise. -/
theorem decode_encode_eq_ok_iff (h : Cbor.Fits encoderRules v) {w : Cbor} :
    decodeDeterministicCbor (Cbor.encode v.sortKeys) maxBytes = .ok w ↔
      (Cbor.encode v).length ≤ maxBytes ∧
        (∀ s ∈ v.texts, s.utf8ByteSize ≤ maxCborTextBytes ∧ ¬ Utf8.Marked s) ∧
          w = v.sortKeys := by
  have hlength : (Cbor.encode v.sortKeys).length = (Cbor.encode v).length :=
    Cbor.length_encode_sortKeys h
  have hone := Cbor.one_le_length_encode v
  have hwire : Cbor.Wire encoderRules v.sortKeys := h.wire fun _ _ => rfl
  rw [decodeDeterministicCbor_eq_ok_iff]
  constructor
  · rintro ⟨⟨_, hsize⟩, hread, hunmarked, hencode⟩
    have hle : maxCborTextBytes ≤ maxCborBytes := by decide
    have hread' : Cbor.Wire encoderRules w := hread.transfer _ le_rfl le_rfl hread.uints_le
      fun s hs => ⟨⟨rfl, (hread.textOk s hs).2.trans hle⟩, rfl⟩
    obtain rfl := hread'.eq_of_encode_eq hwire (fun _ => rfl) hencode
    refine ⟨hlength ▸ hsize, fun s hs => ?_, rfl⟩
    rw [← Cbor.mem_texts_sortKeys] at hs
    exact ⟨(hread.textOk s hs).2, hunmarked s hs⟩
  · rintro ⟨hsize, htexts, rfl⟩
    have htexts' : ∀ s ∈ v.sortKeys.texts,
        s.utf8ByteSize ≤ maxCborTextBytes ∧ ¬ Utf8.Marked s :=
      fun s hs => htexts s (Cbor.mem_texts_sortKeys.mp hs)
    refine ⟨⟨by omega, by omega⟩, ?_, fun s hs => (htexts' s hs).2, rfl⟩
    refine hwire.transfer _ le_rfl le_rfl hwire.uints_le fun s hs => ⟨⟨rfl, (htexts' s hs).1⟩, ?_⟩
    exact Utf8.dropByteOrderMark_eq_self_iff.mpr (htexts' s hs).2

theorem decode_record_eq_ok_iff {entries : List (String × Cbor)} {encoded : List UInt8} {w : Cbor}
    (h : Cbor.Fits encoderRules (.map entries))
    (hflat : ∀ entry ∈ entries, entry.2.sortKeys = entry.2)
    (hencoded : encodeDeterministicCbor (.map entries) = .ok encoded) :
    decodeDeterministicCbor encoded maxBytes = .ok w ↔
      encoded.length ≤ maxBytes ∧
        (∀ s ∈ (Cbor.map entries).texts,
          s.utf8ByteSize ≤ maxCborTextBytes ∧ ¬ Utf8.Marked s) ∧
          w = .map (Cbor.inKeyOrder entries) := by
  obtain rfl := Except.ok.inj ((encodeDeterministicCbor_of_fits h).symm.trans hencoded)
  rw [decode_encode_eq_ok_iff h, Cbor.length_encode_sortKeys h, Cbor.sortKeys_record hflat]

theorem decode_encode_sortKeys_iff (h : Cbor.Fits tsRules v)
    (hsize : (Cbor.encode v).length ≤ maxBytes) :
    decodeDeterministicCbor (Cbor.encode v.sortKeys) maxBytes = .ok v.sortKeys ↔
      ∀ s ∈ v.texts, ¬ Utf8.Marked s := by
  rw [decode_encode_eq_ok_iff (fits_encoderRules h)]
  constructor
  · rintro ⟨_, htexts, _⟩ s hs
    exact (htexts s hs).2
  · exact fun hunmarked => ⟨hsize, fun s hs => ⟨(h.textOk s hs).2, hunmarked s hs⟩, rfl⟩

def DecodesTo (v : Cbor) (maxBytes : Nat) (w : Cbor) : Prop :=
  ∃ encoded, encodeDeterministicCbor v = .ok encoded ∧
    decodeDeterministicCbor encoded maxBytes = .ok w

/-- A value within the limits comes back with the keys of its maps in order if and only if
none of its texts begins with U+FEFF, and as it stands if its keys were in order besides. -/
theorem decodesTo_iff (h : Cbor.Fits tsRules v) (hsize : (Cbor.encode v).length ≤ maxBytes) :
    (DecodesTo v maxBytes v.sortKeys ↔ ∀ s ∈ v.texts, ¬ Utf8.Marked s) ∧
      (DecodesTo v maxBytes v ↔ (∀ s ∈ v.texts, ¬ Utf8.Marked s) ∧ v.sortKeys = v) := by
  have hencoded := encodeDeterministicCbor_of_fits (fits_encoderRules h)
  have hdecodes : ∀ w, DecodesTo v maxBytes w ↔
      decodeDeterministicCbor (Cbor.encode v.sortKeys) maxBytes = .ok w := by
    intro w
    constructor
    · rintro ⟨encoded, hencoded', hdecoded⟩
      obtain rfl := Except.ok.inj (hencoded.symm.trans hencoded')
      exact hdecoded
    · exact fun hdecoded => ⟨_, hencoded, hdecoded⟩
  have hsorted := decode_encode_sortKeys_iff h hsize
  refine ⟨(hdecodes _).trans hsorted, (hdecodes _).trans ⟨fun hdecoded => ?_, ?_⟩⟩
  · have heq : v.sortKeys = v :=
      (decodeDeterministicCbor_eq_ok_iff.mp hdecoded).2.1.sortKeys_eq
    exact ⟨hsorted.mp (heq.symm ▸ hdecoded), heq⟩
  · rintro ⟨hunmarked, heq⟩
    have hdecoded := hsorted.mpr hunmarked
    rwa [heq] at hdecoded ⊢

def unsortedEntries : Cbor :=
  .map [("kind", .text "probe"), ("id", .array [.uint 24, .bool true])]

theorem fits_unsortedEntries : Cbor.Fits tsRules unsortedEntries := by
  refine .map (by decide) ?_ (by decide) ?_
  · simp only [List.forall_mem_cons, forall_mem_nil, and_true]
    exact ⟨⟨by decide, by decide⟩, ⟨by decide, by decide⟩⟩
  · intro entry hentry
    rcases List.mem_pair.mp hentry with rfl | rfl
    · exact .text ⟨by decide, by decide⟩
    · refine .array (by decide) fun v hv => ?_
      rcases List.mem_pair.mp hv with rfl | rfl
      · exact .uint (by decide)
      · exact .bool true

theorem decodesTo_unsortedEntries :
    DecodesTo unsortedEntries (64 * 1024) unsortedEntries.sortKeys := by
  have hunmarked : ∀ s ∈ unsortedEntries.texts, s.toList.head? ≠ some Utf8.byteOrderMark := by
    decide
  exact (decodesTo_iff fits_unsortedEntries (by decide)).1.mpr hunmarked

/-- A text that begins with U+FEFF does not come back. -/
theorem not_decodesTo_marked : ¬ ∀ v, Cbor.Fits tsRules v →
    (Cbor.encode v).length ≤ 64 * 1024 → DecodesTo v (64 * 1024) v.sortKeys := by
  intro hall
  have hfits : Cbor.Fits tsRules (.text "\uFEFF") := .text ⟨by decide, by decide⟩
  have hdecodes := hall _ hfits (by decide)
  exact (decodesTo_iff hfits (by decide)).1.mp hdecodes "\uFEFF" (List.mem_singleton.mpr rfl) rfl

end RoundTrip

section Fields

def CborError.message : CborError → String
  | .invalidCborSize => "invalid_cbor_size"
  | .trailingCbor => "trailing_cbor"
  | .nonCanonicalCbor => "non_canonical_cbor"
  | .unsupportedCborType => "unsupported_cbor_type"
  | .unsupportedCborArgument => "unsupported_cbor_argument"
  | .truncatedCbor => "truncated_cbor"
  | .invalidCborBytes => "invalid_cbor_bytes"
  | .invalidCborText => "invalid_cbor_text"
  | .tooManyArrayEntries => "too_many_array_entries"
  | .tooManyMapEntries => "too_many_map_entries"
  | .nonTextMapKey => "non_text_map_key"
  | .duplicate key => "duplicate_" ++ key
  | .invalidUnsigned => "invalid_unsigned"
  | .stackExhausted => "stack_exhausted"

abbrev CborMap := List (String × Cbor)

def readCborMap (value : Cbor) (label : String) : Except String CborMap :=
  match value with
  | .map entries => .ok entries
  | _ => .error ("missing_" ++ label)

def getRequiredEntry (map : CborMap) (key : String) : Except String Cbor :=
  match map.lookup key with
  | some value => .ok value
  | none => .error ("missing_" ++ key)

def hasEntry (map : CborMap) (key : String) : Bool := (map.lookup key).isSome

def rejectUnknownEntries (map : CborMap) (keys : List String) : Except String Unit :=
  match map.find? fun entry => entry.1 ∉ keys with
  | some entry => .error ("unknown_" ++ entry.1)
  | none => .ok ()

def readText (value : Cbor) (key : String) : Except String String :=
  match value with
  | .text s =>
    if s = "" ∨ maxCborTextBytes < s.utf8ByteSize then .error ("invalid_" ++ key) else .ok s
  | _ => .error ("invalid_" ++ key)

def readUint (value : Cbor) (key : String) : Except String Nat :=
  match value with
  | .uint n => if maxSafeInteger < n then .error ("invalid_" ++ key) else .ok n
  | _ => .error ("invalid_" ++ key)

def readBoolean (value : Cbor) (key : String) : Except String Bool :=
  match value with
  | .bool b => .ok b
  | _ => .error ("invalid_" ++ key)

def readBytes (value : Cbor) (key : String) (size : Option Nat) :
    Except String (List UInt8) :=
  match value with
  | .bytes data =>
    if data.length = 0 ∨ maxCborBytes < data.length then .error ("invalid_" ++ key)
    else if ∃ n ∈ size, data.length ≠ n then .error ("invalid_" ++ key)
    else .ok data
  | _ => .error ("invalid_" ++ key)

def readTextArray (value : Cbor) (key : String) (maxItems : Nat) :
    Except String (List String) :=
  match value with
  | .array values =>
    if values.length = 0 ∨ maxItems < values.length then .error ("invalid_" ++ key)
    else values.mapM fun entry => readText entry key
  | _ => .error ("invalid_" ++ key)

variable {map : CborMap} {key : String} {value : Cbor}

theorem readCborMap_eq_ok_iff {label : String} {entries : CborMap} :
    readCborMap value label = .ok entries ↔ value = .map entries := by
  unfold readCborMap
  split <;> simp_all

theorem getRequiredEntry_eq_ok_iff :
    getRequiredEntry map key = .ok value ↔ map.lookup key = some value := by
  unfold getRequiredEntry
  cases map.lookup key <;> simp

theorem hasEntry_eq_false_iff : hasEntry map key = false ↔ map.lookup key = none := by
  simp [hasEntry]

theorem rejectUnknownEntries_eq_ok_iff {keys : List String} {u : Unit} :
    rejectUnknownEntries map keys = .ok u ↔ ∀ entry ∈ map, entry.1 ∈ keys := by
  unfold rejectUnknownEntries
  split
  · rename_i entry hfind
    have hunknown := List.find?_some hfind
    have hmem := List.mem_of_find?_eq_some hfind
    simp only [reduceCtorEq, false_iff]
    exact fun hall => by simp [hall entry hmem] at hunknown
  · rename_i hfind
    simp only [true_iff]
    intro entry hentry
    simpa using List.find?_eq_none.mp hfind entry hentry

theorem readText_eq_ok_iff {s : String} :
    readText value key = .ok s ↔
      value = .text s ∧ s ≠ "" ∧ s.utf8ByteSize ≤ maxCborTextBytes := by
  cases value with
  | text s' =>
    rw [readText, ite_error_eq_ok, not_or, Nat.not_lt, Except.ok.injEq, Cbor.text.injEq]
    constructor
    · rintro ⟨hbound, rfl⟩
      exact ⟨rfl, hbound⟩
    · rintro ⟨rfl, hbound⟩
      exact ⟨hbound, rfl⟩
  | _ => simp [readText]

theorem readUint_eq_ok_iff {n : Nat} :
    readUint value key = .ok n ↔ value = .uint n ∧ n ≤ maxSafeInteger := by
  cases value with
  | uint n' =>
    rw [readUint, ite_error_eq_ok, Nat.not_lt, Except.ok.injEq, Cbor.uint.injEq]
    constructor
    · rintro ⟨hbound, rfl⟩
      exact ⟨rfl, hbound⟩
    · rintro ⟨rfl, hbound⟩
      exact ⟨hbound, rfl⟩
  | _ => simp [readUint]

theorem readBoolean_eq_ok_iff {b : Bool} : readBoolean value key = .ok b ↔ value = .bool b := by
  cases value with
  | bool b' => rw [readBoolean, Except.ok.injEq, Cbor.bool.injEq]
  | _ => simp [readBoolean]

theorem readBytes_eq_ok_iff {size : Option Nat} {data : List UInt8} :
    readBytes value key size = .ok data ↔
      value = .bytes data ∧ (data.length ≠ 0 ∧ data.length ≤ maxCborBytes) ∧
        ∀ n ∈ size, data.length = n := by
  cases value with
  | bytes data' =>
    rw [readBytes, ite_error_eq_ok, ite_error_eq_ok, Except.ok.injEq, Cbor.bytes.injEq]
    push Not
    constructor
    · rintro ⟨hbound, hsize, rfl⟩
      exact ⟨rfl, hbound, hsize⟩
    · rintro ⟨rfl, hbound, hsize⟩
      exact ⟨hbound, hsize, rfl⟩
  | _ => simp [readBytes]

theorem readTextArray_eq_ok_iff {maxItems : Nat} {items : List String} :
    readTextArray value key maxItems = .ok items ↔
      value = .array (items.map .text) ∧ (items.length ≠ 0 ∧ items.length ≤ maxItems) ∧
        ∀ s ∈ items, s ≠ "" ∧ s.utf8ByteSize ≤ maxCborTextBytes := by
  have hitems : ∀ values : List Cbor,
      List.Forall₂ (fun entry s => readText entry key = .ok s) values items ↔
        values = items.map .text ∧ ∀ s ∈ items, s ≠ "" ∧ s.utf8ByteSize ≤ maxCborTextBytes := by
    induction items with
    | nil => simp
    | cons s items ih =>
      intro values
      rw [List.forall₂_cons_right_iff]
      constructor
      · rintro ⟨v, values', hv, hvalues, rfl⟩
        obtain ⟨rfl, hbound⟩ := readText_eq_ok_iff.mp hv
        obtain ⟨rfl, hbounds⟩ := (ih values').mp hvalues
        exact ⟨rfl, List.forall_mem_cons.mpr ⟨hbound, hbounds⟩⟩
      · rintro ⟨rfl, hbounds⟩
        obtain ⟨hbound, hbounds⟩ := List.forall_mem_cons.mp hbounds
        exact ⟨.text s, items.map .text, readText_eq_ok_iff.mpr ⟨rfl, hbound⟩,
          (ih _).mpr ⟨rfl, hbounds⟩, rfl⟩
  cases value with
  | array values =>
    rw [readTextArray, ite_error_eq_ok, mapM_eq_ok_iff, hitems, Cbor.array.injEq]
    push Not
    constructor
    · rintro ⟨hcount, rfl, hbounds⟩
      rw [List.length_map] at hcount
      exact ⟨rfl, hcount, hbounds⟩
    · rintro ⟨rfl, hcount, hbounds⟩
      rw [List.length_map]
      exact ⟨hcount, rfl, hbounds⟩
  | _ => simp [readTextArray]

theorem decode_reads_iff {record : CborMap} {bytes : List UInt8} {maxBytes : Nat}
    (h : Cbor.Fits tsRules (.map record))
    (hflat : ∀ entry ∈ record, entry.2.sortKeys = entry.2) :
    (∃ map, decodeDeterministicCbor bytes maxBytes = .ok (.map map) ∧ Cbor.Reads map record) ↔
      bytes.length ≤ maxBytes ∧ (∀ s ∈ (Cbor.map record).texts, ¬ Utf8.Marked s) ∧
        bytes = Cbor.encode (.map (Cbor.inKeyOrder record)) := by
  have hdistinct : (record.map Prod.fst).Nodup := by
    cases h with
    | map hlength hkeys hdistinct hvalues => exact hdistinct
  have hsorted := Cbor.sortKeys_record hflat
  have hlength := Cbor.length_encode_sortKeys h
  constructor
  · rintro ⟨map, hdecode, hreads⟩
    obtain ⟨⟨_, hsize⟩, hwire, hunmarked, hencode⟩ :=
      decodeDeterministicCbor_eq_ok_iff.mp hdecode
    obtain rfl := (Cbor.reads_iff hwire hdistinct).mp hreads
    refine ⟨hsize, fun s hs => hunmarked s ?_, hencode.symm⟩
    rwa [← hsorted, Cbor.mem_texts_sortKeys]
  · rintro ⟨hsize, hunmarked, rfl⟩
    rw [← hsorted, hlength] at hsize
    have hdecode := (decode_encode_sortKeys_iff h hsize).mpr hunmarked
    rw [hsorted] at hdecode
    have hwire := decodeDeterministicCbor_eq_ok_iff.mp hdecode
    exact ⟨_, hdecode, (Cbor.reads_iff hwire.2.1 hdistinct).mpr rfl⟩

end Fields

end Branch.Core
