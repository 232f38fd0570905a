/-!
Text as bytes. Encoding is that of `String`; decoding takes every byte at which no
encoding starts for one replacement character.
-/

namespace Branch.Lib.Utf8

def replacement : Char := Char.ofNat 0xFFFD

/-- The first character and the number of bytes that it takes. -/
def decodeRune (bytes : List UInt8) : Char × Nat :=
  match (bytes.take 4).toByteArray.utf8DecodeChar? 0 with
  | some c => (c, c.utf8Size)
  | none => (replacement, 1)

/-- Decode after passing over the rest of a character that has been read. -/
def decodeFrom : Nat → List UInt8 → List Char
  | _, [] => []
  | skip + 1, _ :: bytes => decodeFrom skip bytes
  | 0, b :: bytes =>
    let rune := decodeRune (b :: bytes)
    rune.1 :: decodeFrom (rune.2 - 1) bytes

def decode (bytes : List UInt8) : List Char := decodeFrom 0 bytes

def encode (cs : List Char) : List UInt8 := cs.flatMap String.utf8EncodeChar

theorem decodeRune_append (c : Char) (bytes : List UInt8) :
    decodeRune (String.utf8EncodeChar c ++ bytes) = (c, c.utf8Size) := by
  have hlength : (String.utf8EncodeChar c).length ≤ 4 := by
    rw [String.length_utf8EncodeChar]
    exact c.utf8Size_le_four
  have htake : (String.utf8EncodeChar c ++ bytes).take 4 =
      String.utf8EncodeChar c ++ bytes.take (4 - (String.utf8EncodeChar c).length) := by
    rw [List.take_append, List.take_of_length_le hlength]
  rw [decodeRune, htake, List.toByteArray_append,
    ByteArray.utf8DecodeChar?_utf8EncodeChar_append]

theorem decodeFrom_append (skipped bytes : List UInt8) :
    decodeFrom skipped.length (skipped ++ bytes) = decode bytes := by
  induction skipped with
  | nil => rfl
  | cons b skipped ih => exact ih

theorem decode_append (c : Char) (bytes : List UInt8) :
    decode (String.utf8EncodeChar c ++ bytes) = c :: decode bytes := by
  have hrune := decodeRune_append c bytes
  have hlength := String.length_utf8EncodeChar c
  cases hencode : String.utf8EncodeChar c with
  | nil => exact absurd hencode String.utf8EncodeChar_ne_nil
  | cons b rest =>
    rw [hencode] at hrune hlength
    have hrest : c.utf8Size - 1 = rest.length := by
      rw [← hlength, List.length_cons, Nat.add_sub_cancel]
    calc decode (b :: rest ++ bytes)
        = (decodeRune (b :: rest ++ bytes)).1 ::
            decodeFrom ((decodeRune (b :: rest ++ bytes)).2 - 1) (rest ++ bytes) := rfl
      _ = c :: decodeFrom rest.length (rest ++ bytes) := by rw [hrune, hrest]
      _ = c :: decode bytes := by rw [decodeFrom_append]

@[simp] theorem decode_encode (cs : List Char) : decode (encode cs) = cs := by
  induction cs with
  | nil => rfl
  | cons c cs ih =>
    calc decode (encode (c :: cs))
        = decode (String.utf8EncodeChar c ++ encode cs) := rfl
      _ = c :: cs := by rw [decode_append, ih]

theorem encode_injective : Function.Injective encode := by
  intro cs ds h
  rw [← decode_encode cs, h, decode_encode]

theorem length_le_length_encode (cs : List Char) : cs.length ≤ (encode cs).length := by
  induction cs with
  | nil => exact Nat.le_refl 0
  | cons c cs ih =>
    have hpos : 0 < (String.utf8EncodeChar c).length := by
      rw [String.length_utf8EncodeChar]
      exact c.utf8Size_pos
    simp only [encode, List.flatMap_cons, List.length_append, List.length_cons] at ih ⊢
    omega

def bytes (s : String) : List UInt8 := encode s.toList

@[simp] theorem length_bytes (s : String) : (bytes s).length = s.utf8ByteSize := by
  calc (bytes s).length
      = s.toList.utf8Encode.size := (List.size_toByteArray (l := bytes s)).symm
    _ = s.utf8ByteSize := by rw [String.utf8Encode_toList, String.size_toByteArray]

theorem bytes_injective : Function.Injective bytes :=
  encode_injective.comp fun _ _ h => String.toList_inj.mp h

/-- The text that the bytes spell, if they are valid throughout. -/
def text? (input : List UInt8) : Option String :=
  let s := String.ofList (decode input)
  if bytes s = input then some s else none

theorem text?_eq_some_iff {input : List UInt8} {s : String} :
    text? input = some s ↔ bytes s = input := by
  simp only [text?, Option.ite_none_right_eq_some, Option.some.injEq]
  constructor
  · rintro ⟨h, rfl⟩
    exact h
  · rintro rfl
    simp [bytes]

theorem encode_decode {input : List UInt8} (h : replacement ∉ decode input) :
    encode (decode input) = input := by
  obtain ⟨n, hn⟩ : ∃ n, input.length ≤ n := ⟨_, Nat.le_refl _⟩
  induction n generalizing input with
  | zero =>
    obtain rfl := List.length_eq_zero_iff.mp (Nat.le_zero.mp hn)
    rfl
  | succ n ih =>
    cases input with
    | nil => rfl
    | cons b rest =>
      cases hchar : ((b :: rest).take 4).toByteArray.utf8DecodeChar? 0 with
      | none =>
        refine absurd ?_ h
        have hrune : decodeRune (b :: rest) = (replacement, 1) := by
          rw [decodeRune, hchar]
        rw [decode, decodeFrom, hrune]
        exact List.mem_cons_self
      | some c =>
        obtain ⟨l, hl⟩ := ByteArray.exists_of_utf8DecodeChar?_eq_some hchar
        have htake : (b :: rest).take 4 = String.utf8EncodeChar c ++ l.data.toList := by
          have hdata := congrArg (fun bytes => bytes.data.toList) hl
          simpa using hdata
        have hall : b :: rest =
            String.utf8EncodeChar c ++ (l.data.toList ++ (b :: rest).drop 4) := by
          rw [← List.append_assoc, ← htake, List.take_append_drop]
        rw [hall] at h hn ⊢
        rw [decode_append] at h ⊢
        have hsize := c.utf8Size_pos
        rw [List.length_append, String.length_utf8EncodeChar] at hn
        have hrest := ih (fun hmem => h (List.mem_cons_of_mem c hmem)) (by omega)
        rw [encode, List.flatMap_cons]
        exact congrArg _ hrest

def byteOrderMark : Char := Char.ofNat 0xFEFF

def dropByteOrderMark (s : String) : String :=
  match s.toList with
  | [] => s
  | c :: cs => if c = byteOrderMark then String.ofList cs else s

/-- A text that a text decoder gives back with less than it was written with. -/
def Marked (s : String) : Prop := s.toList.head? = some byteOrderMark

instance (s : String) : Decidable (Marked s) := inferInstanceAs (Decidable (_ = _))

theorem dropByteOrderMark_of_not_marked {s : String} (h : ¬ Marked s) :
    dropByteOrderMark s = s := by
  unfold dropByteOrderMark
  split
  · rfl
  · rename_i c cs heq
    exact if_neg fun hc => h (by rw [Marked, heq, List.head?_cons, hc])

theorem length_bytes_of_marked {s : String} (h : Marked s) :
    (bytes s).length = (bytes (dropByteOrderMark s)).length + 3 := by
  cases hlist : s.toList with
  | nil => simp [Marked, hlist] at h
  | cons c cs =>
    have hc : c = byteOrderMark := by simpa [Marked, hlist] using h
    have hdrop : dropByteOrderMark s = String.ofList cs := by
      simp [dropByteOrderMark, hlist, hc]
    subst hc
    simp only [bytes, hdrop, hlist, String.toList_ofList, encode, List.flatMap_cons,
      List.length_append, String.length_utf8EncodeChar]
    exact Nat.add_comm _ _

theorem dropByteOrderMark_eq_self_iff {s : String} :
    dropByteOrderMark s = s ↔ ¬ Marked s := by
  constructor
  · intro h hmarked
    have := length_bytes_of_marked hmarked
    rw [h] at this
    omega
  · exact dropByteOrderMark_of_not_marked

/-- A byte that starts no encoding is one replacement character. -/
example : decode [0x61, 0xFF, 0xE2, 0x82, 0x62] =
    ['a', replacement, replacement, replacement, 'b'] := by decide +kernel

end Branch.Lib.Utf8
