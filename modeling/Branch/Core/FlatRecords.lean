import Branch.Core.Attachment

/-!
Records of numbers, texts and bytes with nothing nested in them: what the codecs of
attachments and of images have in common.
-/

namespace Branch.Core.FlatRecords

open Branch.Lib

section Codec

def encodeMap (map : CborMap) : Except String (List UInt8) :=
  (encodeDeterministicCbor (.map map)).mapError CborError.message

def strictMap (bytes : List UInt8) (invalidSize label : String) (maximumBytes : Nat)
    (names : List String) : Except String CborMap := do
  throwIf (bytes.length = 0 ∨ maximumBytes < bytes.length) invalidSize
  let decoded ← (decodeDeterministicCbor bytes maximumBytes).mapError CborError.message
  let map ← readCborMap decoded label
  rejectUnknownEntries map names
  return map

def token (map : CborMap) (key : String) (size : Nat) : Except String String := do
  let bytes ← requiredBytes map key (some size)
  return Base64.encode bytes

def jsText (map : CborMap) (key : String) : Except String JsString := do
  let text ← requiredText map key
  return Utf16.units text

/-- A record has the version of its reader, or it is refused. -/
def readVersion (map : CborMap) (version unsupported : String) : Except String String := do
  let read ← requiredText map "version"
  throwIf (read ≠ version) unsupported
  return version

end Codec

section RoundTrip

/-- A value that the encoder takes, unless it is a number that is too large, and that is
short enough for the decoder. -/
def Short : Cbor → Prop
  | .uint _ => True
  | .text s => s.utf8ByteSize ≤ maxCborTextBytes
  | .bytes data => data.length ≤ maxCborBytes
  | _ => False

/-- Few different and short keys, none of which begins with U+FEFF. -/
structure GoodKeys (keys : List String) : Prop where
  few : keys.length ≤ maxCborCollectionEntries
  distinct : keys.Nodup
  short : ∀ key ∈ keys, key.utf8ByteSize ≤ maxCborTextBytes
  unmarked : ∀ key ∈ keys, ¬ Utf8.Marked key

theorem GoodKeys.sublist {keys keys' : List String} (h : GoodKeys keys)
    (hsub : keys'.Sublist keys) : GoodKeys keys' where
  few := hsub.length_le.trans h.few
  distinct := h.distinct.sublist hsub
  short := fun key hkey => h.short key (hsub.subset hkey)
  unmarked := fun key hkey => h.unmarked key (hsub.subset hkey)

def Unmarked (record : CborMap) : Prop :=
  ∀ entry ∈ record, ∀ s, entry.2 = .text s → ¬ Utf8.Marked s

variable {record : CborMap} {encoded : List UInt8}

theorem unmarked_append {record record' : CborMap} :
    Unmarked (record ++ record') ↔ Unmarked record ∧ Unmarked record' := by
  simp only [Unmarked, List.forall_mem_append]

theorem uint_le_of_encodeMap (h : encodeMap record = .ok encoded) {key : String} {n : Nat}
    (hentry : (key, .uint n) ∈ record) : n ≤ maxSafeInteger := by
  have hcheck := Cbor.uint_of_write_map (mapError_eq_ok.mp h) hentry
  exact Nat.not_lt.mp (throwIf_eq_ok.mp hcheck)

theorem fits_of_encodeMap (hkeys : GoodKeys (record.map Prod.fst))
    (hshort : ∀ entry ∈ record, Short entry.2) (h : encodeMap record = .ok encoded) :
    Cbor.Fits encoderRules (.map record) := by
  have hmaxText : maxCborTextBytes ≤ maxCborBytes := by decide
  refine .map ?_ (fun entry hentry => ⟨rfl, ?_⟩) hkeys.distinct fun entry hentry => ?_
  · have hfew := hkeys.few
    rwa [List.length_map] at hfew
  · exact (hkeys.short _ (List.mem_map_of_mem hentry)).trans hmaxText
  · have hvalue := hshort entry hentry
    obtain ⟨key, value⟩ := entry
    cases value with
    | uint n => exact .uint (uint_le_of_encodeMap h hentry)
    | text s => exact .text ⟨rfl, le_trans hvalue hmaxText⟩
    | bytes data => exact .bytes hvalue
    | _ => exact hvalue.elim

theorem texts_iff (hkeys : GoodKeys (record.map Prod.fst))
    (hshort : ∀ entry ∈ record, Short entry.2) :
    (∀ s ∈ (Cbor.map record).texts, s.utf8ByteSize ≤ maxCborTextBytes ∧ ¬ Utf8.Marked s) ↔
      Unmarked record := by
  simp only [Cbor.texts, Cbor.mem_textsEntries]
  constructor
  · rintro h ⟨key, value⟩ hentry s rfl
    exact (h s ⟨_, hentry, .inr (List.mem_singleton.mpr rfl)⟩).2
  · rintro h s ⟨⟨key, value⟩, hentry, rfl | hs⟩
    · exact ⟨hkeys.short _ (List.mem_map_of_mem hentry),
        hkeys.unmarked _ (List.mem_map_of_mem hentry)⟩
    · have hvalue := hshort _ hentry
      cases value with
      | text t =>
        obtain rfl := List.mem_singleton.mp hs
        exact ⟨hvalue, h _ hentry _ rfl⟩
      | uint n => cases hs
      | bytes data => cases hs
      | _ => exact hvalue.elim

/-- The decoder reads the map of a record with its entries in the order of their keys, if the
encoding is short enough and no text begins with U+FEFF. -/
theorem strictMap_eq_ok_iff {invalidSize label : String} {maximumBytes : Nat}
    {names : List String} (hkeys : GoodKeys (record.map Prod.fst))
    (hshort : ∀ entry ∈ record, Short entry.2)
    (hknown : ∀ key ∈ record.map Prod.fst, key ∈ names)
    (hencoded : encodeMap record = .ok encoded) {map : CborMap} :
    strictMap encoded invalidSize label maximumBytes names = .ok map ↔
      encoded.length ≤ maximumBytes ∧ Unmarked record ∧ map = Cbor.inKeyOrder record := by
  have hwrite := mapError_eq_ok.mp hencoded
  have hflat : ∀ entry ∈ record, entry.2.sortKeys = entry.2 := by
    intro entry hentry
    have hvalue := hshort entry hentry
    cases hcase : entry.2 with
    | array values =>
      rw [hcase] at hvalue
      exact hvalue.elim
    | map entries =>
      rw [hcase] at hvalue
      exact hvalue.elim
    | _ => rfl
  have hdecode := fun w => @decode_record_eq_ok_iff maximumBytes _ _ w
    (fits_of_encodeMap hkeys hshort hencoded) hflat hwrite
  simp only [texts_iff hkeys hshort] at hdecode
  have hpos : encoded.length ≠ 0 := by
    have hlength := Cbor.length_of_write hwrite
    have hone := Cbor.one_le_length_encode (.map record)
    omega
  have hunknown : rejectUnknownEntries (Cbor.inKeyOrder record) names = .ok () := by
    refine rejectUnknownEntries_eq_ok_iff.mpr fun entry hentry => ?_
    exact hknown _ (List.mem_map_of_mem (Cbor.mem_inKeyOrder.mp hentry))
  simp only [strictMap, bind_eq_ok, mapError_eq_ok, hdecode, throwIf_eq_ok,
    readCborMap_eq_ok_iff]
  constructor
  · rintro ⟨_, _, _, ⟨hsize, hunmarked, rfl⟩, read, hread, _, _, heq⟩
    obtain rfl := Cbor.map.inj hread
    exact ⟨hsize, hunmarked, (Except.ok.inj heq).symm⟩
  · rintro ⟨hsize, hunmarked, rfl⟩
    exact ⟨(), by omega, _, ⟨hsize, hunmarked, rfl⟩, _, rfl, (), hunknown, rfl⟩

theorem lookup_inKeyOrder (hkeys : GoodKeys (record.map Prod.fst)) (key : String) :
    (Cbor.inKeyOrder record).lookup key = record.lookup key :=
  Cbor.lookup_inKeyOrder hkeys.distinct key

section Reading

variable (hkeys : GoodKeys (record.map Prod.fst)) {key : String}
include hkeys

theorem requiredUint_inKeyOrder {n : Nat} (hencoded : encodeMap record = .ok encoded)
    (h : record.lookup key = some (.uint n)) :
    requiredUint (Cbor.inKeyOrder record) key = .ok n := by
  have hmem := (Cbor.lookup_eq_some_iff hkeys.distinct).mp h
  refine requiredUint_eq_ok_iff.mpr ⟨?_, uint_le_of_encodeMap hencoded hmem⟩
  rw [lookup_inKeyOrder hkeys, h]

theorem requiredText_inKeyOrder {s : String} (h : record.lookup key = some (.text s))
    (hne : s ≠ "") (hs : s.utf8ByteSize ≤ maxCborTextBytes) :
    requiredText (Cbor.inKeyOrder record) key = .ok s := by
  refine requiredText_eq_ok_iff.mpr ⟨?_, hne, hs⟩
  rw [lookup_inKeyOrder hkeys, h]

theorem readVersion_inKeyOrder {version unsupported : String}
    (h : record.lookup "version" = some (.text version)) (hne : version ≠ "")
    (hs : version.utf8ByteSize ≤ maxCborTextBytes) :
    readVersion (Cbor.inKeyOrder record) version unsupported = .ok version := by
  refine bind_eq_ok.mpr ⟨version, requiredText_inKeyOrder hkeys h hne hs, ?_⟩
  exact throwIf_bind_eq_ok.mpr ⟨not_not.mpr rfl, rfl⟩

theorem jsText_inKeyOrder {s : JsString} (h : record.lookup key = some (.text (Utf16.text s)))
    (hne : (textEncode s).length ≠ 0) (hs : (textEncode s).length ≤ maxCborTextBytes) :
    jsText (Cbor.inKeyOrder record) key = .ok (Utf16.units (Utf16.text s)) := by
  rw [textEncode, Utf8.length_bytes] at hne hs
  have hnonempty : Utf16.text s ≠ "" := by
    intro hempty
    rw [hempty] at hne
    exact hne rfl
  exact bind_eq_ok.mpr ⟨_, requiredText_inKeyOrder hkeys h hnonempty hs, rfl⟩

theorem requiredBytes_inKeyOrder {data : List UInt8} {size : Option Nat}
    (h : record.lookup key = some (.bytes data)) (hne : data.length ≠ 0)
    (hle : data.length ≤ maxCborBytes) (hsize : ∀ n ∈ size, data.length = n) :
    requiredBytes (Cbor.inKeyOrder record) key size = .ok data := by
  refine requiredBytes_eq_ok_iff.mpr ⟨?_, ⟨hne, hle⟩, hsize⟩
  rw [lookup_inKeyOrder hkeys, h]

theorem token_inKeyOrder {data : List UInt8} {size : Nat}
    (h : record.lookup key = some (.bytes data)) (hsize : data.length = size) (hpos : size ≠ 0)
    (hle : size ≤ maxCborBytes) :
    token (Cbor.inKeyOrder record) key size = .ok (Base64.encode data) := by
  refine bind_eq_ok.mpr ⟨data, requiredBytes_inKeyOrder hkeys h (by omega) (by omega) ?_, rfl⟩
  exact fun n hn => hsize.trans (Option.some.inj hn)

theorem hasEntry_inKeyOrder (key : String) :
    hasEntry (Cbor.inKeyOrder record) key = hasEntry record key := by
  rw [hasEntry, lookup_inKeyOrder hkeys, hasEntry]

end Reading

theorem decode_eq_ok_iff {α : Type} {read : CborMap → Except String α}
    {check : α → Except String Unit} {value : α} {invalidSize label : String}
    {maximumBytes : Nat} {names : List String} (hkeys : GoodKeys (record.map Prod.fst))
    (hshort : ∀ entry ∈ record, Short entry.2)
    (hknown : ∀ key ∈ record.map Prod.fst, key ∈ names)
    (hencoded : encodeMap record = .ok encoded)
    (hread : read (Cbor.inKeyOrder record) = .ok value) (hcheck : check value = .ok ())
    {result : α} :
    (do
      let map ← strictMap encoded invalidSize label maximumBytes names
      let value ← read map
      check value
      return value) = Except.ok result ↔
      encoded.length ≤ maximumBytes ∧ Unmarked record ∧ result = value := by
  simp only [bind_eq_ok, strictMap_eq_ok_iff hkeys hshort hknown hencoded]
  constructor
  · rintro ⟨map, ⟨hsize, hunmarked, rfl⟩, value', hread', _, _, heq⟩
    obtain rfl := Except.ok.inj (hread.symm.trans hread')
    exact ⟨hsize, hunmarked, (Except.ok.inj heq).symm⟩
  · rintro ⟨hsize, hunmarked, rfl⟩
    exact ⟨_, ⟨hsize, hunmarked, rfl⟩, _, hread, (), hcheck, rfl⟩

end RoundTrip

section Length

theorem length_head_le (major n : Nat) : (Cbor.head major n).length ≤ 9 := by
  unfold Cbor.head
  split_ifs <;> simp

def payload : Cbor → Nat
  | .text s => s.utf8ByteSize
  | .bytes data => data.length
  | _ => 0

variable {record : CborMap}

theorem length_encode_le {value : Cbor} (h : Short value) :
    value.encode.length ≤ 9 + payload value := by
  cases value with
  | uint n => exact length_head_le 0 n
  | text s =>
    have := length_head_le 3 s.utf8ByteSize
    simp only [Cbor.encode, Cbor.encodeText, List.length_append, Utf8.length_bytes, payload]
    omega
  | bytes data =>
    have := length_head_le 2 data.length
    simp only [Cbor.encode, List.length_append, payload]
    omega
  | _ => exact h.elim

/-- The bytes of the heads and keys of a record, at nine for each head. -/
def keyBytes (keys : List String) : Nat := (keys.map fun key => 18 + key.utf8ByteSize).sum

theorem length_encode_record_le (h : ∀ entry ∈ record, Short entry.2) :
    (Cbor.encode (.map record)).length ≤
      9 + keyBytes (record.map Prod.fst) + (record.map fun entry => payload entry.2).sum := by
  have hentries : (Cbor.encodeEntries record).length ≤
      keyBytes (record.map Prod.fst) + (record.map fun entry => payload entry.2).sum := by
    unfold keyBytes
    induction record with
    | nil => simp [Cbor.encodeEntries]
    | cons entry record ih =>
      obtain ⟨key, value⟩ := entry
      have hhead := length_head_le 3 key.utf8ByteSize
      have hvalue := length_encode_le (h _ List.mem_cons_self)
      have hrest := ih fun entry hentry => h entry (List.mem_cons_of_mem _ hentry)
      simp only [Cbor.encodeEntries, Cbor.encodeText, List.length_append, Utf8.length_bytes,
        List.map_cons, List.sum_cons] at hvalue hrest ⊢
      omega
  have hhead := length_head_le 5 record.length
  simp only [Cbor.encode, List.length_append]
  omega

theorem length_le_of_encodeMap {encoded : List UInt8} (h : ∀ entry ∈ record, Short entry.2)
    (hencoded : encodeMap record = .ok encoded) :
    encoded.length ≤
      9 + keyBytes (record.map Prod.fst) + (record.map fun entry => payload entry.2).sum := by
  rw [Cbor.length_of_write (mapError_eq_ok.mp hencoded)]
  exact length_encode_record_le h

end Length

section Respelling

def respellToken (value : String) : String :=
  match decodeBase64URL value.toList with
  | .ok bytes => Base64.encode bytes
  | .error _ => value

/-- A text that the decoder returns as it was: every half of a pair has its other half, and
it does not begin with U+FEFF. -/
def TextReturns (value : JsString) : Prop :=
  Utf16.paired value = true ∧ ¬ Utf8.Marked (Utf16.text value)

variable {value : String} {size : Nat} {bytes : List UInt8}

theorem respellToken_of_decode (h : decodeBase64URL value.toList = .ok bytes) :
    respellToken value = Base64.encode bytes := by
  rw [respellToken, h]

theorem respellToken_eq_iff (h : validToken value size = true) :
    respellToken value = value ↔ CanonicalToken value := by
  obtain ⟨bytes, hdecode, -⟩ := validToken_iff.mp h
  rw [respellToken_of_decode hdecode, encode_eq_iff_canonical hdecode]

theorem decode_respellToken (h : validToken value size = true) (hpos : 0 < size) :
    decodeBase64URL (respellToken value).toList = decodeBase64URL value.toList := by
  obtain ⟨bytes, hdecode, hlength⟩ := validToken_iff.mp h
  rw [respellToken_of_decode hdecode, hdecode, decodeBase64URL_encode (by omega)]

theorem validToken_respellToken (h : validToken value size = true) (hpos : 0 < size) :
    validToken (respellToken value) size = true := by
  rwa [validToken, decode_respellToken h hpos, ← validToken]

theorem text_units (s : String) : Utf16.text (Utf16.units s) = s :=
  Utf16.units_injective (Utf16.units_text_eq_iff.mpr (Utf16.paired_units s))

theorem textEncode_respell (value : JsString) :
    textEncode (Utf16.units (Utf16.text value)) = textEncode value := by
  rw [textEncode, text_units, textEncode]

end Respelling

end Branch.Core.FlatRecords
