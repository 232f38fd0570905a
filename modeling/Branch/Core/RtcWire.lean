import Branch.Core.RtcSignaling
import Branch.Lib.Utf16

/-!
How offers, answers and restarts travel in the body of a control. A description is a string of
the client as it stands, surrogates without their other half included.
-/

namespace Branch.Core.RtcWire

open Branch.Lib

def maxRtcSignalingBodyBytes : Nat := 2048

structure Offer where
  version : String
  rtcSessionId : String
  generation : Nat
  description : JsString
  descriptionSHA256 : String
  dtlsFingerprintSHA256 : String
  deriving DecidableEq

structure Answer extends Offer where
  offerDescriptionSHA256 : String
  deriving DecidableEq

structure Restart extends Offer where
  priorDescriptionSHA256 : String
  deriving DecidableEq

section Validators

/-- Behind the last unit `charCodeAt` is NaN, which is neither below nor above a bound. -/
def hasUnpairedSurrogate : JsString → Bool
  | [] => false
  | [code] => Utf16.isLow code
  | code :: next :: rest =>
    if Utf16.isHigh code then
      if next < 0xDC00 || 0xDFFF < next then true else hasUnpairedSurrogate rest
    else if Utf16.isLow code then true
    else hasUnpairedSurrogate (next :: rest)

def validBoundedUtf8 (value : JsString) (maximumBytes : Nat) : Bool :=
  if value.length = 0 || hasUnpairedSurrogate value then false
  else (textEncode value).length ≤ maximumBytes

def rtcDescriptionSHA256 (description : JsString) : Except String String :=
  if ¬ validBoundedUtf8 description maxRtcDescriptionBytes then .error "invalid rtc description"
  else .ok (Base64.encode (Sha256.sum256 (textEncode description)).toList)

def validateRtcDescription (value : Offer) (label : String) : Except String Unit := do
  throwIf (value.version ≠ rtcSignalingVersion ∨ ¬ validToken value.rtcSessionId 16 ∨
    ¬ validGeneration value.generation ∨
    ¬ validBoundedUtf8 value.description maxRtcDescriptionBytes ∨
    ¬ validToken value.descriptionSHA256 32 ∨ ¬ validToken value.dtlsFingerprintSHA256 32)
    ("invalid rtc " ++ label)
  let digest ← rtcDescriptionSHA256 value.description
  throwIf (digest ≠ value.descriptionSHA256) ("rtc " ++ label ++ " description hash mismatch")

def decodeToken (value : String) (size : Nat) (label : String) : Except String (List UInt8) :=
  match decodeBase64URL value.toList with
  | .error _ => .error ("invalid " ++ label)
  | .ok bytes => if bytes.length ≠ size then .error ("invalid " ++ label) else .ok bytes

def decodeDigest (value label : String) : Except String (List UInt8) := decodeToken value 32 label

def validateRtcOffer (value : Offer) : Except String Unit := validateRtcDescription value "offer"

def validateRtcAnswer (value : Answer) : Except String Unit := do
  validateRtcDescription value.toOffer "answer"
  let _ ← decodeDigest value.offerDescriptionSHA256 "offer description hash"

def validateRtcRestart (value : Restart) : Except String Unit := do
  validateRtcDescription value.toOffer "restart"
  let _ ← decodeDigest value.priorDescriptionSHA256 "prior description hash"

end Validators

section Encoder

def boundedEncoding (entries : CborMap) : Except String (List UInt8) := do
  let bytes ← (encodeDeterministicCbor (.map entries)).mapError CborError.message
  throwIf (maxRtcSignalingBodyBytes < bytes.length) "rtc signaling body too large"
  return bytes

def descriptionEntries (value : Offer) : Except String CborMap := do
  let rtcSessionId ← decodeToken value.rtcSessionId 16 "rtc session id"
  let descriptionSHA256 ← decodeDigest value.descriptionSHA256 "description hash"
  let dtlsFingerprintSHA256 ← decodeDigest value.dtlsFingerprintSHA256 "dtls fingerprint"
  return [("version", .text value.version),
    ("rtc_session_id", .bytes rtcSessionId),
    ("generation", .uint value.generation),
    ("description", .text (Utf16.text value.description)),
    ("description_sha256", .bytes descriptionSHA256),
    ("dtls_fingerprint_sha256", .bytes dtlsFingerprintSHA256)]

def encodeRtcOffer (value : Offer) : Except String (List UInt8) := do
  validateRtcOffer value
  let entries ← descriptionEntries value
  boundedEncoding entries

def encodeRtcAnswer (value : Answer) : Except String (List UInt8) := do
  validateRtcAnswer value
  let entries ← descriptionEntries value.toOffer
  let offerDescriptionSHA256 ←
    decodeDigest value.offerDescriptionSHA256 "offer description hash"
  boundedEncoding (entries ++ [("offer_description_sha256", .bytes offerDescriptionSHA256)])

def encodeRtcRestart (value : Restart) : Except String (List UInt8) := do
  validateRtcRestart value
  let rtcSessionId ← decodeToken value.rtcSessionId 16 "rtc session id"
  let priorDescriptionSHA256 ←
    decodeDigest value.priorDescriptionSHA256 "prior description hash"
  let descriptionSHA256 ← decodeDigest value.descriptionSHA256 "description hash"
  let dtlsFingerprintSHA256 ← decodeDigest value.dtlsFingerprintSHA256 "dtls fingerprint"
  boundedEncoding [("version", .text value.version),
    ("rtc_session_id", .bytes rtcSessionId),
    ("generation", .uint value.generation),
    ("prior_description_sha256", .bytes priorDescriptionSHA256),
    ("description", .text (Utf16.text value.description)),
    ("description_sha256", .bytes descriptionSHA256),
    ("dtls_fingerprint_sha256", .bytes dtlsFingerprintSHA256)]

end Encoder

section Decoder

def strictMap (bytes : List UInt8) (label : String) (keys : List String) :
    Except String CborMap := do
  throwIf (bytes.length = 0 ∨ maxRtcSignalingBodyBytes < bytes.length)
    ("invalid " ++ label ++ " body size")
  let decoded ←
    (decodeDeterministicCbor bytes maxRtcSignalingBodyBytes).mapError CborError.message
  let map ← readCborMap decoded label
  rejectUnknownEntries map keys
  return map

variable (map : CborMap)

def readRtcSignalingVersion : Except String String := do
  let version ← requiredText map "version"
  throwIf (version ≠ rtcSignalingVersion) "unsupported rtc signaling version"
  return rtcSignalingVersion

def readGeneration : Except String Nat := do
  let value ← requiredUint map "generation"
  throwIf (¬ validGeneration value) "invalid rtc generation"
  return value

def tokenFromMap (key : String) (size : Nat) : Except String String := do
  let bytes ← requiredBytes map key (some size)
  return Base64.encode bytes

def digestFromMap (key : String) : Except String String := tokenFromMap map key 32

def readBoundedUtf8 (key : String) (maximumBytes : Nat) : Except String JsString := do
  let text ← requiredText map key
  let value := Utf16.units text
  throwIf (¬ validBoundedUtf8 value maximumBytes) ("invalid " ++ key)
  return value

def descriptionFromMap : Except String Offer := do
  let version ← readRtcSignalingVersion map
  let rtcSessionId ← tokenFromMap map "rtc_session_id" 16
  let generation ← readGeneration map
  let description ← readBoundedUtf8 map "description" maxRtcDescriptionBytes
  let descriptionSHA256 ← digestFromMap map "description_sha256"
  let dtlsFingerprintSHA256 ← digestFromMap map "dtls_fingerprint_sha256"
  return { version, rtcSessionId, generation, description, descriptionSHA256
           dtlsFingerprintSHA256 }

def descriptionKeys : List String :=
  ["version", "rtc_session_id", "generation", "description", "description_sha256",
    "dtls_fingerprint_sha256"]

def decodeRtcOffer (bytes : List UInt8) : Except String Offer := do
  let map ← strictMap bytes "rtc offer" descriptionKeys
  let value ← descriptionFromMap map
  validateRtcOffer value
  return value

def decodeRtcAnswer (bytes : List UInt8) : Except String Answer := do
  let map ← strictMap bytes "rtc answer" (descriptionKeys ++ ["offer_description_sha256"])
  let offer ← descriptionFromMap map
  let offerDescriptionSHA256 ← digestFromMap map "offer_description_sha256"
  let value : Answer := { offer with offerDescriptionSHA256 }
  validateRtcAnswer value
  return value

def decodeRtcRestart (bytes : List UInt8) : Except String Restart := do
  let map ← strictMap bytes "rtc restart"
    ["version", "rtc_session_id", "generation", "prior_description_sha256", "description",
      "description_sha256", "dtls_fingerprint_sha256"]
  let offer ← descriptionFromMap map
  let priorDescriptionSHA256 ← digestFromMap map "prior_description_sha256"
  let value : Restart := { offer with priorDescriptionSHA256 }
  validateRtcRestart value
  return value

end Decoder

section Surrogates

def EndsHigh (value : JsString) : Prop := ∃ code ∈ value.getLast?, Utf16.isHigh code = true

theorem isLow_of_not_outside {next : UInt16}
    (h : ¬ (next < 0xDC00 || 0xDFFF < next) = true) : Utf16.isLow next = true := by
  simp only [Bool.or_eq_true, decide_eq_true_eq, UInt16.lt_iff_toNat_lt, not_or,
    Nat.not_lt] at h
  have hlow : (0xDC00 : UInt16).toNat = 0xDC00 := rfl
  have hhigh : (0xDFFF : UInt16).toNat = 0xDFFF := rfl
  simp only [Utf16.isLow, Bool.and_eq_true, decide_eq_true_eq]
  omega

theorem not_isHigh_of_isLow {code : UInt16} (h : Utf16.isLow code = true) :
    ¬ Utf16.isHigh code = true := by
  simp only [Utf16.isLow, Utf16.isHigh, Bool.and_eq_true, decide_eq_true_eq] at h ⊢
  omega

theorem paired_iff_of_hasUnpairedSurrogate {value : JsString}
    (h : hasUnpairedSurrogate value = false) :
    Utf16.paired value = true ↔ ¬ EndsHigh value := by
  induction value using hasUnpairedSurrogate.induct with
  | case1 => simp [Utf16.paired, EndsHigh]
  | case2 code =>
    have hlow : Utf16.isLow code = false := h
    simp [Utf16.paired, EndsHigh, hlow]
  | case3 code next rest hhigh houtside =>
    rw [hasUnpairedSurrogate, if_pos hhigh, if_pos houtside] at h
    cases h
  | case4 code next rest hhigh houtside ih =>
    rw [hasUnpairedSurrogate, if_pos hhigh, if_neg houtside] at h
    have hlow := isLow_of_not_outside houtside
    rw [Utf16.paired, if_pos hhigh, hlow, Bool.true_and, ih h]
    cases rest with
    | nil => simp [EndsHigh, not_isHigh_of_isLow hlow]
    | cons code' rest => simp [EndsHigh, List.getLast?_cons_cons]
  | case5 code next rest hhigh hlow =>
    rw [hasUnpairedSurrogate, if_neg hhigh, if_pos hlow] at h
    cases h
  | case6 code next rest hhigh hlow ih =>
    rw [hasUnpairedSurrogate, if_neg hhigh, if_neg hlow] at h
    simp only [Bool.not_eq_true] at hlow
    rw [Utf16.paired, if_neg hhigh, hlow, Bool.not_false, Bool.true_and, ih h]
    simp [EndsHigh, List.getLast?_cons_cons]

end Surrogates

section Tokens

theorem decodeToken_eq_ok_iff {token label : String} {size : Nat} {bytes : List UInt8} :
    decodeToken token size label = .ok bytes ↔
      decodeBase64URL token.toList = .ok bytes ∧ bytes.length = size := by
  unfold decodeToken
  cases decodeBase64URL token.toList with
  | error err => simp
  | ok bytes' =>
    rw [ite_error_eq_ok, not_not, Except.ok.injEq]
    constructor
    · rintro ⟨hlength, rfl⟩
      exact ⟨rfl, hlength⟩
    · rintro ⟨rfl, hlength⟩
      exact ⟨hlength, rfl⟩

theorem tokenFromMap_eq_ok_iff {map : CborMap} {key token : String} {size : Nat}
    {bytes : List UInt8} (hlookup : map.lookup key = some (.bytes bytes))
    (hlength : bytes.length = size) (hpos : 0 < size) (hsize : size ≤ maxCborBytes) :
    tokenFromMap map key size = .ok token ↔ token = Base64.encode bytes := by
  have hread : requiredBytes map key (some size) = .ok bytes :=
    requiredBytes_eq_ok_iff.mpr ⟨hlookup, ⟨by omega, by omega⟩, by simp [hlength]⟩
  rw [tokenFromMap, hread]
  exact ⟨fun h => (Except.ok.inj h).symm, fun h => h ▸ rfl⟩

end Tokens

section Records

/-- The bytes behind the tokens of a description that the validator accepts. -/
structure Decoded (value : Offer) (sessionId digest fingerprint : List UInt8) : Prop where
  version : value.version = rtcSignalingVersion
  generation : validGeneration value.generation = true
  description : validBoundedUtf8 value.description maxRtcDescriptionBytes = true
  sessionOk : decodeBase64URL value.rtcSessionId.toList = .ok sessionId
  sessionId_length : sessionId.length = 16
  digestOk : decodeBase64URL value.descriptionSHA256.toList = .ok digest
  digest_length : digest.length = 32
  canonical : CanonicalToken value.descriptionSHA256
  fingerprintOk : decodeBase64URL value.dtlsFingerprintSHA256.toList = .ok fingerprint
  fingerprint_length : fingerprint.length = 32

theorem decoded_of_validate {value : Offer} {label : String}
    (h : validateRtcDescription value label = .ok ()) :
    ∃ sessionId digest fingerprint, Decoded value sessionId digest fingerprint := by
  obtain ⟨hvalid, h⟩ := throwIf_bind_eq_ok.mp h
  obtain ⟨text, htext, h⟩ := bind_eq_ok.mp h
  push Not at hvalid
  obtain ⟨hversion, hsession, hgeneration, hdescription, hdigest, hfingerprint⟩ := hvalid
  obtain ⟨sessionId, hsession, hsessionLength⟩ := validToken_iff.mp hsession
  obtain ⟨digest, hdigest, hdigestLength⟩ := validToken_iff.mp hdigest
  obtain ⟨fingerprint, hfingerprint, hfingerprintLength⟩ := validToken_iff.mp hfingerprint
  have hcanonical : CanonicalToken value.descriptionSHA256 := by
    rw [rtcDescriptionSHA256, ite_error_eq_ok, Except.ok.injEq] at htext
    have hsame := not_not.mp (throwIf_eq_ok.mp h)
    exact ⟨_, hsame.symm.trans htext.2.symm⟩
  exact ⟨sessionId, digest, fingerprint, hversion, hgeneration, hdescription, hsession,
    hsessionLength, hdigest, hdigestLength, hcanonical, hfingerprint, hfingerprintLength⟩

/-- The keys under which answers and restarts refer to another description. -/
def referenceKeys : List String := ["offer_description_sha256", "prior_description_sha256"]

/-- The entries of a description, and the one that refers to another description. -/
def record (value : Offer) (sessionId digest fingerprint : List UInt8)
    (reference : Option (String × List UInt8)) : CborMap :=
  [("version", .text value.version),
    ("rtc_session_id", .bytes sessionId),
    ("generation", .uint value.generation),
    ("description", .text (Utf16.text value.description)),
    ("description_sha256", .bytes digest),
    ("dtls_fingerprint_sha256", .bytes fingerprint)] ++
    reference.toList.map fun r => (r.1, .bytes r.2)

variable {value : Offer} {sessionId digest fingerprint : List UInt8}
  {reference : Option (String × List UInt8)}

theorem descriptionEntries_eq (h : Decoded value sessionId digest fingerprint) :
    descriptionEntries value = .ok (record value sessionId digest fingerprint none) := by
  have hsession : decodeToken value.rtcSessionId 16 "rtc session id" = .ok sessionId :=
    decodeToken_eq_ok_iff.mpr ⟨h.sessionOk, h.sessionId_length⟩
  have hdigest : decodeDigest value.descriptionSHA256 "description hash" = .ok digest :=
    decodeToken_eq_ok_iff.mpr ⟨h.digestOk, h.digest_length⟩
  have hfingerprint : decodeDigest value.dtlsFingerprintSHA256 "dtls fingerprint" =
      .ok fingerprint := decodeToken_eq_ok_iff.mpr ⟨h.fingerprintOk, h.fingerprint_length⟩
  rw [descriptionEntries, hsession, hdigest, hfingerprint]
  rfl

theorem size_of_validBoundedUtf8 {value : JsString} {maximumBytes : Nat}
    (h : validBoundedUtf8 value maximumBytes = true) :
    hasUnpairedSurrogate value = false ∧ value ≠ [] ∧
      (Utf16.text value).utf8ByteSize ≤ maximumBytes := by
  rw [validBoundedUtf8, textEncode, Utf8.length_bytes] at h
  split at h
  · cases h
  · rename_i hcheck
    simp only [Bool.or_eq_true, decide_eq_true_eq, not_or, Bool.not_eq_true] at hcheck
    exact ⟨hcheck.2, by simpa using hcheck.1, by simpa using h⟩

def ReferenceOk (reference : Option (String × List UInt8)) : Prop :=
  ∀ r ∈ reference, r.1 ∈ referenceKeys ∧ r.2.length = 32

theorem mem_record {entry : String × Cbor} :
    entry ∈ record value sessionId digest fingerprint reference ↔
      entry = ("version", .text value.version) ∨
      entry = ("rtc_session_id", .bytes sessionId) ∨
      entry = ("generation", .uint value.generation) ∨
      entry = ("description", .text (Utf16.text value.description)) ∨
      entry = ("description_sha256", .bytes digest) ∨
      entry = ("dtls_fingerprint_sha256", .bytes fingerprint) ∨
      ∃ r ∈ reference, entry = (r.1, .bytes r.2) := by
  simp [record, eq_comm]

theorem nodup_record (hreference : ReferenceOk reference) :
    ((record value sessionId digest fingerprint reference).map Prod.fst).Nodup := by
  cases reference with
  | none =>
    show ["version", "rtc_session_id", "generation", "description", "description_sha256",
      "dtls_fingerprint_sha256"].Nodup
    decide
  | some r =>
    have hkey := (hreference r rfl).1
    show ["version", "rtc_session_id", "generation", "description", "description_sha256",
      "dtls_fingerprint_sha256", r.1].Nodup
    simp only [referenceKeys, List.mem_cons, List.not_mem_nil, or_false] at hkey
    rcases hkey with hkey | hkey
    · rw [hkey]
      decide
    · rw [hkey]
      decide

theorem fst_mem_record {entry : String × Cbor}
    (h : entry ∈ record value sessionId digest fingerprint reference) :
    entry.1 ∈ descriptionKeys ++ (reference.map Prod.fst).toList := by
  cases reference with
  | none => exact List.mem_map_of_mem h
  | some r => exact List.mem_map_of_mem h

theorem key_record (hreference : ReferenceOk reference) {entry : String × Cbor}
    (h : entry ∈ record value sessionId digest fingerprint reference) :
    entry.1 ∈ descriptionKeys ++ referenceKeys := by
  rcases List.mem_append.mp (fst_mem_record h) with hkey | hkey
  · exact List.mem_append_left _ hkey
  · obtain ⟨r, hr, hname⟩ := Option.map_eq_some_iff.mp (Option.mem_toList.mp hkey)
    exact List.mem_append_right _ (hname ▸ (hreference r hr).1)

theorem short_keys : ∀ key ∈ descriptionKeys ++ referenceKeys,
    key.utf8ByteSize ≤ maxCborTextBytes ∧ key.toList.head? ≠ some Utf8.byteOrderMark := by
  decide

theorem fits_record (h : Decoded value sessionId digest fingerprint)
    (hreference : ReferenceOk reference) :
    Cbor.Fits encoderRules (.map (record value sessionId digest fingerprint reference)) := by
  have hmax : encoderRules.maxBytes = 49152 := rfl
  have hmaxText : encoderRules.maxTextBytes = 49152 := rfl
  have hmaxUint : encoderRules.maxArgument = 2 ^ 53 - 1 := rfl
  have hsize := (size_of_validBoundedUtf8 h.description).2.2
  have hgeneration : value.generation ≤ 65535 := by
    simpa [validGeneration] using h.generation
  have hdescriptionMax : maxRtcDescriptionBytes = 1536 := rfl
  have hlengths := h.sessionId_length
  have hdigestLength := h.digest_length
  have hfingerprintLength := h.fingerprint_length
  refine .map ?_ ?_ (nodup_record hreference) ?_
  · cases reference with
    | none => show 6 ≤ 64; decide
    | some r => show 7 ≤ 64; decide
  · exact fun entry hentry => ⟨rfl, ((short_keys _ (key_record hreference hentry)).1).trans
      (by decide)⟩
  · intro entry hentry
    rcases mem_record.mp hentry with rfl | rfl | rfl | rfl | rfl | rfl | ⟨r, hr, rfl⟩
    · exact .text ⟨rfl, by rw [h.version]; decide⟩
    · exact .bytes (by omega)
    · exact .uint (by omega)
    · exact .text ⟨rfl, by omega⟩
    · exact .bytes (by omega)
    · exact .bytes (by omega)
    · have hlength := (hreference r hr).2
      exact .bytes (by omega)

theorem flat_record : ∀ entry ∈ record value sessionId digest fingerprint reference,
    entry.2.sortKeys = entry.2 := by
  intro entry hentry
  rcases mem_record.mp hentry with rfl | rfl | rfl | rfl | rfl | rfl | ⟨r, _, rfl⟩ <;> rfl

theorem length_record (h : Decoded value sessionId digest fingerprint)
    (hreference : ReferenceOk reference)
    (hdescription : (Utf16.text value.description).utf8ByteSize ≤ maxCborTextBytes) :
    (Cbor.encode (.map (record value sessionId digest fingerprint reference))).length ≤
      maxRtcSignalingBodyBytes := by
  have hgeneration : value.generation ≤ 65535 := by
    simpa [validGeneration] using h.generation
  have hhead := Cbor.length_head_mono 0 hgeneration
  have hhead' := Cbor.length_head_mono 3 hdescription
  have hmax : maxCborTextBytes = 1024 := rfl
  have hsmall : (Cbor.head 0 65535).length = 3 := by decide
  have hsmall' : (Cbor.head 3 maxCborTextBytes).length = 3 := by decide
  have hsession : (Cbor.head 2 16).length = 1 := by decide
  have hdigest : (Cbor.head 2 32).length = 2 := by decide
  have hversion : (Cbor.encodeText rtcSignalingVersion).length = 30 := by decide
  have hkeys : (["version", "rtc_session_id", "generation", "description",
      "description_sha256", "dtls_fingerprint_sha256"].map fun key =>
        (Cbor.encodeText key).length) = [8, 15, 11, 12, 19, 24] := by decide
  simp only [List.map_cons, List.map_nil, List.cons.injEq, and_true] at hkeys
  obtain ⟨hkey, hkey', hkey'', hkey₃, hkey₄, hkey₅⟩ := hkeys
  have hhead₅ : ∀ n ≤ 7, (Cbor.head 5 n).length ≤ 1 := fun n hn =>
    Cbor.length_head_mono 5 hn
  have hreferences : ∀ key ∈ referenceKeys, (Cbor.encodeText key).length = 26 := by decide
  cases reference with
  | none =>
    have hcount := hhead₅ 6 (by omega)
    simp only [record, Option.toList_none, List.map_nil, List.append_nil, Cbor.encode,
      Cbor.encodeEntries, List.length_append, List.length_cons, List.length_nil,
      h.sessionId_length, h.digest_length, h.fingerprint_length, hsession, hdigest, hkey,
      hkey', hkey'', hkey₃, hkey₄, hkey₅, h.version, hversion, maxRtcSignalingBodyBytes,
      Nat.zero_add, Nat.reduceAdd]
    simp only [Cbor.encodeText, List.length_append, Utf8.length_bytes]
    omega
  | some r =>
    have hcount := hhead₅ 7 (by omega)
    have hr := hreferences _ (hreference r rfl).1
    have hlength := (hreference r rfl).2
    simp only [record, Option.toList_some, List.map_cons, List.map_nil, List.cons_append,
      List.nil_append, Cbor.encode, Cbor.encodeEntries, List.length_append, List.length_cons,
      List.length_nil, h.sessionId_length, h.digest_length, h.fingerprint_length, hsession,
      hdigest, hkey, hkey', hkey'', hkey₃, hkey₄, hkey₅, h.version, hversion, hr, hlength,
      maxRtcSignalingBodyBytes, Nat.zero_add, Nat.reduceAdd]
    simp only [Cbor.encodeText, List.length_append, Utf8.length_bytes]
    omega

theorem texts_record (h : Decoded value sessionId digest fingerprint)
    (hreference : ReferenceOk reference) :
    (∀ s ∈ (Cbor.map (record value sessionId digest fingerprint reference)).texts,
      s.utf8ByteSize ≤ maxCborTextBytes ∧ ¬ Utf8.Marked s) ↔
    (Utf16.text value.description).utf8ByteSize ≤ maxCborTextBytes ∧
      ¬ Utf8.Marked (Utf16.text value.description) := by
  constructor
  · intro hall
    refine hall _ (Cbor.mem_textsEntries.mpr
      ⟨("description", .text (Utf16.text value.description)), mem_record.mpr ?_, .inr ?_⟩)
    · simp
    · exact List.mem_singleton.mpr rfl
  · intro hdescription s hs
    obtain ⟨entry, hentry, rfl | hs⟩ := Cbor.mem_textsEntries.mp hs
    · exact short_keys _ (key_record hreference hentry)
    · have hversion : rtcSignalingVersion.utf8ByteSize ≤ maxCborTextBytes ∧
          rtcSignalingVersion.toList.head? ≠ some Utf8.byteOrderMark := by decide
      rcases mem_record.mp hentry with rfl | rfl | rfl | rfl | rfl | rfl | ⟨r, _, rfl⟩
      · obtain rfl := List.mem_singleton.mp hs
        rw [h.version]
        exact hversion
      · cases hs
      · cases hs
      · obtain rfl := List.mem_singleton.mp hs
        exact hdescription
      · cases hs
      · cases hs
      · cases hs

end Records

section RoundTrip

variable {value : Offer} {sessionId digest fingerprint : List UInt8}
  {reference : Option (String × List UInt8)}

theorem boundedEncoding_eq_ok_iff {entries : CborMap} {bytes : List UInt8} :
    boundedEncoding entries = .ok bytes ↔
      encodeDeterministicCbor (.map entries) = .ok bytes ∧
        bytes.length ≤ maxRtcSignalingBodyBytes := by
  rw [boundedEncoding, bind_eq_ok]
  simp only [mapError_eq_ok, throwIf_bind_eq_ok, Nat.not_lt]
  constructor
  · rintro ⟨_, hencoded, hsize, heq⟩
    obtain rfl := Except.ok.inj heq
    exact ⟨hencoded, hsize⟩
  · rintro ⟨hencoded, hsize⟩
    exact ⟨bytes, hencoded, hsize, rfl⟩

/-- The description is one that the reader of texts takes and leaves as it is. -/
structure Readable (description : JsString) : Prop where
  size : (textEncode description).length ≤ maxCborTextBytes
  unmarked : ¬ Utf8.Marked (Utf16.text description)

theorem strictMap_record (h : Decoded value sessionId digest fingerprint)
    (hreference : ReferenceOk reference) {bytes : List UInt8} {label : String}
    {keys : List String}
    (hkeys : ∀ entry ∈ record value sessionId digest fingerprint reference, entry.1 ∈ keys)
    (hencoded : boundedEncoding (record value sessionId digest fingerprint reference) =
      .ok bytes) {map : CborMap} :
    strictMap bytes label keys = .ok map ↔ Readable value.description ∧
      map = Cbor.inKeyOrder (record value sessionId digest fingerprint reference) := by
  obtain ⟨hencoded, hsize⟩ := boundedEncoding_eq_ok_iff.mp hencoded
  have hdecode : ∀ w, decodeDeterministicCbor bytes maxRtcSignalingBodyBytes = .ok w ↔
      Readable value.description ∧
        w = .map (Cbor.inKeyOrder (record value sessionId digest fingerprint reference)) := by
    intro w
    rw [decode_record_eq_ok_iff (fits_record h hreference) flat_record hencoded,
      texts_record h hreference, ← Utf8.length_bytes]
    exact ⟨fun ⟨_, ⟨hshort, hunmarked⟩, hw⟩ => ⟨⟨hshort, hunmarked⟩, hw⟩,
      fun ⟨⟨hshort, hunmarked⟩, hw⟩ => ⟨hsize, ⟨hshort, hunmarked⟩, hw⟩⟩
  have hpos : ¬ (bytes.length = 0 ∨ maxRtcSignalingBodyBytes < bytes.length) := by
    have hlength := Cbor.length_of_write hencoded
    have hone := Cbor.one_le_length_encode
      (.map (record value sessionId digest fingerprint reference))
    omega
  have hknown : rejectUnknownEntries
      (Cbor.inKeyOrder (record value sessionId digest fingerprint reference)) keys = .ok () :=
    rejectUnknownEntries_eq_ok_iff.mpr fun entry hentry =>
      hkeys entry (Cbor.mem_inKeyOrder.mp hentry)
  simp only [strictMap, bind_eq_ok, mapError_eq_ok, hdecode, readCborMap_eq_ok_iff]
  constructor
  · rintro ⟨_, _, _, ⟨hreadable, rfl⟩, entries, hentries, _, _, heq⟩
    obtain rfl := Except.ok.inj heq
    exact ⟨hreadable, (Cbor.map.inj hentries).symm⟩
  · rintro ⟨hreadable, rfl⟩
    exact ⟨(), throwIf_eq_ok.mpr hpos, _, ⟨hreadable, rfl⟩, _, rfl, (), hknown, rfl⟩

theorem lookup_record (hreference : ReferenceOk reference) {entry : String × Cbor}
    (hentry : entry ∈ record value sessionId digest fingerprint reference) :
    (Cbor.inKeyOrder (record value sessionId digest fingerprint reference)).lookup entry.1 =
      some entry.2 := by
  rw [Cbor.lookup_inKeyOrder (nodup_record hreference),
    Cbor.lookup_eq_some_iff (nodup_record hreference)]
  exact hentry

theorem readRtcSignalingVersion_eq_ok {map : CborMap}
    (hlookup : map.lookup "version" = some (.text rtcSignalingVersion)) :
    readRtcSignalingVersion map = .ok rtcSignalingVersion := by
  rw [readRtcSignalingVersion, requiredText_eq_ok_iff.mpr ⟨hlookup, by decide, by decide⟩]
  rfl

theorem readGeneration_eq_ok {map : CborMap} {generation : Nat}
    (hlookup : map.lookup "generation" = some (.uint generation))
    (hvalid : validGeneration generation = true) : readGeneration map = .ok generation := by
  have hsmall : generation ≤ 65535 := by simpa [validGeneration] using hvalid
  have hmax : maxSafeInteger = 2 ^ 53 - 1 := rfl
  have hread : requiredUint map "generation" = .ok generation :=
    requiredUint_eq_ok_iff.mpr ⟨hlookup, by omega⟩
  exact bind_eq_ok.mpr ⟨generation, hread, throwIf_bind_eq_ok.mpr
    ⟨not_not.mpr hvalid, rfl⟩⟩

/-- A description that the reader of bounded text takes comes back as it is if no half of a
pair is alone. -/
theorem readBoundedUtf8_eq_ok_iff {map : CborMap} {description : JsString}
    (hlookup : map.lookup "description" = some (.text (Utf16.text description)))
    (hvalid : validBoundedUtf8 description maxRtcDescriptionBytes = true)
    (hreadable : Readable description) :
    readBoundedUtf8 map "description" maxRtcDescriptionBytes = .ok description ↔
      ¬ EndsHigh description := by
  obtain ⟨hunpaired, hne, -⟩ := size_of_validBoundedUtf8 hvalid
  rw [← paired_iff_of_hasUnpairedSurrogate hunpaired, ← Utf16.units_text_eq_iff]
  simp only [readBoundedUtf8, bind_eq_ok, requiredText_eq_ok_iff, throwIf_eq_ok, hlookup]
  constructor
  · rintro ⟨text, ⟨htext, -⟩, _, _, heq⟩
    obtain rfl := Cbor.text.inj (Option.some.inj htext)
    exact Except.ok.inj heq
  · intro heq
    have hsome : Utf16.text description ≠ "" := by
      intro hempty
      rw [hempty] at heq
      exact hne heq.symm
    have hsize : (Utf16.text description).utf8ByteSize ≤ maxCborTextBytes := by
      rw [← Utf8.length_bytes]
      exact hreadable.size
    refine ⟨_, ⟨rfl, hsome, hsize⟩, (), ?_⟩
    rw [heq]
    exact ⟨not_not.mpr hvalid, rfl⟩

theorem descriptionFromMap_eq_ok_iff (h : Decoded value sessionId digest fingerprint)
    {map : CborMap}
    (hlookup : ∀ entry ∈ record value sessionId digest fingerprint none,
      map.lookup entry.1 = some entry.2) {offer : Offer} :
    descriptionFromMap map = .ok offer ↔
      readBoundedUtf8 map "description" maxRtcDescriptionBytes = .ok offer.description ∧
        offer = { version := rtcSignalingVersion
                  rtcSessionId := Base64.encode sessionId
                  generation := value.generation
                  description := offer.description
                  descriptionSHA256 := Base64.encode digest
                  dtlsFingerprintSHA256 := Base64.encode fingerprint } := by
  have hversion := hlookup ("version", .text value.version) (mem_record.mpr (by simp))
  rw [h.version] at hversion
  have hgeneration := hlookup ("generation", .uint value.generation)
    (mem_record.mpr (by simp))
  have hsession : ∀ token, _ ↔ token = _ := fun token => tokenFromMap_eq_ok_iff
    (hlookup ("rtc_session_id", .bytes sessionId) (mem_record.mpr (by simp)))
    h.sessionId_length (by decide) (by decide)
  have hdigest : ∀ token, _ ↔ token = _ := fun token => tokenFromMap_eq_ok_iff
    (hlookup ("description_sha256", .bytes digest) (mem_record.mpr (by simp)))
    h.digest_length (by decide) (by decide)
  have hfingerprint : ∀ token, _ ↔ token = _ := fun token => tokenFromMap_eq_ok_iff
    (hlookup ("dtls_fingerprint_sha256", .bytes fingerprint) (mem_record.mpr (by simp)))
    h.fingerprint_length (by decide) (by decide)
  simp only [descriptionFromMap, bind_eq_ok, readRtcSignalingVersion_eq_ok hversion,
    readGeneration_eq_ok hgeneration h.generation, digestFromMap, hsession, hdigest,
    hfingerprint, Except.ok.injEq]
  constructor
  · rintro ⟨_, rfl, _, rfl, _, rfl, description, hread, _, rfl, _, rfl, heq⟩
    obtain rfl := Except.ok.inj heq
    exact ⟨hread, rfl⟩
  · rintro ⟨hread, heq⟩
    exact ⟨_, rfl, _, rfl, _, rfl, _, hread, _, rfl, _, rfl, congrArg Except.ok heq.symm⟩

/-- The description comes back from the entries if and only if its text does and its tokens are
spelled as the encoder spells them. -/
theorem descriptionFromMap_eq_self_iff (h : Decoded value sessionId digest fingerprint)
    (hreadable : Readable value.description) {map : CborMap}
    (hlookup : ∀ entry ∈ record value sessionId digest fingerprint none,
      map.lookup entry.1 = some entry.2) :
    descriptionFromMap map = .ok value ↔
      ¬ EndsHigh value.description ∧ CanonicalToken value.rtcSessionId ∧
        CanonicalToken value.dtlsFingerprintSHA256 := by
  have htext := readBoundedUtf8_eq_ok_iff
    (hlookup ("description", .text (Utf16.text value.description)) (mem_record.mpr (by simp)))
    h.description hreadable
  rw [descriptionFromMap_eq_ok_iff h hlookup, htext, ← encode_eq_iff_canonical h.sessionOk,
    ← encode_eq_iff_canonical h.fingerprintOk]
  have hdigest := (encode_eq_iff_canonical h.digestOk).mpr h.canonical
  have hversion := h.version
  refine and_congr_right fun _ => ?_
  cases value
  simp only [Offer.mk.injEq] at hversion hdigest ⊢
  simp only [hversion, hdigest, true_and]
  exact and_congr eq_comm eq_comm

theorem boundedEncoding_record (h : Decoded value sessionId digest fingerprint)
    (hreference : ReferenceOk reference) (hreadable : Readable value.description) :
    ∃ bytes,
      boundedEncoding (record value sessionId digest fingerprint reference) = .ok bytes := by
  have hfits := fits_record h hreference
  have hsize : (Utf16.text value.description).utf8ByteSize ≤ maxCborTextBytes := by
    rw [← Utf8.length_bytes]
    exact hreadable.size
  refine ⟨_, boundedEncoding_eq_ok_iff.mpr ⟨encodeDeterministicCbor_of_fits hfits, ?_⟩⟩
  rw [Cbor.length_encode_sortKeys hfits]
  exact length_record h hreference hsize

theorem exists_strictMap_iff (h : Decoded value sessionId digest fingerprint)
    (hreference : ReferenceOk reference) {label : String} {keys : List String}
    (hkeys : ∀ entry ∈ record value sessionId digest fingerprint reference, entry.1 ∈ keys)
    {P : CborMap → Prop} :
    (∃ bytes, boundedEncoding (record value sessionId digest fingerprint reference) =
        .ok bytes ∧ ∃ map, strictMap bytes label keys = .ok map ∧ P map) ↔
      Readable value.description ∧
        P (Cbor.inKeyOrder (record value sessionId digest fingerprint reference)) := by
  constructor
  · rintro ⟨bytes, hencoded, map, hmap, hP⟩
    obtain ⟨hreadable, rfl⟩ := (strictMap_record h hreference hkeys hencoded).mp hmap
    exact ⟨hreadable, hP⟩
  · rintro ⟨hreadable, hP⟩
    obtain ⟨bytes, hencoded⟩ := boundedEncoding_record h hreference hreadable
    exact ⟨bytes, hencoded, _,
      (strictMap_record h hreference hkeys hencoded).mpr ⟨hreadable, rfl⟩, hP⟩

end RoundTrip

section Signals

inductive Signal where
  | offer (value : Offer)
  | answer (value : Answer)
  | restart (value : Restart)
  deriving DecidableEq

def Signal.validate : Signal → Except String Unit
  | .offer value => validateRtcOffer value
  | .answer value => validateRtcAnswer value
  | .restart value => validateRtcRestart value

def Signal.encode : Signal → Except String (List UInt8)
  | .offer value => encodeRtcOffer value
  | .answer value => encodeRtcAnswer value
  | .restart value => encodeRtcRestart value

/-- The decoder for signals of the same kind makes the signal of the bytes. -/
def Signal.DecodedFrom (bytes : List UInt8) : Signal → Prop
  | .offer value => decodeRtcOffer bytes = .ok value
  | .answer value => decodeRtcAnswer bytes = .ok value
  | .restart value => decodeRtcRestart bytes = .ok value

/-- The encoder takes the signal, and the decoder gives it back. -/
def Signal.RoundTrips (signal : Signal) : Prop :=
  ∃ bytes, signal.encode = .ok bytes ∧ signal.DecodedFrom bytes

/-- The description is short enough for a text and does not begin with U+FEFF, the first half
of a pair is not its end, and its tokens are spelled canonically. -/
structure Offer.Returns (value : Offer) : Prop where
  readable : Readable value.description
  paired : ¬ EndsHigh value.description
  rtcSessionId : CanonicalToken value.rtcSessionId
  dtlsFingerprintSHA256 : CanonicalToken value.dtlsFingerprintSHA256

def Signal.Returns : Signal → Prop
  | .offer value => value.Returns
  | .answer value => value.toOffer.Returns ∧ CanonicalToken value.offerDescriptionSHA256
  | .restart value => value.toOffer.Returns ∧ CanonicalToken value.priorDescriptionSHA256

variable {value : Offer} {sessionId digest fingerprint : List UInt8}

theorem lookup_description {reference : Option (String × List UInt8)}
    (hreference : ReferenceOk reference) :
    ∀ entry ∈ record value sessionId digest fingerprint none,
      (Cbor.inKeyOrder (record value sessionId digest fingerprint reference)).lookup entry.1 =
        some entry.2 :=
  fun _ hentry => lookup_record hreference (List.mem_append_left _
    (by simpa only [record, Option.toList_none, List.map_nil, List.append_nil] using hentry))

theorem description_returns_iff (h : Decoded value sessionId digest fingerprint)
    {reference : Option (String × List UInt8)} (hreference : ReferenceOk reference) :
    Readable value.description ∧ descriptionFromMap
        (Cbor.inKeyOrder (record value sessionId digest fingerprint reference)) = .ok value ↔
      value.Returns := by
  constructor
  · rintro ⟨hreadable, hmap⟩
    obtain ⟨hpaired, hsession, hfingerprint⟩ :=
      (descriptionFromMap_eq_self_iff h hreadable (lookup_description hreference)).mp hmap
    exact ⟨hreadable, hpaired, hsession, hfingerprint⟩
  · intro hreturns
    exact ⟨hreturns.readable, (descriptionFromMap_eq_self_iff h hreturns.readable
      (lookup_description hreference)).mpr
        ⟨hreturns.paired, hreturns.rtcSessionId, hreturns.dtlsFingerprintSHA256⟩⟩

theorem offer_roundTrips_iff (h : validateRtcOffer value = .ok ()) :
    (Signal.offer value).RoundTrips ↔ value.Returns := by
  obtain ⟨sessionId, digest, fingerprint, hdecoded⟩ := decoded_of_validate h
  have hencode : encodeRtcOffer value =
      boundedEncoding (record value sessionId digest fingerprint none) := by
    rw [encodeRtcOffer, h, descriptionEntries_eq hdecoded]
    rfl
  have hdecode : ∀ bytes, decodeRtcOffer bytes = .ok value ↔
      ∃ map, strictMap bytes "rtc offer" descriptionKeys = .ok map ∧
        descriptionFromMap map = .ok value := by
    intro bytes
    simp only [decodeRtcOffer, bind_eq_ok]
    constructor
    · rintro ⟨map, hmap, offer, hoffer, _, _, heq⟩
      obtain rfl := Except.ok.inj heq
      exact ⟨map, hmap, hoffer⟩
    · rintro ⟨map, hmap, hoffer⟩
      exact ⟨map, hmap, value, hoffer, (), h, rfl⟩
  have hnone : ReferenceOk none := fun r hr => by cases hr
  simp only [Signal.RoundTrips, Signal.encode, Signal.DecodedFrom, hencode, hdecode]
  rw [exists_strictMap_iff hdecoded hnone, description_returns_iff hdecoded hnone]
  exact fun entry hentry => fst_mem_record hentry

variable {key token label : String} {reference : List UInt8} {keys : List String}

theorem referring_roundTrips_iff (h : Decoded value sessionId digest fingerprint)
    (hkey : key ∈ referenceKeys) (htoken : decodeBase64URL token.toList = .ok reference)
    (hlength : reference.length = 32) (hkeys : ∀ name ∈ descriptionKeys ++ [key], name ∈ keys) :
    (∃ bytes, boundedEncoding
        (record value sessionId digest fingerprint (some (key, reference))) = .ok bytes ∧
      ∃ map, strictMap bytes label keys = .ok map ∧ descriptionFromMap map = .ok value ∧
        digestFromMap map key = .ok token) ↔ value.Returns ∧ CanonicalToken token := by
  have hreference : ReferenceOk (some (key, reference)) := by
    intro r hr
    obtain rfl := Option.some.inj hr
    exact ⟨hkey, hlength⟩
  rw [exists_strictMap_iff h hreference, ← and_assoc, description_returns_iff h hreference,
    ← encode_eq_iff_canonical htoken]
  · rw [digestFromMap, tokenFromMap_eq_ok_iff (lookup_record hreference
      (mem_record.mpr (by simp) : (key, .bytes reference) ∈ _)) hlength (by decide) (by decide)]
    exact and_congr_right fun _ => eq_comm
  · exact fun entry hentry => hkeys _ (fst_mem_record hentry)

theorem answer_roundTrips_iff {value : Answer} (h : validateRtcAnswer value = .ok ()) :
    (Signal.answer value).RoundTrips ↔
      value.toOffer.Returns ∧ CanonicalToken value.offerDescriptionSHA256 := by
  obtain ⟨_, hvalid, href⟩ := bind_eq_ok.mp h
  obtain ⟨reference, href, _⟩ := bind_eq_ok.mp href
  obtain ⟨hreference, hlength⟩ := decodeToken_eq_ok_iff.mp href
  obtain ⟨sessionId, digest, fingerprint, hdecoded⟩ := decoded_of_validate hvalid
  have hencode : encodeRtcAnswer value = boundedEncoding (record value.toOffer sessionId digest
      fingerprint (some ("offer_description_sha256", reference))) := by
    rw [encodeRtcAnswer, h, descriptionEntries_eq hdecoded, href]
    rfl
  have hdecode : ∀ bytes, decodeRtcAnswer bytes = .ok value ↔
      ∃ map, strictMap bytes "rtc answer"
          (descriptionKeys ++ ["offer_description_sha256"]) = .ok map ∧
        descriptionFromMap map = .ok value.toOffer ∧
          digestFromMap map "offer_description_sha256" = .ok value.offerDescriptionSHA256 := by
    intro bytes
    simp only [decodeRtcAnswer, bind_eq_ok]
    constructor
    · rintro ⟨map, hmap, offer, hoffer, token, htoken, _, _, heq⟩
      obtain rfl := Except.ok.inj heq
      exact ⟨map, hmap, hoffer, htoken⟩
    · rintro ⟨map, hmap, hoffer, htoken⟩
      exact ⟨map, hmap, _, hoffer, _, htoken, (), h, rfl⟩
  simp only [Signal.RoundTrips, Signal.encode, Signal.DecodedFrom, hencode, hdecode]
  exact referring_roundTrips_iff hdecoded (by decide) hreference hlength (by decide)

theorem boundedEncoding_perm {entries entries' : CborMap}
    (hfits : Cbor.Fits encoderRules (.map entries))
    (hflat : ∀ entry ∈ entries, entry.2.sortKeys = entry.2) (hperm : entries.Perm entries') :
    boundedEncoding entries' = boundedEncoding entries := by
  cases hfits with
  | map hlength hkeys hdistinct hvalues =>
    have hfits' : Cbor.Fits encoderRules (.map entries') :=
      .map (hperm.length_eq ▸ hlength) (fun entry hentry => hkeys _ (hperm.mem_iff.mpr hentry))
        ((hperm.map Prod.fst).nodup_iff.mp hdistinct)
        (fun entry hentry => hvalues _ (hperm.mem_iff.mpr hentry))
    have hsorted : Cbor.sortKeys (.map entries') = Cbor.sortKeys (.map entries) := by
      rw [Cbor.sortKeys_record hflat,
        Cbor.sortKeys_record fun entry hentry => hflat _ (hperm.mem_iff.mpr hentry),
        Cbor.inKeyOrder_eq_of_perm hdistinct hperm]
    rw [boundedEncoding, encodeDeterministicCbor_of_fits hfits', hsorted,
      ← encodeDeterministicCbor_of_fits (.map hlength hkeys hdistinct hvalues)]
    rfl

theorem restart_roundTrips_iff {value : Restart} (h : validateRtcRestart value = .ok ()) :
    (Signal.restart value).RoundTrips ↔
      value.toOffer.Returns ∧ CanonicalToken value.priorDescriptionSHA256 := by
  obtain ⟨_, hvalid, href⟩ := bind_eq_ok.mp h
  obtain ⟨reference, href, _⟩ := bind_eq_ok.mp href
  obtain ⟨hreference, hlength⟩ := decodeToken_eq_ok_iff.mp href
  obtain ⟨sessionId, digest, fingerprint, hdecoded⟩ := decoded_of_validate hvalid
  have hreferenceOk : ReferenceOk (some ("prior_description_sha256", reference)) := by
    intro r hr
    obtain rfl := Option.some.inj hr
    exact ⟨List.mem_cons_of_mem _ (List.mem_singleton.mpr rfl), hlength⟩
  have hencode : encodeRtcRestart value = boundedEncoding (record value.toOffer sessionId digest
      fingerprint (some ("prior_description_sha256", reference))) := by
    have hsession : decodeToken value.rtcSessionId 16 "rtc session id" = .ok sessionId :=
      decodeToken_eq_ok_iff.mpr ⟨hdecoded.sessionOk, hdecoded.sessionId_length⟩
    have hdigest : decodeDigest value.descriptionSHA256 "description hash" = .ok digest :=
      decodeToken_eq_ok_iff.mpr ⟨hdecoded.digestOk, hdecoded.digest_length⟩
    have hfingerprint : decodeDigest value.dtlsFingerprintSHA256 "dtls fingerprint" =
        .ok fingerprint :=
      decodeToken_eq_ok_iff.mpr ⟨hdecoded.fingerprintOk, hdecoded.fingerprint_length⟩
    rw [encodeRtcRestart, h, hsession, href, hdigest, hfingerprint]
    refine boundedEncoding_perm (fits_record hdecoded hreferenceOk) flat_record ?_
    -- The prior description's hash is given in the middle.
    exact List.Perm.append_left [_, _, _]
      (@List.perm_append_comm _ [_, _, _] [_])
  have hdecode : ∀ bytes, decodeRtcRestart bytes = .ok value ↔
      ∃ map, strictMap bytes "rtc restart"
          ["version", "rtc_session_id", "generation", "prior_description_sha256",
            "description", "description_sha256", "dtls_fingerprint_sha256"] = .ok map ∧
        descriptionFromMap map = .ok value.toOffer ∧
          digestFromMap map "prior_description_sha256" = .ok value.priorDescriptionSHA256 := by
    intro bytes
    simp only [decodeRtcRestart, bind_eq_ok]
    constructor
    · rintro ⟨map, hmap, offer, hoffer, token, htoken, _, _, heq⟩
      obtain rfl := Except.ok.inj heq
      exact ⟨map, hmap, hoffer, htoken⟩
    · rintro ⟨map, hmap, hoffer, htoken⟩
      exact ⟨map, hmap, _, hoffer, _, htoken, (), h, rfl⟩
  simp only [Signal.RoundTrips, Signal.encode, Signal.DecodedFrom, hencode, hdecode]
  exact referring_roundTrips_iff hdecoded (by decide) hreference hlength (by decide)

/-- A signal that the validator accepts goes through its encoding unchanged if and only if its
description fits a text and its tokens are canonical. -/
theorem Signal.roundTrips_iff {signal : Signal} (h : signal.validate = .ok ()) :
    signal.RoundTrips ↔ signal.Returns := by
  cases signal with
  | offer value => exact offer_roundTrips_iff h
  | answer value => exact answer_roundTrips_iff h
  | restart value => exact restart_roundTrips_iff h

/-- An offer that describes itself by `description`. -/
def offerOf (description : JsString) : Offer where
  version := rtcSignalingVersion
  rtcSessionId := Base64.encode (List.replicate 16 0)
  generation := 0
  description := description
  descriptionSHA256 := Base64.encode (Sha256.sum256 (textEncode description)).toList
  dtlsFingerprintSHA256 := Base64.encode (List.replicate 32 0)

theorem validateRtcOffer_offerOf {description : JsString}
    (h : validBoundedUtf8 description maxRtcDescriptionBytes = true) :
    validateRtcOffer (offerOf description) = .ok () := by
  have hsession := @validToken_encode (List.replicate 16 0) 16 rfl (by decide)
  have hdigest := validToken_encode
    (@Vector.length_toList _ _ (Sha256.sum256 (textEncode description))) (by decide)
  have hfingerprint := @validToken_encode (List.replicate 32 0) 32 rfl (by decide)
  refine throwIf_bind_eq_ok.mpr ⟨?_, ?_⟩
  · simp only [offerOf, hsession, hdigest, hfingerprint, h]
    decide
  · have hhash : rtcDescriptionSHA256 description =
        .ok (Base64.encode (Sha256.sum256 (textEncode description)).toList) := by
      rw [rtcDescriptionSHA256, if_neg (not_not.mpr h)]
    exact bind_eq_ok.mpr ⟨_, hhash, throwIf_eq_ok.mpr (not_not.mpr rfl)⟩

theorem Signal.roundTrips_iff_offer :
    (Signal.offer (offerOf (Utf16.units "v=0"))).validate = .ok () ∧
      ((Signal.offer (offerOf (Utf16.units "v=0"))).RoundTrips ↔
        (Signal.offer (offerOf (Utf16.units "v=0"))).Returns) := by
  have hvalid : (Signal.offer (offerOf (Utf16.units "v=0"))).validate = .ok () :=
    validateRtcOffer_offerOf (by decide +kernel)
  exact ⟨hvalid, Signal.roundTrips_iff hvalid⟩

theorem not_roundTrips_offerOf {description : JsString}
    (h : validBoundedUtf8 description maxRtcDescriptionBytes = true)
    (hlong : maxCborTextBytes < (textEncode description).length) :
    ¬ (Signal.offer (offerOf description)).RoundTrips := by
  rw [offer_roundTrips_iff (validateRtcOffer_offerOf h)]
  exact fun hreturns => Nat.not_le_of_lt hlong hreturns.readable.size

/-- A description of `n` letters. -/
def letters (n : Nat) : JsString := List.replicate n 97

theorem decode_letters (n : Nat) : Utf16.decode (letters n) = List.replicate n 'a' := by
  induction n with
  | zero => rfl
  | succ n ih =>
    cases n with
    | zero => rfl
    | succ n =>
      have hhigh : Utf16.isHigh 97 = false := rfl
      have hlow : Utf16.isLow 97 = false := rfl
      have hletter : Char.ofNat (97 : UInt16).toNat = 'a' := rfl
      rw [letters, List.replicate_succ] at ih
      rw [letters, List.replicate_succ, List.replicate_succ, Utf16.decode, hhigh, hlow,
        Bool.false_and, Bool.or_self, if_neg Bool.false_ne_true, if_neg Bool.false_ne_true,
        ih, hletter]
      rfl

theorem length_textEncode_letters (n : Nat) : (textEncode (letters n)).length = n := by
  rw [textEncode, Utf16.text, decode_letters, Utf8.bytes, String.toList_ofList]
  induction n with
  | zero => rfl
  | succ n ih =>
    rw [List.replicate_succ, Utf8.encode, List.flatMap_cons, List.length_append,
      ← Utf8.encode, ih, Nat.add_comm]
    rfl

theorem not_hasUnpairedSurrogate_letters (n : Nat) :
    hasUnpairedSurrogate (letters n) = false := by
  induction n with
  | zero => rfl
  | succ n ih =>
    cases n with
    | zero => rfl
    | succ n =>
      have hhigh : Utf16.isHigh 97 = false := rfl
      have hlow : Utf16.isLow 97 = false := rfl
      rw [letters, List.replicate_succ] at ih
      rw [letters, List.replicate_succ, List.replicate_succ, hasUnpairedSurrogate, hhigh,
        hlow, if_neg Bool.false_ne_true, if_neg Bool.false_ne_true, ih]

theorem validBoundedUtf8_letters {n maximumBytes : Nat} (hpos : n ≠ 0) (hle : n ≤ maximumBytes) :
    validBoundedUtf8 (letters n) maximumBytes = true := by
  have hlength : (letters n).length = n := List.length_replicate
  rw [validBoundedUtf8, not_hasUnpairedSurrogate_letters, length_textEncode_letters, hlength]
  simpa [hpos] using hle

/-- A description longer than a text is accepted and encoded, and not decoded. -/
theorem Signal.not_roundTrips_longDescription :
    ¬ ∀ signal : Signal, signal.validate = .ok () → signal.RoundTrips := by
  intro hall
  have hvalid := @validBoundedUtf8_letters 1025 maxRtcDescriptionBytes (by decide) (by decide)
  have hlong : maxCborTextBytes < (textEncode (letters 1025)).length := by
    rw [length_textEncode_letters]
    decide
  exact not_roundTrips_offerOf hvalid hlong (hall _ (validateRtcOffer_offerOf hvalid))

end Signals

end Branch.Core.RtcWire
