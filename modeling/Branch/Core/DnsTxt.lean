import Branch.Core.IdentityContact
import Branch.Lib.Pieces

/-!
The TXT records in which a bootstrap wrapper is published, and what is read from a set of them.
-/

namespace Branch.Core.DnsTxt

open Branch.Lib

def dnsTxtBootstrapPrefix : String := "branchbootstrapv0="
def dnsTxtOwnerLabel : String := "branch-bootstrap"
def dnsTxtRecommendedTTLSeconds : Nat := 300
def dnsTxtMaxCharacterStrings : Nat := 8
def dnsTxtMaxCharacterStringOctets : Nat := 255
def dnsTxtMaxCandidateOctets : Nat := 2040

inductive DnsTxtBootstrapRejectionReason where
  | emptyRecord
  | tooManyStrings
  | stringTooLarge
  | nonAscii
  | recordTooLarge
  | wrongPrefix
  | malformedWrapper
  | duplicate
  deriving DecidableEq

def DnsTxtBootstrapRejectionReason.text : DnsTxtBootstrapRejectionReason → String
  | emptyRecord => "empty_record"
  | tooManyStrings => "too_many_strings"
  | stringTooLarge => "string_too_large"
  | nonAscii => "non_ascii"
  | recordTooLarge => "record_too_large"
  | wrongPrefix => "wrong_prefix"
  | malformedWrapper => "malformed_wrapper"
  | duplicate => "duplicate"

structure DnsTxtBootstrapPublication where
  ownerName : String
  ttlSeconds : Nat
  strings : List JsString
  value : JsString
  zoneFileRecord : JsString

structure DnsTxtBootstrapCandidate where
  wrapper : JsString
  rrIndex : Nat
  strings : List JsString
  deriving DecidableEq

structure DnsTxtBootstrapRejection where
  rrIndex : Nat
  reason : DnsTxtBootstrapRejectionReason
  deriving DecidableEq

structure DnsTxtBootstrapParseResult where
  candidates : List DnsTxtBootstrapCandidate := []
  rejections : List DnsTxtBootstrapRejection := []
  deriving DecidableEq

def isASCII (value : JsString) : Bool :=
  value.all fun u => 0x20 ≤ u.toNat && u.toNat ≤ 0x7e

def isLetterOrDigit (c : Char) : Bool := ('a' ≤ c && c ≤ 'z') || ('0' ≤ c && c ≤ '9')

def domainLabelPattern (label : List Char) : Bool :=
  label.length ≤ 63 && label.head?.any isLetterOrDigit && label.getLast?.any isLetterOrDigit &&
    label.all fun c => isLetterOrDigit c || c = '-'

def dnsTxtOwnerName (domain : JsString) : Except String String := do
  let lower := (Text.strip isSpace (Utf16.decode domain)).flatMap toLowerCase
  let normalized := (lower.reverse.dropWhile (· = '.')).reverse
  throwIf (normalized.length = 0 ∨ 253 < (String.ofList normalized).utf8ByteSize)
    "DNS TXT domain is invalid"
  throwIf ((normalized.splitOn '.').any fun label => ¬ domainLabelPattern label)
    "DNS TXT domain is invalid"
  let ownerName := dnsTxtOwnerLabel ++ "." ++ String.ofList normalized
  throwIf (253 < ownerName.utf8ByteSize) "DNS TXT owner name is too large"
  return ownerName

def splitDnsCharacterStrings (value : JsString) : Except String (List JsString) := do
  throwIf (¬ isASCII value) "DNS TXT application value must be ASCII"
  throwIf (dnsTxtMaxCandidateOctets < (textEncode value).length)
    "DNS TXT application value is too large"
  let octets := dnsTxtMaxCharacterStringOctets
  let strings := (List.range ((value.length + octets - 1) / octets)).map
    (Pieces.piece octets value)
  throwIf (strings.length = 0 ∨ dnsTxtMaxCharacterStrings < strings.length)
    "DNS TXT application value has too many strings"
  return strings

def checkParts (total : Nat) : List JsString → Except DnsTxtBootstrapRejectionReason Unit
  | [] => .ok ()
  | part :: parts => do
    let size := (textEncode part).length
    throwIf (dnsTxtMaxCharacterStringOctets < size) .stringTooLarge
    throwIf (¬ isASCII part) .nonAscii
    throwIf (dnsTxtMaxCandidateOctets < total + size) .recordTooLarge
    checkParts (total + size) parts

def decodeDnsTxtRecord (strings : List JsString) :
    Except DnsTxtBootstrapRejectionReason JsString := do
  throwIf (strings.length = 0) .emptyRecord
  throwIf (dnsTxtMaxCharacterStrings < strings.length) .tooManyStrings
  checkParts 0 strings
  return strings.flatten

def escapeZoneString (value : JsString) : JsString :=
  value.flatMap fun u => if u = 0x5c ∨ u = 0x22 then [0x5c, u] else [u]

def formatDnsCharacterStrings (strings : List JsString) : Except String JsString :=
  match decodeDnsTxtRecord strings with
  | .error reason => .error ("invalid DNS TXT strings: " ++ reason.text)
  | .ok _ => .ok (List.intercalate [0x20]
      (strings.map fun part => [0x22] ++ escapeZoneString part ++ [0x22]))

def createDnsTxtBootstrapPublication (domain wrapper : JsString) :
    Except String DnsTxtBootstrapPublication := do
  throwIf (¬ isBranchTextWrapper (Utf16.text wrapper))
    "DNS TXT publication requires an exact bounded BRANCH0 wrapper"
  let ownerName ← dnsTxtOwnerName domain
  let value := Utf16.units dnsTxtBootstrapPrefix ++ wrapper
  let strings ← splitDnsCharacterStrings value
  let formatted ← formatDnsCharacterStrings strings
  return {
    ownerName
    ttlSeconds := dnsTxtRecommendedTTLSeconds
    strings
    value
    zoneFileRecord := Utf16.units (ownerName ++ ". 300 IN TXT ") ++ formatted }

/-- The wrapper of one record, before it is asked whether it was seen. -/
def readRecord (strings : List JsString) : Except DnsTxtBootstrapRejectionReason JsString := do
  let value ← decodeDnsTxtRecord strings
  throwIf (¬ Utf16.units dnsTxtBootstrapPrefix <+: value) .wrongPrefix
  let wrapper := value.drop dnsTxtBootstrapPrefix.length
  let text := Utf16.text wrapper
  throwIf (¬ (branchTextWrapperPrefix.toList <+: text.toList ∧ isBranchTextWrapper text))
    .malformedWrapper
  return wrapper

def DnsTxtBootstrapParseResult.reject (result : DnsTxtBootstrapParseResult) (rrIndex : Nat)
    (reason : DnsTxtBootstrapRejectionReason) : DnsTxtBootstrapParseResult :=
  { result with rejections := result.rejections ++ [⟨rrIndex, reason⟩] }

def parseFrom (rrIndex : Nat) (seen : List JsString) (result : DnsTxtBootstrapParseResult) :
    List (List JsString) → DnsTxtBootstrapParseResult
  | [] => result
  | strings :: records =>
    match readRecord strings with
    | .error reason => parseFrom (rrIndex + 1) seen (result.reject rrIndex reason) records
    | .ok wrapper =>
      if wrapper ∈ seen then
        parseFrom (rrIndex + 1) seen (result.reject rrIndex .duplicate) records
      else
        parseFrom (rrIndex + 1) (wrapper :: seen)
          { result with candidates := result.candidates ++ [⟨wrapper, rrIndex, strings⟩] } records

def parseDnsTxtBootstrapRecords (records : List (List JsString)) : DnsTxtBootstrapParseResult :=
  parseFrom 0 [] {} records

/-- What the records come to. The candidate of a wrapper is its first record. -/
structure Parsed (records : List (List JsString)) (result : DnsTxtBootstrapParseResult) :
    Prop where
  once : (result.candidates.map (·.rrIndex) ++ result.rejections.map (·.rrIndex)).Perm
    (.range records.length)
  nodup : (result.candidates.map (·.wrapper)).Nodup
  first : ∀ candidate ∈ result.candidates,
    records[candidate.rrIndex]? = some candidate.strings ∧
      readRecord candidate.strings = .ok candidate.wrapper ∧
      ∀ strings ∈ records.take candidate.rrIndex, readRecord strings ≠ .ok candidate.wrapper
  found : ∀ strings ∈ records, ∀ wrapper, readRecord strings = .ok wrapper →
    wrapper ∈ result.candidates.map (·.wrapper)

variable {records records' : List (List JsString)} {result : DnsTxtBootstrapParseResult}
  {strings : List JsString} {wrapper : JsString}

theorem Parsed.candidate_snoc (h : Parsed records result) {candidate : DnsTxtBootstrapCandidate}
    (hmem : candidate ∈ result.candidates) :
    (records ++ [strings])[candidate.rrIndex]? = some candidate.strings ∧
      readRecord candidate.strings = .ok candidate.wrapper ∧
      ∀ other ∈ (records ++ [strings]).take candidate.rrIndex,
        readRecord other ≠ .ok candidate.wrapper := by
  obtain ⟨hget, hread, hbefore⟩ := h.first candidate hmem
  have hlt := (List.getElem?_eq_some_iff.mp hget).1
  refine ⟨by rw [List.getElem?_append_left hlt, hget], hread, ?_⟩
  rw [List.take_append_of_le_length hlt.le]
  exact hbefore

theorem Parsed.reject (h : Parsed records result) {reason : DnsTxtBootstrapRejectionReason}
    (hfound : ∀ wrapper, readRecord strings = .ok wrapper →
      wrapper ∈ result.candidates.map (·.wrapper)) :
    Parsed (records ++ [strings]) (result.reject records.length reason) := by
  refine ⟨?_, h.nodup, fun candidate hmem => h.candidate_snoc hmem, ?_⟩
  · simp only [DnsTxtBootstrapParseResult.reject, List.map_append, List.map_singleton,
      List.length_append, List.length_singleton, List.range_succ, ← List.append_assoc]
    exact h.once.append_right _
  · intro other hother wrapper hread
    rcases List.mem_append.mp hother with hother | hother
    · exact h.found other hother wrapper hread
    · obtain rfl := List.mem_singleton.mp hother
      exact hfound wrapper hread

theorem Parsed.accept (h : Parsed records result) (hread : readRecord strings = .ok wrapper)
    (hnew : wrapper ∉ result.candidates.map (·.wrapper)) :
    Parsed (records ++ [strings]) { result with
      candidates := result.candidates ++ [⟨wrapper, records.length, strings⟩] } := by
  refine ⟨?_, ?_, ?_, ?_⟩
  · simp only [List.map_append, List.map_singleton, List.length_append, List.length_singleton,
      List.range_succ, List.append_assoc]
    refine (List.perm_append_comm.append_left _).trans ?_
    rw [← List.append_assoc]
    exact h.once.append_right _
  · rw [List.map_append, List.nodup_append]
    refine ⟨h.nodup, List.nodup_singleton _, ?_⟩
    rintro wrapper' hwrapper' _ hlast rfl
    rw [List.mem_singleton.mp hlast] at hwrapper'
    exact hnew hwrapper'
  · intro candidate hmem
    rcases List.mem_append.mp hmem with hmem | hmem
    · exact h.candidate_snoc hmem
    · obtain rfl := List.mem_singleton.mp hmem
      refine ⟨by simp, hread, ?_⟩
      simp only [List.take_left']
      exact fun other hother hsame => hnew (h.found other hother wrapper hsame)
  · intro other hother wrapper' hread'
    rw [List.map_append]
    rcases List.mem_append.mp hother with hother | hother
    · exact List.mem_append_left _ (h.found other hother wrapper' hread')
    · obtain rfl := List.mem_singleton.mp hother
      obtain rfl := Except.ok.inj (hread.symm.trans hread')
      exact List.mem_append_right _ List.mem_cons_self

theorem parsed_parseFrom {rest : List (List JsString)} {seen : List JsString}
    (h : Parsed records result)
    (hseen : ∀ wrapper, wrapper ∈ seen ↔ wrapper ∈ result.candidates.map (·.wrapper)) :
    Parsed (records ++ rest) (parseFrom records.length seen result rest) := by
  induction rest generalizing records seen result with
  | nil => simpa [parseFrom] using h
  | cons strings rest ih =>
    have hlength : (records ++ [strings]).length = records.length + 1 := List.length_append
    rw [parseFrom, List.append_cons records, ← hlength]
    split
    · rename_i reason hread
      refine ih (h.reject fun wrapper hok => ?_) hseen
      rw [hread] at hok
      cases hok
    · rename_i wrapper hread
      split
      · rename_i hmem
        refine ih (h.reject fun wrapper' hok => ?_) hseen
        obtain rfl := Except.ok.inj (hread.symm.trans hok)
        exact (hseen _).mp hmem
      · rename_i hnew
        refine ih (h.accept hread fun hmem => hnew ((hseen _).mpr hmem)) fun wrapper' => ?_
        rw [List.mem_cons, hseen, List.map_append, List.mem_append, List.map_singleton,
          List.mem_singleton, or_comm]

theorem parsed_parseDnsTxtBootstrapRecords (records : List (List JsString)) :
    Parsed records (parseDnsTxtBootstrapRecords records) :=
  have hnil : Parsed [] {} := ⟨.refl _, .nil, nofun, nofun⟩
  parsed_parseFrom hnil fun _ => Iff.rfl

theorem Parsed.mem_iff (h : Parsed records result) :
    wrapper ∈ result.candidates.map (·.wrapper) ↔
      ∃ strings ∈ records, readRecord strings = .ok wrapper := by
  constructor
  · intro hmem
    obtain ⟨candidate, hcandidate, rfl⟩ := List.mem_map.mp hmem
    obtain ⟨hget, hread, _⟩ := h.first candidate hcandidate
    exact ⟨candidate.strings, List.mem_of_getElem? hget, hread⟩
  · rintro ⟨strings, hstrings, hread⟩
    exact h.found strings hstrings wrapper hread

theorem flatten_splitDnsCharacterStrings {value : JsString} {strings : List JsString}
    (h : splitDnsCharacterStrings value = .ok strings) : strings.flatten = value := by
  obtain ⟨_, h⟩ := throwIf_bind_eq_ok.mp h
  obtain ⟨_, h⟩ := throwIf_bind_eq_ok.mp h
  obtain ⟨_, h⟩ := throwIf_bind_eq_ok.mp h
  obtain rfl := Except.ok.inj h
  have hocts : dnsTxtMaxCharacterStringOctets = 255 := rfl
  rw [← List.flatMap_def]
  refine Pieces.flatMap_piece _ _ ?_
  rw [hocts]
  omega

theorem decodeDnsTxtRecord_eq_ok {value : JsString} (h : decodeDnsTxtRecord strings = .ok value) :
    value = strings.flatten := by
  obtain ⟨_, h⟩ := throwIf_bind_eq_ok.mp h
  obtain ⟨_, h⟩ := throwIf_bind_eq_ok.mp h
  obtain ⟨_, _, h⟩ := bind_eq_ok.mp h
  exact (Except.ok.inj h).symm

/-- The strings of a publication are read as the wrapper that is published. -/
theorem readRecord_publication {domain : JsString} {publication : DnsTxtBootstrapPublication}
    (h : createDnsTxtBootstrapPublication domain wrapper = .ok publication) :
    readRecord publication.strings = .ok wrapper := by
  obtain ⟨hwrapper, h⟩ := throwIf_bind_eq_ok.mp h
  obtain ⟨ownerName, _, h⟩ := bind_eq_ok.mp h
  obtain ⟨strings, hsplit, h⟩ := bind_eq_ok.mp h
  obtain ⟨formatted, hformat, h⟩ := bind_eq_ok.mp h
  obtain rfl := Except.ok.inj h
  have hflatten := flatten_splitDnsCharacterStrings hsplit
  have hlength : dnsTxtBootstrapPrefix.length = (Utf16.units dnsTxtBootstrapPrefix).length := by
    decide
  unfold formatDnsCharacterStrings at hformat
  split at hformat
  · cases hformat
  · rename_i value hdecode
    obtain rfl := decodeDnsTxtRecord_eq_ok hdecode
    rw [hflatten] at hdecode
    refine bind_eq_ok.mpr ⟨_, hdecode, throwIf_bind_eq_ok.mpr
      ⟨not_not.mpr (List.prefix_append _ _), ?_⟩⟩
    rw [hlength, List.drop_left]
    have hvalid := not_not.mp hwrapper
    have hwrapped := hvalid
    simp only [isBranchTextWrapper, Bool.and_eq_true, decide_eq_true_eq] at hwrapped
    exact throwIf_bind_eq_ok.mpr ⟨not_not.mpr ⟨hwrapped.1.1, hvalid⟩, rfl⟩

/-- A publication is read back as its wrapper. Every record gives a candidate or a rejection, no
wrapper is given twice, and in every order of the records the same wrappers are given. -/
theorem publication_parses_alone_and_wrappers_unordered :
    (∀ domain wrapper publication,
      createDnsTxtBootstrapPublication domain wrapper = .ok publication →
      parseDnsTxtBootstrapRecords [publication.strings] =
        { candidates := [⟨wrapper, 0, publication.strings⟩] }) ∧
    ∀ records, Parsed records (parseDnsTxtBootstrapRecords records) ∧
      ∀ records', records'.Perm records →
        ((parseDnsTxtBootstrapRecords records').candidates.map (·.wrapper)).Perm
          ((parseDnsTxtBootstrapRecords records).candidates.map (·.wrapper)) := by
  constructor
  · intro domain wrapper publication h
    have hread := readRecord_publication h
    rw [parseDnsTxtBootstrapRecords, parseFrom, hread]
    rfl
  · intro records
    have hparsed := parsed_parseDnsTxtBootstrapRecords records
    refine ⟨hparsed, fun records' hperm => ?_⟩
    have hparsed' := parsed_parseDnsTxtBootstrapRecords records'
    refine (List.perm_ext_iff_of_nodup hparsed'.nodup hparsed.nodup).mpr fun wrapper => ?_
    rw [hparsed'.mem_iff, hparsed.mem_iff]
    simp only [hperm.mem_iff]

theorem publication_parses_alone_sample :
    ∃ publication, createDnsTxtBootstrapPublication (Utf16.units "Relay.Example.")
        (Utf16.units "BRANCH0.AAAA") = .ok publication ∧
      parseDnsTxtBootstrapRecords [publication.strings] =
        { candidates := [⟨Utf16.units "BRANCH0.AAAA", 0, publication.strings⟩] } := by
  have hok : (createDnsTxtBootstrapPublication (Utf16.units "Relay.Example.")
      (Utf16.units "BRANCH0.AAAA")).isOk = true := by
    decide +kernel
  obtain ⟨publication, h⟩ := exists_of_isOk hok
  exact ⟨publication, h, publication_parses_alone_and_wrappers_unordered.1 _ _ _ h⟩

/-- Up to their places the candidates are the same in every order of the records. -/
def CandidatesUnordered : Prop :=
  ∀ records records' : List (List JsString), records'.Perm records →
    ((parseDnsTxtBootstrapRecords records').candidates.map fun candidate =>
      (candidate.wrapper, candidate.strings)).Perm
      ((parseDnsTxtBootstrapRecords records).candidates.map fun candidate =>
        (candidate.wrapper, candidate.strings))

/-- One wrapper in one string, and in two. -/
def sampleRecords : List (List JsString) :=
  [[Utf16.units "branchbootstrapv0=BRANCH0.AAAA"],
    [Utf16.units "branchbootstrapv0=", Utf16.units "BRANCH0.AAAA"]]

theorem not_candidatesUnordered_sampleRecords : ¬ CandidatesUnordered := by
  intro h
  have hperm := h sampleRecords sampleRecords.reverse (List.reverse_perm _)
  revert hperm
  decide +kernel

end Branch.Core.DnsTxt
