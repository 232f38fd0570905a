import Branch.Core.FlatRecords

/-!
The frame in which an image carries a wrapper: a profile, a payload and its checksum.
-/

namespace Branch.Core

open Branch.Lib

namespace Ribbon

def magic : List UInt8 := [0x42, 0x52, 0x49, 0x4d, 0x47, 0x30]
def branchWrapperPrefix : String := "BRANCH0."
def ribbonBlockProfile : String := "ribbon-block/0.draft"
def ribbonPayloadKindBranchWrapper : UInt8 := 0x01
def maxRibbonPayloadBytes : Nat := 768

inductive RibbonDecodeFailure where
  | visualSyncFailed
  | visualCrcFailed
  | payloadTooLarge
  | payloadKindUnsupported
  | payloadNotBranchWrapper

structure RibbonFrame where
  profileId : String
  flags : UInt8
  payload : List UInt8

def readCRC32CTable (index : UInt32) : UInt32 :=
  Nat.repeat (fun crc => if crc &&& 1 = 1 then (crc >>> 1) ^^^ 0x82f63b78 else crc >>> 1) 8 index

def crc32c (data : List UInt8) : UInt32 :=
  data.foldl (fun (crc : UInt32) byte =>
    (crc >>> 8) ^^^ readCRC32CTable ((crc ^^^ byte.toUInt32) &&& 0xff)) 0xffffffff ^^^ 0xffffffff

/-- What cannot be decoded is read as the empty text. -/
def decodeUTF8 (data : List UInt8) : String := (textDecode data).getD ""

def startsWithPrefix (wrapper : JsString) : Bool :=
  (Utf16.units branchWrapperPrefix).isPrefixOf wrapper

def branchWrapperBytes (wrapper : JsString) : Except String (List UInt8) :=
  if ¬ startsWithPrefix wrapper then .error "payload must be a BRANCH0. wrapper"
  else .ok (textEncode wrapper)

def frameOf (profile payload : List UInt8) : List UInt8 :=
  magic ++ UInt8.ofNat profile.length :: (profile ++ ribbonPayloadKindBranchWrapper ::
    (Cbor.toBytes 2 payload.length ++ (payload ++ Cbor.toBytes 4 (crc32c payload).toNat)))

def encodeRibbonFrame (payload : List UInt8) : Except String (List UInt8) :=
  if maxRibbonPayloadBytes < payload.length then .error "payload too large"
  else if 255 < (Utf8.bytes ribbonBlockProfile).length then .error "profile id too large"
  else .ok (frameOf (Utf8.bytes ribbonBlockProfile) payload)

/-- `decodeRibbonFrame` from the payload on. -/
def readPayload (flags : UInt8) (payloadLength : Nat) (rest : List UInt8) :
    Except RibbonDecodeFailure RibbonFrame :=
  if maxRibbonPayloadBytes < payloadLength then .error .payloadTooLarge
  else if payloadLength + 4 ≠ rest.length then .error .visualSyncFailed
  else
    let payload := rest.take payloadLength
    if Cbor.ofBytes (rest.drop payloadLength) ≠ (crc32c payload).toNat then
      .error .visualCrcFailed
    else if ¬ startsWithPrefix (Utf16.units (decodeUTF8 payload)) then
      .error .payloadNotBranchWrapper
    else .ok { profileId := ribbonBlockProfile, flags, payload }

def decodeRibbonFrame (frame : List UInt8) : Except RibbonDecodeFailure RibbonFrame :=
  if frame.length < magic.length + 1 + 1 + 2 + 4 then .error .visualSyncFailed
  else if frame.take magic.length ≠ magic then .error .visualSyncFailed
  else
    match frame.drop magic.length with
    | [] => .error .visualSyncFailed
    | profileLength :: rest =>
      if profileLength = 0 then .error .visualSyncFailed
      else if rest.length < profileLength.toNat + 1 + 2 + 4 then .error .visualSyncFailed
      else if decodeUTF8 (rest.take profileLength.toNat) ≠ ribbonBlockProfile then
        .error .payloadKindUnsupported
      else
        match rest.drop profileLength.toNat with
        | flags :: high :: low :: rest =>
          if flags ≠ ribbonPayloadKindBranchWrapper then .error .payloadKindUnsupported
          else readPayload flags (Cbor.ofBytes [high, low]) rest
        | _ => .error .visualSyncFailed

def IsWrapper (payload : List UInt8) : Prop := ∃ wrapper, branchWrapperBytes wrapper = .ok payload

/-- A frame is accepted exactly when it is the frame of a wrapper, which is what it is read as. -/
def ReadsExactly (frame : List UInt8) : Prop :=
  ∀ payload, (∃ f, decodeRibbonFrame frame = .ok f ∧ f.payload = payload) ↔
    IsWrapper payload ∧ encodeRibbonFrame payload = .ok frame

def mark : List UInt8 := [0xEF, 0xBB, 0xBF]

/-- A frame with a byte order mark before its profile or its wrapper, and with the lengths and
the checksum that it should have. -/
def MarkedFrame (frame : List UInt8) : Prop :=
  ∃ profile payload, frame = frameOf profile payload ∧ payload.length ≤ maxRibbonPayloadBytes ∧
    (profile = mark ++ Utf8.bytes ribbonBlockProfile ∧ IsWrapper payload ∨
      (profile = Utf8.bytes ribbonBlockProfile ∨
        profile = mark ++ Utf8.bytes ribbonBlockProfile) ∧
          ∃ wrapper, payload = mark ++ wrapper ∧ IsWrapper wrapper)

section Text

theorem bytes_mark (s : String) :
    Utf8.bytes (String.ofList (Utf8.byteOrderMark :: s.toList)) = mark ++ Utf8.bytes s := by
  rw [Utf8.bytes, String.toList_ofList]
  rfl

theorem textDecode_eq_some_iff {data : List UInt8} {s : String} (h : ¬ Utf8.Marked s) :
    textDecode data = some s ↔ data = Utf8.bytes s ∨ data = mark ++ Utf8.bytes s := by
  unfold textDecode
  simp only [Option.map_eq_some_iff, Utf8.text?_eq_some_iff]
  constructor
  · rintro ⟨t, rfl, rfl⟩
    by_cases hmarked : Utf8.Marked t
    · cases hlist : t.toList with
      | nil => simp [Utf8.Marked, hlist] at hmarked
      | cons c cs =>
        obtain rfl : c = Utf8.byteOrderMark := by simpa [Utf8.Marked, hlist] using hmarked
        have hdrop : Utf8.dropByteOrderMark t = String.ofList cs := by
          simp [Utf8.dropByteOrderMark, hlist]
        refine .inr ?_
        rw [hdrop, ← bytes_mark, String.toList_ofList, ← hlist, String.ofList_toList]
    · rw [Utf8.dropByteOrderMark_of_not_marked hmarked]
      exact .inl rfl
  · rintro (rfl | rfl)
    · exact ⟨s, rfl, Utf8.dropByteOrderMark_of_not_marked h⟩
    · refine ⟨_, bytes_mark s, ?_⟩
      simp [Utf8.dropByteOrderMark]

theorem decodeUTF8_eq_iff {data : List UInt8} {s : String} (h : ¬ Utf8.Marked s) (hne : s ≠ "") :
    decodeUTF8 data = s ↔ data = Utf8.bytes s ∨ data = mark ++ Utf8.bytes s := by
  rw [← textDecode_eq_some_iff h, decodeUTF8]
  cases textDecode data with
  | none => exact iff_of_false hne.symm nofun
  | some t => exact Option.some_inj.symm

theorem of_flatMap_ofChar_append {cs ds : List Char} {rest : List UInt16}
    (h : cs.flatMap Utf16.ofChar ++ rest = ds.flatMap Utf16.ofChar) : cs <+: ds := by
  induction cs generalizing ds with
  | nil => exact List.nil_prefix
  | cons c cs ih =>
    cases ds with
    | nil =>
      have hnil := List.append_eq_nil_iff.mp (List.append_eq_nil_iff.mp h).1
      exact absurd hnil.1 (Utf16.ofChar_ne_nil c)
    | cons d ds =>
      rw [List.flatMap_cons, List.flatMap_cons, List.append_assoc] at h
      obtain ⟨rfl, hrest⟩ := Utf16.ofChar_append_inj h
      exact List.cons_prefix_cons.mpr ⟨rfl, ih hrest⟩

theorem startsWithPrefix_units_iff {s : String} :
    startsWithPrefix (Utf16.units s) = true ↔ branchWrapperPrefix.toList <+: s.toList := by
  rw [startsWithPrefix, List.isPrefixOf_iff_prefix]
  constructor
  · rintro ⟨rest, heq⟩
    exact of_flatMap_ofChar_append heq
  · rintro ⟨rest, heq⟩
    refine ⟨rest.flatMap Utf16.ofChar, ?_⟩
    rw [Utf16.units, Utf16.units, ← heq, List.flatMap_append]

theorem decode_cons_of_single {u : UInt16} (hhigh : Utf16.isHigh u = false)
    (hlow : Utf16.isLow u = false) (us : List UInt16) :
    Utf16.decode (u :: us) = Char.ofNat u.toNat :: Utf16.decode us := by
  cases us <;> simp [Utf16.decode, hhigh, hlow]

theorem toList_text_of_startsWithPrefix {wrapper : JsString}
    (h : startsWithPrefix wrapper = true) :
    branchWrapperPrefix.toList <+: (Utf16.text wrapper).toList := by
  rw [startsWithPrefix, List.isPrefixOf_iff_prefix] at h
  obtain ⟨rest, rfl⟩ := h
  refine ⟨Utf16.decode rest, ?_⟩
  have hunits : Utf16.units branchWrapperPrefix = [66, 82, 65, 78, 67, 72, 48, 46] := by
    decide +kernel
  rw [Utf16.text, String.toList_ofList, hunits]
  simp only [List.cons_append, List.nil_append]
  repeat rw [decode_cons_of_single (by decide) (by decide)]
  rfl

theorem isWrapper_iff {payload : List UInt8} :
    IsWrapper payload ↔
      ∃ s, payload = Utf8.bytes s ∧ branchWrapperPrefix.toList <+: s.toList := by
  constructor
  · rintro ⟨wrapper, hok⟩
    unfold branchWrapperBytes at hok
    split at hok
    · cases hok
    · rename_i hstarts
      cases hok
      exact ⟨Utf16.text wrapper, rfl, toList_text_of_startsWithPrefix (not_not.mp hstarts)⟩
  · rintro ⟨s, rfl, hstarts⟩
    refine ⟨Utf16.units s, ?_⟩
    rw [branchWrapperBytes, if_neg (not_not.mpr (startsWithPrefix_units_iff.mpr hstarts)),
      textEncode, FlatRecords.text_units]

theorem not_marked_of_starts {s : String} (h : branchWrapperPrefix.toList <+: s.toList) :
    ¬ Utf8.Marked s := by
  obtain ⟨rest, heq⟩ := h
  intro hmarked
  rw [Utf8.Marked, ← heq] at hmarked
  exact absurd (Option.some.inj hmarked) (by decide)

theorem startsWithPrefix_decodeUTF8_iff {payload : List UInt8} :
    startsWithPrefix (Utf16.units (decodeUTF8 payload)) = true ↔
      IsWrapper payload ∨ ∃ wrapper, payload = mark ++ wrapper ∧ IsWrapper wrapper := by
  rw [startsWithPrefix_units_iff]
  have hne : ∀ {s : String}, branchWrapperPrefix.toList <+: s.toList → s ≠ "" := by
    rintro s h rfl
    exact absurd h (by decide)
  constructor
  · intro h
    rcases (decodeUTF8_eq_iff (not_marked_of_starts h) (hne h)).mp rfl with heq | heq
    · exact .inl (isWrapper_iff.mpr ⟨_, heq, h⟩)
    · exact .inr ⟨_, heq, isWrapper_iff.mpr ⟨_, rfl, h⟩⟩
  · have hdecode {s : String} (h : branchWrapperPrefix.toList <+: s.toList) :=
      @decodeUTF8_eq_iff payload s (not_marked_of_starts h) (hne h)
    rintro (hwrapper | ⟨wrapper, heq, hwrapper⟩)
    · obtain ⟨s, hbytes, hstarts⟩ := isWrapper_iff.mp hwrapper
      rw [(hdecode hstarts).mpr (.inl hbytes)]
      exact hstarts
    · obtain ⟨s, rfl, hstarts⟩ := isWrapper_iff.mp hwrapper
      rw [(hdecode hstarts).mpr (.inr heq)]
      exact hstarts

end Text

section Frame

variable {frame profile payload : List UInt8} {f : RibbonFrame}

theorem readPayload_eq_ok_iff {flags : UInt8} {payloadLength : Nat} {rest : List UInt8} :
    readPayload flags payloadLength rest = .ok f ↔
      ∃ payload, payload.length = payloadLength ∧ payloadLength ≤ maxRibbonPayloadBytes ∧
        rest = payload ++ Cbor.toBytes 4 (crc32c payload).toNat ∧
        startsWithPrefix (Utf16.units (decodeUTF8 payload)) = true ∧
        f = { profileId := ribbonBlockProfile, flags, payload } := by
  constructor
  · intro h
    unfold readPayload at h
    split at h
    · cases h
    · rename_i hmax
      split at h
      · cases h
      · rename_i hlength
        dsimp only at h
        split at h
        · cases h
        · rename_i hcrc
          split at h
          · cases h
          · rename_i hstarts
            have hlength : payloadLength + 4 = rest.length := not_not.mp hlength
            have htail : (rest.drop payloadLength).length = 4 := by
              rw [List.length_drop]
              omega
            have hchecksum := Cbor.toBytes_ofBytes (rest.drop payloadLength)
            rw [htail, not_not.mp hcrc] at hchecksum
            refine ⟨rest.take payloadLength, ?_, Nat.le_of_not_lt hmax, ?_, not_not.mp hstarts,
              (Except.ok.inj h).symm⟩
            · rw [List.length_take]
              omega
            · rw [hchecksum, List.take_append_drop]
  · rintro ⟨payload, rfl, hmax, rfl, hstarts, rfl⟩
    have hcrc : (crc32c payload).toNat < 256 ^ 4 := (crc32c payload).toNat_lt
    simp [readPayload, Nat.not_lt.mpr hmax, Cbor.ofBytes_toBytes hcrc, hstarts]

theorem decodeRibbonFrame_frameOf (hpos : profile ≠ []) (hlength : profile.length ≤ 255)
    (hprofile : decodeUTF8 profile = ribbonBlockProfile)
    (hmax : payload.length ≤ maxRibbonPayloadBytes)
    (hstarts : startsWithPrefix (Utf16.units (decodeUTF8 payload)) = true) :
    decodeRibbonFrame (frameOf profile payload) = .ok
      { profileId := ribbonBlockProfile, flags := ribbonPayloadKindBranchWrapper, payload } := by
  have hsize : (UInt8.ofNat profile.length).toNat = profile.length := by
    rw [UInt8.toNat_ofNat']
    exact Nat.mod_eq_of_lt (by omega)
  have hne : UInt8.ofNat profile.length ≠ 0 := by
    intro hzero
    rw [hzero] at hsize
    exact hpos (List.length_eq_zero_iff.mp hsize.symm)
  have hpayload : payload.length < 256 ^ 2 := by
    unfold maxRibbonPayloadBytes at hmax
    omega
  obtain ⟨high, low, hlow⟩ : ∃ high low, Cbor.toBytes 2 payload.length = [high, low] :=
    List.length_eq_two.mp (Cbor.length_toBytes 2 payload.length)
  have hread := (@readPayload_eq_ok_iff _ ribbonPayloadKindBranchWrapper _ _).mpr
    ⟨payload, rfl, hmax, rfl, hstarts, rfl⟩
  have hnot : ¬ (frameOf profile payload).length < magic.length + 1 + 1 + 2 + 4 := by
    simp only [frameOf, List.length_append, List.length_cons, Cbor.length_toBytes]
    omega
  rw [decodeRibbonFrame, if_neg hnot, if_neg (not_not.mpr (by simp [frameOf])), frameOf,
    List.drop_left]
  dsimp only
  rw [hsize, List.take_left, List.drop_left, if_neg hne, if_neg (not_not.mpr hprofile), hlow]
  rw [← Cbor.ofBytes_toBytes hpayload, hlow] at hread
  simp only [List.cons_append, List.nil_append]
  rw [if_neg, if_neg (not_not.mpr rfl), hread]
  simp only [List.length_append, List.length_cons, Cbor.length_toBytes]
  omega

theorem of_decodeRibbonFrame (h : decodeRibbonFrame frame = .ok f) :
    ∃ profile, frame = frameOf profile f.payload ∧
      decodeUTF8 profile = ribbonBlockProfile ∧ f.payload.length ≤ maxRibbonPayloadBytes ∧
        startsWithPrefix (Utf16.units (decodeUTF8 f.payload)) = true := by
  unfold decodeRibbonFrame at h
  split at h
  · cases h
  · split at h
    · cases h
    · rename_i hmagic
      split at h
      · cases h
      · rename_i profileLength rest hrest
        split at h
        · cases h
        · split at h
          · cases h
          · rename_i hlength
            split at h
            · cases h
            · rename_i hprofile
              split at h
              · rename_i flags high low tail htail
                split at h
                · cases h
                · rename_i hflags
                  obtain ⟨payload, hpayload, hmax, rfl, hstarts, rfl⟩ :=
                    readPayload_eq_ok_iff.mp h
                  have hsize : (rest.take profileLength.toNat).length = profileLength.toNat := by
                    rw [List.length_take]
                    omega
                  have hbytes := Cbor.toBytes_ofBytes [high, low]
                  rw [← hpayload] at hbytes
                  have hsplit : rest = rest.take profileLength.toNat ++ flags :: high :: low ::
                      (payload ++ Cbor.toBytes 4 (crc32c payload).toNat) := by
                    rw [← htail, List.take_append_drop]
                  refine ⟨rest.take profileLength.toNat, ?_, not_not.mp hprofile,
                    hpayload ▸ hmax, hstarts⟩
                  calc frame = frame.take magic.length ++ frame.drop magic.length :=
                        (List.take_append_drop _ _).symm
                    _ = magic ++ profileLength :: (rest.take profileLength.toNat ++
                          flags :: ([high, low] ++ (payload ++
                            Cbor.toBytes 4 (crc32c payload).toNat))) := by
                        rw [not_not.mp hmagic, hrest]
                        exact congrArg (magic ++ profileLength :: ·) hsplit
                    _ = frameOf (rest.take profileLength.toNat) payload := by
                        rw [frameOf, hsize, not_not.mp hflags, ← hbytes]
                        simp
              · cases h

theorem length_frameOf (profile payload : List UInt8) :
    (frameOf profile payload).length = profile.length + payload.length + 14 := by
  simp only [frameOf, List.length_append, List.length_cons, Cbor.length_toBytes]
  have hmagic : magic.length = 6 := rfl
  omega

theorem not_isWrapper_mark (wrapper : List UInt8) : ¬ IsWrapper (mark ++ wrapper) := by
  intro h
  obtain ⟨s, heq, rest, hstarts⟩ := isWrapper_iff.mp h
  rw [Utf8.bytes, ← hstarts] at heq
  exact absurd (List.cons.inj heq).1 (by decide)

theorem encodeRibbonFrame_eq_ok_iff : encodeRibbonFrame payload = .ok frame ↔
    payload.length ≤ maxRibbonPayloadBytes ∧
      frame = frameOf (Utf8.bytes ribbonBlockProfile) payload := by
  unfold encodeRibbonFrame
  rw [if_neg (by decide : ¬ 255 < (Utf8.bytes ribbonBlockProfile).length)]
  split
  · rename_i hmax
    exact iff_of_false nofun fun h => Nat.not_lt.mpr h.1 hmax
  · rename_i hmax
    rw [Except.ok.injEq]
    exact ⟨fun h => ⟨Nat.le_of_not_lt hmax, h.symm⟩, fun h => h.2.symm⟩

theorem decodeUTF8_profile_iff : decodeUTF8 profile = ribbonBlockProfile ↔
    profile = Utf8.bytes ribbonBlockProfile ∨ profile = mark ++ Utf8.bytes ribbonBlockProfile :=
  decodeUTF8_eq_iff (by decide +kernel) (by decide)

/-- What is accepted are the frames with the profile and a wrapper, with or without a mark before
each of them. -/
theorem decodeRibbonFrame_eq_ok_iff :
    (∃ f, decodeRibbonFrame frame = .ok f ∧ f.payload = payload) ↔
      ∃ profile, frame = frameOf profile payload ∧ payload.length ≤ maxRibbonPayloadBytes ∧
        (profile = Utf8.bytes ribbonBlockProfile ∨
          profile = mark ++ Utf8.bytes ribbonBlockProfile) ∧
        (IsWrapper payload ∨ ∃ wrapper, payload = mark ++ wrapper ∧ IsWrapper wrapper) := by
  simp only [← decodeUTF8_profile_iff, ← startsWithPrefix_decodeUTF8_iff]
  constructor
  · rintro ⟨f, h, rfl⟩
    obtain ⟨profile, heq, hprofile, hmax, hstarts⟩ := of_decodeRibbonFrame h
    exact ⟨profile, heq, hmax, hprofile, hstarts⟩
  · rintro ⟨profile, rfl, hmax, hprofile, hstarts⟩
    have hsizes : profile ≠ [] ∧ profile.length ≤ 255 := by
      rcases decodeUTF8_profile_iff.mp hprofile with rfl | rfl <;> decide
    exact ⟨_, decodeRibbonFrame_frameOf hsizes.1 hsizes.2 hprofile hmax hstarts, rfl⟩

end Frame

/-- A frame is read exactly if and only if it is none with a byte order mark before its profile
or its wrapper: one that is would be accepted, and the mark of the profile be lost. -/
theorem readsExactly_iff (frame : List UInt8) : ReadsExactly frame ↔ ¬ MarkedFrame frame := by
  constructor
  · rintro h ⟨profile, payload, rfl, hmax, hmarked⟩
    have haccepted : IsWrapper payload ∧
        encodeRibbonFrame payload = .ok (frameOf profile payload) := by
      refine (h payload).mp (decodeRibbonFrame_eq_ok_iff.mpr ⟨profile, rfl, hmax, ?_⟩)
      rcases hmarked with ⟨hprofile, hwrapper⟩ | ⟨hprofile, hwrapper⟩
      · exact ⟨.inr hprofile, .inl hwrapper⟩
      · exact ⟨hprofile, .inr hwrapper⟩
    rcases hmarked with ⟨rfl, -⟩ | ⟨-, wrapper, rfl, -⟩
    · have hlength := congrArg List.length (encodeRibbonFrame_eq_ok_iff.mp haccepted.2).2
      rw [length_frameOf, length_frameOf, List.length_append] at hlength
      have hmark : mark.length = 3 := rfl
      omega
    · exact not_isWrapper_mark wrapper haccepted.1
  · intro h payload
    rw [encodeRibbonFrame_eq_ok_iff, decodeRibbonFrame_eq_ok_iff]
    constructor
    · rintro ⟨profile, rfl, hmax, hprofile, hwrapper⟩
      rcases hwrapper with hwrapper | hwrapper
      · rcases hprofile with rfl | rfl
        · exact ⟨hwrapper, hmax, rfl⟩
        · exact absurd ⟨_, payload, rfl, hmax, .inl ⟨rfl, hwrapper⟩⟩ h
      · exact absurd ⟨profile, payload, rfl, hmax, .inr ⟨hprofile, hwrapper⟩⟩ h
    · rintro ⟨hwrapper, hmax, rfl⟩
      exact ⟨_, rfl, hmax, .inl rfl, .inl hwrapper⟩

theorem not_readsExactly_markedWrapper : ¬ ∀ frame, ReadsExactly frame := by
  intro h
  have hwrapper : IsWrapper (Utf8.bytes branchWrapperPrefix) :=
    isWrapper_iff.mpr ⟨branchWrapperPrefix, rfl, List.prefix_rfl⟩
  have haccepted := (h (frameOf (Utf8.bytes ribbonBlockProfile)
    (mark ++ Utf8.bytes branchWrapperPrefix)) (mark ++ Utf8.bytes branchWrapperPrefix)).mp
      (decodeRibbonFrame_eq_ok_iff.mpr ⟨_, rfl, by decide, .inl rfl, .inr ⟨_, rfl, hwrapper⟩⟩)
  exact not_isWrapper_mark _ haccepted.1

end Ribbon

end Branch.Core
