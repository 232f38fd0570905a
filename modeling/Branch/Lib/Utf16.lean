import Branch.Lib.Utf8
import Mathlib.Logic.Basic

/-!
Text in 16-bit units, as a language sees it that orders and measures its strings by them. Its
strings need not be text: a surrogate may stand alone.
-/

namespace Branch.Lib.Utf16

/-- The units of a character: one, or a high and a low surrogate. -/
def ofChar (c : Char) : List UInt16 :=
  if c.toNat < 0x10000 then [UInt16.ofNat c.toNat]
  else
    let n := c.toNat - 0x10000
    [UInt16.ofNat (0xD800 + n / 1024), UInt16.ofNat (0xDC00 + n % 1024)]

def units (s : String) : List UInt16 := s.toList.flatMap ofChar

theorem ofChar_ne_nil (c : Char) : ofChar c ≠ [] := by
  unfold ofChar
  split <;> exact List.cons_ne_nil _ _

theorem ofChar_append_inj {c d : Char} {us vs : List UInt16}
    (h : ofChar c ++ us = ofChar d ++ vs) : c = d ∧ us = vs := by
  have hc : c.toNat.isValidChar := c.valid
  have hd : d.toNat.isValidChar := d.valid
  unfold Nat.isValidChar at hc hd
  rw [← Char.toNat_inj]
  have hnat : ∀ {m n : Nat}, UInt16.ofNat m = UInt16.ofNat n → m % 65536 = n % 65536 := by
    intro m n h
    simpa only [UInt16.toNat_ofNat'] using congrArg UInt16.toNat h
  unfold ofChar at h
  split at h <;> split at h
  · obtain ⟨hhead, htail⟩ := List.cons.inj h
    have := hnat hhead
    exact ⟨by omega, htail⟩
  · have := hnat (List.cons.inj h).1
    omega
  · have := hnat (List.cons.inj h).1
    omega
  · obtain ⟨hhigh, hrest⟩ := List.cons.inj h
    obtain ⟨hlow, htail⟩ := List.cons.inj hrest
    have := hnat hhigh
    have := hnat hlow
    exact ⟨by omega, htail⟩

theorem units_injective : Function.Injective units := by
  have hlists : ∀ cs ds : List Char, cs.flatMap ofChar = ds.flatMap ofChar → cs = ds := by
    intro cs
    induction cs with
    | nil =>
      rintro (_ | ⟨d, ds⟩) h
      · rfl
      · exact absurd h.symm (by
          rw [List.flatMap_cons, List.flatMap_nil, List.append_eq_nil_iff]
          exact fun hnil => ofChar_ne_nil d hnil.1)
    | cons c cs ih =>
      rintro (_ | ⟨d, ds⟩) h
      · exact absurd h (by
          rw [List.flatMap_cons, List.flatMap_nil, List.append_eq_nil_iff]
          exact fun hnil => ofChar_ne_nil c hnil.1)
      · obtain ⟨rfl, htail⟩ := ofChar_append_inj h
        rw [ih ds htail]
  intro s t h
  exact String.toList_injective (hlists _ _ h)

/-- A character beyond the first 65536 comes before some within. -/
example : units "𐀀" < units "\uFFFD" := by decide +kernel

section Text

def isHigh (u : UInt16) : Bool := 0xD800 ≤ u.toNat && u.toNat < 0xDC00

def isLow (u : UInt16) : Bool := 0xDC00 ≤ u.toNat && u.toNat < 0xE000

def pairChar (u v : UInt16) : Char :=
  Char.ofNat (0x10000 + (u.toNat - 0xD800) * 1024 + (v.toNat - 0xDC00))

/-- The characters of the units. A surrogate without its other half is a replacement. -/
def decode : List UInt16 → List Char
  | [] => []
  | [u] => if isHigh u || isLow u then [Utf8.replacement] else [Char.ofNat u.toNat]
  | u :: v :: rest =>
    if isHigh u && isLow v then pairChar u v :: decode rest
    else if isHigh u || isLow u then Utf8.replacement :: decode (v :: rest)
    else Char.ofNat u.toNat :: decode (v :: rest)

def text (us : List UInt16) : String := String.ofList (decode us)

def paired : List UInt16 → Bool
  | [] => true
  | [u] => !isHigh u && !isLow u
  | u :: v :: rest =>
    if isHigh u then isLow v && paired rest
    else !isLow u && paired (v :: rest)

theorem toNat_ofNat {n : Nat} (h : n.isValidChar) : (Char.ofNat n).toNat = n := by
  rw [Char.ofNat, dif_pos h]
  rfl

theorem ofNat_toNat (u : UInt16) : UInt16.ofNat u.toNat = u := by simp

theorem ofChar_of_single {u : UInt16} (hhigh : isHigh u = false) (hlow : isLow u = false) :
    ofChar (Char.ofNat u.toNat) = [u] := by
  have hlt := u.toNat_lt
  simp only [isHigh, isLow, Bool.and_eq_false_iff, decide_eq_false_iff_not] at hhigh hlow
  have hvalid : u.toNat.isValidChar := by
    unfold Nat.isValidChar
    omega
  rw [ofChar, toNat_ofNat hvalid, if_pos (by omega), ofNat_toNat]

theorem ofChar_pairChar {u v : UInt16} (hhigh : isHigh u = true) (hlow : isLow v = true) :
    ofChar (pairChar u v) = [u, v] := by
  simp only [isHigh, isLow, Bool.and_eq_true, decide_eq_true_eq] at hhigh hlow
  have hvalid : (0x10000 + (u.toNat - 0xD800) * 1024 + (v.toNat - 0xDC00)).isValidChar := by
    unfold Nat.isValidChar
    omega
  have hu : 0xD800 + (0x10000 + (u.toNat - 0xD800) * 1024 + (v.toNat - 0xDC00) - 0x10000) / 1024 =
      u.toNat := by omega
  have hv : 0xDC00 + (0x10000 + (u.toNat - 0xD800) * 1024 + (v.toNat - 0xDC00) - 0x10000) % 1024 =
      v.toNat := by omega
  rw [ofChar, pairChar, toNat_ofNat hvalid, if_neg (by omega)]
  dsimp only
  rw [hu, hv, ofNat_toNat, ofNat_toNat]

theorem flatMap_decode {us : List UInt16} (h : paired us = true) :
    (decode us).flatMap ofChar = us := by
  induction us using paired.induct with
  | case1 => rfl
  | case2 u =>
    simp only [paired, Bool.and_eq_true, Bool.not_eq_true'] at h
    simp [decode, h.1, h.2, ofChar_of_single h.1 h.2]
  | case3 u v rest hhigh ih =>
    simp only [paired, hhigh, if_true, Bool.and_eq_true] at h
    simp [decode, hhigh, h.1, ofChar_pairChar hhigh h.1, ih h.2]
  | case4 u v rest hhigh ih =>
    simp only [Bool.not_eq_true] at hhigh
    simp only [paired, hhigh, Bool.false_eq_true, if_false, Bool.and_eq_true,
      Bool.not_eq_true'] at h
    simp [decode, hhigh, h.1, ofChar_of_single hhigh h.1, ih h.2]

theorem paired_ofChar_append (c : Char) (us : List UInt16) :
    paired (ofChar c ++ us) = paired us := by
  have hvalid : c.toNat.isValidChar := c.valid
  unfold Nat.isValidChar at hvalid
  unfold ofChar
  by_cases hsmall : c.toNat < 0x10000
  · have hu : (UInt16.ofNat c.toNat).toNat = c.toNat := by
      rw [UInt16.toNat_ofNat']
      omega
    have hhigh : isHigh (UInt16.ofNat c.toNat) = false := by
      simp only [isHigh, hu, Bool.and_eq_false_iff, decide_eq_false_iff_not]
      omega
    have hlow : isLow (UInt16.ofNat c.toNat) = false := by
      simp only [isLow, hu, Bool.and_eq_false_iff, decide_eq_false_iff_not]
      omega
    rw [if_pos hsmall]
    cases us with
    | nil => simp [paired, hhigh, hlow]
    | cons v us => simp [paired, hhigh, hlow]
  · have hhigh : isHigh (UInt16.ofNat (0xD800 + (c.toNat - 0x10000) / 1024)) = true := by
      simp only [isHigh, UInt16.toNat_ofNat', Bool.and_eq_true, decide_eq_true_eq]
      omega
    have hlow : isLow (UInt16.ofNat (0xDC00 + (c.toNat - 0x10000) % 1024)) = true := by
      simp only [isLow, UInt16.toNat_ofNat', Bool.and_eq_true, decide_eq_true_eq]
      omega
    rw [if_neg hsmall]
    simp only [List.cons_append, List.nil_append, paired, hhigh, hlow, if_true, Bool.true_and]

theorem paired_units (s : String) : paired (units s) = true := by
  unfold units
  induction s.toList with
  | nil => rfl
  | cons c cs ih => rw [List.flatMap_cons, paired_ofChar_append, ih]

/-- The text of the units has these units if and only if no surrogate stands alone. -/
theorem units_text_eq_iff {us : List UInt16} : units (text us) = us ↔ paired us = true := by
  constructor
  · intro h
    rw [← h]
    exact paired_units _
  · intro h
    rw [units, text, String.toList_ofList, flatMap_decode h]

end Text

end Branch.Lib.Utf16
