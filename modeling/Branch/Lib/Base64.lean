import Branch.Lib.Utf8
import Mathlib.Data.List.Basic
import Mathlib.Tactic.SplitIfs

/-!
Base64 with the URL alphabet and without padding. The decoder skips line breaks and
does not look at the unused bits of the last character.
-/

namespace Branch.Lib.Base64

def alphabet (n : Nat) : Char :=
  if n < 26 then Char.ofNat (65 + n)
  else if n < 52 then Char.ofNat (71 + n)
  else if n < 62 then Char.ofNat (n - 4)
  else if n = 62 then '-'
  else '_'

def sextet (c : Char) : Option Nat :=
  if 'A' ≤ c ∧ c ≤ 'Z' then some (c.toNat - 65)
  else if 'a' ≤ c ∧ c ≤ 'z' then some (c.toNat - 71)
  else if '0' ≤ c ∧ c ≤ '9' then some (c.toNat + 4)
  else if c = '-' then some 62
  else if c = '_' then some 63
  else none

def encodeBytes : List UInt8 → List Char
  | [] => []
  | [x] =>
    let n := x.toNat * 16
    [alphabet (n / 64), alphabet (n % 64)]
  | [x, y] =>
    let n := (x.toNat * 256 + y.toNat) * 4
    [alphabet (n / 4096), alphabet (n / 64 % 64), alphabet (n % 64)]
  | x :: y :: z :: rest =>
    let n := (x.toNat * 256 + y.toNat) * 256 + z.toNat
    alphabet (n / 262144) :: alphabet (n / 4096 % 64) :: alphabet (n / 64 % 64) ::
      alphabet (n % 64) :: encodeBytes rest

def ofSextets : List Nat → Option (List UInt8)
  | [] => some []
  | [_] => none
  | [a, b] => some [UInt8.ofNat ((a * 64 + b) / 16)]
  | [a, b, c] =>
    let n := (a * 64 + b) * 64 + c
    some [UInt8.ofNat (n / 1024), UInt8.ofNat (n / 4)]
  | a :: b :: c :: d :: rest =>
    let n := ((a * 64 + b) * 64 + c) * 64 + d
    (ofSextets rest).map fun bytes =>
      UInt8.ofNat (n / 65536) :: UInt8.ofNat (n / 256) :: UInt8.ofNat n :: bytes

def decodeChars (cs : List Char) : Option (List UInt8) :=
  ((cs.filter fun c => c ≠ '\n' ∧ c ≠ '\r').mapM sextet).bind ofSextets

def decodeStrict (cs : List Char) : Option (List UInt8) := (cs.mapM sextet).bind ofSextets

/-- `RawURLEncoding.EncodeToString`. -/
def encode (bytes : List UInt8) : String := String.ofList (encodeBytes bytes)

/-- `RawURLEncoding.DecodeString`. -/
def decode (s : String) : Option (List UInt8) := decodeChars s.toList

example : encode [0xFB, 0xFF, 0x00, 0x61] = "-_8AYQ" := by decide +kernel

example : decode "-_8\nAYX" = some [0xFB, 0xFF, 0x00, 0x61] := by decide +kernel

section Alphabet

theorem sextet_alphabet : ∀ n < 64, sextet (alphabet n) = some n := by decide +kernel

theorem toNat_le_of_le {c d : Char} (h : c ≤ d) : c.toNat ≤ d.toNat := h

theorem alphabet_of_sextet {c : Char} {n : Nat} (h : sextet c = some n) :
    n < 64 ∧ alphabet n = c := by
  unfold sextet at h
  split_ifs at h with hupper hlower hdigit hdash hline
  · obtain rfl := Option.some.inj h
    have hleast : 65 ≤ c.toNat := toNat_le_of_le hupper.1
    have hmost : c.toNat ≤ 90 := toNat_le_of_le hupper.2
    refine ⟨by omega, ?_⟩
    rw [alphabet, if_pos (by omega), Nat.add_sub_cancel' hleast, Char.ofNat_toNat]
  · obtain rfl := Option.some.inj h
    have hleast : 97 ≤ c.toNat := toNat_le_of_le hlower.1
    have hmost : c.toNat ≤ 122 := toNat_le_of_le hlower.2
    refine ⟨by omega, ?_⟩
    rw [alphabet, if_neg (by omega), if_pos (by omega), Nat.add_sub_cancel' (by omega),
      Char.ofNat_toNat]
  · obtain rfl := Option.some.inj h
    have hleast : 48 ≤ c.toNat := toNat_le_of_le hdigit.1
    have hmost : c.toNat ≤ 57 := toNat_le_of_le hdigit.2
    refine ⟨by omega, ?_⟩
    rw [alphabet, if_neg (by omega), if_neg (by omega), if_pos (by omega),
      Nat.add_sub_cancel, Char.ofNat_toNat]
  · obtain rfl := Option.some.inj h
    exact ⟨by omega, hdash.symm⟩
  · obtain rfl := Option.some.inj h
    exact ⟨by omega, hline.symm⟩

theorem mapM_sextet_eq_some_iff {cs : List Char} {ns : List Nat} :
    cs.mapM sextet = some ns ↔ (∀ n ∈ ns, n < 64) ∧ cs = ns.map alphabet := by
  induction cs generalizing ns with
  | nil =>
    constructor
    · intro h
      obtain rfl : [] = ns := by simpa using h
      simp
    · rintro ⟨_, h⟩
      have : ns = [] := by simpa using h.symm
      simp [this]
  | cons c cs ih =>
    constructor
    · intro h
      simp only [List.mapM_cons, Option.pure_def, Option.bind_eq_bind,
        Option.bind_eq_some_iff, Option.some.injEq] at h
      obtain ⟨n, hn, ns', hns, rfl⟩ := h
      obtain ⟨hlt, hc⟩ := alphabet_of_sextet hn
      obtain ⟨hlts, rfl⟩ := ih.mp hns
      exact ⟨by simpa using ⟨hlt, hlts⟩, by rw [List.map_cons, hc]⟩
    · rintro ⟨hlt, h⟩
      cases ns with
      | nil => simp at h
      | cons n ns =>
        rw [List.map_cons, List.cons.injEq] at h
        rw [List.forall_mem_cons] at hlt
        have htail := ih.mpr ⟨hlt.2, h.2⟩
        simp [List.mapM_cons, htail, h.1, sextet_alphabet n hlt.1]

end Alphabet

section Sextets

/-- The sextets of an encoding, the unused bits of the last one zero. -/
def toSextets : List UInt8 → List Nat
  | [] => []
  | [x] =>
    let n := x.toNat * 16
    [n / 64, n % 64]
  | [x, y] =>
    let n := (x.toNat * 256 + y.toNat) * 4
    [n / 4096, n / 64 % 64, n % 64]
  | x :: y :: z :: rest =>
    let n := (x.toNat * 256 + y.toNat) * 256 + z.toNat
    n / 262144 :: n / 4096 % 64 :: n / 64 % 64 :: n % 64 :: toSextets rest

theorem encodeBytes_eq (bytes : List UInt8) :
    encodeBytes bytes = (toSextets bytes).map alphabet := by
  induction bytes using toSextets.induct with
  | case1 => rfl
  | case2 x => rfl
  | case3 x y => rfl
  | case4 x y z rest ih => rw [encodeBytes, toSextets, ih]; rfl

theorem toSextets_lt (bytes : List UInt8) : ∀ n ∈ toSextets bytes, n < 64 := by
  induction bytes using toSextets.induct with
  | case1 => simp [toSextets]
  | case2 x =>
    have := x.toNat_lt
    simp only [toSextets, List.forall_mem_cons]
    exact ⟨by omega, by omega, by simp⟩
  | case3 x y =>
    have := x.toNat_lt
    have := y.toNat_lt
    simp only [toSextets, List.forall_mem_cons]
    exact ⟨by omega, by omega, by omega, by simp⟩
  | case4 x y z rest ih =>
    have := x.toNat_lt
    have := y.toNat_lt
    have := z.toNat_lt
    simp only [toSextets, List.forall_mem_cons]
    exact ⟨by omega, by omega, by omega, by omega, ih⟩

theorem ofNat_eq_iff {n : Nat} {x : UInt8} : UInt8.ofNat n = x ↔ n % 256 = x.toNat := by
  rw [← UInt8.toNat_inj]
  simp

theorem ofSextets_toSextets (bytes : List UInt8) : ofSextets (toSextets bytes) = some bytes := by
  induction bytes using toSextets.induct with
  | case1 => rfl
  | case2 x =>
    have := x.toNat_lt
    simp only [toSextets, ofSextets, Option.some.injEq, List.cons.injEq, ofNat_eq_iff,
      and_true]
    omega
  | case3 x y =>
    have := x.toNat_lt
    have := y.toNat_lt
    simp only [toSextets, ofSextets, Option.some.injEq, List.cons.injEq, ofNat_eq_iff,
      and_true]
    omega
  | case4 x y z rest ih =>
    have := x.toNat_lt
    have := y.toNat_lt
    have := z.toNat_lt
    simp only [toSextets, ofSextets, ih, Option.map_some, Option.some.injEq,
      List.cons.injEq, ofNat_eq_iff, and_true]
    omega

theorem eq_toSextets {ns : List Nat} {bytes : List UInt8} (hlt : ∀ n ∈ ns, n < 64)
    (h : ofSextets ns = some bytes) (hlength : bytes.length % 3 = 0) :
    ns = toSextets bytes := by
  induction ns using ofSextets.induct generalizing bytes with
  | case1 =>
    obtain rfl := Option.some.inj h
    rfl
  | case2 n => cases h
  | case3 a b =>
    obtain rfl := Option.some.inj h
    simp at hlength
  | case4 a b c =>
    obtain rfl := Option.some.inj h
    simp at hlength
  | case5 a b c d rest ih =>
    obtain ⟨tail, htail, rfl⟩ := Option.map_eq_some_iff.mp h
    simp only [List.forall_mem_cons] at hlt
    obtain ⟨ha, hb, hc, hd, hrest⟩ := hlt
    simp only [List.length_cons] at hlength
    have hsame := ih hrest htail (by omega)
    obtain ⟨n, hn⟩ : ∃ n, ((a * 64 + b) * 64 + c) * 64 + d = n := ⟨_, rfl⟩
    have hx : (UInt8.ofNat (n / 65536)).toNat = n / 65536 % 256 := by simp
    have hy : (UInt8.ofNat (n / 256)).toNat = n / 256 % 256 := by simp
    have hz : (UInt8.ofNat n).toNat = n % 256 := by simp
    have hall : (n / 65536 % 256 * 256 + n / 256 % 256) * 256 + n % 256 = n := by omega
    simp only [hn, toSextets, hx, hy, hz, hall, ← hsame, List.cons.injEq, and_true]
    omega

theorem exists_other_spelling {ns : List Nat} {bytes : List UInt8} (hlt : ∀ n ∈ ns, n < 64)
    (h : ofSextets ns = some bytes) (hlength : bytes.length % 3 ≠ 0) :
    ∃ other, other ≠ ns ∧ (∀ n ∈ other, n < 64) ∧ other.length = ns.length ∧
      ofSextets other = some bytes := by
  induction ns using ofSextets.induct generalizing bytes with
  | case1 =>
    obtain rfl := Option.some.inj h
    simp at hlength
  | case2 n => cases h
  | case3 a b =>
    obtain rfl := Option.some.inj h
    simp only [List.forall_mem_cons] at hlt
    refine ⟨[a, if b % 16 = 0 then b + 1 else b - b % 16], ?_, ?_, rfl, ?_⟩
    · simp only [ne_eq, List.cons.injEq, and_true, true_and]
      split_ifs <;> omega
    · simp only [List.forall_mem_cons]
      exact ⟨hlt.1, by split_ifs <;> omega, by simp⟩
    · simp only [ofSextets, Option.some.injEq, List.cons.injEq, and_true]
      congr 1
      split_ifs <;> omega
  | case4 a b c =>
    obtain rfl := Option.some.inj h
    simp only [List.forall_mem_cons] at hlt
    refine ⟨[a, b, if c % 4 = 0 then c + 1 else c - c % 4], ?_, ?_, rfl, ?_⟩
    · simp only [ne_eq, List.cons.injEq, and_true, true_and]
      split_ifs <;> omega
    · simp only [List.forall_mem_cons]
      exact ⟨hlt.1, hlt.2.1, by split_ifs <;> omega, by simp⟩
    · simp only [ofSextets, Option.some.injEq, List.cons.injEq, and_true]
      constructor
      · congr 1
        split_ifs <;> omega
      · congr 1
        split_ifs <;> omega
  | case5 a b c d rest ih =>
    obtain ⟨tail, htail, rfl⟩ := Option.map_eq_some_iff.mp h
    simp only [List.forall_mem_cons] at hlt
    obtain ⟨ha, hb, hc, hd, hrest⟩ := hlt
    simp only [List.length_cons] at hlength
    obtain ⟨other, hne, hother, hsize, hof⟩ := ih hrest htail (by omega)
    refine ⟨a :: b :: c :: d :: other, by simpa using hne, ?_, by simp [hsize], ?_⟩
    · simp only [List.forall_mem_cons]
      exact ⟨ha, hb, hc, hd, hother⟩
    · simp only [ofSextets, hof, Option.map_some]

end Sextets

section Spelling

variable {bytes : List UInt8} {cs : List Char}

theorem decodeStrict_eq_some_iff :
    decodeStrict cs = some bytes ↔
      ∃ ns, (∀ n ∈ ns, n < 64) ∧ cs = ns.map alphabet ∧ ofSextets ns = some bytes := by
  rw [decodeStrict, Option.bind_eq_some_iff]
  simp only [mapM_sextet_eq_some_iff, and_assoc]

theorem alphabet_injOn {m n : Nat} (hm : m < 64) (hn : n < 64)
    (h : alphabet m = alphabet n) : m = n := by
  have hsextet := sextet_alphabet m hm
  rw [h, sextet_alphabet n hn] at hsextet
  exact (Option.some.inj hsextet).symm

theorem eq_encodeBytes (h : decodeStrict cs = some bytes) (hlength : bytes.length % 3 = 0) :
    cs = encodeBytes bytes := by
  obtain ⟨ns, hlt, rfl, hns⟩ := decodeStrict_eq_some_iff.mp h
  rw [encodeBytes_eq, eq_toSextets hlt hns hlength]

theorem exists_other_decodeStrict
    (h : decodeStrict cs = some bytes) (hlength : bytes.length % 3 ≠ 0) :
    ∃ other, other ≠ cs ∧ other.length = cs.length ∧ decodeStrict other = some bytes := by
  obtain ⟨ns, hlt, rfl, hns⟩ := decodeStrict_eq_some_iff.mp h
  obtain ⟨other, hne, hother, hsize, hof⟩ := exists_other_spelling hlt hns hlength
  refine ⟨other.map alphabet, ?_, by simp [hsize],
    decodeStrict_eq_some_iff.mpr ⟨other, hother, rfl, hof⟩⟩
  intro heq
  apply hne
  refine List.ext_getElem hsize ?_
  intro i hi hi'
  have hchar := congrArg (fun cs => cs[i]?) heq
  simp only [List.getElem?_map, List.getElem?_eq_getElem hi, List.getElem?_eq_getElem hi',
    Option.map_some, Option.some.injEq] at hchar
  exact alphabet_injOn (hother _ (List.getElem_mem hi)) (hlt _ (List.getElem_mem hi')) hchar

def LineBreak (c : Char) : Prop := c = '\n' ∨ c = '\r'

theorem not_lineBreak_alphabet : ∀ n < 64, alphabet n ≠ '\n' ∧ alphabet n ≠ '\r' := by
  decide +kernel

theorem not_lineBreak_of_decodeStrict
    (h : decodeStrict cs = some bytes) : ∀ c ∈ cs, ¬ LineBreak c := by
  obtain ⟨ns, hlt, rfl, _⟩ := decodeStrict_eq_some_iff.mp h
  intro c hc
  obtain ⟨n, hn, rfl⟩ := List.mem_map.mp hc
  exact not_or.mpr (not_lineBreak_alphabet n (hlt n hn))

theorem decodeChars_eq (h : ∀ c ∈ cs, ¬ LineBreak c) :
    decodeChars cs = decodeStrict cs := by
  have hfilter : (cs.filter fun c => c ≠ '\n' ∧ c ≠ '\r') = cs := by
    rw [List.filter_eq_self]
    intro c hc
    simpa [LineBreak] using h c hc
  rw [decodeChars, hfilter, decodeStrict]

theorem decodeStrict_eq_some_iff_decodeChars :
    decodeStrict cs = some bytes ↔ decodeChars cs = some bytes ∧ ∀ c ∈ cs, ¬ LineBreak c := by
  constructor
  · intro h
    have hbreaks := not_lineBreak_of_decodeStrict h
    exact ⟨(decodeChars_eq hbreaks).trans h, hbreaks⟩
  · rintro ⟨h, hbreaks⟩
    exact (decodeChars_eq hbreaks).symm.trans h

theorem decodeChars_append_lineBreak (cs : List Char) :
    decodeChars (cs ++ ['\n']) = decodeChars cs := by
  simp [decodeChars]

theorem length_of_ofSextets {ns : List Nat}
    (h : ofSextets ns = some bytes) : ns.length % 4 ≠ 1 := by
  induction ns using ofSextets.induct generalizing bytes with
  | case1 => simp
  | case2 n => cases h
  | case3 a b => simp
  | case4 a b c => simp
  | case5 a b c d rest ih =>
    obtain ⟨tail, htail, _⟩ := Option.map_eq_some_iff.mp h
    have := ih htail
    simp only [List.length_cons]
    omega

theorem length_of_decodeStrict (h : decodeStrict cs = some bytes) : cs.length % 4 ≠ 1 := by
  obtain ⟨ns, _, rfl, hns⟩ := decodeStrict_eq_some_iff.mp h
  rw [List.length_map]
  exact length_of_ofSextets hns

theorem length_bytes_of_ofSextets {ns : List Nat}
    (h : ofSextets ns = some bytes) : bytes.length = ns.length * 3 / 4 := by
  induction ns using ofSextets.induct generalizing bytes with
  | case1 =>
    cases h
    rfl
  | case2 n => cases h
  | case3 a b =>
    cases h
    simp
  | case4 a b c =>
    cases h
    simp
  | case5 a b c d rest ih =>
    obtain ⟨tail, htail, rfl⟩ := Option.map_eq_some_iff.mp h
    have := ih htail
    simp only [List.length_cons]
    omega

theorem length_bytes_of_decodeStrict
    (h : decodeStrict cs = some bytes) : bytes.length = cs.length * 3 / 4 := by
  obtain ⟨ns, _, rfl, hns⟩ := decodeStrict_eq_some_iff.mp h
  rw [List.length_map]
  exact length_bytes_of_ofSextets hns

def InAlphabet (c : Char) : Prop :=
  ('A' ≤ c ∧ c ≤ 'Z') ∨ ('a' ≤ c ∧ c ≤ 'z') ∨ ('0' ≤ c ∧ c ≤ '9') ∨ c = '-' ∨ c = '_'

theorem inAlphabet_iff {c : Char} : InAlphabet c ↔ ∃ n, sextet c = some n := by
  unfold InAlphabet sextet
  split_ifs <;> simp_all

theorem inAlphabet_of_decodeStrict
    (h : decodeStrict cs = some bytes) : ∀ c ∈ cs, InAlphabet c := by
  obtain ⟨ns, hlt, rfl, _⟩ := decodeStrict_eq_some_iff.mp h
  intro c hc
  obtain ⟨n, hn, rfl⟩ := List.mem_map.mp hc
  exact inAlphabet_iff.mpr ⟨n, sextet_alphabet n (hlt n hn)⟩

theorem not_lineBreak_of_inAlphabet {c : Char} (h : InAlphabet c) : ¬ LineBreak c := by
  obtain ⟨n, hn⟩ := inAlphabet_iff.mp h
  obtain ⟨hlt, rfl⟩ := alphabet_of_sextet hn
  exact not_or.mpr (not_lineBreak_alphabet n hlt)

theorem inAlphabet_or_lineBreak
    (h : decodeChars cs = some bytes) : ∀ c ∈ cs, InAlphabet c ∨ LineBreak c := by
  intro c hc
  by_cases hbreak : LineBreak c
  · exact .inr hbreak
  · have hfilter : c ∈ cs.filter fun c => c ≠ '\n' ∧ c ≠ '\r' := by
      simpa [hc, LineBreak] using hbreak
    exact .inl (inAlphabet_of_decodeStrict h c hfilter)

theorem decodeStrict_encodeBytes (bytes : List UInt8) :
    decodeStrict (encodeBytes bytes) = some bytes :=
  decodeStrict_eq_some_iff.mpr
    ⟨toSextets bytes, toSextets_lt bytes, encodeBytes_eq bytes, ofSextets_toSextets bytes⟩

theorem encodeBytes_ne_nil (h : bytes ≠ []) : encodeBytes bytes ≠ [] := by
  intro hnil
  have hdecode := decodeStrict_encodeBytes bytes
  rw [hnil] at hdecode
  exact h (Option.some.inj hdecode).symm

theorem utf8Size_of_inAlphabet {c : Char} (h : InAlphabet c) :
    (String.utf8EncodeChar c).length = 1 := by
  have hle : c.toNat ≤ 127 := by
    rcases h with ⟨_, hhigh⟩ | ⟨_, hhigh⟩ | ⟨_, hhigh⟩ | rfl | rfl
    · exact Nat.le_trans (toNat_le_of_le hhigh) (by decide)
    · exact Nat.le_trans (toNat_le_of_le hhigh) (by decide)
    · exact Nat.le_trans (toNat_le_of_le hhigh) (by decide)
    · decide
    · decide
  rw [String.length_utf8EncodeChar]
  exact Char.utf8Size_eq_one_iff.mpr hle

theorem length_encode_of_decodeStrict
    (h : decodeStrict cs = some bytes) : (Utf8.encode cs).length = cs.length := by
  have hall := inAlphabet_of_decodeStrict h
  clear h
  induction cs with
  | nil => rfl
  | cons c cs ih =>
    rw [List.forall_mem_cons] at hall
    have hrest := ih hall.2
    rw [Utf8.encode, List.flatMap_cons, List.length_append, utf8Size_of_inAlphabet hall.1,
      ← Utf8.encode, hrest, List.length_cons, Nat.add_comm]

/-- Whatever is decoded has another spelling, without line breaks and not longer, if there are
unused bits. -/
theorem exists_other_decodeChars
    (h : decodeChars cs = some bytes) (hlength : bytes.length % 3 ≠ 0) :
    ∃ other, other ≠ cs ∧ other.length ≤ cs.length ∧ decodeStrict other = some bytes := by
  by_cases hbreaks : (cs.filter fun c => c ≠ '\n' ∧ c ≠ '\r') = cs
  · have hstrict : decodeStrict cs = some bytes := by
      rwa [decodeChars, hbreaks] at h
    obtain ⟨other, hne, hsize, hother⟩ := exists_other_decodeStrict hstrict hlength
    exact ⟨other, hne, Nat.le_of_eq hsize, hother⟩
  · exact ⟨_, hbreaks, List.length_filter_le _ _, h⟩

end Spelling

end Branch.Lib.Base64
