import Mathlib.Data.List.Chain
import Mathlib.Data.List.Lex
import Mathlib.Data.UInt
import Branch.Lib.Except
import Branch.Lib.Utf16
import Branch.Lib.Utf8

/-!
Lists that increase strictly under a key, and keys that order texts alike.
-/

namespace Branch.Lib

section Loop

variable {α κ ε : Type} [LT κ] [LE κ]

/-- Every element is valid, and its key lies behind that of the element in front of it. -/
def checkIncreasing [DecidableLE κ] (valid : α → Bool) (key : α → κ) (err : ε) :
    Option α → List α → Except ε Unit
  | _, [] => .ok ()
  | previous, a :: rest => do
    throwIf (¬ valid a ∨ ∃ b ∈ previous, key a ≤ key b) err
    checkIncreasing valid key err (some a) rest

variable [DecidableLE κ] [Std.IsLinearOrder κ] [Std.LawfulOrderLT κ] {valid : α → Bool}
  {key : α → κ} {err : ε}

theorem checkIncreasing_eq_ok_iff_chain {previous : Option α} {l : List α} :
    checkIncreasing valid key err previous l = .ok () ↔
      (∀ a ∈ l, valid a = true) ∧ (previous.toList ++ l).IsChain fun a b => key a < key b := by
  induction l generalizing previous with
  | nil => cases previous <;> simp [checkIncreasing]
  | cons a rest ih =>
    rw [checkIncreasing, throwIf_bind_eq_ok, ih]
    cases previous with
    | none => simp [and_assoc]
    | some b =>
      simp only [Option.mem_def, Option.some.injEq, exists_eq_left', not_or, not_not,
        Std.not_le, Option.toList_some, List.singleton_append, List.isChain_cons_cons,
        List.forall_mem_cons]
      tauto

theorem checkIncreasing_eq_ok_iff {l : List α} :
    checkIncreasing valid key err none l = .ok () ↔
      (∀ a ∈ l, valid a = true) ∧ l.Pairwise fun a b => key a < key b := by
  have htrans : IsTrans α fun a b => key a < key b := ⟨fun _ _ _ => Std.lt_trans⟩
  rw [checkIncreasing_eq_ok_iff_chain, List.isChain_iff_pairwise]
  rfl

end Loop

section Keys

variable {α β : Type} [LT α] [LT β]

theorem map_lt_map_iff {f : α → β} (hinj : Function.Injective f)
    (hlt : ∀ a b, f a < f b ↔ a < b) {l l' : List α} : l.map f < l'.map f ↔ l < l' := by
  induction l generalizing l' with
  | nil => cases l' <;> simp
  | cons a l ih =>
    cases l' with
    | nil => simp
    | cons a' l' =>
      simp only [List.map_cons, List.cons_lt_cons_iff, ih, hlt, hinj.eq_iff]

end Keys

section Ascii

def IsAscii (s : String) : Prop := ∀ b ∈ Utf8.bytes s, b.toNat < 0x80

theorem lt_of_ascii {c : Char} (h : ∀ b ∈ String.utf8EncodeChar c, b.toNat < 0x80) :
    c.toNat < 0x80 := by
  by_contra hc
  have hc : ¬ c.val.toNat ≤ 0x7f := fun hle => hc (Nat.lt_of_le_of_lt hle (by decide))
  obtain ⟨b, hb, hlarge⟩ : ∃ b ∈ String.utf8EncodeChar c, 0x80 ≤ b.toNat := by
    simp only [String.utf8EncodeChar, if_neg hc]
    split
    · refine ⟨_, List.mem_cons_self, ?_⟩
      rw [UInt8.toNat_ofNat']
      omega
    · split
      · refine ⟨_, List.mem_cons_self, ?_⟩
        rw [UInt8.toNat_ofNat']
        omega
      · refine ⟨_, List.mem_cons_self, ?_⟩
        rw [UInt8.toNat_ofNat']
        omega
  exact Nat.not_lt.mpr hlarge (h b hb)

theorem not_marked_of_ascii {s : String} (h : IsAscii s) : ¬ Utf8.Marked s := by
  intro hmarked
  obtain ⟨cs, hcs⟩ := List.head?_eq_some_iff.mp hmarked
  have hlt : Utf8.byteOrderMark.toNat < 0x80 := by
    refine lt_of_ascii fun b hb => h b ?_
    rw [Utf8.bytes, hcs, Utf8.encode, List.flatMap_cons]
    exact List.mem_append_left _ hb
  revert hlt
  decide

theorem ofChar_of_ascii {c : Char} (h : ∀ b ∈ String.utf8EncodeChar c, b.toNat < 0x80) :
    (Utf16.ofChar c).map UInt16.toNat = (String.utf8EncodeChar c).map UInt8.toNat := by
  have hc := lt_of_ascii h
  have hbytes : String.utf8EncodeChar c = [UInt8.ofNat c.toNat] :=
    if_pos (Nat.le_of_lt_succ hc)
  have hunits : Utf16.ofChar c = [UInt16.ofNat c.toNat] := if_pos (hc.trans (by decide))
  rw [hbytes, hunits, List.map_singleton, List.map_singleton, UInt8.toNat_ofNat',
    UInt16.toNat_ofNat', Nat.mod_eq_of_lt (hc.trans (by decide)),
    Nat.mod_eq_of_lt (hc.trans (by decide))]

theorem units_of_ascii {s : String} (h : IsAscii s) :
    (Utf16.units s).map UInt16.toNat = (Utf8.bytes s).map UInt8.toNat := by
  rw [IsAscii, Utf8.bytes, Utf8.encode] at h
  rw [Utf16.units, Utf8.bytes, Utf8.encode, List.map_flatMap, List.map_flatMap]
  exact List.flatMap_congr fun c hc =>
    ofChar_of_ascii fun b hb => h b (List.mem_flatMap.mpr ⟨c, hc, hb⟩)

theorem units_lt_iff {s t : String} (hs : IsAscii s) (ht : IsAscii t) :
    Utf16.units s < Utf16.units t ↔ Utf8.bytes s < Utf8.bytes t := by
  have hunits : ∀ a b : UInt16, a.toNat < b.toNat ↔ a < b := fun _ _ => UInt16.lt_iff_toNat_lt.symm
  have hbytes : ∀ a b : UInt8, a.toNat < b.toNat ↔ a < b := fun _ _ => UInt8.lt_iff_toNat_lt.symm
  rw [← map_lt_map_iff (fun _ _ => UInt16.toNat_inj.mp) hunits,
    ← map_lt_map_iff (fun _ _ => UInt8.toNat_inj.mp) hbytes, units_of_ascii hs,
    units_of_ascii ht]

end Ascii

end Branch.Lib
