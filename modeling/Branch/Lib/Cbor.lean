import Branch.Lib.Except
import Branch.Lib.Utf8
import Mathlib.Data.List.Induction
import Mathlib.Data.List.Sort
import Mathlib.Tactic.NormNum

/-!
Deterministic CBOR without negative integers, tags, floating-point numbers and items of
indefinite length. Every value has one encoding, and the reader accepts nothing else.
-/

namespace Branch.Lib

theorem forall_mem_nil {α : Type*} {p : α → Prop} : (∀ a ∈ ([] : List α), p a) ↔ True :=
  iff_true_intro (List.forall_mem_nil p)

/-- The entries of a map stand in the order of the encoding. -/
inductive Cbor
  | bool (b : Bool)
  | uint (n : Nat)
  | text (s : String)
  | bytes (data : List UInt8)
  | array (values : List Cbor)
  | map (entries : List (String × Cbor))

namespace Cbor

/-- Induction over the values inside of arrays and maps. -/
@[elab_as_elim, induction_eliminator]
theorem induct {motive : Cbor → Prop} (bool : ∀ b, motive (.bool b))
    (uint : ∀ n, motive (.uint n)) (text : ∀ s, motive (.text s))
    (bytes : ∀ data, motive (.bytes data))
    (array : ∀ values, (∀ v ∈ values, motive v) → motive (.array values))
    (map : ∀ entries : List (String × Cbor), (∀ entry ∈ entries, motive entry.2) →
      motive (.map entries)) : ∀ v, motive v
  | .bool b => bool b
  | .uint n => uint n
  | .text s => text s
  | .bytes data => bytes data
  | .array values =>
    array values fun v _ => induct bool uint text bytes array map v
  | .map entries =>
    map entries fun entry _ => induct bool uint text bytes array map entry.2
termination_by v => sizeOf v
decreasing_by
  · have := List.sizeOf_lt_of_mem ‹v ∈ values›
    simp only [Cbor.array.sizeOf_spec]
    omega
  · have := List.sizeOf_lt_of_mem ‹entry ∈ entries›
    obtain ⟨key, v⟩ := entry
    simp only [Cbor.map.sizeOf_spec, Prod.mk.sizeOf_spec] at this ⊢
    omega

section BigEndian

def ofBytes (input : List UInt8) : Nat := input.foldl (fun n b => n * 256 + b.toNat) 0

/-- The lowest `width` bytes of a number, the highest one first. -/
def toBytes : Nat → Nat → List UInt8
  | 0, _ => []
  | width + 1, n => toBytes width (n / 256) ++ [UInt8.ofNat n]

@[simp] theorem length_toBytes (width n : Nat) : (toBytes width n).length = width := by
  induction width generalizing n with
  | zero => rfl
  | succ width ih => simp [toBytes, ih]

theorem ofBytes_snoc (input : List UInt8) (b : UInt8) :
    ofBytes (input ++ [b]) = ofBytes input * 256 + b.toNat := by
  simp [ofBytes]

theorem ofBytes_lt (input : List UInt8) : ofBytes input < 256 ^ input.length := by
  induction input using List.reverseRecOn with
  | nil => simp [ofBytes]
  | append_singleton input b ih =>
    have hb : b.toNat < 256 := b.toNat_lt
    rw [ofBytes_snoc, List.length_append, List.length_singleton, pow_succ]
    omega

theorem ofBytes_toBytes {width n : Nat} (h : n < 256 ^ width) :
    ofBytes (toBytes width n) = n := by
  induction width generalizing n with
  | zero =>
    have : n = 0 := by simpa using h
    subst this
    rfl
  | succ width ih =>
    rw [pow_succ] at h
    have hhigh : n / 256 < 256 ^ width := by omega
    have hlow : (UInt8.ofNat n).toNat = n % 256 := by simp
    rw [toBytes, ofBytes_snoc, ih hhigh, hlow]
    omega

theorem toBytes_ofBytes (input : List UInt8) :
    toBytes input.length (ofBytes input) = input := by
  induction input using List.reverseRecOn with
  | nil => rfl
  | append_singleton input b ih =>
    have hb : b.toNat < 256 := b.toNat_lt
    have hhigh : (ofBytes input * 256 + b.toNat) / 256 = ofBytes input := by omega
    have hlow : UInt8.ofNat (ofBytes input * 256 + b.toNat) = b := by
      apply UInt8.toNat_inj.mp
      simp
    rw [ofBytes_snoc, List.length_append, List.length_singleton, toBytes, hhigh, hlow, ih]

end BigEndian

section Head

def initial (major additional : Nat) : UInt8 := UInt8.ofNat (major * 32 + additional)

/-- The shortest head with the argument `n`. -/
def head (major n : Nat) : List UInt8 :=
  if n < 24 then [initial major n]
  else if n ≤ 0xff then initial major 24 :: toBytes 1 n
  else if n ≤ 0xffff then initial major 25 :: toBytes 2 n
  else if n ≤ 0xffffffff then initial major 26 :: toBytes 4 n
  else initial major 27 :: toBytes 8 n

/-- The first number that is written with the additional information 24 to 27. -/
def least (additional : Nat) : Nat :=
  if additional = 24 then 24 else 256 ^ 2 ^ (additional - 25)

/-- The argument behind an initial byte. A longer form than needed is refused. -/
def readArgument (additional : Nat) (input : List UInt8) : Option (Nat × List UInt8) :=
  if additional < 24 then some (additional, input)
  else if 27 < additional then none
  else
    let width := 2 ^ (additional - 24)
    if input.length < width then none
    else
      let n := ofBytes (input.take width)
      if n < least additional then none else some (n, input.drop width)

theorem major_initial {major additional : Nat} (hmajor : major < 8)
    (hadditional : additional < 32) :
    (initial major additional).toNat / 32 = major ∧
      (initial major additional).toNat % 32 = additional := by
  have hbyte : (initial major additional).toNat = major * 32 + additional := by
    simp [initial]
    omega
  omega

theorem initial_of_toNat (b : UInt8) : initial (b.toNat / 32) (b.toNat % 32) = b := by
  apply UInt8.toNat_inj.mp
  have := b.toNat_lt
  simp [initial]
  omega

theorem head_of_least {k n : Nat} (hk : k ≤ 3) (hleast : least (24 + k) ≤ n)
    (hlt : n < 256 ^ 2 ^ k) (major : Nat) :
    head major n = initial major (24 + k) :: toBytes (2 ^ k) n := by
  have hcases : k = 0 ∨ k = 1 ∨ k = 2 ∨ k = 3 := by omega
  rcases hcases with rfl | rfl | rfl | rfl
  · norm_num [least] at hleast hlt
    rw [head, if_neg (by omega), if_pos (by omega)]
    rfl
  · norm_num [least] at hleast hlt
    rw [head, if_neg (by omega), if_neg (by omega), if_pos (by omega)]
    rfl
  · norm_num [least] at hleast hlt
    rw [head, if_neg (by omega), if_neg (by omega), if_neg (by omega), if_pos (by omega)]
    rfl
  · norm_num [least] at hleast hlt
    rw [head, if_neg (by omega), if_neg (by omega), if_neg (by omega), if_neg (by omega)]
    rfl

theorem exists_least {n : Nat} (hsmall : 24 ≤ n) (hn : n < 2 ^ 64) :
    ∃ k ≤ 3, least (24 + k) ≤ n ∧ n < 256 ^ 2 ^ k := by
  by_cases h0 : n < 256
  · exact ⟨0, by omega, by norm_num [least]; omega, by norm_num; omega⟩
  by_cases h1 : n < 65536
  · exact ⟨1, by omega, by norm_num [least]; omega, by norm_num; omega⟩
  by_cases h2 : n < 4294967296
  · exact ⟨2, by omega, by norm_num [least]; omega, by norm_num; omega⟩
  · exact ⟨3, by omega, by norm_num [least]; omega, by norm_num; omega⟩

/-- A head is an initial byte and what `readArgument` reads back. -/
theorem readArgument_head {n : Nat} (hn : n < 2 ^ 64) :
    ∃ additional < 32, ∃ tail, (∀ major, head major n = initial major additional :: tail) ∧
      ∀ rest, readArgument additional (tail ++ rest) = some (n, rest) := by
  by_cases hsmall : n < 24
  · exact ⟨n, by omega, [], fun major => if_pos hsmall, fun rest => if_pos hsmall⟩
  · obtain ⟨k, hk, hleast, hlt⟩ := exists_least (by omega) hn
    refine ⟨24 + k, by omega, toBytes (2 ^ k) n, head_of_least hk hleast hlt, ?_⟩
    intro rest
    have htake : (toBytes (2 ^ k) n ++ rest).take (2 ^ k) = toBytes (2 ^ k) n := by
      rw [List.take_append_of_le_length (by simp), List.take_of_length_le (by simp)]
    have hdrop : (toBytes (2 ^ k) n ++ rest).drop (2 ^ k) = rest := by
      rw [List.drop_append_of_le_length (by simp), List.drop_of_length_le (by simp)]
      rfl
    have hlength : ¬ (toBytes (2 ^ k) n ++ rest).length < 2 ^ k := by simp
    simp only [readArgument, show ¬ 24 + k < 24 by omega, show ¬ 27 < 24 + k by omega,
      Nat.add_sub_cancel_left, if_false, hlength, htake, hdrop, ofBytes_toBytes hlt,
      show ¬ n < least (24 + k) by omega]

/-- What `readArgument` accepts is the rest of the shortest head. -/
theorem head_of_readArgument {additional n : Nat} {input rest : List UInt8}
    (h : readArgument additional input = some (n, rest)) :
    n < 2 ^ 64 ∧ ∀ major, initial major additional :: input = head major n ++ rest := by
  unfold readArgument at h
  split at h
  · rename_i hsmall
    obtain ⟨rfl, rfl⟩ := Prod.mk.inj (Option.some.inj h)
    exact ⟨by omega, fun major => by simp [head, hsmall]⟩
  · rename_i hlarge
    simp only [Option.ite_none_left_eq_some, Option.some.injEq, Prod.mk.injEq] at h
    obtain ⟨hbound, hlength, hleast, rfl, rfl⟩ := h
    obtain ⟨k, rfl⟩ : ∃ k, additional = 24 + k := ⟨additional - 24, by omega⟩
    simp only [Nat.add_sub_cancel_left] at *
    have htake : (input.take (2 ^ k)).length = 2 ^ k := by
      rw [List.length_take]
      omega
    have hlt := ofBytes_lt (input.take (2 ^ k))
    have hbytes := toBytes_ofBytes (input.take (2 ^ k))
    rw [htake] at hlt hbytes
    constructor
    · have hpow : 256 ^ 2 ^ k ≤ 256 ^ 2 ^ 3 :=
        Nat.pow_le_pow_right (by omega) (Nat.pow_le_pow_right (by omega) (by omega))
      omega
    · intro major
      rw [head_of_least (by omega) (by omega) hlt, hbytes, List.cons_append,
        List.take_append_drop]

end Head

section Encoding

def encodeText (s : String) : List UInt8 := head 3 s.utf8ByteSize ++ Utf8.bytes s

mutual

def encode : Cbor → List UInt8
  | .bool false => [initial 7 20]
  | .bool true => [initial 7 21]
  | .uint n => head 0 n
  | .text s => encodeText s
  | .bytes data => head 2 data.length ++ data
  | .array values => head 4 values.length ++ encodeItems values
  | .map entries => head 5 entries.length ++ encodeEntries entries

def encodeItems : List Cbor → List UInt8
  | [] => []
  | v :: values => encode v ++ encodeItems values

def encodeEntries : List (String × Cbor) → List UInt8
  | [] => []
  | (key, v) :: entries => encodeText key ++ encode v ++ encodeEntries entries

end

mutual

/-- How many arrays and maps are open at the innermost place. -/
def depth : Cbor → Nat
  | .array values => depthItems values + 1
  | .map entries => depthEntries entries + 1
  | _ => 0

def depthItems : List Cbor → Nat
  | [] => 0
  | v :: values => max (depth v) (depthItems values)

def depthEntries : List (String × Cbor) → Nat
  | [] => 0
  | (_, v) :: entries => max (depth v) (depthEntries entries)

end

mutual

def texts : Cbor → List String
  | .text s => [s]
  | .array values => textsItems values
  | .map entries => textsEntries entries
  | _ => []

def textsItems : List Cbor → List String
  | [] => []
  | v :: values => texts v ++ textsItems values

def textsEntries : List (String × Cbor) → List String
  | [] => []
  | (key, v) :: entries => key :: (texts v ++ textsEntries entries)

end

mutual

def uints : Cbor → List Nat
  | .uint n => [n]
  | .array values => uintsItems values
  | .map entries => uintsEntries entries
  | _ => []

def uintsItems : List Cbor → List Nat
  | [] => []
  | v :: values => uints v ++ uintsItems values

def uintsEntries : List (String × Cbor) → List Nat
  | [] => []
  | (_, v) :: entries => uints v ++ uintsEntries entries

end

mutual

def hasBool : Cbor → Bool
  | .bool _ => true
  | .array values => hasBoolItems values
  | .map entries => hasBoolEntries entries
  | _ => false

def hasBoolItems : List Cbor → Bool
  | [] => false
  | v :: values => hasBool v || hasBoolItems values

def hasBoolEntries : List (String × Cbor) → Bool
  | [] => false
  | (_, v) :: entries => hasBool v || hasBoolEntries entries

end

mutual

def mapText (f : String → String) : Cbor → Cbor
  | .text s => .text (f s)
  | .array values => .array (mapTextItems f values)
  | .map entries => .map (mapTextEntries f entries)
  | v => v

def mapTextItems (f : String → String) : List Cbor → List Cbor
  | [] => []
  | v :: values => mapText f v :: mapTextItems f values

def mapTextEntries (f : String → String) : List (String × Cbor) → List (String × Cbor)
  | [] => []
  | (key, v) :: entries => (f key, mapText f v) :: mapTextEntries f entries

end

theorem depthItems_le_iff {values : List Cbor} {n : Nat} :
    depthItems values ≤ n ↔ ∀ v ∈ values, depth v ≤ n := by
  induction values with
  | nil => simp [depthItems]
  | cons v values ih => simp [depthItems, ih]

variable {entries : List (String × Cbor)}

theorem depthEntries_le_iff {n : Nat} :
    depthEntries entries ≤ n ↔ ∀ entry ∈ entries, depth entry.2 ≤ n := by
  induction entries with
  | nil => simp [depthEntries]
  | cons entry entries ih => simp [depthEntries, ih]

theorem mem_textsItems {values : List Cbor} {s : String} :
    s ∈ textsItems values ↔ ∃ v ∈ values, s ∈ texts v := by
  induction values with
  | nil => simp [textsItems]
  | cons v values ih => simp [textsItems, ih]

theorem mem_textsEntries {s : String} :
    s ∈ textsEntries entries ↔ ∃ entry ∈ entries, s = entry.1 ∨ s ∈ texts entry.2 := by
  induction entries with
  | nil => simp [textsEntries]
  | cons entry entries ih =>
    obtain ⟨key, v⟩ := entry
    simp [textsEntries, ih, or_assoc]

theorem mem_uintsItems {values : List Cbor} {n : Nat} :
    n ∈ uintsItems values ↔ ∃ v ∈ values, n ∈ uints v := by
  induction values with
  | nil => simp [uintsItems]
  | cons v values ih => simp [uintsItems, ih]

theorem mem_uintsEntries {n : Nat} :
    n ∈ uintsEntries entries ↔ ∃ entry ∈ entries, n ∈ uints entry.2 := by
  induction entries with
  | nil => simp [uintsEntries]
  | cons entry entries ih => simp [uintsEntries, ih]

theorem hasBoolItems_eq_false_iff {values : List Cbor} :
    hasBoolItems values = false ↔ ∀ v ∈ values, hasBool v = false := by
  induction values with
  | nil => simp [hasBoolItems]
  | cons v values ih => simp [hasBoolItems, ih]

theorem hasBoolEntries_eq_false_iff :
    hasBoolEntries entries = false ↔ ∀ entry ∈ entries, hasBool entry.2 = false := by
  induction entries with
  | nil => simp [hasBoolEntries]
  | cons entry entries ih => simp [hasBoolEntries, ih]

theorem mapTextItems_eq (f : String → String) (values : List Cbor) :
    mapTextItems f values = values.map (mapText f) := by
  induction values with
  | nil => rfl
  | cons v values ih => simp [mapTextItems, ih]

theorem mapTextEntries_eq (f : String → String) (entries : List (String × Cbor)) :
    mapTextEntries f entries = entries.map fun entry => (f entry.1, mapText f entry.2) := by
  induction entries with
  | nil => rfl
  | cons entry entries ih => simp [mapTextEntries, ih]

theorem encodeEntries_eq_flatMap (entries : List (String × Cbor)) :
    encodeEntries entries =
      entries.flatMap fun entry => encodeText entry.1 ++ encode entry.2 := by
  induction entries with
  | nil => rfl
  | cons entry entries ih => simp [encodeEntries, ih]

theorem one_le_length_head (major n : Nat) : 1 ≤ (head major n).length := by
  unfold head
  split_ifs <;> simp

theorem length_head_mono (major : Nat) {m n : Nat} (h : m ≤ n) :
    (head major m).length ≤ (head major n).length := by
  unfold head
  split_ifs <;> simp <;> omega

theorem one_le_length_encode (v : Cbor) : 1 ≤ (encode v).length := by
  cases v with
  | bool b => cases b <;> exact Nat.le_refl 1
  | uint n => exact one_le_length_head 0 n
  | text s =>
    have := one_le_length_head 3 s.utf8ByteSize
    simp only [encode, encodeText, List.length_append]
    omega
  | bytes data =>
    have := one_le_length_head 2 data.length
    simp only [encode, List.length_append]
    omega
  | array values =>
    have := one_le_length_head 4 values.length
    simp only [encode, List.length_append]
    omega
  | map entries =>
    have := one_le_length_head 5 entries.length
    simp only [encode, List.length_append]
    omega

theorem depth_le_length_encode (v : Cbor) : depth v ≤ (encode v).length := by
  induction v with
  | array values ih =>
    have hhead := one_le_length_head 4 values.length
    have hitems : depthItems values ≤ (encodeItems values).length := by
      induction values with
      | nil => exact Nat.le_refl 0
      | cons v values ihs =>
        have hv := ih v List.mem_cons_self
        have hvalues := ihs (fun w hw => ih w (List.mem_cons_of_mem v hw))
          (one_le_length_head 4 values.length)
        simp only [depthItems, encodeItems, List.length_append]
        omega
    simp only [depth, encode, List.length_append]
    omega
  | map entries ih =>
    have hhead := one_le_length_head 5 entries.length
    have hentries : depthEntries entries ≤ (encodeEntries entries).length := by
      induction entries with
      | nil => exact Nat.le_refl 0
      | cons entry entries ihs =>
        obtain ⟨key, v⟩ := entry
        have hv := ih (key, v) List.mem_cons_self
        have hentries := ihs (fun entry hentry => ih entry (List.mem_cons_of_mem _ hentry))
          (one_le_length_head 5 entries.length)
        simp only [depthEntries, encodeEntries, List.length_append]
        dsimp only at hv
        omega
    simp only [depth, encode, List.length_append]
    omega
  | _ => exact Nat.zero_le _

/-- A replacement that makes each text shorter that it does not leave as it is. -/
def Shortens (f : String → String) : Prop :=
  ∀ s, f s ≠ s → (f s).utf8ByteSize < s.utf8ByteSize

theorem Shortens.encodeText {f : String → String} (h : Shortens f) (s : String) :
    (encodeText (f s)).length ≤ (encodeText s).length ∧
      ((encodeText (f s)).length = (encodeText s).length → f s = s) := by
  by_cases heq : f s = s
  · simp [heq]
  · have hlt := h s heq
    have hhead := length_head_mono 3 (Nat.le_of_lt hlt)
    simp only [Cbor.encodeText, List.length_append, Utf8.length_bytes]
    omega

theorem Shortens.encode {f : String → String} (h : Shortens f) (v : Cbor) :
    (encode (mapText f v)).length ≤ (encode v).length ∧
      ((encode (mapText f v)).length = (encode v).length → mapText f v = v) := by
  induction v with
  | text s =>
    obtain ⟨hle, heq⟩ := h.encodeText s
    exact ⟨hle, fun hlength => congrArg Cbor.text (heq hlength)⟩
  | array values ih =>
    have hitems : (encodeItems (mapTextItems f values)).length ≤
        (encodeItems values).length ∧
        ((encodeItems (mapTextItems f values)).length = (encodeItems values).length →
          mapTextItems f values = values) := by
      induction values with
      | nil => exact ⟨Nat.le_refl 0, fun _ => rfl⟩
      | cons v values ihs =>
        obtain ⟨hle, heq⟩ := ih v List.mem_cons_self
        obtain ⟨hles, heqs⟩ := ihs fun w hw => ih w (List.mem_cons_of_mem v hw)
        simp only [mapTextItems, encodeItems, List.length_append]
        refine ⟨by omega, fun hlength => ?_⟩
        rw [heq (by omega), heqs (by omega)]
    have hlength : (mapTextItems f values).length = values.length := by
      rw [mapTextItems_eq, List.length_map]
    simp only [mapText, Cbor.encode, List.length_append, hlength]
    refine ⟨by omega, fun hsame => ?_⟩
    rw [hitems.2 (by omega)]
  | map entries ih =>
    have hentries : (encodeEntries (mapTextEntries f entries)).length ≤
        (encodeEntries entries).length ∧
        ((encodeEntries (mapTextEntries f entries)).length =
          (encodeEntries entries).length → mapTextEntries f entries = entries) := by
      induction entries with
      | nil => exact ⟨Nat.le_refl 0, fun _ => rfl⟩
      | cons entry entries ihs =>
        obtain ⟨key, v⟩ := entry
        obtain ⟨hkey, hkeyeq⟩ := h.encodeText key
        obtain ⟨hle, heq⟩ := ih (key, v) List.mem_cons_self
        obtain ⟨hles, heqs⟩ := ihs fun entry hentry => ih entry (List.mem_cons_of_mem _ hentry)
        dsimp only at hle heq
        simp only [mapTextEntries, encodeEntries, List.length_append]
        refine ⟨by omega, fun hlength => ?_⟩
        rw [hkeyeq (by omega), heq (by omega), heqs (by omega)]
    have hlength : (mapTextEntries f entries).length = entries.length := by
      rw [mapTextEntries_eq, List.length_map]
    simp only [mapText, Cbor.encode, List.length_append, hlength]
    refine ⟨by omega, fun hsame => ?_⟩
    rw [hentries.2 (by omega)]
  | _ => exact ⟨Nat.le_refl _, fun _ => rfl⟩

theorem nodup_of_sorted (h : (entries.map fun entry => encodeText entry.1).Pairwise (· < ·)) :
    (entries.map Prod.fst).Nodup := by
  rw [List.pairwise_map] at h
  rw [List.Nodup, List.pairwise_map]
  refine h.imp ?_
  intro left right hlt heq
  exact List.lt_irrefl _ (heq ▸ hlt)

theorem map_eq_self_iff {α : Type} {f : α → α} {l : List α} :
    l.map f = l ↔ ∀ a ∈ l, f a = a := by
  simpa using List.map_inj_left (f := f) (g := id) (l := l)

/-- Replacing the texts leaves a value as it is only if it leaves each text. -/
theorem mapText_eq_self_iff {f : String → String} {v : Cbor} :
    mapText f v = v ↔ ∀ s ∈ texts v, f s = s := by
  induction v with
  | bool b => simp [mapText, texts]
  | uint n => simp [mapText, texts]
  | text s => simp [mapText, texts]
  | bytes data => simp [mapText, texts]
  | array values ih =>
    simp only [mapText, texts, mapTextItems_eq, array.injEq, map_eq_self_iff,
      mem_textsItems]
    constructor
    · rintro h s ⟨v, hv, hs⟩
      exact (ih v hv).mp (h v hv) s hs
    · exact fun h v hv => (ih v hv).mpr fun s hs => h s ⟨v, hv, hs⟩
  | map entries ih =>
    simp only [mapText, texts, mapTextEntries_eq, map.injEq, map_eq_self_iff,
      mem_textsEntries, Prod.ext_iff]
    constructor
    · rintro h s ⟨entry, hentry, rfl | hs⟩
      · exact (h entry hentry).1
      · exact (ih entry hentry).mp (h entry hentry).2 s hs
    · intro h entry hentry
      exact ⟨h _ ⟨entry, hentry, .inl rfl⟩,
        (ih entry hentry).mpr fun s hs => h s ⟨entry, hentry, .inr hs⟩⟩

theorem lookup_eq_some_iff (h : (entries.map Prod.fst).Nodup) {key : String} {v : Cbor} :
    entries.lookup key = some v ↔ (key, v) ∈ entries := by
  induction entries with
  | nil => simp
  | cons entry entries ih =>
    obtain ⟨key', v'⟩ := entry
    rw [List.map_cons, List.nodup_cons] at h
    by_cases hkey : key = key'
    · subst hkey
      have hother : (key, v) ∉ entries :=
        fun hmem => h.1 (List.mem_map.mpr ⟨_, hmem, rfl⟩)
      simp [hother, eq_comm]
    · have hbeq : (key == key') = false := beq_eq_false_iff_ne.mpr hkey
      simp [List.lookup_cons, hbeq, hkey, ih h.2]

end Encoding

section Plain

/-- Nothing in the value is deeper, greater or other than admitted. -/
def Plain (admits : String → Prop) (levels maxUint : Nat) (v : Cbor) : Prop :=
  depth v ≤ levels ∧ (∀ n ∈ uints v, n ≤ maxUint) ∧ ∀ s ∈ texts v, admits s

variable {admits : String → Prop} {levels maxUint : Nat}

@[simp] theorem plain_text {s : String} : Plain admits levels maxUint (.text s) ↔ admits s := by
  simp [Plain, depth, uints, texts]

@[simp] theorem plain_uint {n : Nat} : Plain admits levels maxUint (.uint n) ↔ n ≤ maxUint := by
  simp [Plain, depth, uints, texts]

@[simp] theorem plain_bytes {data : List UInt8} : Plain admits levels maxUint (.bytes data) := by
  simp [Plain, depth, uints, texts]

theorem plain_array {values : List Cbor} :
    Plain admits (levels + 1) maxUint (.array values) ↔
      ∀ v ∈ values, Plain admits levels maxUint v := by
  simp only [Plain, depth, uints, texts, Nat.add_le_add_iff_right, depthItems_le_iff,
    mem_uintsItems, mem_textsItems]
  constructor
  · rintro ⟨hdepth, huints, htexts⟩ v hv
    exact ⟨hdepth v hv, fun n hn => huints n ⟨v, hv, hn⟩, fun s hs => htexts s ⟨v, hv, hs⟩⟩
  · intro h
    refine ⟨fun v hv => (h v hv).1, ?_, ?_⟩
    · rintro n ⟨v, hv, hn⟩
      exact (h v hv).2.1 n hn
    · rintro s ⟨v, hv, hs⟩
      exact (h v hv).2.2 s hs

theorem plain_map {entries : List (String × Cbor)} :
    Plain admits (levels + 1) maxUint (.map entries) ↔
      ∀ entry ∈ entries, admits entry.1 ∧ Plain admits levels maxUint entry.2 := by
  simp only [Plain, depth, uints, texts, Nat.add_le_add_iff_right, depthEntries_le_iff,
    mem_uintsEntries, mem_textsEntries]
  constructor
  · rintro ⟨hdepth, huints, htexts⟩ entry hentry
    exact ⟨htexts _ ⟨entry, hentry, .inl rfl⟩, hdepth entry hentry,
      fun n hn => huints n ⟨entry, hentry, hn⟩,
      fun s hs => htexts s ⟨entry, hentry, .inr hs⟩⟩
  · intro h
    refine ⟨fun entry hentry => (h entry hentry).2.1, ?_, ?_⟩
    · rintro n ⟨entry, hentry, hn⟩
      exact (h entry hentry).2.2.1 n hn
    · rintro s ⟨entry, hentry, rfl | hs⟩
      · exact (h entry hentry).1
      · exact (h entry hentry).2.2.2 s hs

theorem Plain.mono {v : Cbor} {levels' : Nat} (h : Plain admits levels maxUint v)
    (hlevels : levels ≤ levels') : Plain admits levels' maxUint v :=
  ⟨h.1.trans hlevels, h.2⟩

end Plain

section Reading

structure Rules where
  maxArgument : Nat
  maxBytes : Nat
  maxTextBytes : Nat
  maxEntries : Nat
  textOk : String → Bool
  text : String → String
  maxArgument_lt : maxArgument < 2 ^ 64
  maxBytes_le : maxBytes ≤ maxArgument
  maxTextBytes_le : maxTextBytes ≤ maxArgument
  maxEntries_le : maxEntries ≤ maxArgument

abbrev Reader := List UInt8 → Option (Cbor × List UInt8)

def readItems (readValue : Reader) : Nat → List UInt8 → Option (List Cbor × List UInt8)
  | 0, input => some ([], input)
  | n + 1, input =>
    (readValue input).bind fun first =>
      (readItems readValue n first.2).map fun others => (first.1 :: others.1, others.2)

/-- The entries behind those with the keys of `seen`. Each key comes behind the encoding
`previous` of the one before it. -/
def readEntries (readValue : Reader) : Nat → List String → Option (List UInt8) →
    List UInt8 → Option (List (String × Cbor) × List UInt8)
  | 0, _, _, input => some ([], input)
  | n + 1, seen, previous, input =>
    match readValue input with
    | some (.text key, rest) =>
      let encodedKey := input.take (input.length - rest.length)
      if key ∈ seen ∨ ¬ ∀ p ∈ previous, p < encodedKey then none
      else
        (readValue rest).bind fun value =>
          (readEntries readValue n (key :: seen) (some encodedKey) value.2).map fun others =>
            ((key, value.1) :: others.1, others.2)
    | _ => none

variable (r : Rules)

/-- The rest of an item behind its head. There is no `inner` reader where no further
array or map may be opened. -/
def readBody (inner : Option Reader) (major n : Nat) (rest : List UInt8) :
    Option (Cbor × List UInt8) :=
  match major with
  | 0 => some (.uint n, rest)
  | 2 =>
    if r.maxBytes < n ∨ rest.length < n then none
    else some (.bytes (rest.take n), rest.drop n)
  | 3 =>
    if r.maxTextBytes < n ∨ rest.length < n then none
    else
      (Utf8.text? (rest.take n)).bind fun s =>
        if r.textOk s then some (.text (r.text s), rest.drop n) else none
  | 4 =>
    if r.maxEntries < n then none
    else
      inner.bind fun readValue =>
        (readItems readValue n rest).map fun items => (.array items.1, items.2)
  | 5 =>
    if r.maxEntries < n then none
    else
      inner.bind fun readValue =>
        (readEntries readValue n [] none rest).map fun entries => (.map entries.1, entries.2)
  | _ => none

def readItem (inner : Option Reader) : Reader
  | [] => none
  | b :: input =>
    if b.toNat / 32 = 7 then
      if b.toNat % 32 = 20 then some (.bool false, input)
      else if b.toNat % 32 = 21 then some (.bool true, input)
      else none
    else
      (readArgument (b.toNat % 32) input).bind fun argument =>
        if r.maxArgument < argument.1 then none
        else readBody r inner (b.toNat / 32) argument.1 argument.2

/-- Read one value, with at most `levels` arrays and maps open at a time. -/
def read : Nat → Reader
  | 0 => readItem r none
  | levels + 1 => readItem r (some (read levels))

def TextOk (s : String) : Prop := r.textOk s = true ∧ s.utf8ByteSize ≤ r.maxTextBytes

inductive Wire : Cbor → Prop
  | bool (b : Bool) : Wire (.bool b)
  | uint {n : Nat} (hn : n ≤ r.maxArgument) : Wire (.uint n)
  | text {s : String} (hs : TextOk r s) : Wire (.text s)
  | bytes {data : List UInt8} (hdata : data.length ≤ r.maxBytes) : Wire (.bytes data)
  | array {values : List Cbor} (hlength : values.length ≤ r.maxEntries)
      (hvalues : ∀ v ∈ values, Wire v) : Wire (.array values)
  | map {entries : List (String × Cbor)} (hlength : entries.length ≤ r.maxEntries)
      (hkeys : ∀ entry ∈ entries, TextOk r entry.1)
      (hsorted : (entries.map fun entry => encodeText entry.1).Pairwise (· < ·))
      (hdistinct : (entries.map fun entry => r.text entry.1).Nodup)
      (hvalues : ∀ entry ∈ entries, Wire entry.2) : Wire (.map entries)

variable {r}

theorem readItem_head {inner : Option Reader} {major n : Nat} (hmajor : major < 7)
    (hn : n ≤ r.maxArgument) (rest : List UInt8) :
    readItem r inner (head major n ++ rest) = readBody r inner major n rest := by
  obtain ⟨additional, hadditional, tail, hhead, hread⟩ :=
    readArgument_head (Nat.lt_of_le_of_lt hn r.maxArgument_lt)
  obtain ⟨hdiv, hmod⟩ := major_initial (by omega : major < 8) hadditional
  rw [hhead, List.cons_append, readItem, hdiv, hmod, if_neg (by omega), hread]
  exact if_neg (by omega)

/-- An accepted item is a truth value or a head with what `readBody` makes of the rest. -/
theorem readItem_eq_some {inner : Option Reader} {input rest : List UInt8} {w : Cbor}
    (h : readItem r inner input = some (w, rest)) :
    (∃ b, w = .bool b ∧ input = encode (.bool b) ++ rest) ∨
      ∃ major n body, n ≤ r.maxArgument ∧ input = head major n ++ body ∧
        readBody r inner major n body = some (w, rest) := by
  cases input with
  | nil => cases h
  | cons b input =>
    have hb := initial_of_toNat b
    rw [readItem] at h
    split at h
    · rename_i hmajor
      rw [hmajor] at hb
      split at h
      · rename_i hfalse
        obtain ⟨rfl, rfl⟩ := Prod.mk.inj (Option.some.inj h)
        exact .inl ⟨false, rfl, by rw [← hb, hfalse]; rfl⟩
      · split at h
        · rename_i htrue
          obtain ⟨rfl, rfl⟩ := Prod.mk.inj (Option.some.inj h)
          exact .inl ⟨true, rfl, by rw [← hb, htrue]; rfl⟩
        · cases h
    · obtain ⟨⟨n, body⟩, hargument, hbody⟩ := Option.bind_eq_some_iff.mp h
      rw [Option.ite_none_left_eq_some] at hbody
      refine .inr ⟨b.toNat / 32, n, body, by omega, ?_, hbody.2⟩
      rw [← (head_of_readArgument hargument).2, hb]

section Completeness

theorem readText_encodeText {inner : Option Reader} {s : String} (hs : TextOk r s)
    (rest : List UInt8) :
    readItem r inner (encodeText s ++ rest) = some (.text (r.text s), rest) := by
  have hlength : (Utf8.bytes s).length = s.utf8ByteSize := Utf8.length_bytes s
  have htake : (Utf8.bytes s ++ rest).take s.utf8ByteSize = Utf8.bytes s := by
    rw [← hlength, List.take_left]
  have hdrop : (Utf8.bytes s ++ rest).drop s.utf8ByteSize = rest := by
    rw [← hlength, List.drop_left]
  have hbound : ¬ (r.maxTextBytes < s.utf8ByteSize ∨
      (Utf8.bytes s ++ rest).length < s.utf8ByteSize) := by
    have := hs.2
    simp only [List.length_append, hlength]
    omega
  rw [encodeText, List.append_assoc, readItem_head (by omega) (hs.2.trans r.maxTextBytes_le)]
  simp only [readBody, if_neg hbound, htake, hdrop, Utf8.text?_eq_some_iff.mpr rfl,
    Option.bind_some, hs.1, if_true]

theorem readItems_encode {readValue : Reader} {values : List Cbor}
    (h : ∀ v ∈ values, ∀ rest,
      readValue (encode v ++ rest) = some (mapText r.text v, rest)) (rest : List UInt8) :
    readItems readValue values.length (encodeItems values ++ rest) =
      some (mapTextItems r.text values, rest) := by
  induction values with
  | nil => rfl
  | cons v values ih =>
    have hrest := ih fun w hw => h w (List.mem_cons_of_mem v hw)
    rw [encodeItems, List.append_assoc, List.length_cons, readItems,
      h v List.mem_cons_self, Option.bind_some, hrest]
    rfl

theorem readEntries_encode {readValue : Reader} {entries : List (String × Cbor)}
    (hkey : ∀ entry ∈ entries, ∀ rest,
      readValue (encodeText entry.1 ++ rest) = some (.text (r.text entry.1), rest))
    (hvalue : ∀ entry ∈ entries, ∀ rest,
      readValue (encode entry.2 ++ rest) = some (mapText r.text entry.2, rest))
    (hsorted : (entries.map fun entry => encodeText entry.1).Pairwise (· < ·))
    (hdistinct : (entries.map fun entry => r.text entry.1).Nodup)
    {seen : List String} (hseen : ∀ entry ∈ entries, r.text entry.1 ∉ seen)
    {previous : Option (List UInt8)}
    (hprevious : ∀ p ∈ previous, ∀ entry ∈ entries, p < encodeText entry.1)
    (rest : List UInt8) :
    readEntries readValue entries.length seen previous (encodeEntries entries ++ rest) =
      some (mapTextEntries r.text entries, rest) := by
  induction entries generalizing seen previous with
  | nil => rfl
  | cons entry entries ih =>
    obtain ⟨key, v⟩ := entry
    rw [List.map_cons, List.pairwise_cons] at hsorted
    rw [List.map_cons, List.nodup_cons] at hdistinct
    have hrest : readEntries readValue entries.length (r.text key :: seen)
        (some (encodeText key)) (encodeEntries entries ++ rest) =
          some (mapTextEntries r.text entries, rest) := ih
      (fun w hw => hkey w (List.mem_cons_of_mem _ hw))
      (fun w hw => hvalue w (List.mem_cons_of_mem _ hw)) hsorted.2 hdistinct.2
      (by
        intro w hw hmem
        rcases List.mem_cons.mp hmem with heq | hmem
        · exact hdistinct.1 (heq ▸ List.mem_map_of_mem hw)
        · exact hseen w (List.mem_cons_of_mem _ hw) hmem)
      (by
        rintro p hp w hw
        obtain rfl := Option.mem_some.mp hp
        exact hsorted.1 _ (List.mem_map_of_mem hw))
    have hencoded : (encodeText key ++ (encode v ++ (encodeEntries entries ++ rest))).take
        ((encodeText key ++ (encode v ++ (encodeEntries entries ++ rest))).length -
          (encode v ++ (encodeEntries entries ++ rest)).length) = encodeText key := by
      rw [List.length_append, Nat.add_sub_cancel, List.take_left]
    have hallowed : ¬ (r.text key ∈ seen ∨ ¬ ∀ p ∈ previous, p < encodeText key) := by
      push Not
      exact ⟨hseen _ List.mem_cons_self, fun p hp => hprevious p hp _ List.mem_cons_self⟩
    rw [encodeEntries, List.append_assoc, List.append_assoc, List.length_cons, readEntries,
      hkey _ List.mem_cons_self]
    simp only [hencoded, if_neg hallowed, hvalue _ List.mem_cons_self, Option.bind_some, hrest]
    rfl

theorem read_eq_readItem (levels : Nat) : ∃ inner, read r levels = readItem r inner := by
  cases levels with
  | zero => exact ⟨none, rfl⟩
  | succ levels => exact ⟨some (read r levels), rfl⟩

theorem read_encode {v : Cbor} (h : Wire r v) {levels : Nat} (hdepth : depth v ≤ levels)
    (rest : List UInt8) :
    read r levels (encode v ++ rest) = some (mapText r.text v, rest) := by
  induction v generalizing levels rest with
  | bool b =>
    obtain ⟨inner, hinner⟩ := read_eq_readItem (r := r) levels
    rw [hinner]
    cases b <;> rfl
  | uint n =>
    obtain ⟨inner, hinner⟩ := read_eq_readItem (r := r) levels
    cases h with
    | uint hn => rw [hinner, encode, readItem_head (by omega) hn]; rfl
  | text s =>
    obtain ⟨inner, hinner⟩ := read_eq_readItem (r := r) levels
    cases h with
    | text hs => rw [hinner, encode, readText_encodeText hs]; rfl
  | bytes data =>
    obtain ⟨inner, hinner⟩ := read_eq_readItem (r := r) levels
    cases h with
    | bytes hdata =>
      rw [hinner, encode, List.append_assoc,
        readItem_head (by omega) (hdata.trans r.maxBytes_le)]
      have hbound : ¬ (r.maxBytes < data.length ∨ (data ++ rest).length < data.length) := by
        simp only [List.length_append]
        omega
      simp only [readBody, if_neg hbound, List.take_left, List.drop_left]
      rfl
  | array values ih =>
    cases h with
    | array hlength hvalues =>
      obtain ⟨levels, rfl⟩ : ∃ n, levels = n + 1 := by
        refine ⟨levels - 1, ?_⟩
        rw [depth] at hdepth
        omega
      have hinner : depthItems values ≤ levels := by simpa [depth] using hdepth
      rw [read, encode, List.append_assoc,
        readItem_head (by omega) (hlength.trans r.maxEntries_le)]
      simp only [readBody, if_neg (Nat.not_lt.mpr hlength), Option.bind_some]
      rw [readItems_encode fun v hv rest => ih v hv (hvalues v hv)
        (depthItems_le_iff.mp hinner v hv) rest]
      rfl
  | map entries ih =>
    cases h with
    | map hlength hkeys hsorted hdistinct hvalues =>
      obtain ⟨levels, rfl⟩ : ∃ n, levels = n + 1 := by
        refine ⟨levels - 1, ?_⟩
        rw [depth] at hdepth
        omega
      have hinner : depthEntries entries ≤ levels := by simpa [depth] using hdepth
      have hkey : ∀ entry ∈ entries, ∀ rest, read r levels (encodeText entry.1 ++ rest) =
          some (.text (r.text entry.1), rest) := by
        intro entry hentry rest
        obtain ⟨inner, heq⟩ := read_eq_readItem (r := r) levels
        rw [heq, readText_encodeText (hkeys entry hentry)]
      rw [read, encode, List.append_assoc,
        readItem_head (by omega) (hlength.trans r.maxEntries_le)]
      simp only [readBody, if_neg (Nat.not_lt.mpr hlength), Option.bind_some]
      rw [readEntries_encode hkey (fun entry hentry rest => ih entry hentry
        (hvalues entry hentry) (depthEntries_le_iff.mp hinner entry hentry) rest)
        hsorted hdistinct (by simp) (by simp)]
      rfl

end Completeness

section Soundness

/-- What a reader accepts is the encoding of a value with a property, read as `r` does. -/
def Sound (r : Rules) (P : Cbor → Prop) (readValue : Reader) : Prop :=
  ∀ input w rest, readValue input = some (w, rest) →
    ∃ v, P v ∧ mapText r.text v = w ∧ input = encode v ++ rest

theorem Sound.readItems {P : Cbor → Prop} {readValue : Reader} (h : Sound r P readValue)
    {n : Nat} {input rest : List UInt8} {ws : List Cbor}
    (hread : readItems readValue n input = some (ws, rest)) :
    ∃ values, values.length = n ∧ (∀ v ∈ values, P v) ∧ mapTextItems r.text values = ws ∧
      input = encodeItems values ++ rest := by
  induction n generalizing input ws with
  | zero =>
    obtain ⟨rfl, rfl⟩ := Prod.mk.inj (Option.some.inj hread)
    exact ⟨[], rfl, by simp, rfl, rfl⟩
  | succ n ih =>
    obtain ⟨⟨w, input'⟩, hfirst, hmap⟩ := Option.bind_eq_some_iff.mp hread
    obtain ⟨⟨others, rest'⟩, hothers, heq⟩ := Option.map_eq_some_iff.mp hmap
    obtain ⟨rfl, rfl⟩ := Prod.mk.inj heq
    obtain ⟨v, hv, rfl, rfl⟩ := h _ _ _ hfirst
    obtain ⟨values, rfl, hvalues, rfl, hinput⟩ := ih hothers
    dsimp only at hinput
    subst hinput
    refine ⟨v :: values, rfl, ?_, rfl, ?_⟩
    · intro v' hv'
      rcases List.mem_cons.mp hv' with rfl | hv'
      · exact hv
      · exact hvalues v' hv'
    · rw [encodeItems, List.append_assoc]

theorem text_of_mapText {f : String → String} {v : Cbor} {s : String}
    (h : mapText f v = .text s) : ∃ s', v = .text s' ∧ f s' = s := by
  cases v with
  | text s' => exact ⟨s', rfl, by simpa [mapText] using h⟩
  | _ => simp [mapText] at h

theorem Sound.readEntries {P : Cbor → Prop} {readValue : Reader} (h : Sound r P readValue)
    {n : Nat} {seen : List String} {previous : Option (List UInt8)}
    {input rest : List UInt8} {ws : List (String × Cbor)}
    (hread : readEntries readValue n seen previous input = some (ws, rest)) :
    ∃ entries : List (String × Cbor), entries.length = n ∧
      (∀ entry ∈ entries, P (.text entry.1) ∧ P entry.2) ∧
      (entries.map fun entry => encodeText entry.1).Pairwise (· < ·) ∧
      (∀ p ∈ previous, ∀ entry ∈ entries, p < encodeText entry.1) ∧
      (entries.map fun entry => r.text entry.1).Nodup ∧
      (∀ entry ∈ entries, r.text entry.1 ∉ seen) ∧
      mapTextEntries r.text entries = ws ∧ input = encodeEntries entries ++ rest := by
  induction n generalizing seen previous input ws with
  | zero =>
    obtain ⟨rfl, rfl⟩ := Prod.mk.inj (Option.some.inj hread)
    exact ⟨[], rfl, by simp, by simp, by simp, by simp, by simp, rfl, rfl⟩
  | succ n ih =>
    rw [Cbor.readEntries] at hread
    split at hread
    · rename_i key' input' hfirst
      rw [Option.ite_none_left_eq_some] at hread
      obtain ⟨hallowed, hread⟩ := hread
      obtain ⟨⟨w, input''⟩, hvalue, hmap⟩ := Option.bind_eq_some_iff.mp hread
      obtain ⟨⟨others, rest'⟩, hothers, heq⟩ := Option.map_eq_some_iff.mp hmap
      obtain ⟨rfl, rfl⟩ := Prod.mk.inj heq
      obtain ⟨first, hP, hkey, hinput⟩ := h _ _ _ hfirst
      obtain ⟨key, rfl, rfl⟩ := text_of_mapText hkey
      obtain ⟨v, hv, rfl, hinput'⟩ := h _ _ _ hvalue
      have hencoded : input.take (input.length - input'.length) = encodeText key := by
        rw [hinput, List.length_append, Nat.add_sub_cancel, List.take_left]
        rfl
      rw [hencoded] at hallowed hothers
      push Not at hallowed
      obtain ⟨entries, rfl, hentries, hsorted, hbehind, hdistinct, hfresh, rfl, hrest⟩ :=
        ih hothers
      have hgreater : ∀ entry ∈ entries, encodeText key < encodeText entry.1 :=
        hbehind _ (Option.mem_some.mpr rfl)
      refine ⟨(key, v) :: entries, rfl, ?_, ?_, ?_, ?_, ?_, rfl, ?_⟩
      · intro entry hentry
        rcases List.mem_cons.mp hentry with rfl | hentry
        · exact ⟨hP, hv⟩
        · exact hentries entry hentry
      · refine List.pairwise_cons.mpr ⟨?_, hsorted⟩
        intro encoded hencoded
        obtain ⟨entry, hentry, rfl⟩ := List.mem_map.mp hencoded
        exact hgreater entry hentry
      · intro p hp entry hentry
        rcases List.mem_cons.mp hentry with rfl | hentry
        · exact hallowed.2 p hp
        · exact List.lt_trans (hallowed.2 p hp) (hgreater entry hentry)
      · refine List.nodup_cons.mpr ⟨?_, hdistinct⟩
        intro hmem
        obtain ⟨entry, hentry, heq⟩ := List.mem_map.mp hmem
        exact hfresh entry hentry (heq ▸ List.mem_cons_self)
      · intro entry hentry
        rcases List.mem_cons.mp hentry with rfl | hentry
        · exact hallowed.1
        · exact fun hmem => hfresh entry hentry (List.mem_cons_of_mem _ hmem)
      · dsimp only at hrest
        rw [hinput, hinput', hrest, encodeEntries, encode, List.append_assoc,
          List.append_assoc]
    · cases hread

theorem readBody_eq_some {P : Cbor → Prop} {inner : Option Reader}
    (hinner : ∀ readValue ∈ inner, Sound r P readValue) {major n : Nat}
    {body rest : List UInt8} {w : Cbor} (hn : n ≤ r.maxArgument)
    (h : readBody r inner major n body = some (w, rest)) :
    ∃ v, mapText r.text v = w ∧ head major n ++ body = encode v ++ rest ∧
      ((depth v = 0 ∧ Wire r v) ∨
        (inner.isSome ∧ ∃ values, v = .array values ∧ values.length ≤ r.maxEntries ∧
          ∀ v ∈ values, P v) ∨
        (inner.isSome ∧ ∃ entries, v = .map entries ∧ entries.length ≤ r.maxEntries ∧
          (∀ entry ∈ entries, P (.text entry.1) ∧ P entry.2) ∧
          (entries.map fun entry => encodeText entry.1).Pairwise (· < ·) ∧
          (entries.map fun entry => r.text entry.1).Nodup)) := by
  unfold readBody at h
  split at h
  · obtain ⟨rfl, rfl⟩ := Prod.mk.inj (Option.some.inj h)
    exact ⟨.uint n, rfl, rfl, .inl ⟨rfl, .uint hn⟩⟩
  · rw [Option.ite_none_left_eq_some] at h
    obtain ⟨hbound, h⟩ := h
    obtain ⟨rfl, rfl⟩ := Prod.mk.inj (Option.some.inj h)
    push Not at hbound
    have hlength : (body.take n).length = n := by
      rw [List.length_take]
      omega
    refine ⟨.bytes (body.take n), rfl, ?_, .inl ⟨rfl, .bytes (by omega)⟩⟩
    rw [encode, hlength, List.append_assoc, List.take_append_drop]
  · rw [Option.ite_none_left_eq_some] at h
    obtain ⟨hbound, h⟩ := h
    push Not at hbound
    obtain ⟨s, hs, h⟩ := Option.bind_eq_some_iff.mp h
    rw [Option.ite_none_right_eq_some] at h
    obtain ⟨hok, h⟩ := h
    obtain ⟨rfl, rfl⟩ := Prod.mk.inj (Option.some.inj h)
    have hbytes := Utf8.text?_eq_some_iff.mp hs
    have hsize : s.utf8ByteSize = n := by
      rw [← Utf8.length_bytes, hbytes, List.length_take]
      omega
    refine ⟨.text s, rfl, ?_, .inl ⟨rfl, .text ⟨hok, by omega⟩⟩⟩
    rw [encode, encodeText, hsize, hbytes, List.append_assoc, List.take_append_drop]
  · rw [Option.ite_none_left_eq_some] at h
    obtain ⟨hlength, h⟩ := h
    obtain ⟨readValue, hreader, h⟩ := Option.bind_eq_some_iff.mp h
    obtain ⟨⟨ws, rest'⟩, hitems, heq⟩ := Option.map_eq_some_iff.mp h
    obtain ⟨rfl, rfl⟩ := Prod.mk.inj heq
    obtain ⟨values, rfl, hvalues, rfl, rfl⟩ := (hinner _ hreader).readItems hitems
    refine ⟨.array values, rfl, ?_, .inr (.inl ⟨?_, values, rfl, by omega, hvalues⟩)⟩
    · rw [encode, List.append_assoc]
    · exact Option.isSome_iff_exists.mpr ⟨_, hreader⟩
  · rw [Option.ite_none_left_eq_some] at h
    obtain ⟨hlength, h⟩ := h
    obtain ⟨readValue, hreader, h⟩ := Option.bind_eq_some_iff.mp h
    obtain ⟨⟨ws, rest'⟩, hitems, heq⟩ := Option.map_eq_some_iff.mp h
    obtain ⟨rfl, rfl⟩ := Prod.mk.inj heq
    obtain ⟨entries, rfl, hentries, hsorted, _, hdistinct, _, rfl, rfl⟩ :=
      (hinner _ hreader).readEntries hitems
    refine ⟨.map entries, rfl, ?_,
      .inr (.inr ⟨?_, entries, rfl, by omega, hentries, hsorted, hdistinct⟩)⟩
    · rw [encode, List.append_assoc]
    · exact Option.isSome_iff_exists.mpr ⟨_, hreader⟩
  · cases h

theorem textOk_of_wire {s : String} (h : Wire r (.text s)) : TextOk r s := by
  cases h with
  | text hs => exact hs

theorem sound_read (levels : Nat) :
    Sound r (fun v => Wire r v ∧ depth v ≤ levels) (read r levels) := by
  induction levels with
  | zero =>
    intro input w rest h
    rcases readItem_eq_some h with ⟨b, rfl, rfl⟩ | ⟨major, n, body, hn, rfl, hbody⟩
    · exact ⟨.bool b, ⟨.bool b, Nat.zero_le 0⟩, rfl, rfl⟩
    · obtain ⟨v, rfl, hv, hcases⟩ :=
        readBody_eq_some (P := fun _ => False) (by simp) hn hbody
      rcases hcases with ⟨hdepth, hwire⟩ | ⟨⟨⟩, _⟩ | ⟨⟨⟩, _⟩
      exact ⟨v, ⟨hwire, hdepth.le⟩, rfl, hv⟩
  | succ levels ih =>
    intro input w rest h
    rcases readItem_eq_some h with ⟨b, rfl, rfl⟩ | ⟨major, n, body, hn, rfl, hbody⟩
    · exact ⟨.bool b, ⟨.bool b, Nat.zero_le _⟩, rfl, rfl⟩
    · obtain ⟨v, rfl, hv, hcases⟩ := readBody_eq_some (by simpa using ih) hn hbody
      refine ⟨v, ?_, rfl, hv⟩
      rcases hcases with ⟨hdepth, hwire⟩ | ⟨_, values, rfl, hlength, hvalues⟩ |
        ⟨_, entries, rfl, hlength, hentries, hsorted, hdistinct⟩
      · exact ⟨hwire, by omega⟩
      · refine ⟨.array hlength fun v hv => (hvalues v hv).1, ?_⟩
        have := depthItems_le_iff.mpr fun v hv => (hvalues v hv).2
        simpa [depth] using this
      · refine ⟨.map hlength (fun entry hentry => textOk_of_wire (hentries entry hentry).1.1)
          hsorted hdistinct fun entry hentry => (hentries entry hentry).2.1, ?_⟩
        have := depthEntries_le_iff.mpr fun entry hentry => (hentries entry hentry).2.2
        simpa [depth] using this

end Soundness

section Transfer

theorem Wire.uints_le {v : Cbor} (h : Wire r v) : ∀ n ∈ uints v, n ≤ r.maxArgument := by
  induction h with
  | uint hn => simpa [uints] using hn
  | array hlength hvalues ih =>
    intro n hn
    obtain ⟨v, hv, hn⟩ := mem_uintsItems.mp hn
    exact ih v hv n hn
  | map hlength hkeys hsorted hdistinct hvalues ih =>
    intro n hn
    obtain ⟨entry, hentry, hn⟩ := mem_uintsEntries.mp hn
    exact ih entry hentry n hn
  | _ => simp [uints]

theorem Wire.textOk {v : Cbor} (h : Wire r v) : ∀ s ∈ texts v, TextOk r s := by
  induction h with
  | text hs => simpa [texts] using hs
  | array hlength hvalues ih =>
    intro s hs
    obtain ⟨v, hv, hs⟩ := mem_textsItems.mp hs
    exact ih v hv s hs
  | map hlength hkeys hsorted hdistinct hvalues ih =>
    intro s hs
    obtain ⟨entry, hentry, rfl | hs⟩ := mem_textsEntries.mp hs
    · exact hkeys entry hentry
    · exact ih entry hentry s hs
  | _ => simp [texts]

theorem Wire.transfer {v : Cbor} (h : Wire r v) (r' : Rules)
    (hbytes : r.maxBytes ≤ r'.maxBytes) (hentries : r.maxEntries ≤ r'.maxEntries)
    (huints : ∀ n ∈ uints v, n ≤ r'.maxArgument)
    (htexts : ∀ s ∈ texts v, TextOk r' s ∧ r'.text s = s) : Wire r' v := by
  induction h with
  | bool b => exact .bool b
  | uint hn => exact .uint (huints _ (List.mem_singleton.mpr rfl))
  | text hs => exact .text (htexts _ (List.mem_singleton.mpr rfl)).1
  | bytes hdata => exact .bytes (hdata.trans hbytes)
  | array hlength hvalues ih =>
    refine .array (hlength.trans hentries) fun v hv => ih v hv ?_ ?_
    · exact fun n hn => huints n (mem_uintsItems.mpr ⟨v, hv, hn⟩)
    · exact fun s hs => htexts s (mem_textsItems.mpr ⟨v, hv, hs⟩)
  | @map entries hlength hkeys hsorted hdistinct hvalues ih =>
    have hkey : ∀ entry ∈ entries, entry.1 ∈ textsEntries entries :=
      fun entry hentry => mem_textsEntries.mpr ⟨entry, hentry, .inl rfl⟩
    refine .map (hlength.trans hentries) ?_ hsorted ?_ fun entry hentry =>
      ih entry hentry ?_ ?_
    · exact fun entry hentry => (htexts _ (hkey entry hentry)).1
    · have hsame : (entries.map fun entry => r'.text entry.1) = entries.map Prod.fst :=
        List.map_congr_left fun entry hentry => (htexts _ (hkey entry hentry)).2
      rw [hsame]
      exact nodup_of_sorted hsorted
    · exact fun n hn => huints n (mem_uintsEntries.mpr ⟨entry, hentry, hn⟩)
    · exact fun s hs => htexts s (mem_textsEntries.mpr ⟨entry, hentry, .inr hs⟩)

theorem Wire.eq_of_encode_eq {v w : Cbor} (hv : Wire r v) (hw : Wire r w)
    (htext : ∀ s, r.text s = s) (h : encode v = encode w) : v = w := by
  have hid : ∀ u : Cbor, mapText r.text u = u :=
    fun u => mapText_eq_self_iff.mpr fun s _ => htext s
  have hread := read_encode hv (Nat.le_max_left (depth v) (depth w)) []
  rw [h, read_encode hw (Nat.le_max_right (depth v) (depth w)) [], hid, hid] at hread
  exact (Prod.mk.inj (Option.some.inj hread)).1.symm

end Transfer

theorem read_eq_some_iff {levels : Nat} {input rest : List UInt8} {w : Cbor} :
    read r levels input = some (w, rest) ↔
      ∃ v, Wire r v ∧ depth v ≤ levels ∧ mapText r.text v = w ∧ input = encode v ++ rest := by
  constructor
  · intro h
    obtain ⟨v, ⟨hwire, hdepth⟩, hmap, hinput⟩ := sound_read levels input w rest h
    exact ⟨v, hwire, hdepth, hmap, hinput⟩
  · rintro ⟨v, hwire, hdepth, rfl, rfl⟩
    exact read_encode hwire hdepth rest

end Reading

section Writing

structure Checks (ε : Type) where
  uint : Nat → Except ε Unit
  entries : Nat → Except ε Unit
  duplicate : String → ε

variable {ε : Type} (c : Checks ε)

def sortEncoded (encoded : List (List UInt8 × List UInt8)) :
    List (List UInt8 × List UInt8) :=
  encoded.insertionSort fun left right => left.1 ≤ right.1

mutual

def write : Cbor → Except ε (List UInt8)
  | .bool b => .ok [initial 7 (if b then 21 else 20)]
  | .uint n => do
    c.uint n
    return head 0 n
  | .text s => .ok (encodeText s)
  | .bytes data => .ok (head 2 data.length ++ data)
  | .array values => do
    let chunks ← writeItems values
    return head 4 values.length ++ chunks
  | .map entries => do
    c.entries entries.length
    let encoded ← writeEntries [] entries
    return head 5 encoded.length ++
      (sortEncoded encoded).flatMap fun entry => entry.1 ++ entry.2

def writeItems : List Cbor → Except ε (List UInt8)
  | [] => .ok []
  | v :: values => do
    let encoded ← write v
    let chunks ← writeItems values
    return encoded ++ chunks

/-- The entries behind those with the keys of `seen`, not yet in order. -/
def writeEntries (seen : List String) :
    List (String × Cbor) → Except ε (List (List UInt8 × List UInt8))
  | [] => .ok []
  | (key, v) :: entries => do
    throwIf (key ∈ seen) (c.duplicate key)
    let value ← write v
    let encoded ← writeEntries (key :: seen) entries
    return (encodeText key, value) :: encoded

end

variable {c}

theorem sortEncoded_map {K V : Type} (key : K → List UInt8) (value : V → List UInt8)
    (entries : List (K × V)) :
    sortEncoded (entries.map fun entry => (key entry.1, value entry.2)) =
      (entries.insertionSort fun left right => key left.1 ≤ key right.1).map
        fun entry => (key entry.1, value entry.2) := by
  let encoded : K × V → List UInt8 × List UInt8 := fun entry => (key entry.1, value entry.2)
  exact (List.map_insertionSort (fun left right => key left.1 ≤ key right.1)
    (fun left right : List UInt8 × List UInt8 => left.1 ≤ right.1) encoded entries
    fun _ _ _ _ => Iff.rfl).symm

theorem fresh_of_nodup_cons {K V : Type} {key : K} {v : V} {entries : List (K × V)}
    {seen : List K} (hseen : ∀ entry ∈ (key, v) :: entries, entry.1 ∉ seen)
    (hnew : key ∉ entries.map Prod.fst) : ∀ entry ∈ entries, entry.1 ∉ key :: seen := by
  intro entry hentry hmem
  rcases List.mem_cons.mp hmem with heq | hmem
  · exact hnew (List.mem_map.mpr ⟨entry, hentry, heq⟩)
  · exact hseen entry (List.mem_cons_of_mem _ hentry) hmem

theorem writeItems_of_write {f : Cbor → Cbor} {values : List Cbor}
    (h : ∀ v ∈ values, write c v = .ok (encode (f v))) :
    writeItems c values = .ok (encodeItems (values.map f)) := by
  induction values with
  | nil => rfl
  | cons v values ih =>
    rw [writeItems, h v List.mem_cons_self, ih fun w hw => h w (List.mem_cons_of_mem v hw)]
    rfl

variable {entries : List (String × Cbor)}

theorem writeEntries_of_write {f : Cbor → Cbor}
    (h : ∀ entry ∈ entries, write c entry.2 = .ok (encode (f entry.2)))
    {seen : List String} (hseen : ∀ entry ∈ entries, entry.1 ∉ seen)
    (hdistinct : (entries.map Prod.fst).Nodup) :
    writeEntries c seen entries =
      .ok (entries.map fun entry => (encodeText entry.1, encode (f entry.2))) := by
  induction entries generalizing seen with
  | nil => rfl
  | cons entry entries ih =>
    obtain ⟨key, v⟩ := entry
    rw [List.map_cons, List.nodup_cons] at hdistinct
    have hfresh := fresh_of_nodup_cons hseen hdistinct.1
    have hkey : key ∉ seen := hseen (key, v) List.mem_cons_self
    rw [writeEntries, throwIf, if_neg hkey, h (key, v) List.mem_cons_self,
      ih (fun entry hentry => h entry (List.mem_cons_of_mem _ hentry)) hfresh hdistinct.2]
    rfl

theorem write_of_wire {r : Rules} {v : Cbor} (h : Wire r v)
    (huint : ∀ n ≤ r.maxArgument, c.uint n = .ok ())
    (hcount : ∀ n ≤ r.maxEntries, c.entries n = .ok ()) : write c v = .ok (encode v) := by
  induction v with
  | bool b => cases b <;> rfl
  | uint n =>
    cases h with
    | uint hn => rw [write, huint n hn]; rfl
  | text s => rw [write, encode]
  | bytes data => rw [write, encode]
  | array values ih =>
    cases h with
    | array hlength hvalues =>
      have hitems := writeItems_of_write (f := id) fun v hv => ih v hv (hvalues v hv)
      rw [write, hitems, List.map_id]
      rfl
  | map entries ih =>
    cases h with
    | map hlength hkeys hsorted hdistinct hvalues =>
      have hencoded := writeEntries_of_write (f := id)
        (fun entry hentry => ih entry hentry (hvalues entry hentry))
        (fun _ _ => List.not_mem_nil) (nodup_of_sorted hsorted)
      simp only [id_eq] at hencoded
      have hsort : sortEncoded (entries.map fun entry =>
          (encodeText entry.1, encode entry.2)) =
          entries.map fun entry => (encodeText entry.1, encode entry.2) := by
        apply List.Pairwise.insertionSort_eq
        rw [List.pairwise_map] at hsorted ⊢
        refine hsorted.imp ?_
        intro left right hlt
        simpa using List.le_of_lt hlt
      rw [write, hcount _ hlength, hencoded]
      show Except.ok _ = Except.ok _
      rw [hsort, encode, encodeEntries_eq_flatMap, List.length_map, List.flatMap_map]

def sortedMap (entries : List (String × Cbor)) : List UInt8 :=
  head 5 entries.length ++
    (sortEncoded (entries.map fun entry => (encodeText entry.1, encode entry.2))).flatMap
      fun entry => entry.1 ++ entry.2

theorem write_map (hcount : c.entries entries.length = .ok ())
    (hvalues : ∀ entry ∈ entries, write c entry.2 = .ok (encode entry.2))
    (hdistinct : (entries.map Prod.fst).Nodup) :
    write c (.map entries) = .ok (sortedMap entries) := by
  have hencoded := writeEntries_of_write (f := id) hvalues (fun _ _ => List.not_mem_nil) hdistinct
  simp only [id_eq] at hencoded
  rw [write, hcount, hencoded]
  show Except.ok _ = Except.ok _
  rw [sortedMap, List.length_map]

theorem length_of_writeItems {values : List Cbor} {chunks : List UInt8}
    (h : ∀ v ∈ values, ∀ encoded, write c v = .ok encoded →
      encoded.length = (encode v).length) (hwrite : writeItems c values = .ok chunks) :
    chunks.length = (encodeItems values).length := by
  induction values generalizing chunks with
  | nil =>
    obtain rfl := Except.ok.inj hwrite
    rfl
  | cons v values ih =>
    obtain ⟨encoded, hencoded, hrest⟩ := bind_eq_ok.mp hwrite
    obtain ⟨others, hothers, heq⟩ := bind_eq_ok.mp hrest
    obtain rfl := Except.ok.inj heq
    rw [encodeItems, List.length_append, List.length_append,
      h v List.mem_cons_self encoded hencoded,
      ih (fun w hw => h w (List.mem_cons_of_mem v hw)) hothers]

theorem length_of_writeEntries {seen : List String}
    {encoded : List (List UInt8 × List UInt8)}
    (h : ∀ entry ∈ entries, ∀ encoded, write c entry.2 = .ok encoded →
      encoded.length = (encode entry.2).length)
    (hwrite : writeEntries c seen entries = .ok encoded) :
    encoded.length = entries.length ∧
      (encoded.flatMap fun entry => entry.1 ++ entry.2).length =
        (encodeEntries entries).length := by
  induction entries generalizing seen encoded with
  | nil =>
    obtain rfl := Except.ok.inj hwrite
    exact ⟨rfl, rfl⟩
  | cons entry entries ih =>
    obtain ⟨key, v⟩ := entry
    obtain ⟨_, _, hrest⟩ := bind_eq_ok.mp hwrite
    obtain ⟨value, hvalue, hrest⟩ := bind_eq_ok.mp hrest
    obtain ⟨others, hothers, heq⟩ := bind_eq_ok.mp hrest
    obtain rfl := Except.ok.inj heq
    obtain ⟨hcount, hlength⟩ :=
      ih (fun entry hentry => h entry (List.mem_cons_of_mem _ hentry)) hothers
    have hfirst := h (key, v) List.mem_cons_self value hvalue
    refine ⟨congrArg (· + 1) hcount, ?_⟩
    simp only [List.flatMap_cons, encodeEntries, List.length_append, hlength]
    dsimp only at hfirst
    omega

theorem exists_write_of_writeEntries {seen : List String}
    {encoded : List (List UInt8 × List UInt8)} (h : writeEntries c seen entries = .ok encoded)
    {entry : String × Cbor} (hentry : entry ∈ entries) :
    ∃ value, write c entry.2 = .ok value := by
  induction entries generalizing seen encoded with
  | nil => cases hentry
  | cons first entries ih =>
    obtain ⟨key, v⟩ := first
    obtain ⟨_, _, hrest⟩ := bind_eq_ok.mp h
    obtain ⟨value, hvalue, hrest⟩ := bind_eq_ok.mp hrest
    obtain ⟨others, hothers, _⟩ := bind_eq_ok.mp hrest
    rcases List.mem_cons.mp hentry with rfl | hentry
    · exact ⟨value, hvalue⟩
    · exact ih hothers hentry

theorem uint_of_write_map {encoded : List UInt8}
    (h : write c (.map entries) = .ok encoded) {key : String} {n : Nat}
    (hentry : (key, .uint n) ∈ entries) : c.uint n = .ok () := by
  obtain ⟨_, _, hrest⟩ := bind_eq_ok.mp h
  obtain ⟨_, hencoded, _⟩ := bind_eq_ok.mp hrest
  obtain ⟨value, hvalue⟩ := exists_write_of_writeEntries hencoded hentry
  obtain ⟨_, hcheck, _⟩ := bind_eq_ok.mp hvalue
  exact hcheck

theorem length_of_write {v : Cbor} {encoded : List UInt8} (h : write c v = .ok encoded) :
    encoded.length = (encode v).length := by
  induction v generalizing encoded with
  | bool b =>
    obtain rfl := Except.ok.inj h
    cases b <;> rfl
  | uint n =>
    obtain ⟨_, _, heq⟩ := bind_eq_ok.mp h
    obtain rfl := Except.ok.inj heq
    rfl
  | text s =>
    obtain rfl := Except.ok.inj h
    rfl
  | bytes data =>
    obtain rfl := Except.ok.inj h
    rfl
  | array values ih =>
    obtain ⟨chunks, hchunks, heq⟩ := bind_eq_ok.mp h
    obtain rfl := Except.ok.inj heq
    have hlength := length_of_writeItems (fun v hv encoded => ih v hv) hchunks
    rw [encode, List.length_append, List.length_append, hlength]
  | map entries ih =>
    obtain ⟨_, _, hrest⟩ := bind_eq_ok.mp h
    obtain ⟨encodedEntries, hentries, heq⟩ := bind_eq_ok.mp hrest
    obtain rfl := Except.ok.inj heq
    obtain ⟨hcount, hlength⟩ :=
      length_of_writeEntries (fun entry hentry encoded => ih entry hentry) hentries
    have hperm : ((sortEncoded encodedEntries).flatMap fun entry => entry.1 ++ entry.2).Perm
        (encodedEntries.flatMap fun entry => entry.1 ++ entry.2) :=
      List.Perm.flatMap_right _ (List.perm_insertionSort _ _)
    rw [encode, List.length_append, List.length_append, hperm.length_eq, hlength, hcount]

end Writing

section KeyOrder

theorem encodeText_inj {s t : String} (h : encodeText s = encodeText t) : s = t := by
  have hlength := congrArg List.length h
  simp only [encodeText, List.length_append, Utf8.length_bytes] at hlength
  have hsize : s.utf8ByteSize = t.utf8ByteSize := by
    rcases Nat.lt_trichotomy s.utf8ByteSize t.utf8ByteSize with hlt | heq | hgt
    · have := length_head_mono 3 (Nat.le_of_lt hlt)
      omega
    · exact heq
    · have := length_head_mono 3 (Nat.le_of_lt hgt)
      omega
  rw [encodeText, encodeText, hsize] at h
  exact Utf8.bytes_injective (List.append_cancel_left h)

def inKeyOrder (entries : List (String × Cbor)) : List (String × Cbor) :=
  entries.insertionSort fun left right => encodeText left.1 ≤ encodeText right.1

mutual

/-- The value with the entries of each of its maps in the order of their keys. -/
def sortKeys : Cbor → Cbor
  | .array values => .array (sortKeysItems values)
  | .map entries => .map (inKeyOrder (sortKeysEntries entries))
  | .bool b => .bool b
  | .uint n => .uint n
  | .text s => .text s
  | .bytes data => .bytes data

def sortKeysItems : List Cbor → List Cbor
  | [] => []
  | v :: values => sortKeys v :: sortKeysItems values

def sortKeysEntries : List (String × Cbor) → List (String × Cbor)
  | [] => []
  | (key, v) :: entries => (key, sortKeys v) :: sortKeysEntries entries

end

theorem sortKeysItems_eq (values : List Cbor) : sortKeysItems values = values.map sortKeys := by
  induction values with
  | nil => rfl
  | cons v values ih => rw [sortKeysItems, ih, List.map_cons]

theorem sortKeysEntries_eq (entries : List (String × Cbor)) :
    sortKeysEntries entries = entries.map fun entry => (entry.1, sortKeys entry.2) := by
  induction entries with
  | nil => rfl
  | cons entry entries ih => rw [sortKeysEntries, ih, List.map_cons]

theorem perm_inKeyOrder (entries : List (String × Cbor)) : (inKeyOrder entries).Perm entries :=
  List.perm_insertionSort _ _

variable {entries : List (String × Cbor)} {v : Cbor}

theorem mem_inKeyOrder {entry : String × Cbor} :
    entry ∈ inKeyOrder entries ↔ entry ∈ entries := (perm_inKeyOrder entries).mem_iff

theorem sorted_inKeyOrder (h : (entries.map Prod.fst).Nodup) :
    ((inKeyOrder entries).map fun entry => encodeText entry.1).Pairwise (· < ·) := by
  have hle : (inKeyOrder entries).Pairwise fun left right =>
      encodeText left.1 ≤ encodeText right.1 := by
    have : Std.Total fun left right : String × Cbor =>
        encodeText left.1 ≤ encodeText right.1 := ⟨fun _ _ => List.le_total _ _⟩
    have : IsTrans (String × Cbor) fun left right =>
        encodeText left.1 ≤ encodeText right.1 := ⟨fun _ _ _ => List.le_trans⟩
    exact List.pairwise_insertionSort _ _
  have hne : (inKeyOrder entries).Pairwise fun left right => left.1 ≠ right.1 :=
    List.pairwise_map.mp (((perm_inKeyOrder entries).map Prod.fst).nodup_iff.mpr h)
  rw [List.pairwise_map]
  refine (hle.and hne).imp ?_
  rintro left right ⟨hle, hne⟩
  exact List.not_le.mp fun hge => hne (encodeText_inj (List.le_antisymm hle hge))

theorem inKeyOrder_eq_of_perm {entries entries' : List (String × Cbor)}
    (h : (entries.map Prod.fst).Nodup) (hperm : entries.Perm entries') :
    inKeyOrder entries = inKeyOrder entries' := by
  have hsorted := List.pairwise_map.mp (sorted_inKeyOrder h)
  have hsorted' := List.pairwise_map.mp
    (sorted_inKeyOrder ((hperm.map Prod.fst).nodup_iff.mp h))
  refine List.Perm.eq_of_pairwise ?_ hsorted hsorted' ?_
  · exact fun _ _ _ _ hlt hgt => absurd hgt (List.lt_asymm hlt)
  · exact (perm_inKeyOrder entries).trans (hperm.trans (perm_inKeyOrder entries').symm)

theorem lookup_inKeyOrder (h : (entries.map Prod.fst).Nodup)
    (key : String) : (inKeyOrder entries).lookup key = entries.lookup key := by
  have hnodup : ((inKeyOrder entries).map Prod.fst).Nodup :=
    ((perm_inKeyOrder entries).map Prod.fst).nodup_iff.mpr h
  refine Option.ext fun v => ?_
  rw [lookup_eq_some_iff hnodup, lookup_eq_some_iff h, mem_inKeyOrder]

variable (r : Rules)

/-- The values within the limits of a reader, whatever the order of their keys. -/
inductive Fits : Cbor → Prop
  | bool (b : Bool) : Fits (.bool b)
  | uint {n : Nat} (hn : n ≤ r.maxArgument) : Fits (.uint n)
  | text {s : String} (hs : TextOk r s) : Fits (.text s)
  | bytes {data : List UInt8} (hdata : data.length ≤ r.maxBytes) : Fits (.bytes data)
  | array {values : List Cbor} (hlength : values.length ≤ r.maxEntries)
      (hvalues : ∀ v ∈ values, Fits v) : Fits (.array values)
  | map {entries : List (String × Cbor)} (hlength : entries.length ≤ r.maxEntries)
      (hkeys : ∀ entry ∈ entries, TextOk r entry.1)
      (hdistinct : (entries.map Prod.fst).Nodup)
      (hvalues : ∀ entry ∈ entries, Fits entry.2) : Fits (.map entries)

variable {r}

theorem map_fst_sortKeysEntries (entries : List (String × Cbor)) :
    (sortKeysEntries entries).map Prod.fst = entries.map Prod.fst := by
  rw [sortKeysEntries_eq, List.map_map]
  rfl

theorem sortKeys_record (h : ∀ entry ∈ entries, sortKeys entry.2 = entry.2) :
    sortKeys (.map entries) = .map (inKeyOrder entries) := by
  have hentries : sortKeysEntries entries = entries := by
    rw [sortKeysEntries_eq, map_eq_self_iff]
    exact fun entry hentry => Prod.ext rfl (h entry hentry)
  rw [sortKeys, hentries]

theorem depth_sortKeys_le_iff {n : Nat} : depth (sortKeys v) ≤ n ↔ depth v ≤ n := by
  induction v generalizing n with
  | array values ih =>
    cases n with
    | zero => simp [sortKeys, depth]
    | succ n =>
      simp only [sortKeys, sortKeysItems_eq, depth, Nat.add_le_add_iff_right,
        depthItems_le_iff, List.forall_mem_map]
      exact forall₂_congr fun v hv => ih v hv
  | map entries ih =>
    cases n with
    | zero => simp [sortKeys, depth]
    | succ n =>
      simp only [sortKeys, sortKeysEntries_eq, depth, Nat.add_le_add_iff_right,
        depthEntries_le_iff, mem_inKeyOrder, List.forall_mem_map]
      exact forall₂_congr fun entry hentry => ih entry hentry
  | _ => rfl

theorem mem_texts_sortKeys {s : String} : s ∈ texts (sortKeys v) ↔ s ∈ texts v := by
  induction v with
  | array values ih =>
    simp only [sortKeys, sortKeysItems_eq, texts, mem_textsItems, List.mem_map,
      exists_exists_and_eq_and]
    exact exists_congr fun v => and_congr_right fun hv => ih v hv
  | map entries ih =>
    simp only [sortKeys, sortKeysEntries_eq, texts, mem_textsEntries, mem_inKeyOrder,
      List.mem_map, exists_exists_and_eq_and]
    exact exists_congr fun entry => and_congr_right fun hentry =>
      or_congr_right (ih entry hentry)
  | _ => rfl

theorem write_of_fits {ε : Type} {c : Checks ε} (h : Fits r v)
    (huint : ∀ n ≤ r.maxArgument, c.uint n = .ok ())
    (hcount : ∀ n ≤ r.maxEntries, c.entries n = .ok ()) :
    write c v = .ok (encode (sortKeys v)) := by
  induction v with
  | bool b => cases b <;> rfl
  | uint n =>
    cases h with
    | uint hn => rw [write, huint n hn]; rfl
  | text s => rw [write, sortKeys, encode]
  | bytes data => rw [write, sortKeys, encode]
  | array values ih =>
    cases h with
    | array hlength hvalues =>
      rw [write, writeItems_of_write fun v hv => ih v hv (hvalues v hv), sortKeys, encode,
        sortKeysItems_eq, List.length_map]
      rfl
  | map entries ih =>
    cases h with
    | map hlength hkeys hdistinct hvalues =>
      have hencoded := writeEntries_of_write
        (fun entry hentry => ih entry hentry (hvalues entry hentry))
        (fun _ _ => List.not_mem_nil) hdistinct
      have hsort := sortEncoded_map encodeText encode (sortKeysEntries entries)
      rw [sortKeysEntries_eq, List.map_map] at hsort
      rw [write, hcount _ hlength, hencoded]
      show Except.ok _ = Except.ok _
      rw [List.length_map, sortKeys, encode, encodeEntries_eq_flatMap, sortKeysEntries_eq]
      simp only [Function.comp_def] at hsort
      rw [hsort, List.flatMap_map, inKeyOrder, List.length_insertionSort, List.length_map]

theorem Fits.wire (h : Fits r v) (htext : ∀ s ∈ texts v, r.text s = s) :
    Wire r (sortKeys v) := by
  induction v with
  | bool b => exact .bool b
  | uint n =>
    cases h with
    | uint hn => exact .uint hn
  | text s =>
    cases h with
    | text hs => exact .text hs
  | bytes data =>
    cases h with
    | bytes hdata => exact .bytes hdata
  | array values ih =>
    cases h with
    | array hlength hvalues =>
      rw [sortKeys, sortKeysItems_eq]
      refine .array (by rwa [List.length_map]) (List.forall_mem_map.mpr fun v hv => ?_)
      exact ih v hv (hvalues v hv) fun s hs => htext s (mem_textsItems.mpr ⟨v, hv, hs⟩)
  | map entries ih =>
    cases h with
    | map hlength hkeys hdistinct hvalues =>
      have hsame : ∀ entry ∈ entries, r.text entry.1 = entry.1 := fun entry hentry =>
        htext _ (mem_textsEntries.mpr ⟨entry, hentry, .inl rfl⟩)
      have hnodup : ((inKeyOrder (sortKeysEntries entries)).map Prod.fst).Nodup := by
        rw [((perm_inKeyOrder _).map Prod.fst).nodup_iff, map_fst_sortKeysEntries]
        exact hdistinct
      have hentries : ∀ entry ∈ inKeyOrder (sortKeysEntries entries),
          ∃ entry' ∈ entries, (entry'.1, sortKeys entry'.2) = entry := by
        intro entry hentry
        rwa [mem_inKeyOrder, sortKeysEntries_eq, List.mem_map] at hentry
      rw [sortKeys]
      refine .map ?_ ?_ (sorted_inKeyOrder ?_) ?_ ?_
      · rwa [inKeyOrder, List.length_insertionSort, sortKeysEntries_eq, List.length_map]
      · intro entry hentry
        obtain ⟨entry', hentry', rfl⟩ := hentries entry hentry
        exact hkeys entry' hentry'
      · rwa [map_fst_sortKeysEntries]
      · have htexts : ((inKeyOrder (sortKeysEntries entries)).map
            fun entry => r.text entry.1) =
            (inKeyOrder (sortKeysEntries entries)).map Prod.fst := by
          refine List.map_congr_left fun entry hentry => ?_
          obtain ⟨entry', hentry', rfl⟩ := hentries entry hentry
          exact hsame entry' hentry'
        rwa [htexts]
      · intro entry hentry
        obtain ⟨entry', hentry', rfl⟩ := hentries entry hentry
        exact ih entry' hentry' (hvalues entry' hentry') fun s hs =>
          htext s (mem_textsEntries.mpr ⟨entry', hentry', .inr hs⟩)

theorem Fits.mono {r r' : Rules} (h : Fits r v)
    (hargument : r.maxArgument ≤ r'.maxArgument) (hbytes : r.maxBytes ≤ r'.maxBytes)
    (hentries : r.maxEntries ≤ r'.maxEntries) (htext : ∀ s, TextOk r s → TextOk r' s) :
    Fits r' v := by
  induction h with
  | bool b => exact .bool b
  | uint hn => exact .uint (hn.trans hargument)
  | text hs => exact .text (htext _ hs)
  | bytes hdata => exact .bytes (hdata.trans hbytes)
  | array hlength hvalues ih => exact .array (hlength.trans hentries) ih
  | map hlength hkeys hdistinct hvalues ih =>
    exact .map (hlength.trans hentries) (fun entry hentry => htext _ (hkeys entry hentry))
      hdistinct ih

theorem Fits.textOk (h : Fits r v) : ∀ s ∈ texts v, TextOk r s := by
  induction h with
  | text hs => simpa [texts] using hs
  | array hlength hvalues ih =>
    intro s hs
    obtain ⟨v, hv, hs⟩ := mem_textsItems.mp hs
    exact ih v hv s hs
  | map hlength hkeys hdistinct hvalues ih =>
    intro s hs
    obtain ⟨entry, hentry, rfl | hs⟩ := mem_textsEntries.mp hs
    · exact hkeys entry hentry
    · exact ih entry hentry s hs
  | _ => simp [texts]

theorem inKeyOrder_eq_self (h : (entries.map fun entry => encodeText entry.1).Pairwise (· < ·)) :
    inKeyOrder entries = entries := by
  rw [inKeyOrder, List.Pairwise.insertionSort_eq]
  exact (List.pairwise_map.mp h).imp List.le_of_lt

theorem Wire.sortKeys_eq (h : Wire r v) : sortKeys v = v := by
  induction h with
  | @array values hlength hvalues ih =>
    rw [sortKeys, sortKeysItems_eq, map_eq_self_iff.mpr ih]
  | @map entries hlength hkeys hsorted hdistinct hvalues ih =>
    have hentries : sortKeysEntries entries = entries := by
      rw [sortKeysEntries_eq, map_eq_self_iff]
      exact fun entry hentry => Prod.ext rfl (ih entry hentry)
    rw [sortKeys, hentries, inKeyOrder_eq_self hsorted]
  | _ => rfl

theorem Wire.fits (h : Wire r v) : Fits r v := by
  induction h with
  | bool b => exact .bool b
  | uint hn => exact .uint hn
  | text hs => exact .text hs
  | bytes hdata => exact .bytes hdata
  | array hlength hvalues ih => exact .array hlength ih
  | map hlength hkeys hsorted hdistinct hvalues ih =>
    exact .map hlength hkeys (nodup_of_sorted hsorted) ih

structure Reads (m record : List (String × Cbor)) : Prop where
  known : ∀ entry ∈ m, entry.1 ∈ record.map Prod.fst
  lookup : ∀ entry ∈ record, m.lookup entry.1 = some entry.2

theorem reads_iff {m record : List (String × Cbor)} (hwire : Wire r (.map m))
    (hdistinct : (record.map Prod.fst).Nodup) : Reads m record ↔ m = inKeyOrder record := by
  constructor
  · rintro ⟨hknown, hlookup⟩
    cases hwire with
    | map hlength hkeys hsorted hsame hvalues =>
      have hnodup := nodup_of_sorted hsorted
      have hperm : m.Perm record := by
        refine (List.perm_ext_iff_of_nodup hnodup.of_map hdistinct.of_map).mpr ?_
        rintro ⟨key, v⟩
        constructor
        · intro hentry
          obtain ⟨entry, hmem, hkey⟩ := List.mem_map.mp (hknown _ hentry)
          have hvalue := hlookup entry hmem
          rw [hkey, (lookup_eq_some_iff hnodup).mpr hentry] at hvalue
          rwa [show (key, v) = entry from Prod.ext hkey.symm (Option.some.inj hvalue)]
        · intro hentry
          exact (lookup_eq_some_iff hnodup).mp (hlookup _ hentry)
      rw [← inKeyOrder_eq_of_perm hnodup hperm, inKeyOrder_eq_self hsorted]
  · rintro rfl
    refine ⟨?_, ?_⟩
    · intro entry hentry
      exact List.mem_map_of_mem (mem_inKeyOrder.mp hentry)
    · rintro ⟨key, v⟩ hentry
      rw [lookup_inKeyOrder hdistinct, lookup_eq_some_iff hdistinct]
      exact hentry

theorem length_encode_sortKeys (h : Fits r v) :
    (encode (sortKeys v)).length = (encode v).length := by
  let c : Checks Unit := ⟨fun _ => .ok (), fun _ => .ok (), fun _ => ()⟩
  exact length_of_write (write_of_fits (c := c) h (fun _ _ => rfl) (fun _ _ => rfl))

end KeyOrder

end Cbor

end Branch.Lib
