import Branch.Lib.Fields
import Branch.Lib.Json
import Mathlib.Data.List.TakeDrop

/-!
Printing JSON values, and reading them as loosely typed values: numbers become doubles
and of the members with one name the last one counts.
-/

namespace Branch.Lib.Json

section Definitions

def hexDigit (n : Nat) : Char := Nat.digitChar (n % 16)

def unicodeEscape (n : Nat) : List Char :=
  ['\\', 'u', hexDigit (n / 4096), hexDigit (n / 256), hexDigit (n / 16), hexDigit n]

/-- Control characters and quotes are escaped, and so are the characters that are unsafe
inside of HTML or JavaScript. -/
def escape (c : Char) : List Char :=
  if c = '"' then ['\\', '"']
  else if c = '\\' then ['\\', '\\']
  else if c = Char.ofNat 8 then ['\\', 'b']
  else if c = Char.ofNat 12 then ['\\', 'f']
  else if c = '\n' then ['\\', 'n']
  else if c = '\r' then ['\\', 'r']
  else if c = '\t' then ['\\', 't']
  else if c.toNat < 0x20 ∨ c = '<' ∨ c = '>' ∨ c = '&' ∨ c.toNat = 0x2028 ∨
      c.toNat = 0x2029 then
    unicodeEscape c.toNat
  else [c]

def Token.text : Token → List Char
  | .lbrace => ['{']
  | .rbrace => ['}']
  | .lbracket => ['[']
  | .rbracket => [']']
  | .comma => [',']
  | .colon => [':']
  | .null => ['n', 'u', 'l', 'l']
  | .bool true => ['t', 'r', 'u', 'e']
  | .bool false => ['f', 'a', 'l', 's', 'e']
  | .number d => d.text
  | .string s => '"' :: s.toList.flatMap escape ++ ['"']

def print (tokens : List Token) : List Char := tokens.flatMap Token.text

mutual

def tokens : Json → List Token
  | .null => [.null]
  | .bool b => [.bool b]
  | .number d => [.number d]
  | .string s => [.string s]
  | .array [] => [.lbracket, .rbracket]
  | .array (v :: items) => .lbracket :: (tokens v ++ itemTokens items)
  | .object [] => [.lbrace, .rbrace]
  | .object ((name, v) :: members) =>
    .lbrace :: .string name :: .colon :: (tokens v ++ memberTokens members)

def itemTokens : List Json → List Token
  | [] => [.rbracket]
  | v :: items => .comma :: (tokens v ++ itemTokens items)

def memberTokens : List (String × Json) → List Token
  | [] => [.rbrace]
  | (name, v) :: members =>
    .comma :: .string name :: .colon :: (tokens v ++ memberTokens members)

end

def encode (v : Json) : List UInt8 := Utf8.encode (print (tokens v))

mutual

/-- The loosely typed value; a number that overflows a double has none. -/
def toAny : Json → Option Json
  | .null => some .null
  | .bool b => some (.bool b)
  | .number d => d.float64.map .number
  | .string s => some (.string s)
  | .array items => (toAnyItems items).map .array
  | .object members => (toAnyMembers members Fields.empty).map fun f => .object f.entries

def toAnyItems : List Json → Option (List Json)
  | [] => some []
  | v :: items => (toAny v).bind fun v => (toAnyItems items).map (v :: ·)

def toAnyMembers : List (String × Json) → Fields Json → Option (Fields Json)
  | [], f => some f
  | (name, v) :: members, f => (toAny v).bind fun v => toAnyMembers members (f.insert name v)

end

/-- A text as a map of loosely typed values. The text `null` leaves the map empty. -/
def unmarshal (bytes : List UInt8) : Option (Fields Json) :=
  (decode bytes).bind fun v =>
    match v with
    | .object members => toAnyMembers members Fields.empty
    | .null => some Fields.empty
    | _ => none

def marshal (f : Fields Json) : List UInt8 := encode (.object f.entries)

end Definitions

/-- A loosely typed value with at most `n` levels of arrays and objects whose numbers
are integers that a double holds. -/
inductive Canonical : Nat → Json → Prop
  | null {n : Nat} : Canonical n .null
  | bool {n : Nat} (b : Bool) : Canonical n (.bool b)
  | number {n : Nat} {d : Decimal} (hinteger : d.isInteger = true)
      (hbound : d.integer ≤ 2 ^ 53) : Canonical n (.number d)
  | string {n : Nat} (s : String) : Canonical n (.string s)
  | array {n : Nat} {items : List Json} (hitems : ∀ v ∈ items, Canonical n v) :
      Canonical (n + 1) (.array items)
  | object {n : Nat} {members : List (String × Json)}
      (hsorted : members.Pairwise fun a b => a.1 < b.1)
      (hmembers : ∀ entry ∈ members, Canonical n entry.2) : Canonical (n + 1) (.object members)

section Parser

theorem run_cons {state state' : State} {t : Token} (tokens : List Token)
    (h : step state t = some state') : run state (t :: tokens) = run state' tokens := by
  rw [run, h]
  rfl

theorem run_items (v : Json) (stack : List Container) (rest : List Token) :
    run (.items stack) (tokens v ++ rest) =
      run (.value (.array [] :: stack)) (tokens v ++ rest) := by
  cases v with
  | null => rfl
  | bool b => rfl
  | number d => rfl
  | string s => rfl
  | array items => cases items <;> rfl
  | object members => cases members <;> rfl

theorem run_itemTokens {items : List Json} {stack : List Container}
    (h : ∀ v ∈ items, ∀ before rest,
      run (.value (.array before :: stack)) (tokens v ++ rest) =
        run (.afterItem (before ++ [v]) stack) rest)
    (before : List Json) (rest : List Token) :
    run (.afterItem before stack) (itemTokens items ++ rest) =
      run (close (.array (before ++ items)) stack) rest := by
  induction items generalizing before with
  | nil =>
    rw [List.append_nil]
    exact run_cons rest (by rfl)
  | cons v items ih =>
    have hrest := ih (fun w hw => h w (List.mem_cons_of_mem v hw)) (before ++ [v])
    calc run (.afterItem before stack) (itemTokens (v :: items) ++ rest)
        = run (.value (.array before :: stack)) (tokens v ++ (itemTokens items ++ rest)) := by
          rw [itemTokens, List.cons_append, List.append_assoc]
          exact run_cons _ (by rfl)
      _ = run (.afterItem (before ++ [v]) stack) (itemTokens items ++ rest) :=
          h v List.mem_cons_self before _
      _ = run (close (.array (before ++ v :: items)) stack) rest := by
          rw [hrest, List.append_assoc]
          rfl

theorem run_memberTokens {members : List (String × Json)} {stack : List Container}
    (h : ∀ entry ∈ members, ∀ before name rest,
      run (.value (.object before name :: stack)) (tokens entry.2 ++ rest) =
        run (.afterMember (before ++ [(name, entry.2)]) stack) rest)
    (before : List (String × Json)) (rest : List Token) :
    run (.afterMember before stack) (memberTokens members ++ rest) =
      run (close (.object (before ++ members)) stack) rest := by
  induction members generalizing before with
  | nil =>
    rw [List.append_nil]
    exact run_cons rest (by rfl)
  | cons entry members ih =>
    obtain ⟨name, v⟩ := entry
    have hrest := ih (fun w hw => h w (List.mem_cons_of_mem _ hw)) (before ++ [(name, v)])
    calc run (.afterMember before stack) (memberTokens ((name, v) :: members) ++ rest)
        = run (.value (.object before name :: stack))
            (tokens v ++ (memberTokens members ++ rest)) := by
          rw [memberTokens, List.cons_append, List.cons_append, List.cons_append,
            List.append_assoc]
          rw [run_cons _ (by rfl), run_cons _ (by rfl), run_cons _ (by rfl)]
      _ = run (.afterMember (before ++ [(name, v)]) stack) (memberTokens members ++ rest) :=
          h (name, v) List.mem_cons_self before name _
      _ = run (close (.object (before ++ (name, v) :: members)) stack) rest := by
          rw [hrest, List.append_assoc]
          rfl

theorem run_tokens {n : Nat} {v : Json} (h : Canonical n v) (stack : List Container)
    (hdepth : stack.length + n ≤ maxNestingDepth) (rest : List Token) :
    run (.value stack) (tokens v ++ rest) = run (close v stack) rest := by
  induction h generalizing stack rest with
  | null => rfl
  | bool b => rfl
  | number => rfl
  | string s => rfl
  | @array n items hitems ih =>
    have hopen : step (.value stack) .lbracket = some (.items stack) :=
      if_pos (by omega)
    cases items with
    | nil =>
      rw [tokens, List.cons_append, run_cons _ hopen]
      exact run_cons rest (by rfl)
    | cons v items =>
      have hvalue : ∀ w ∈ v :: items, ∀ before rest,
          run (.value (.array before :: stack)) (tokens w ++ rest) =
            run (.afterItem (before ++ [w]) stack) rest :=
        fun w hw before rest => ih w hw _ (by rw [List.length_cons]; omega) rest
      rw [tokens, List.cons_append, run_cons _ hopen, List.append_assoc, run_items,
        hvalue v List.mem_cons_self]
      exact run_itemTokens (fun w hw => hvalue w (List.mem_cons_of_mem v hw)) [v] rest
  | @object n members hsorted hmembers ih =>
    have hopen : step (.value stack) .lbrace = some (.members stack) :=
      if_pos (by omega)
    cases members with
    | nil =>
      rw [tokens, List.cons_append, run_cons _ hopen]
      exact run_cons rest (by rfl)
    | cons entry members =>
      obtain ⟨name, v⟩ := entry
      have hvalue : ∀ entry ∈ (name, v) :: members, ∀ before name rest,
          run (.value (.object before name :: stack)) (tokens entry.2 ++ rest) =
            run (.afterMember (before ++ [(name, entry.2)]) stack) rest :=
        fun entry hentry before name rest =>
          ih entry hentry _ (by rw [List.length_cons]; omega) rest
      rw [tokens, List.cons_append, run_cons _ hopen, List.cons_append,
        run_cons _ (by rfl), List.cons_append, run_cons _ (by rfl), List.append_assoc,
        hvalue (name, v) List.mem_cons_self]
      exact run_memberTokens (fun w hw => hvalue w (List.mem_cons_of_mem _ hw)) _ rest

theorem parse_tokens {v : Json} (h : Canonical maxNestingDepth v) :
    parse (tokens v) = some v := by
  have hrun := run_tokens h [] (Nat.le_of_eq (Nat.zero_add _)) []
  rw [List.append_nil] at hrun
  rw [parse, hrun]
  rfl

end Parser

section Lexer

theorem hexValue_hexDigit (n : Nat) : hexValue (hexDigit n) = some (n % 16) := by
  have hall : ∀ k, k < 16 → hexValue (Nat.digitChar k) = some k := by decide
  exact hall (n % 16) (Nat.mod_lt n (by decide))

theorem codeUnit_unicodeEscape {n : Nat} (h : n < 65536) :
    codeUnit (hexDigit (n / 4096)) (hexDigit (n / 256)) (hexDigit (n / 16)) (hexDigit n) =
      some n := by
  simp only [codeUnit, hexValue_hexDigit, Option.bind_eq_bind, Option.bind_some,
    Option.pure_def, Option.some.injEq]
  omega

theorem lexString_quote (rest : List Char) : lexString ('"' :: rest) = some ([], rest) := by
  rw [lexString.eq_def]
  rfl

theorem lexString_unescape {e c : Char} (he : e ≠ 'u') (h : unescape e = some c)
    (rest : List Char) :
    lexString ('\\' :: e :: rest) =
      (lexString rest).map fun r => (.char c :: r.1, r.2) := by
  rw [lexString.eq_def]
  simp only [reduceCtorEq, Char.reduceEq, ↓reduceIte]
  split
  · rename_i heq
    cases heq
  · rename_i heq
    cases heq
    exact absurd rfl he
  · rename_i heq
    cases heq
    rw [h]
    rfl

theorem lexString_unicodeEscape {n : Nat} (h : n < 65536) (rest : List Char) :
    lexString (unicodeEscape n ++ rest) =
      (lexString rest).map fun r => (.unit n :: r.1, r.2) := by
  simp only [unicodeEscape, List.cons_append, List.nil_append]
  rw [lexString.eq_def]
  simp only [reduceCtorEq, Char.reduceEq, ↓reduceIte]
  simp only [codeUnit_unicodeEscape h, Option.bind_some]

theorem join_unit (c : Char) (ps : List Piece) :
    join (.unit c.toNat :: ps) = c :: join ps := by
  have hscalar : ¬ (0xD800 ≤ c.toNat ∧ c.toNat < 0xE000) := by
    rintro ⟨hlow, hhigh⟩
    rcases c.valid with hvalid | hvalid
    · exact absurd hvalid (Nat.not_lt.mpr hlow)
    · exact absurd hvalid.1 (Nat.not_lt.mpr (Nat.le_of_lt_succ hhigh))
  rw [join.eq_def]
  simp only [if_neg hscalar, Char.ofNat_toNat]

theorem lexString_escape (c : Char) (rest : List Char) :
    ∃ p, (∀ ps, join (p :: ps) = c :: join ps) ∧
      lexString (escape c ++ rest) = (lexString rest).map fun r => (p :: r.1, r.2) := by
  have hsimple : ∀ {e c : Char}, e ≠ 'u' → unescape e = some c →
      ∃ p, (∀ ps, join (p :: ps) = c :: join ps) ∧
        lexString (['\\', e] ++ rest) = (lexString rest).map fun r => (p :: r.1, r.2) :=
    fun he h => ⟨.char _, fun _ => rfl, lexString_unescape he h rest⟩
  rw [escape]
  split
  · rename_i hc
    subst hc
    exact hsimple (e := '"') (by decide) (by decide)
  split
  · rename_i hc
    subst hc
    exact hsimple (e := '\\') (by decide) (by decide)
  split
  · rename_i hc
    subst hc
    exact hsimple (e := 'b') (by decide) (by decide)
  split
  · rename_i hc
    subst hc
    exact hsimple (e := 'f') (by decide) (by decide)
  split
  · rename_i hc
    subst hc
    exact hsimple (e := 'n') (by decide) (by decide)
  split
  · rename_i hc
    subst hc
    exact hsimple (e := 'r') (by decide) (by decide)
  split
  · rename_i hc
    subst hc
    exact hsimple (e := 't') (by decide) (by decide)
  split
  · rename_i hc
    have hbound : c.toNat < 65536 := by
      rcases hc with h | rfl | rfl | rfl | h | h
      · omega
      · decide
      · decide
      · decide
      · omega
      · omega
    exact ⟨.unit c.toNat, join_unit c, lexString_unicodeEscape hbound rest⟩
  · rename_i hquote hbackslash _ _ _ _ _ hplain
    refine ⟨.char c, fun _ => rfl, ?_⟩
    rw [List.singleton_append, lexString.eq_def]
    simp only [if_neg hquote, if_neg hbackslash, if_neg fun h => hplain (.inl h)]

theorem lexString_flatMap_escape (cs rest : List Char) :
    ∃ ps, join ps = cs ∧ lexString (cs.flatMap escape ++ '"' :: rest) = some (ps, rest) := by
  induction cs with
  | nil => exact ⟨[], rfl, lexString_quote rest⟩
  | cons c cs ih =>
    obtain ⟨ps, hjoin, hlex⟩ := ih
    obtain ⟨p, hpiece, hescape⟩ := lexString_escape c (cs.flatMap escape ++ '"' :: rest)
    refine ⟨p :: ps, by rw [hpiece, hjoin], ?_⟩
    rw [List.flatMap_cons, List.append_assoc, hescape, hlex]
    rfl

theorem span_digits {digits rest : List Char} (hdigits : ∀ c ∈ digits, c.isDigit = true)
    (hrest : ∀ c ∈ rest.head?, c.isDigit = false) :
    (digits ++ rest).span Char.isDigit = (digits, rest) := by
  have hstop : rest.takeWhile Char.isDigit = [] ∧ rest.dropWhile Char.isDigit = rest := by
    cases rest with
    | nil => exact ⟨rfl, rfl⟩
    | cons c rest =>
      have hc := hrest c rfl
      exact ⟨List.takeWhile_cons_of_neg (by simp [hc]),
        List.dropWhile_cons_of_neg (by simp [hc])⟩
  rw [List.span_eq_takeWhile_dropWhile, List.takeWhile_append_of_pos hdigits,
    List.dropWhile_append_of_pos hdigits, hstop.1, hstop.2, List.append_nil]

theorem head_toDigits_ne_zero {n : Nat} (h : 0 < n) : (Nat.toDigits 10 n).head? ≠ some '0' := by
  induction n using Nat.strongRecOn with
  | ind n ih =>
    rw [Nat.toDigits_eq_if (by decide)]
    split
    · rename_i hlt
      have hall : ∀ k, k < 10 → 0 < k → [Nat.digitChar k].head? ≠ some '0' := by decide
      exact hall n hlt h
    · have hhead := ih (n / 10) (Nat.div_lt_self h (by decide)) (by omega)
      cases hdigits : Nat.toDigits 10 (n / 10) with
      | nil => exact absurd hdigits Nat.toDigits_ne_nil
      | cons c digits =>
        rw [hdigits] at hhead
        exact hhead

/-- A character at which a number ends, in a text as it is printed here. -/
def Delimited (cs : List Char) : Prop := ∀ c ∈ cs.head?, c = ',' ∨ c = ']' ∨ c = '}'

theorem Delimited.not_isDigit {cs : List Char} (h : Delimited cs) :
    ∀ c ∈ cs.head?, c.isDigit = false := by
  intro c hc
  rcases h c hc with rfl | rfl | rfl <;> rfl

variable {rest : List Char}

theorem lexInteger_toDigits (n : Nat) (hrest : Delimited rest) :
    lexInteger (Nat.toDigits 10 n ++ rest) = some (n, rest) := by
  have hdigits : ∀ c ∈ Nat.toDigits 10 n, c.isDigit = true :=
    fun c hc => Nat.isDigit_of_mem_toDigits (b := 10) (by decide) (by decide) hc
  have hzero : ¬ ((Nat.toDigits 10 n).head? = some '0' ∧ Nat.toDigits 10 n ≠ ['0']) := by
    rintro ⟨hhead, hne⟩
    rcases Nat.eq_zero_or_pos n with rfl | hpos
    · exact hne (Nat.toDigits_zero 10)
    · exact head_toDigits_ne_zero hpos hhead
  rw [lexInteger, span_digits hdigits hrest.not_isDigit]
  cases htext : Nat.toDigits 10 n with
  | nil => exact absurd htext Nat.toDigits_ne_nil
  | cons c digits =>
    rw [htext] at hzero
    show (if (c :: digits).head? = some '0' ∧ c :: digits ≠ ['0'] then none
      else some (Nat.ofDigitChars 10 (c :: digits) 0, rest)) = some (n, rest)
    rw [if_neg hzero, ← htext, Nat.ofDigitChars_ten_toDigits]

theorem lexFraction_delimited (h : Delimited rest) :
    lexFraction rest = some (none, rest) := by
  cases rest with
  | nil => rfl
  | cons c rest => rcases h c rfl with rfl | rfl | rfl <;> rfl

theorem lexExponent_delimited (h : Delimited rest) :
    lexExponent rest = some (none, rest) := by
  cases rest with
  | nil => rfl
  | cons c rest => rcases h c rfl with rfl | rfl | rfl <;> rfl

theorem eq_of_isInteger {d : Decimal} (h : d.isInteger = true) :
    d = ⟨d.negative, d.integer, none, none⟩ := by
  obtain ⟨negative, integer, fraction, exponent⟩ := d
  obtain ⟨hfraction, hexponent⟩ := Bool.and_eq_true_iff.mp h
  obtain rfl := Option.isNone_iff_eq_none.mp hfraction
  obtain rfl := Option.isNone_iff_eq_none.mp hexponent
  rfl

theorem exists_toDigits (n : Nat) :
    ∃ c digits, Nat.toDigits 10 n = c :: digits ∧ c.isDigit = true := by
  cases htext : Nat.toDigits 10 n with
  | nil => exact absurd htext Nat.toDigits_ne_nil
  | cons c digits =>
    refine ⟨c, digits, rfl, Nat.isDigit_of_mem_toDigits (n := n) (b := 10) ?_ ?_ ?_⟩
    · decide
    · decide
    · rw [htext]
      exact List.mem_cons_self

theorem lexNumber_text {d : Decimal} (h : d.isInteger = true)
    (hrest : Delimited rest) : lexNumber (d.text ++ rest) = some (d, rest) := by
  have hinteger := lexInteger_toDigits d.integer hrest
  rw [eq_of_isInteger h]
  cases d.negative with
  | true =>
    simp [Decimal.text, lexNumber, hinteger, lexFraction_delimited hrest,
      lexExponent_delimited hrest]
  | false =>
    obtain ⟨c, digits, hdigits, hc⟩ := exists_toDigits d.integer
    have hsign : c ≠ '-' := by
      rintro rfl
      cases hc
    rw [hdigits] at hinteger
    simp only [List.cons_append] at hinteger
    simp [Decimal.text, lexNumber, hdigits, hsign, hinteger, lexFraction_delimited hrest,
      lexExponent_delimited hrest]

theorem exists_text {d : Decimal} (h : d.isInteger = true) :
    ∃ c tail, d.text = c :: tail ∧ (c = '-' || c.isDigit) = true := by
  obtain ⟨c, digits, hdigits, hc⟩ := exists_toDigits d.integer
  rw [eq_of_isInteger h]
  cases d.negative with
  | true => exact ⟨'-', _, rfl, rfl⟩
  | false => exact ⟨c, digits, by simp [Decimal.text, hdigits], by simp [hc]⟩

def Token.Plain : Token → Prop
  | .number d => d.isInteger = true
  | _ => True

def Token.EndsAt (t : Token) (rest : List Char) : Prop :=
  ∀ d, t = .number d → Delimited rest

theorem nextToken_text {t : Token} (hplain : t.Plain)
    (hends : t.EndsAt rest) : nextToken (t.text ++ rest) = some (t, rest) := by
  cases t with
  | lbrace => rfl
  | rbrace => rfl
  | lbracket => rfl
  | rbracket => rfl
  | comma => rfl
  | colon => rfl
  | null => rfl
  | bool b => cases b <;> rfl
  | number d =>
    obtain ⟨c, tail, htext, hc⟩ := exists_text hplain
    have hnumber := lexNumber_text hplain (hends d rfl)
    rw [htext, List.cons_append] at hnumber
    rw [Token.text, htext, List.cons_append, nextToken.eq_def]
    simp only [hc, ↓reduceIte, hnumber, Option.map_some]
  | string s =>
    obtain ⟨ps, hjoin, hlex⟩ := lexString_flatMap_escape s.toList rest
    have htext : (Token.string s).text ++ rest =
        '"' :: (s.toList.flatMap escape ++ '"' :: rest) := by
      simp [Token.text]
    calc nextToken ((Token.string s).text ++ rest)
        = (lexString (s.toList.flatMap escape ++ '"' :: rest)).map
            fun r => (.string (String.ofList (join r.1)), r.2) := by
          rw [htext]
          rfl
      _ = some (.string (String.ofList s.toList), rest) := by
          rw [hlex, Option.map_some, hjoin]
      _ = some (.string s, rest) := by rw [String.ofList_toList]

theorem text_head {t : Token} (hplain : t.Plain) :
    ∃ c tail, t.text = c :: tail ∧ isSpace c = false := by
  cases t with
  | lbrace => exact ⟨_, _, rfl, rfl⟩
  | rbrace => exact ⟨_, _, rfl, rfl⟩
  | lbracket => exact ⟨_, _, rfl, rfl⟩
  | rbracket => exact ⟨_, _, rfl, rfl⟩
  | comma => exact ⟨_, _, rfl, rfl⟩
  | colon => exact ⟨_, _, rfl, rfl⟩
  | null => exact ⟨_, _, rfl, rfl⟩
  | bool b => cases b <;> exact ⟨_, _, rfl, rfl⟩
  | number d =>
    obtain ⟨c, tail, htext, hc⟩ := exists_text hplain
    refine ⟨c, tail, htext, ?_⟩
    simp only [isSpace, Bool.or_eq_false_iff, decide_eq_false_iff_not]
    refine ⟨⟨⟨?_, ?_⟩, ?_⟩, ?_⟩ <;>
      · rintro rfl
        cases hc
  | string s => exact ⟨_, _, rfl, rfl⟩

def Readable (tokens : List Token) : Prop :=
  ∀ n, (print tokens).length ≤ n → lexWithin n (print tokens) = some tokens

theorem readable_nil : Readable [] := by
  intro n _
  cases n <;> rfl

theorem readable_cons {t : Token} {tokens : List Token} (hplain : t.Plain)
    (hends : t.EndsAt (print tokens)) (h : Readable tokens) : Readable (t :: tokens) := by
  intro n hn
  obtain ⟨c, tail, htext, hspace⟩ := text_head hplain
  have hprint : print (t :: tokens) = c :: (tail ++ print tokens) := by
    rw [print, List.flatMap_cons, htext]
    rfl
  have hnext := nextToken_text hplain hends
  rw [htext, List.cons_append] at hnext
  rw [hprint, List.length_cons, List.length_append] at hn
  cases n with
  | zero => omega
  | succ n =>
    rw [hprint, lexWithin, hspace, if_neg Bool.false_ne_true, hnext, Option.bind_some,
      h n (by omega)]
    rfl

theorem readable_cons_of_ne {t : Token} {tokens : List Token}
    (ht : ∀ d, t ≠ .number d) (h : Readable tokens) : Readable (t :: tokens) := by
  refine readable_cons ?_ (fun d hd => absurd hd (ht d)) h
  cases t with
  | number d => exact absurd rfl (ht d)
  | _ => trivial

theorem readable_itemTokens {items : List Json}
    (h : ∀ v ∈ items, ∀ rest, Readable rest → Delimited (print rest) →
      Readable (tokens v ++ rest))
    {rest : List Token} (hrest : Readable rest) :
    Readable (itemTokens items ++ rest) ∧ Delimited (print (itemTokens items ++ rest)) := by
  induction items with
  | nil =>
    refine ⟨readable_cons_of_ne (fun d => nofun) hrest, ?_⟩
    intro c hc
    cases hc
    exact .inr (.inl rfl)
  | cons v items ih =>
    obtain ⟨hreadable, hdelimited⟩ := ih fun w hw => h w (List.mem_cons_of_mem v hw)
    have hvalue := h v List.mem_cons_self _ hreadable hdelimited
    rw [itemTokens, List.cons_append, List.append_assoc]
    refine ⟨readable_cons_of_ne (fun d => nofun) hvalue, ?_⟩
    intro c hc
    cases hc
    exact .inl rfl

theorem readable_memberTokens {members : List (String × Json)}
    (h : ∀ entry ∈ members, ∀ rest, Readable rest → Delimited (print rest) →
      Readable (tokens entry.2 ++ rest))
    {rest : List Token} (hrest : Readable rest) :
    Readable (memberTokens members ++ rest) ∧
      Delimited (print (memberTokens members ++ rest)) := by
  induction members with
  | nil =>
    refine ⟨readable_cons_of_ne (fun d => nofun) hrest, ?_⟩
    intro c hc
    cases hc
    exact .inr (.inr rfl)
  | cons entry members ih =>
    obtain ⟨name, v⟩ := entry
    obtain ⟨hreadable, hdelimited⟩ := ih fun w hw => h w (List.mem_cons_of_mem _ hw)
    have hvalue := h (name, v) List.mem_cons_self _ hreadable hdelimited
    have hname := readable_cons_of_ne (t := .string name) (fun d => nofun)
      (readable_cons_of_ne (t := .colon) (fun d => nofun) hvalue)
    rw [memberTokens, List.cons_append, List.cons_append, List.cons_append,
      List.append_assoc]
    refine ⟨readable_cons_of_ne (fun d => nofun) hname, ?_⟩
    intro c hc
    cases hc
    exact .inl rfl

theorem readable_tokens {n : Nat} {v : Json} (h : Canonical n v) {rest : List Token}
    (hrest : Readable rest) (hdelimited : Delimited (print rest)) :
    Readable (tokens v ++ rest) := by
  induction h generalizing rest with
  | null => exact readable_cons_of_ne (fun d => nofun) hrest
  | bool b => exact readable_cons_of_ne (fun d => nofun) hrest
  | number hinteger => exact readable_cons hinteger (fun _ _ => hdelimited) hrest
  | string s => exact readable_cons_of_ne (fun d => nofun) hrest
  | @array n items hitems ih =>
    have hvalue : ∀ v ∈ items, ∀ rest, Readable rest → Delimited (print rest) →
        Readable (tokens v ++ rest) := fun v hv _ hrest => ih v hv hrest
    cases items with
    | nil =>
      exact readable_cons_of_ne (fun d => nofun)
        (readable_cons_of_ne (fun d => nofun) hrest)
    | cons v items =>
      obtain ⟨hreadable, hdelimited⟩ := readable_itemTokens
        (fun w hw => hvalue w (List.mem_cons_of_mem v hw)) hrest
      rw [tokens, List.cons_append, List.append_assoc]
      exact readable_cons_of_ne (fun d => nofun)
        (hvalue v List.mem_cons_self _ hreadable hdelimited)
  | @object n members hsorted hmembers ih =>
    have hvalue : ∀ entry ∈ members, ∀ rest, Readable rest → Delimited (print rest) →
        Readable (tokens entry.2 ++ rest) := fun entry hentry _ hrest => ih entry hentry hrest
    cases members with
    | nil =>
      exact readable_cons_of_ne (fun d => nofun)
        (readable_cons_of_ne (fun d => nofun) hrest)
    | cons entry members =>
      obtain ⟨name, v⟩ := entry
      obtain ⟨hreadable, hdelimited⟩ := readable_memberTokens
        (fun w hw => hvalue w (List.mem_cons_of_mem _ hw)) hrest
      rw [tokens, List.cons_append, List.cons_append, List.cons_append, List.append_assoc]
      exact readable_cons_of_ne (fun d => nofun)
        (readable_cons_of_ne (fun d => nofun)
          (readable_cons_of_ne (fun d => nofun)
            (hvalue (name, v) List.mem_cons_self _ hreadable hdelimited)))

theorem lex_print_tokens {n : Nat} {v : Json} (h : Canonical n v) :
    lex (print (tokens v)) = some (tokens v) := by
  have hreadable := readable_tokens h readable_nil (by intro c hc; cases hc)
  rw [List.append_nil] at hreadable
  exact hreadable _ le_rfl

end Lexer

section Values

theorem toAnyItems_eq {items : List Json} (h : ∀ v ∈ items, toAny v = some v) :
    toAnyItems items = some items := by
  induction items with
  | nil => rfl
  | cons v items ih =>
    rw [toAnyItems, h v List.mem_cons_self,
      Option.bind_some, ih fun w hw => h w (List.mem_cons_of_mem v hw)]
    rfl

theorem toAnyMembers_eq {members : List (String × Json)}
    (h : ∀ entry ∈ members, toAny entry.2 = some entry.2) {f : Fields Json}
    (hsorted : (f.entries ++ members).Pairwise fun a b => a.1 < b.1) :
    toAnyMembers members f = some ⟨f.entries ++ members, hsorted⟩ := by
  induction members generalizing f with
  | nil => simp [toAnyMembers]
  | cons entry members ih =>
    obtain ⟨name, v⟩ := entry
    have hlast : ∀ entry ∈ f.entries, entry.1 < name := fun entry hentry =>
      (List.pairwise_append.mp hsorted).2.2 entry hentry (name, v) List.mem_cons_self
    have hinsert : (f.insert name v).entries ++ members = f.entries ++ (name, v) :: members := by
      rw [Fields.entries_insert_of_lt hlast, List.append_assoc]
      rfl
    rw [toAnyMembers, h (name, v) List.mem_cons_self, Option.bind_some,
      ih (fun w hw => h w (List.mem_cons_of_mem _ hw)) (hinsert ▸ hsorted)]
    simp only [hinsert]

theorem toAny_of_canonical {n : Nat} {v : Json} (h : Canonical n v) : toAny v = some v := by
  induction h with
  | null => rfl
  | bool b => rfl
  | number hinteger hbound => rw [toAny, Decimal.float64_of_integer hinteger hbound]; rfl
  | string s => rfl
  | array hitems ih => rw [toAny, toAnyItems_eq ih]; rfl
  | object hsorted hmembers ih =>
    rw [toAny, toAnyMembers_eq (f := Fields.empty) ih hsorted]
    rfl

theorem decode_marshal {f : Fields Json} (h : Canonical maxNestingDepth (.object f.entries)) :
    decode (marshal f) = some (.object f.entries) := by
  rw [decode, marshal, encode, Utf8.decode_encode, lex_print_tokens h, Option.bind_some,
    parse_tokens h]

theorem unmarshal_marshal {f : Fields Json}
    (h : Canonical maxNestingDepth (.object f.entries)) : unmarshal (marshal f) = some f := by
  have hmembers : ∀ entry ∈ f.entries, toAny entry.2 = some entry.2 := by
    cases h with
    | object hsorted hmembers => exact fun entry hentry => toAny_of_canonical (hmembers entry hentry)
  rw [unmarshal, decode_marshal h, Option.bind_some]
  exact toAnyMembers_eq (f := Fields.empty) hmembers f.sorted

def ReadAs (a b : String × Json) : Prop := a.1 = b.1 ∧ toAny a.2 = some b.2

theorem readAs_insertEntry {name : String} {v w : Json} (h : toAny v = some w)
    {xs ys : List (String × Json)} (hread : List.Forall₂ ReadAs xs ys) :
    List.Forall₂ ReadAs (Fields.insertEntry name v xs) (Fields.insertEntry name w ys) := by
  induction hread with
  | nil => exact .cons ⟨rfl, h⟩ .nil
  | @cons a b xs ys hentry hrest ih =>
    rw [Fields.insertEntry, Fields.insertEntry, ← hentry.1]
    split
    · exact .cons ⟨rfl, h⟩ (.cons hentry hrest)
    · split
      · exact .cons ⟨rfl, h⟩ hrest
      · exact .cons hentry ih

theorem readAs_toAnyMembers {members : List (String × Json)} {f g h : Fields Json}
    (hread : List.Forall₂ ReadAs f.entries g.entries) (heq : toAnyMembers members g = some h) :
    List.Forall₂ ReadAs
      (members.foldl (fun f entry => f.insert entry.1 entry.2) f).entries h.entries := by
  induction members generalizing f g with
  | nil =>
    cases heq
    exact hread
  | cons entry members ih =>
    obtain ⟨name, v⟩ := entry
    obtain ⟨w, hw, hmembers⟩ := Option.bind_eq_some_iff.mp heq
    exact ih (f := f.insert name v) (g := g.insert name w) (readAs_insertEntry hw hread) hmembers

theorem eq_of_readAs {xs ys : List (String × Json)} (hread : List.Forall₂ ReadAs xs ys)
    (h : ∀ entry ∈ xs, toAny entry.2 = some entry.2) : ys = xs := by
  induction hread with
  | nil => rfl
  | @cons a b xs ys hentry hrest ih =>
    have ha : b = a := by
      have hvalue := hentry.2
      rw [h a List.mem_cons_self] at hvalue
      exact Prod.ext hentry.1.symm (Option.some.inj hvalue).symm
    rw [ha, ih fun entry hentry => h entry (List.mem_cons_of_mem a hentry)]

end Values

end Branch.Lib.Json
