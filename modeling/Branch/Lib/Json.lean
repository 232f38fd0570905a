import Branch.Lib.Decimal
import Branch.Lib.Utf8
import Mathlib.Data.String.Basic

/-!
JSON texts. A text is cut into tokens and the tokens drive a machine with a stack of
open arrays and objects.
-/

namespace Branch.Lib

/-- The members of an object stand in the order of the text, repeated names included. -/
inductive Json
  | null
  | bool (b : Bool)
  | number (d : Decimal)
  | string (s : String)
  | array (items : List Json)
  | object (members : List (String × Json))

namespace Json

inductive Token
  | lbrace
  | rbrace
  | lbracket
  | rbracket
  | comma
  | colon
  | null
  | bool (b : Bool)
  | number (d : Decimal)
  | string (s : String)
  deriving DecidableEq, Repr

section Parser

/-- An array or object that is still open, with what it has so far. -/
inductive Container
  | array (items : List Json)
  | object (members : List (String × Json)) (name : String)

/-- What the parser expects next, inside the containers of the stack. -/
inductive State
  | value (stack : List Container)
  | items (stack : List Container)
  | members (stack : List Container)
  | name (members : List (String × Json)) (stack : List Container)
  | colon (members : List (String × Json)) (name : String) (stack : List Container)
  | afterItem (items : List Json) (stack : List Container)
  | afterMember (members : List (String × Json)) (stack : List Container)
  | done (v : Json)

def maxNestingDepth : Nat := 10000

/-- The value `v` is complete. -/
def close (v : Json) : List Container → State
  | [] => .done v
  | .array items :: stack => .afterItem (items ++ [v]) stack
  | .object members name :: stack => .afterMember (members ++ [(name, v)]) stack

def begin (stack : List Container) : Token → Option State
  | .lbracket => if stack.length < maxNestingDepth then some (.items stack) else none
  | .lbrace => if stack.length < maxNestingDepth then some (.members stack) else none
  | .null => some (close .null stack)
  | .bool b => some (close (.bool b) stack)
  | .number d => some (close (.number d) stack)
  | .string s => some (close (.string s) stack)
  | _ => none

def step : State → Token → Option State
  | .value stack, t => begin stack t
  | .items stack, .rbracket => some (close (.array []) stack)
  | .items stack, t => begin (.array [] :: stack) t
  | .members stack, .rbrace => some (close (.object []) stack)
  | .members stack, .string name => some (.colon [] name stack)
  | .name members stack, .string name => some (.colon members name stack)
  | .colon members name stack, .colon => some (.value (.object members name :: stack))
  | .afterItem items stack, .comma => some (.value (.array items :: stack))
  | .afterItem items stack, .rbracket => some (close (.array items) stack)
  | .afterMember members stack, .comma => some (.name members stack)
  | .afterMember members stack, .rbrace => some (close (.object members) stack)
  | _, _ => none

def run : State → List Token → Option State
  | state, [] => some state
  | state, t :: tokens => (step state t).bind fun state => run state tokens

def parse (tokens : List Token) : Option Json :=
  match run (.value []) tokens with
  | some (.done v) => some v
  | _ => none

end Parser

section Lexer

def isSpace (c : Char) : Bool := c = ' ' || c = '\t' || c = '\n' || c = '\r'

def hexValue (c : Char) : Option Nat :=
  if '0' ≤ c ∧ c ≤ '9' then some (c.toNat - 48)
  else if 'a' ≤ c ∧ c ≤ 'f' then some (c.toNat - 87)
  else if 'A' ≤ c ∧ c ≤ 'F' then some (c.toNat - 55)
  else none

/-- A character between quotes, or the code unit of a `\u` escape. -/
inductive Piece
  | char (c : Char)
  | unit (u : Nat)
  deriving DecidableEq

def unescape : Char → Option Char
  | '"' => some '"'
  | '\\' => some '\\'
  | '/' => some '/'
  | 'b' => some (Char.ofNat 8)
  | 'f' => some (Char.ofNat 12)
  | 'n' => some '\n'
  | 'r' => some '\r'
  | 't' => some '\t'
  | _ => none

def codeUnit (a b c d : Char) : Option Nat := do
  let a ← hexValue a
  let b ← hexValue b
  let c ← hexValue c
  let d ← hexValue d
  return ((a * 16 + b) * 16 + c) * 16 + d

def lexString : List Char → Option (List Piece × List Char)
  | [] => none
  | c :: rest =>
    if c = '"' then some ([], rest)
    else if c = '\\' then
      match rest with
      | [] => none
      | 'u' :: x :: y :: z :: w :: rest =>
        (codeUnit x y z w).bind fun u =>
          (lexString rest).map fun r => (.unit u :: r.1, r.2)
      | e :: rest =>
        (unescape e).bind fun c =>
          (lexString rest).map fun r => (.char c :: r.1, r.2)
    else if c.toNat < 0x20 then none
    else (lexString rest).map fun r => (.char c :: r.1, r.2)

/-- Surrogate pairs become one character, unpaired surrogates a replacement. -/
def join : List Piece → List Char
  | [] => []
  | .char c :: rest => c :: join rest
  | .unit u :: rest =>
    if 0xD800 ≤ u ∧ u < 0xE000 then
      match rest with
      | .unit v :: rest' =>
        if u < 0xDC00 ∧ 0xDC00 ≤ v ∧ v < 0xE000 then
          Char.ofNat (0x10000 + (u - 0xD800) * 0x400 + (v - 0xDC00)) :: join rest'
        else Utf8.replacement :: join (.unit v :: rest')
      | rest => Utf8.replacement :: join rest
    else Char.ofNat u :: join rest

def lexInteger (cs : List Char) : Option (Nat × List Char) :=
  match cs.span Char.isDigit with
  | ([], _) => none
  | (digits, rest) =>
    if digits.head? = some '0' ∧ digits ≠ ['0'] then none
    else some (Nat.ofDigitChars 10 digits 0, rest)

def lexFraction : List Char → Option (Option (List Char) × List Char)
  | '.' :: rest =>
    match rest.span Char.isDigit with
    | ([], _) => none
    | (digits, rest) => some (some digits, rest)
  | cs => some (none, cs)

def lexExponent : List Char → Option (Option Int × List Char)
  | [] => some (none, [])
  | c :: rest =>
    if c = 'e' ∨ c = 'E' then
      let negative := rest.head? = some '-'
      let unsigned := if negative ∨ rest.head? = some '+' then rest.tail else rest
      match unsigned.span Char.isDigit with
      | ([], _) => none
      | (digits, rest) =>
        let n : Int := Nat.ofDigitChars 10 digits 0
        some (some (if negative then -n else n), rest)
    else some (none, c :: rest)

def lexNumber (cs : List Char) : Option (Decimal × List Char) := do
  let negative := cs.head? = some '-'
  let (integer, cs) ← lexInteger (if negative then cs.tail else cs)
  let (fraction, cs) ← lexFraction cs
  let (exponent, cs) ← lexExponent cs
  return (⟨negative, integer, fraction, exponent⟩, cs)

def nextToken : List Char → Option (Token × List Char)
  | [] => none
  | c :: rest =>
    if c = '-' || c.isDigit then
      (lexNumber (c :: rest)).map fun r => (.number r.1, r.2)
    else
      match c, rest with
      | '{', rest => some (.lbrace, rest)
      | '}', rest => some (.rbrace, rest)
      | '[', rest => some (.lbracket, rest)
      | ']', rest => some (.rbracket, rest)
      | ',', rest => some (.comma, rest)
      | ':', rest => some (.colon, rest)
      | '"', rest =>
        (lexString rest).map fun r => (.string (String.ofList (join r.1)), r.2)
      | 'n', 'u' :: 'l' :: 'l' :: rest => some (.null, rest)
      | 't', 'r' :: 'u' :: 'e' :: rest => some (.bool true, rest)
      | 'f', 'a' :: 'l' :: 's' :: 'e' :: rest => some (.bool false, rest)
      | _, _ => none

def lexWithin : Nat → List Char → Option (List Token)
  | _, [] => some []
  | 0, _ :: _ => none
  | n + 1, c :: cs =>
    if isSpace c then lexWithin n cs
    else (nextToken (c :: cs)).bind fun r => (lexWithin n r.2).map (r.1 :: ·)

/-- Every token takes a character, so the length of the text bounds the recursion. -/
def lex (cs : List Char) : Option (List Token) := lexWithin cs.length cs

end Lexer

def decode (bytes : List UInt8) : Option Json := (lex (Utf8.decode bytes)).bind parse

end Json

end Branch.Lib
