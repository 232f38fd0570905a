import Mathlib.Algebra.Ring.Nat

/-!
Decimal literals of JSON texts, and the literal that is left of one after it has been
read as a 64-bit floating-point number and printed again.
-/

namespace Branch.Lib

/-- A number as JSON writes it. `fraction` has the digits after the point. -/
structure Decimal where
  negative : Bool
  integer : Nat
  fraction : Option (List Char)
  exponent : Option Int
  deriving DecidableEq, Repr

namespace Decimal

def ofNat (n : Nat) : Decimal := ⟨false, n, none, none⟩

def isInteger (d : Decimal) : Bool := d.fraction.isNone && d.exponent.isNone

def text (d : Decimal) : List Char :=
  (if d.negative then ['-'] else []) ++ Nat.toDigits 10 d.integer ++
    (match d.fraction with
      | none => []
      | some digits => '.' :: digits) ++
    (match d.exponent with
      | none => []
      | some e => 'e' :: (if e < 0 then '-' else '+') :: Nat.toDigits 10 e.natAbs)

def quotient (d : Decimal) : Nat × Nat :=
  let digits := d.fraction.getD []
  let scale := d.exponent.getD 0 - digits.length
  (Nat.ofDigitChars 10 digits d.integer * 10 ^ scale.toNat, 10 ^ (-scale).toNat)

/-- A positive or zero double, `mantissa * 2 ^ exponent`. -/
structure Double where
  mantissa : Nat
  exponent : Int
  deriving DecidableEq, Repr

def roundHalfEven (num den : Nat) : Nat :=
  let q := num / den
  let r := num % den
  if 2 * r < den ∨ (2 * r = den ∧ q % 2 = 0) then q else q + 1

/-- `num / den` in multiples of `b ^ e`, as a quotient. -/
def inUnits (b : Nat) (num den : Nat) (e : Int) : Nat × Nat :=
  (num * b ^ (-e).toNat, den * b ^ e.toNat)

/-- Round to nearest, ties to even; `none` is an overflow. -/
def toDouble (num den : Nat) : Option Double :=
  if num = 0 then some ⟨0, 0⟩
  else
    let e : Int := Nat.log2 num - Nat.log2 den - 52
    let unit := inUnits 2 num den e
    let e := max (-1074) (if unit.1 < 2 ^ 52 * unit.2 then e - 1 else e)
    let unit := inUnits 2 num den e
    let m := roundHalfEven unit.1 unit.2
    let double : Double := if m = 2 ^ 53 then ⟨2 ^ 52, e + 1⟩ else ⟨m, e⟩
    if 971 < double.exponent then none else some double

namespace Double

def quotient (x : Double) : Nat × Nat :=
  (x.mantissa * 2 ^ x.exponent.toNat, 2 ^ (-x.exponent).toNat)

/-- How many digits stand before the point; for a fraction below a tenth it is the
number of zeros behind the point, negated. -/
def digitsBeforePoint (x : Double) : Int :=
  let q := x.quotient
  if q.2 ≤ q.1 then (Nat.toDigits 10 (q.1 / q.2)).length
  else
    match (List.range 330).find? fun zeros => q.2 ≤ q.1 * 10 ^ (zeros + 1) with
    | some zeros => -zeros
    | none => 0

/-- The decimal of `n` digits that reads back as `x`, and of two such the closer one. -/
def withDigits (x : Double) (n : Nat) : Option (Nat × Int) :=
  let q := x.quotient
  let p := x.digitsBeforePoint - n
  let unit := inUnits 10 q.1 q.2 p
  let below := unit.1 / unit.2
  let nearest := roundHalfEven unit.1 unit.2
  let readsBack (d : Nat) : Bool :=
    let value := inUnits 10 d 1 (-p)
    toDouble value.1 value.2 = some x
  ([nearest, below, below + 1].find? readsBack).map fun d =>
    if d = 10 ^ n then (1, p + n) else (d, p)

/-- The shortest decimal that reads back as `x`. -/
def shortest (x : Double) : Nat × Int :=
  ((List.range 17).findSome? fun n => x.withDigits (n + 1)).getD (0, 0)

/-- Plain digits, or the exponent form below `1e-6` and from `1e21` on. -/
def format (x : Double) (negative : Bool) : Decimal :=
  if x.mantissa = 0 then ⟨negative, 0, none, none⟩
  else
    let d := x.shortest.1
    let p := x.shortest.2
    let digits := Nat.toDigits 10 d
    let k := digits.length + p
    if k ≤ -6 ∨ 22 ≤ k then
      ⟨negative, Nat.ofDigitChars 10 (digits.take 1) 0,
        if digits.length = 1 then none else some (digits.drop 1), some (k - 1)⟩
    else if 0 ≤ p then ⟨negative, d * 10 ^ p.toNat, none, none⟩
    else
      let width := (-p).toNat
      let behind := Nat.toDigits 10 (d % 10 ^ width)
      ⟨negative, d / 10 ^ width,
        some (List.replicate (width - behind.length) '0' ++ behind), none⟩

end Double

/-- The literal after a round trip through a double; `none` is an overflow. Integers up
to `2 ^ 53` are doubles and print as they stand. -/
def float64 (d : Decimal) : Option Decimal :=
  if d.isInteger ∧ d.integer ≤ 2 ^ 53 then some d
  else (toDouble d.quotient.1 d.quotient.2).map fun x => x.format d.negative

theorem float64_of_integer {d : Decimal} (hinteger : d.isInteger = true)
    (hbound : d.integer ≤ 2 ^ 53) : d.float64 = some d :=
  if_pos ⟨hinteger, hbound⟩

end Decimal

end Branch.Lib
