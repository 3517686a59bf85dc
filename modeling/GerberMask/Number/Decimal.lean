/-!
# Decimal literals

The grammar of a number in text: an optional sign, digits with at most one point among them and at
least one digit in all, and an optional exponent. Infinity and "not a number" can be written as
words. `Literal.read?` reads this grammar exactly and keeps the value as it is written, a
coefficient times a power of ten; `Decimal.toFloat` is the nearest binary number.
Natural numbers (`readNat?`) are digits with an optional plus sign.
-/

namespace GerberMask

/-- The number `± coefficient · 10 ^ exponent`. -/
structure Decimal where
  negative : Bool
  coefficient : Nat
  exponent : Int
  deriving DecidableEq, Repr

namespace Decimal

/-- The number zero. -/
def zero : Decimal := ⟨false, 0, 0⟩

/-- A natural number as a decimal. -/
def ofNat (n : Nat) : Decimal := ⟨false, n, 0⟩

/-- The exact value. -/
def toRat (d : Decimal) : Rat :=
  let magnitude : Rat := d.coefficient * (10 : Rat) ^ d.exponent
  if d.negative then -magnitude else magnitude

/-- The nearest binary number, ties to even. A coefficient of `b` bits is below `10 ^ (0.302 · b)`,
so a value that is certain to lie beyond the range of binary numbers is decided without
computing its power of ten. -/
def toFloat (d : Decimal) : Float :=
  let magnitude : Float :=
    if d.coefficient = 0 then 0
    else if 400 < d.exponent then 1.0 / 0.0
    else if 302 * (d.coefficient.log2 + 1 : Nat) + 1000 * d.exponent < -400000 then 0
    else Float.ofScientific d.coefficient (d.exponent < 0) d.exponent.natAbs
  if d.negative then -magnitude else magnitude

end Decimal

/-! ### Digits -/

/-- The value of a digit. -/
def digitValue (c : Char) : Nat :=
  c.toNat - '0'.toNat

/-- The number that a list of digits writes. -/
def digitsValue (cs : List Char) : Nat :=
  cs.foldl (fun n c ↦ 10 * n + digitValue c) 0

/-- Takes a leading sign off a text; true stands for minus. -/
def takeSign : List Char → Bool × List Char
  | '-' :: rest => (true, rest)
  | '+' :: rest => (false, rest)
  | cs => (false, cs)

/-- Reads a natural number: digits, with an optional plus sign in front. -/
def readNat? (cs : List Char) : Option Nat :=
  let digits := match cs with
    | '+' :: rest => rest
    | _ => cs
  if digits.isEmpty || !digits.all Char.isDigit then none else some (digitsValue digits)

/-- Reads a natural number below `2 ^ bits`. -/
def readWord? (bits : Nat) (cs : List Char) : Option Nat :=
  (readNat? cs).filter (· < Nat.pow 2 bits)

/-! ### Literals -/

/-- What a number in text can say. -/
inductive Literal where
  | number (d : Decimal)
  | infinity (negative : Bool)
  | notANumber
  deriving DecidableEq, Repr

namespace Literal

/-- Reads an exponent: nothing, or `e` and an optionally signed row of digits. -/
def readExponent? : List Char → Option Int
  | [] => some 0
  | c :: rest =>
    if c = 'e' ∨ c = 'E' then
      let (negative, digits) := takeSign rest
      if digits.isEmpty || !digits.all Char.isDigit then none
      else
        let n : Int := digitsValue digits
        some (if negative then -n else n)
    else none

/-- Reads an unsigned number: digits, a point among them, an exponent. -/
def readMagnitude? (negative : Bool) (cs : List Char) : Option Decimal :=
  let whole := cs.takeWhile Char.isDigit
  let afterWhole := cs.dropWhile Char.isDigit
  let (fraction, afterFraction) := match afterWhole with
    | '.' :: rest => (rest.takeWhile Char.isDigit, rest.dropWhile Char.isDigit)
    | rest => ([], rest)
  if whole.isEmpty && fraction.isEmpty then none
  else
    (readExponent? afterFraction).map fun e ↦
      ⟨negative, digitsValue (whole ++ fraction), e - fraction.length⟩

/-- Reads a number in text; words are read in either letter case. -/
def read? (cs : List Char) : Option Literal :=
  let (negative, body) := takeSign cs
  let word := body.map Char.toLower
  if word = "nan".toList then some .notANumber
  else if word = "inf".toList ∨ word = "infinity".toList then some (.infinity negative)
  else (readMagnitude? negative body).map .number

/-- The nearest binary number. -/
def toFloat : Literal → Float
  | number d => d.toFloat
  | infinity negative => if negative then -1.0 / 0.0 else 1.0 / 0.0
  | notANumber => 0.0 / 0.0

end Literal

/-- Reads a binary number in text. -/
def readFloat? (cs : List Char) : Option Float :=
  (Literal.read? cs).map Literal.toFloat

/-- Reads a binary number that is neither infinite nor "not a number". -/
def readFiniteFloat? (cs : List Char) : Option Float :=
  (readFloat? cs).filter Float.isFinite

end GerberMask
