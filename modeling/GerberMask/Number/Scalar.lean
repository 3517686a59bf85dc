import GerberMask.Number.Binary
import GerberMask.Number.Decimal

/-!
# Scalars

Coordinates are decoded, accumulated and framed by the same formulas whatever the numbers are:
binary numbers when the program runs, exact rationals (or any ordered field) when the formulas
themselves are judged. A `Scalar` type has the four operations, a strict order, a reading of
decimals and the two ways out, to the nearest integer and to the number that is drawn.
-/

namespace GerberMask

/-- Numbers that coordinates can be computed in. -/
class Scalar (α : Type) extends Add α, Sub α, Mul α, Div α, Neg α where
  /-- The first number is strictly below the second. -/
  less : α → α → Bool
  /-- The two numbers have the same value. -/
  same : α → α → Bool
  /-- The number that a decimal stands for. -/
  ofDecimal : Decimal → α
  /-- Neither infinite nor "not a number". -/
  isFinite : α → Bool
  /-- The nearest integer, halves away from zero, within the range of signed 64-bit integers. -/
  nearestInt : α → Int
  /-- The binary number at which a coordinate is drawn. -/
  toFloat : α → Float

/-- Binary numbers: every operation rounds. -/
instance : Scalar Float where
  less a b := a < b
  same a b := a == b
  ofDecimal := Decimal.toFloat
  isFinite := Float.isFinite
  nearestInt := nearestInt64
  toFloat x := x

/-- Rational numbers: no operation rounds. -/
instance : Scalar Rat where
  less a b := a < b
  same a b := a == b
  ofDecimal := Decimal.toRat
  isFinite _ := true
  nearestInt q := clampInt64 (roundRat q)
  toFloat q := Float.ofInt q.num / Float.ofNat q.den

namespace Scalar

variable {α : Type} [Scalar α]

/-- A natural number as a scalar. -/
def ofNat (n : Nat) : α :=
  ofDecimal (.ofNat n)

/-- The scalar zero. -/
def zero : α :=
  ofDecimal .zero

/-- The distance from zero. -/
def abs (x : α) : α :=
  if less x zero then -x else x

/-- Repeated squaring: `r · a ^ n` for `n ≥ 1`, and `r` for `n = 0`. -/
def powLoop (r a : α) (n : Nat) : α :=
  let r := if n % 2 = 1 then r * a else r
  if n / 2 = 0 then r else powLoop r (a * a) (n / 2)
termination_by n

/-- The power of ten with an integer exponent, by repeated squaring. -/
def tenPow (n : Int) : α :=
  let p : α := powLoop (ofNat 1) (ofNat 10) n.natAbs
  if n < 0 then ofNat 1 / p else p

end Scalar

end GerberMask
