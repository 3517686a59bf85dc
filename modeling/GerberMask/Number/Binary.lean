/-!
# Binary numbers as exact values

A finite binary number is `± mantissa · 2 ^ exponent`; the two are read off its bits
(`Binary.ofFloat?`). On this exact value every rounding is a rounding of a quotient of natural
numbers: to the nearest integer with halves away from zero (`nearestInt64`), and to a fixed number
of decimal places with halves to the even neighbour (`scaledToEven`).
-/

namespace GerberMask

/-- The number `± mantissa · 2 ^ exponent`. -/
structure Binary where
  negative : Bool
  mantissa : Nat
  exponent : Int
  /-- The gap to the next smaller number is half of the gap to the next larger one. -/
  narrowBelow : Bool
  deriving DecidableEq, Repr

/-- The ends of the range of signed 64-bit integers. -/
def int64Min : Int := -0x8000000000000000

@[inherit_doc int64Min]
def int64Max : Int := 0x7fffffffffffffff

/-- The integer of the range of signed 64-bit integers that is nearest to `n`. -/
def clampInt64 (n : Int) : Int :=
  max int64Min (min int64Max n)

namespace Binary

/-- The value of a finite binary number; `none` for infinities and "not a number". -/
def ofFloat? (x : Float) : Option Binary :=
  let bits := x.toBits.toNat
  let negative := bits / Nat.pow 2 63 % 2 == 1
  let biased : Nat := bits / Nat.pow 2 52 % Nat.pow 2 11
  let fraction : Nat := bits % Nat.pow 2 52
  if biased = 2047 then none
  else if biased = 0 then some ⟨negative, fraction, -1074, false⟩
  else some ⟨negative, Nat.pow 2 52 + fraction, (biased : Int) - 1075, fraction == 0 && biased != 1⟩

/-- The exact value as a rational number. -/
def toRat (b : Binary) : Rat :=
  let magnitude : Rat := b.mantissa * (2 : Rat) ^ b.exponent
  if b.negative then -magnitude else magnitude

/-- The value without its sign, as a quotient of natural numbers. -/
def quotient (b : Binary) : Nat × Nat :=
  if 0 ≤ b.exponent then (b.mantissa * Nat.pow 2 b.exponent.toNat, 1)
  else (b.mantissa, Nat.pow 2 (-b.exponent).toNat)

end Binary

/-- The natural number nearest to `num / den`, halves upwards. -/
def roundHalfUp (num den : Nat) : Nat :=
  (2 * num + den) / (2 * den)

/-- The natural number nearest to `num / den`, halves to the even neighbour. -/
def roundHalfEven (num den : Nat) : Nat :=
  let q := num / den
  let r := 2 * (num % den)
  if r < den ∨ (r = den ∧ q % 2 = 0) then q else q + 1

/-- The integer nearest to a rational number, halves away from zero. -/
def roundRat (q : Rat) : Int :=
  let n : Int := roundHalfUp q.num.natAbs q.den
  if q.num < 0 then -n else n

/-- The integer nearest to a binary number, halves away from zero, within the range of signed
64-bit integers; "not a number" counts as zero. -/
def nearestInt64 (x : Float) : Int :=
  match Binary.ofFloat? x with
  | some b =>
    let (num, den) := b.quotient
    let n : Int := roundHalfUp num den
    clampInt64 (if b.negative then -n else n)
  | none => if 0 < x then int64Max else if x < 0 then int64Min else 0

/-- The largest integer that is not above a finite binary number. -/
def floorInt? (x : Float) : Option Int :=
  (Binary.ofFloat? x).map fun b ↦
    let (num, den) := b.quotient
    let n : Int := num
    (if b.negative then -n else n).fdiv den

/-- The magnitude of a value in units of `10 ^ -places`, halves to the even neighbour. -/
def Binary.scaledToEven (b : Binary) (places : Nat) : Nat :=
  let (num, den) := b.quotient
  roundHalfEven (num * Nat.pow 10 places) den

end GerberMask
