import GerberMask.Number.Decimal
import GerberMask.Number.Shortest
import GerberMask.Settings.Setting

/-!
# Numbers in JSON

A number is an optional minus sign, digits without leading zeros, an optional fraction and an
optional exponent. Without fraction and exponent it is an integer, unless it is a negative zero or
lies outside the 64-bit ranges. Every other number is read in two steps that both round: the digits
are taken as a natural number as long as it fits into 64 bits, and the result is multiplied or
divided by a power of ten. A number whose product has no finite value is unreadable.
-/

namespace GerberMask.Settings.Json

/-- The greatest number of 64 bits. -/
def word64Max : Nat := 0xffffffffffffffff

/-- The parts of a number as it is written. -/
structure Numeral where
  negative : Bool
  /-- The digits in front of the point. -/
  whole : List Char
  /-- The digits behind the point; empty where there is no point. -/
  fraction : List Char
  exponent? : Option Int
  deriving DecidableEq, Repr

namespace Numeral

/-- The digits in front of the point: a zero, or digits that do not begin with one. -/
def whole? : List Char → Option (List Char × List Char)
  | '0' :: rest => some (['0'], rest)
  | cs =>
    if (cs.takeWhile Char.isDigit).isEmpty then none
    else some (cs.takeWhile Char.isDigit, cs.dropWhile Char.isDigit)

/-- The digits behind a point, at least one. -/
def fraction? : List Char → Option (List Char × List Char)
  | '.' :: rest =>
    if (rest.takeWhile Char.isDigit).isEmpty then none
    else some (rest.takeWhile Char.isDigit, rest.dropWhile Char.isDigit)
  | cs => some ([], cs)

/-- An exponent: a letter, an optional sign, at least one digit. -/
def readExponent? : List Char → Option (Option Int × List Char)
  | [] => some (none, [])
  | c :: rest =>
    if c = 'e' ∨ c = 'E' then
      let (negative, rest) := takeSign rest
      let digits := rest.takeWhile Char.isDigit
      let n : Int := digitsValue digits
      if digits.isEmpty then none
      else some (some (if negative then -n else n), rest.dropWhile Char.isDigit)
    else some (none, c :: rest)

/-- The number at the beginning of a text, and what follows it. -/
def read? (cs : List Char) : Option (Numeral × List Char) := do
  let (negative, rest) := match cs with
    | '-' :: rest => (true, rest)
    | _ => (false, cs)
  let (whole, rest) ← whole? rest
  let (fraction, rest) ← fraction? rest
  let (exponent?, rest) ← readExponent? rest
  return (⟨negative, whole, fraction, exponent?⟩, rest)

/-- A natural number with one more digit, if it fits into 64 bits. -/
def extend? (n : Nat) (digit : Char) : Option Nat :=
  some (10 * n + digitValue digit) |>.filter (· ≤ word64Max)

/-- The number that the first digits write, as many as fit into 64 bits, and how many are left. -/
def leading : Nat → List Char → Nat × Nat
  | n, [] => (n, 0)
  | n, d :: ds =>
    match extend? n d with
    | some n => leading n ds
    | none => (n, ds.length + 1)

/-- The digits as a coefficient of 64 bits and an exponent of ten. Digits in front of the point that
do not fit count in the exponent; digits behind it that do not fit are left out. -/
def scaled (n : Numeral) : Nat × Int :=
  let (c, dropped) := leading 0 n.whole
  let (c, unread) := leading c n.fraction
  let used : Nat := n.fraction.length - unread
  (c, (n.exponent?.getD 0) + dropped - used)

/-- The power of ten with an exponent of at most 308. -/
def tenPower (e : Nat) : Float :=
  Float.ofScientific 1 false e

/-- A number times a power of ten; `none` where the product is too large. -/
def times? (x : Float) (e : Int) : Option Float :=
  if e.natAbs ≤ 308 then
    if 0 ≤ e then (some (x * tenPower e.natAbs)).filter Float.isFinite
    else some (x / tenPower e.natAbs)
  else if x == 0 then some x
  else if 0 ≤ e then none
  else times? (x / tenPower 308) (e + 308)
termination_by e.natAbs

/-- The integer that a number is, where it has neither fraction nor exponent. -/
def integer? (n : Numeral) : Option Int :=
  if n.fraction.isEmpty && n.exponent?.isNone then
    let magnitude := digitsValue n.whole
    if n.negative then
      if 0 < magnitude ∧ magnitude ≤ 0x8000000000000000 then some (-magnitude) else none
    else if magnitude ≤ word64Max then some magnitude
    else none
  else none

/-- What a number says. -/
def setting (n : Numeral) : Setting :=
  match n.integer? with
  | some i => .integer i
  | none =>
    match times? (Float.ofNat n.scaled.1) n.scaled.2 with
    | some x => .real (if n.negative then -x else x)
    | none => .unreadable

end Numeral

/-- Numbers are written without an exponent from `10 ^ -5` up to `10 ^ 16`, and an exponent always has
a sign. -/
def numberLayout : PointLayout := ⟨some (-4), some 16, true, true⟩

end GerberMask.Settings.Json
