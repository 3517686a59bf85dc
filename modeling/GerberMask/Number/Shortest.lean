import GerberMask.Number.Binary

/-!
# The shortest decimal that reads back

Among the decimals that round to a given binary number, `shortest` takes one with the fewest
digits, and of those the one nearest to the number. The decimals that round to
`mantissa · 2 ^ exponent` fill an interval around it, its ends included exactly when the mantissa
is even. On the grid of decimals with `n` significant digits the interval holds a point exactly if
it holds one of the two neighbours of the number on that grid, so it is enough to test these two
for `n = 1, 2, …, 17`.

How digits become text is for each format to say: a `PointLayout` states between which positions
of the point a number is written without an exponent, whether an integer keeps its point, and
whether a positive exponent has a sign.
-/

namespace GerberMask

/-- The decimal `0.d₁d₂… · 10 ^ point`, its digits without leading or trailing zeros. -/
structure Digits where
  digits : List Char
  point : Int
  deriving DecidableEq, Repr

namespace Shortest

/-- Whether `a · 10 ^ k` lies below, on or above `num / den`. -/
def compareScaled (a : Nat) (k : Int) (num den : Nat) : Ordering :=
  compare (a * Nat.pow 10 k.toNat * den) (num * Nat.pow 10 (-k).toNat)

/-- The interval of values that round to a binary number, in quarters of its unit: a common
denominator, the lower end, the number, the upper end. -/
structure Interval where
  den : Nat
  low : Nat
  mid : Nat
  high : Nat
  closed : Bool

/-- The interval of values that round to `b`. -/
def intervalOf (b : Binary) : Interval :=
  let unit := Nat.pow 2 (b.exponent - 2).toNat
  { den := Nat.pow 2 (2 - b.exponent).toNat
    low := (4 * b.mantissa - (if b.narrowBelow then 1 else 2)) * unit
    mid := 4 * b.mantissa * unit
    high := (4 * b.mantissa + 2) * unit
    closed := b.mantissa % 2 == 0 }

/-- Whether `a · 10 ^ k` lies in the interval. -/
def Interval.holds (i : Interval) (a : Nat) (k : Int) : Bool :=
  let low := compareScaled a k i.low i.den
  let high := compareScaled a k i.high i.den
  if i.closed then low != .lt && high != .gt else low == .gt && high == .lt

/-- The largest `a` with `a · 10 ^ k` not above the middle of the interval. -/
def Interval.floorAt (i : Interval) (k : Int) : Nat :=
  i.mid * Nat.pow 10 (-k).toNat / (i.den * Nat.pow 10 k.toNat)

/-- The point of the grid `10 ^ k` that lies in the interval nearest to its middle, an even one
where two are equally near. -/
def Interval.nearest? (i : Interval) (k : Int) : Option Nat :=
  let a := i.floorAt k
  match i.holds a k, i.holds (a + 1) k with
  | false, false => none
  | true, false => some a
  | false, true => some (a + 1)
  | true, true =>
    match compareScaled (2 * a + 1) k (2 * i.mid) i.den with
    | .gt => some a
    | .lt => some (a + 1)
    | .eq => some (if a % 2 = 0 then a else a + 1)

/-- The position of the point of a positive value: the `p` with `10 ^ (p - 1) ≤ value < 10 ^ p`,
searched from `p` downwards in at most `fuel` steps. -/
def pointFrom (num den : Nat) : Nat → Int → Int
  | 0, p => p
  | fuel + 1, p =>
    if compareScaled 1 (p - 1) num den == .gt then pointFrom num den fuel (p - 1) else p

/-- The first grid of the numbers of digits from `n` on that has a point in the interval. -/
def search (i : Interval) (point : Int) : Nat → Nat → Nat × Int
  | 0, n => (i.floorAt (point - n), point - n)
  | fuel + 1, n =>
    match i.nearest? (point - n) with
    | some a => (a, point - n)
    | none => search i point fuel (n + 1)

end Shortest

/-- Digits of a natural number with the zeros at the end dropped, and how many were dropped. -/
def significantDigits (n : Nat) : List Char × Nat :=
  let ds := (Nat.toDigits 10 n).reverse
  let zeros := (ds.takeWhile (· == '0')).length
  ((ds.drop zeros).reverse, zeros)

/-- The shortest decimal that reads back as the positive value `b`. -/
def shortest (b : Binary) : Digits :=
  if b.mantissa = 0 then ⟨[], 0⟩
  else
    let i := Shortest.intervalOf b
    -- a value below `2 ^ e` is below `10 ^ p` for every `p` above `0.30103 · e`
    let start := ((b.mantissa.log2 + 1 : Nat) + b.exponent) * 30103 / 100000 + 1
    let point := Shortest.pointFrom i.mid i.den 4 start
    let (a, k) := Shortest.search i point 17 1
    let (ds, zeros) := significantDigits a
    ⟨ds, k + zeros + ds.length⟩

/-! ### From digits to text -/

/-- How a format places the point. A number `0.d₁d₂… · 10 ^ point` is written without an exponent
if `point` lies between the two limits, both included. -/
structure PointLayout where
  lowest : Option Int
  highest : Option Int
  /-- An integer is written with `.0` at its end. -/
  keepsPoint : Bool
  /-- A positive exponent is written with its sign. -/
  signsExponent : Bool

namespace PointLayout

/-- Whether a number is written without an exponent. -/
def isPositional (l : PointLayout) (point : Int) : Bool :=
  l.lowest.all (· ≤ point) && l.highest.all (point ≤ ·)

/-- The text of an exponent. -/
def exponentText (l : PointLayout) (e : Int) : List Char :=
  let sign := if e < 0 then ['-'] else if l.signsExponent then ['+'] else []
  sign ++ Nat.toDigits 10 e.natAbs

/-- The text of a positive number. -/
def magnitudeText (l : PointLayout) (d : Digits) : List Char :=
  let n := d.digits.length
  let tail := if l.keepsPoint then ['.', '0'] else []
  if l.isPositional d.point then
    if d.point ≤ 0 then
      ['0', '.'] ++ List.replicate (-d.point).toNat '0' ++ d.digits
    else if n ≤ d.point.toNat then
      d.digits ++ List.replicate (d.point.toNat - n) '0' ++ tail
    else d.digits.take d.point.toNat ++ '.' :: d.digits.drop d.point.toNat
  else
    let mantissa := match d.digits with
      | first :: second :: rest => first :: '.' :: second :: rest
      | ds => ds
    mantissa ++ 'e' :: l.exponentText (d.point - 1)

/-- The text of a number; the sign of zero is written. -/
def text (l : PointLayout) (x : Float) : String :=
  match Binary.ofFloat? x with
  | none => if 0 < x then "inf" else if x < 0 then "-inf" else "NaN"
  | some b =>
    let body :=
      if b.mantissa = 0 then '0' :: (if l.keepsPoint then ['.', '0'] else [])
      else l.magnitudeText (shortest b)
    String.ofList (if b.negative then '-' :: body else body)

/-- Plain notation: never an exponent, and no point after an integer. -/
def plain : PointLayout := ⟨none, none, false, false⟩

/-- Diagnostic notation: an exponent below `10 ^ -4` and from `10 ^ 16` on; an integer keeps its
point unless it has an exponent. -/
def diagnostic : PointLayout := ⟨some (-3), some 16, true, false⟩

end PointLayout

/-- A number with a fixed count of decimal places, a half going to the even neighbour. -/
def fixedText (places : Nat) (x : Float) : String :=
  match Binary.ofFloat? x with
  | none => PointLayout.plain.text x
  | some b =>
    let n := b.scaledToEven places
    let ds := Nat.toDigits 10 n
    let ds := List.replicate (places + 1 - ds.length) '0' ++ ds
    let whole := ds.take (ds.length - places)
    let fraction := ds.drop (ds.length - places)
    let body := whole ++ (if places = 0 then [] else '.' :: fraction)
    String.ofList (if b.negative then '-' :: body else body)

end GerberMask
