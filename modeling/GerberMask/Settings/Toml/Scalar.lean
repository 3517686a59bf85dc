import GerberMask.Number.Binary
import GerberMask.Number.Decimal
import GerberMask.Settings.Setting
import GerberMask.Text.Hexadecimal

/-!
# Words in TOML

Flags, numbers, dates and times are words: rows of letters, digits and the marks `+ - _ . :`. A
word is read as a whole. Digits can be grouped by single underscores between them. Integers have 64
bits and can be written in base sixteen, eight and two; a decimal number does not begin with a zero
that is not its only digit. A float is the nearest binary number; one that is too large is refused
if it is positive and infinite if it is negative. A date has to exist.
-/

namespace GerberMask.Settings.Toml

/-- A character of a word. -/
def isWordChar (c : Char) : Bool :=
  c.isAlphanum || c == '+' || c == '-' || c == '_' || c == '.' || c == ':'

/-! ### Numbers -/

/-- The digits of a group without the underscores; each of these stands between two digits. -/
def ungroup? (isDigit : Char → Bool) : List Char → Option (List Char)
  | [] => none
  | [d] => if isDigit d then some [d] else none
  | d :: '_' :: ds => if isDigit d then (ungroup? isDigit ds).map (d :: ·) else none
  | d :: ds => if isDigit d then (ungroup? isDigit ds).map (d :: ·) else none

/-- The digits of a decimal integer: a zero, or digits that do not begin with one. -/
def whole? (cs : List Char) : Option (List Char) :=
  match cs with
  | ['0'] => some ['0']
  | '0' :: _ => none
  | cs => ungroup? Char.isDigit cs

/-- An integer of 64 bits. -/
def int64? (n : Int) : Option Setting :=
  if int64Min ≤ n ∧ n ≤ int64Max then some (.integer n) else none

/-- The number that digits of a base write. -/
def inBase? (base : Nat) (cs : List Char) : Option Setting := do
  let ds ← ungroup? (fun c ↦ (Text.hexValue? c).any (· < base)) cs
  int64? (ds.foldl (fun n c ↦ base * n + (Text.hexValue? c).getD 0) 0 : Nat)

/-- An integer. -/
def integer? : List Char → Option Setting
  | '0' :: 'x' :: cs => inBase? 16 cs
  | '0' :: 'o' :: cs => inBase? 8 cs
  | '0' :: 'b' :: cs => inBase? 2 cs
  | cs => do
    let (negative, body) := takeSign cs
    let n : Int := digitsValue (← whole? body)
    int64? (if negative then -n else n)

/-- The digits behind a point. -/
def fraction? : List Char → Option (List Char)
  | [] => some []
  | '.' :: cs => ungroup? Char.isDigit cs
  | _ => none

/-- The digits of an exponent and its sign. -/
def exponent? : List Char → Option Int
  | [] => some 0
  | _ :: cs => do
    let (negative, digits) := takeSign cs
    let n : Int := digitsValue (← ungroup? Char.isDigit digits)
    return if negative then -n else n

/-- Whether a character opens an exponent. -/
def isExponentMark (c : Char) : Bool :=
  c == 'e' || c == 'E'

/-- A number with a fraction or an exponent or both. -/
def decimal? (cs : List Char) : Option Decimal := do
  guard (cs.any fun c ↦ c == '.' || isExponentMark c)
  let (negative, body) := takeSign cs
  let mantissa := body.takeWhile (!isExponentMark ·)
  let whole ← whole? (mantissa.takeWhile (· != '.'))
  let fraction ← fraction? (mantissa.dropWhile (· != '.'))
  let e ← exponent? (body.dropWhile (!isExponentMark ·))
  return ⟨negative, digitsValue (whole ++ fraction), e - fraction.length⟩

/-- A float: a number, or a word for infinity or "not a number". -/
def float? (cs : List Char) : Option Setting :=
  let (negative, body) := takeSign cs
  if body = "inf".toList then some (.real (if negative then -1.0 / 0.0 else 1.0 / 0.0))
  else if body = "nan".toList then some (.real (0.0 / 0.0))
  else
    (decimal? cs).bind fun d ↦
      if d.toFloat == 1.0 / 0.0 then none else some (.real d.toFloat)

/-! ### Dates and times -/

/-- The number that a given count of digits writes. -/
def digits? (count : Nat) (cs : List Char) : Option Nat :=
  if cs.length = count && cs.all Char.isDigit then some (digitsValue cs) else none

/-- The days of a month. -/
def daysIn (year month : Nat) : Nat :=
  if month = 2 then
    if year % 4 = 0 ∧ (year % 100 ≠ 0 ∨ year % 400 = 0) then 29 else 28
  else if month ∈ [4, 6, 9, 11] then 30
  else 31

/-- Whether a text is a date. -/
def isDate : List Char → Bool
  | y₁ :: y₂ :: y₃ :: y₄ :: '-' :: m₁ :: m₂ :: '-' :: d₁ :: d₂ :: [] =>
    match digits? 4 [y₁, y₂, y₃, y₄], digits? 2 [m₁, m₂], digits? 2 [d₁, d₂] with
    | some y, some m, some d => 1 ≤ m && m ≤ 12 && 1 ≤ d && d ≤ daysIn y m
    | _, _, _ => false
  | _ => false

/-- Whether a text is an hour and a minute. -/
def isClock : List Char → Bool
  | h₁ :: h₂ :: ':' :: m₁ :: m₂ :: [] =>
    match digits? 2 [h₁, h₂], digits? 2 [m₁, m₂] with
    | some h, some m => h ≤ 23 && m ≤ 59
    | _, _ => false
  | _ => false

/-- Whether a text is a second, perhaps with a fraction. -/
def isSecond : List Char → Bool
  | s₁ :: s₂ :: rest =>
    (digits? 2 [s₁, s₂]).any (· ≤ 60) &&
      match rest with
      | [] => true
      | '.' :: ds => !ds.isEmpty && ds.all Char.isDigit
      | _ => false
  | _ => false

/-- Whether a text is a time of day. -/
def isTime (cs : List Char) : Bool :=
  isClock (cs.take 5) && (cs.drop 5).head? == some ':' && isSecond (cs.drop 6)

/-- Whether a text is the distance of a time zone. -/
def isZone : List Char → Bool
  | [c] => c == 'Z' || c == 'z'
  | c :: cs => (c == '+' || c == '-') && isClock cs
  | [] => false

/-- Whether a text is a time of day, perhaps with a time zone. -/
def isZonedTime (cs : List Char) : Bool :=
  let time := cs.takeWhile fun c ↦ c.isDigit || c == ':' || c == '.'
  let zone := cs.drop time.length
  isTime time && (zone.isEmpty || isZone zone)

/-- Whether a text is a date and a time in one word. -/
def isDateTime (cs : List Char) : Bool :=
  isDate (cs.take 10) && ((cs.drop 10).head?.any fun c ↦ c == 'T' || c == 't') &&
    isZonedTime (cs.drop 11)

/-! ### Words -/

/-- What a word says. -/
def word? (cs : List Char) : Option Setting :=
  if cs = "true".toList then some (.flag true)
  else if cs = "false".toList then some (.flag false)
  else if isDate cs || isTime cs || isDateTime cs then some .moment
  else (integer? cs).or (float? cs)

/-- What the word at the beginning of a text says, and what follows it. The blank between a date and
a time is part of one value. -/
def scalar? (cs : List Char) : Option (Setting × List Char) :=
  let word := cs.takeWhile isWordChar
  let rest := cs.dropWhile isWordChar
  match isDate word, rest with
  | true, ' ' :: rest' =>
    let time := rest'.takeWhile isWordChar
    if time.isEmpty then some (.moment, rest)
    else if isZonedTime time then some (.moment, rest'.dropWhile isWordChar)
    else none
  | _, _ => (word? word).map (·, rest)

end GerberMask.Settings.Toml
