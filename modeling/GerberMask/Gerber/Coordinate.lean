import GerberMask.Board.LengthUnit
import GerberMask.Gerber.Error

/-!
# Coordinates

Coordinates are written without a point. The format of a document says how many integer and
decimal digits each axis has and which zeros may be left out: with leading zeros left out the last
digit has a fixed place, with trailing zeros left out the first one has. A text with a point is a
plain decimal, whatever the format.

Decoding and writing are stated over any `Scalar`, so the same formulas can be read in exact
arithmetic. Exponents of ten are machine integers in either case: digits are counted in 32 bits, and
a count beyond the signed ones wraps around to a negative exponent.
-/

namespace GerberMask.Gerber

/-- Which zeros of a coordinate are left out. -/
inductive ZeroOmission where
  | leading
  | trailing
  deriving DecidableEq, Repr

/-- Whether coordinates are places or displacements from the current place. -/
inductive CoordinateMode where
  | absolute
  | incremental
  deriving DecidableEq, Repr

/-- The two axes. -/
inductive Axis where
  | x
  | y
  deriving DecidableEq, Repr

/-- How many digits a coordinate of one axis has before and after its point. -/
structure DigitLayout where
  integerDigits : UInt32
  decimalDigits : UInt32
  deriving DecidableEq, Repr

namespace DigitLayout

/-- The exponent of the power of ten that a value is multiplied by when it is written. -/
def places (l : DigitLayout) : Int :=
  l.decimalDigits.toInt32.toInt

/-- The number of zeros that a row of a given length leaves out at its end, below zero for one that
has too many digits. -/
def missing (l : DigitLayout) (length : Nat) : Int :=
  ((l.integerDigits + l.decimalDigits).toInt32 - Int32.ofNat length).toInt

end DigitLayout

/-- How coordinates are written in a document. -/
structure CoordinateFormat where
  x : DigitLayout
  y : DigitLayout
  zeros : ZeroOmission
  mode : CoordinateMode
  deriving DecidableEq, Repr

namespace CoordinateFormat

/-- The layout of an axis that no command mentions. -/
def defaultLayout : DigitLayout := ⟨2, 3⟩

/-- Two integer and three decimal digits, leading zeros left out, absolute. -/
instance : Inhabited CoordinateFormat :=
  ⟨⟨defaultLayout, defaultLayout, .leading, .absolute⟩⟩

/-- The layout of an axis. -/
def layout (f : CoordinateFormat) : Axis → DigitLayout
  | .x => f.x
  | .y => f.y

/-! ### Format commands -/

/-- What follows a given start of a text, or the whole text where it starts otherwise. -/
def dropStart (start text : List Char) : List Char :=
  if start.isPrefixOf text then text.drop start.length else text

/-- The two digits that follow the first letter of an axis. -/
def readLayout (letter : Char) (body : List Char) (command : String) :
    Except MalformedNumber DigitLayout :=
  match body.dropWhile (· != letter) with
  | [] => .ok defaultLayout
  | _ :: a :: b :: _ =>
    if a.isDigit && b.isDigit then .ok ⟨.ofNat (digitValue a), .ofNat (digitValue b)⟩
    else .error ⟨command⟩
  | _ => .error ⟨command⟩

/-- Reads a format command such as `FSLAX24Y24`. The first letter says which zeros are left out;
the second makes the format incremental if it is an `I`. -/
def parse (command : String) : Except MalformedNumber CoordinateFormat := do
  let body := dropStart ['F', 'S'] command.toList
  let zeros ← match body.head? with
    | some 'T' => .ok .trailing
    | some 'L' | some 'D' => .ok .leading
    | _ => .error ⟨command⟩
  let mode := if body[1]? = some 'I' then .incremental else .absolute
  let x ← readLayout 'X' body command
  let y ← readLayout 'Y' body command
  return ⟨x, y, zeros, mode⟩

/-! ### Decoding and writing -/

variable {α : Type} [Scalar α]

/-- The value of a row of digits on an axis. -/
def digitsToScalar (f : CoordinateFormat) (axis : Axis) (digits : List Char) : α :=
  let layout := f.layout axis
  let raw : α := Scalar.ofNat (digitsValue digits)
  let unit : α := Scalar.tenPow layout.places
  match f.zeros with
  | .leading => raw / unit
  | .trailing => raw * Scalar.tenPow (layout.missing digits.length) / unit

/-- The value of a decimal with a point. -/
def pointedToScalar? (text : List Char) : Option α :=
  match Literal.read? text with
  | some (.number d) => some (Scalar.ofDecimal d) |>.filter Scalar.isFinite
  | _ => none

/-- Decodes a coordinate into the unit of the document. -/
def decodeRaw (f : CoordinateFormat) (axis : Axis) (text : List Char) :
    Except MalformedNumber α :=
  let text := Text.trim text
  let malformed : MalformedNumber := ⟨String.ofList text⟩
  if text.contains '.' then
    match pointedToScalar? text with
    | some v => .ok v
    | none => .error malformed
  else
    let (negative, digits) := takeSign text
    if digits.isEmpty || !digits.all Char.isDigit then .error malformed
    else
      let value : α := f.digitsToScalar axis digits
      .ok (if negative then -value else value)

/-- Decodes a coordinate into inches. -/
def decode (f : CoordinateFormat) (axis : Axis) (unit : LengthUnit) (text : List Char) :
    Except MalformedNumber α :=
  (f.decodeRaw axis text).map unit.toInches

/-- Writes a value in the unit of the document, leading zeros left out: its nearest multiple of
the last digit's place. -/
def write (f : CoordinateFormat) (axis : Axis) (value : α) : String :=
  toString (Scalar.nearestInt (value * Scalar.tenPow (f.layout axis).places))

end CoordinateFormat

end GerberMask.Gerber
