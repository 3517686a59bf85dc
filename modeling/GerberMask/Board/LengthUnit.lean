import GerberMask.Board.NameError
import GerberMask.Number.Scalar
import GerberMask.Text.Blank
import GerberMask.Text.LetterCase

/-!
# Units of length

A document is written in inches or in millimetres. Past the coordinate decoder everything is in
inches; an inch has 25.4 millimetres.
-/

namespace GerberMask

/-- The unit of a document's numbers. -/
inductive LengthUnit where
  | inch
  | millimetre
  deriving DecidableEq, Repr, Inhabited

namespace LengthUnit

variable {α : Type} [Scalar α]

/-- Millimetres in an inch. -/
def mmPerInch : α :=
  Scalar.ofDecimal ⟨false, 254, -1⟩

/-- Millimetres to inches. -/
def inchesOfMm (mm : α) : α :=
  mm / mmPerInch

/-- Inches to millimetres. -/
def mmOfInches (inches : α) : α :=
  inches * mmPerInch

/-- A length of this unit in inches. -/
def toInches (u : LengthUnit) (value : α) : α :=
  match u with
  | inch => value
  | millimetre => inchesOfMm value

/-- A length in inches in this unit. -/
def fromInches (u : LengthUnit) (inches : α) : α :=
  match u with
  | inch => inches
  | millimetre => mmOfInches inches

/-- The short name. -/
def symbol : LengthUnit → String
  | inch => "in"
  | millimetre => "mm"

/-- The unit that a word names, in any letter case and with blanks around it. -/
def parse (word : String) : Except NameError LengthUnit :=
  let name := Text.lower (Text.trimmed word)
  if name ∈ ["in", "inch", "inches", "imperial"] then .ok inch
  else if name ∈ ["mm", "millimeter", "millimeters", "metric"] then .ok millimetre
  else .error (.unknownUnit word)

end LengthUnit

end GerberMask
