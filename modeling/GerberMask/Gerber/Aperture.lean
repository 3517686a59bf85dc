import GerberMask.Board.LengthUnit
import GerberMask.Board.Point

/-!
# Apertures

An aperture is a list of primitives, each a kind and a row of parameters. A standard aperture is
one primitive; a macro makes one primitive per line. Which parameters are lengths depends on the
kind (`Primitive.isLength`), and only lengths change when a primitive is converted to inches.

An outline holds a declared count of points after its start point, then the points, then a
rotation. Its points can be used only if all of them and the rotation are there
(`Primitive.outlinePoints?`).
-/

namespace GerberMask.Gerber

/-- The kinds of primitives, with the order of their parameters. -/
inductive PrimitiveKind where
  /-- Diameter, hole. -/
  | circle
  /-- Width, height, hole. -/
  | rectangle
  /-- Width, height, hole. -/
  | obround
  /-- Outer diameter, vertices, rotation, hole. -/
  | polygon
  /-- Exposure, diameter, centre x, centre y, rotation. -/
  | macroCircle
  /-- Exposure, width, start x, start y, end x, end y, rotation. -/
  | macroVectorLine
  /-- Exposure, width, height, centre x, centre y, rotation. -/
  | macroCenterLine
  /-- Exposure, count of points after the first, the points, rotation. -/
  | macroOutline
  /-- Exposure, vertices, centre x, centre y, diameter, rotation. -/
  | macroPolygon
  | macroMoire
  | macroThermal
  deriving DecidableEq, Repr

namespace PrimitiveKind

/-- The standard aperture that a template letter names. -/
def ofTemplate? (name : String) : Option PrimitiveKind :=
  [("C", circle), ("R", rectangle), ("O", obround), ("P", polygon)].lookup name

/-- The primitive that a code names in a macro. -/
def ofCode? (code : Nat) : Option PrimitiveKind :=
  [(1, macroCircle), (4, macroOutline), (5, macroPolygon), (6, macroMoire), (7, macroThermal),
    (20, macroVectorLine), (21, macroCenterLine)].lookup code

/-- Whether the primitive can only come from a macro. -/
def isMacro : PrimitiveKind → Bool
  | circle | rectangle | obround | polygon => false
  | _ => true

/-- The name in messages. -/
def name : PrimitiveKind → String
  | circle => "Circle"
  | rectangle => "Rectangle"
  | obround => "Obround"
  | polygon => "Polygon"
  | macroCircle => "MacroCircle"
  | macroVectorLine => "MacroVectorLine"
  | macroCenterLine => "MacroCenterLine"
  | macroOutline => "MacroOutline"
  | macroPolygon => "MacroPolygon"
  | macroMoire => "MacroMoire"
  | macroThermal => "MacroThermal"

end PrimitiveKind

/-- A shape that an aperture is made of. -/
structure Primitive where
  kind : PrimitiveKind
  params : List Float
  deriving DecidableEq, Repr

namespace Primitive

/-- A parameter, or zero where it is missing. -/
def param (p : Primitive) (i : Nat) : Float :=
  (p.params[i]?).getD 0

/-- The number of points of an outline, its start point included, when so many points and the
rotation are there. A negative count of further points is none. -/
def outlinePoints? (p : Primitive) : Option Nat :=
  let declared := if 0 < p.param 1 then p.param 1 else 0
  let available := (p.params.length - 3) / 2
  if declared < Scalar.ofNat available then
    (floorInt? declared).map fun n ↦ n.toNat + 1
  else none

/-- Whether the parameter at an index is a length; the others are flags, counts and angles. -/
def isLength (p : Primitive) (i : Nat) : Bool :=
  match p.kind with
  | .circle | .rectangle | .obround => true
  | .polygon => i == 0 || i == 3
  | .macroCircle => 1 ≤ i && i ≤ 3
  | .macroVectorLine => 1 ≤ i && i ≤ 5
  | .macroCenterLine => 1 ≤ i && i ≤ 4
  | .macroOutline =>
    match p.outlinePoints? with
    | some n => 2 ≤ i && i < 2 + 2 * n
    | none => 2 ≤ i && i + 1 < p.params.length
  | .macroPolygon => 2 ≤ i && i ≤ 4
  | .macroMoire => i ≤ 4 || i == 6 || i == 7
  | .macroThermal => i ≤ 4

/-- Converts the lengths of a primitive to inches. -/
def inInches (p : Primitive) (unit : LengthUnit) : Primitive :=
  match unit with
  | .inch => p
  | .millimetre =>
    { p with params := p.params.mapIdx fun i v ↦ if p.isLength i then unit.toInches v else v }

/-! ### Conversion keeps the form -/

end Primitive

end GerberMask.Gerber
