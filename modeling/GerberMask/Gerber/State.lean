import GerberMask.Gerber.Coordinate
import GerberMask.Gerber.Drawing
import GerberMask.Gerber.Region
import GerberMask.Gerber.Registry

/-!
# The state of an interpretation

What a document has set so far: its modes, the apertures it has declared and what it has drawn.
Coordinates are accumulated in any `Scalar` and drawn in binary numbers.
-/

namespace GerberMask.Gerber

/-- How the next coordinates are reached. -/
inductive Interpolation where
  | linear
  | clockwise
  | counterClockwise
  deriving DecidableEq, Repr

instance : Inhabited Interpolation := ⟨.linear⟩

/-- The sense of the arcs of a circular mode. -/
def Interpolation.arcDirection? : Interpolation → Option ArcDirection
  | linear => none
  | clockwise => some .clockwise
  | counterClockwise => some .counterClockwise

/-- Everything that a document can set and that stays in force. -/
structure Modes (α : Type) where
  position : Point α
  /-- The centre offsets of the current block, in inches. -/
  arcOffset : Point α
  interpolation : Interpolation
  quadrant : QuadrantMode
  /-- The contour of the open region, if one is open. -/
  region? : Option RegionContour
  polarity : Polarity
  unit : LengthUnit
  format : CoordinateFormat
  /-- The code of the selected aperture. -/
  aperture? : Option Nat
  /-- The last operation drew; coordinates without an operation repeat it. -/
  toolOn : Bool
  /-- Between two toggles, commands are extended. -/
  extended : Bool
  /-- The index of the token that stopped the document. -/
  stoppedAt? : Option Nat

namespace Modes

variable {α : Type} [Scalar α]

/-- The modes at the start of a document. -/
def initial : Modes α where
  position := ⟨Scalar.zero, Scalar.zero⟩
  arcOffset := ⟨Scalar.zero, Scalar.zero⟩
  interpolation := default
  quadrant := default
  region? := none
  polarity := default
  unit := default
  format := default
  aperture? := none
  toolOn := false
  extended := false
  stoppedAt? := none

/-- The arc from the current position to a target, unless the mode is linear. -/
def arcTo? (m : Modes α) (target : Point α) : Option Arc :=
  m.interpolation.arcDirection?.map fun direction ↦
    .resolve (m.position.map Scalar.toFloat) (target.map Scalar.toFloat)
      (m.arcOffset.map Scalar.toFloat) direction m.quadrant

/-- The edge from the current position to a target. -/
def edgeTo (m : Modes α) (target : Point α) : RegionEdge :=
  match m.arcTo? target with
  | some arc => .arc arc
  | none => .line (target.map Scalar.toFloat)

end Modes

/-- The state of an interpretation. -/
structure State (α : Type) where
  modes : Modes α
  registry : Registry
  drawing : Drawing
  /-- The name of the macro whose lines are being read. -/
  openMacro? : Option String

namespace State

variable {α : Type} [Scalar α]

/-- The state at the start of a document, drawn within a given extent. -/
def initial (bounds : Bounds) : State α :=
  ⟨.initial, .empty, .within bounds, none⟩

/-- Adds what an operation draws. -/
def addDrawn (s : State α) (drawn : Drawn) : Report GerberError (State α) := do
  let drawing ← s.drawing.addDrawn drawn
  return { s with drawing }

end State

end GerberMask.Gerber
