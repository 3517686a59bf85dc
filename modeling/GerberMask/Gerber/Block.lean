import GerberMask.Gerber.State
import GerberMask.Gerber.Word

/-!
# Blocks

A block is executed word by word. Coordinates set the target of the block, which becomes the
position when the block is complete; G words set modes; D words select an aperture or draw to the
target. A comment, a miscellaneous code or an unknown letter ends the block early. Coordinates that
no operation follows repeat the last one: they draw if it drew, and inside a region they always do.
-/

namespace GerberMask.Gerber

namespace State

variable {α : Type} [Scalar α]

/-! ### Operations -/

/-- The primitives of the selected aperture. -/
def selected (s : State α) (position : Nat) : Except GerberError (List Primitive) :=
  match s.modes.aperture? with
  | none => .error ⟨.noApertureSelected, position⟩
  | some code =>
    match s.registry.get? code with
    | none => .error ⟨.undefinedAperture code, position⟩
    | some primitives => .ok primitives

/-- Draws with one primitive after the other. -/
def drawEach (s : State α) (draw : Primitive → Except GerberError Drawn) :
    List Primitive → Report GerberError (State α)
  | [] => .ok s
  | p :: rest => do
    let drawn ← .ofExcept (draw p)
    let s ← s.addDrawn drawn
    drawEach s draw rest

/-- Flashes a primitive, unless it has more vertices than can be held. -/
def flashOne (place : Point Float) (polarity : Polarity) (position : Nat) (p : Primitive) :
    Except GerberError Drawn :=
  match p.excessVertices? with
  | some n => .error ⟨.tooManyVertices n, position⟩
  | none => .ok (p.flash place polarity)

/-- Flashes the selected aperture at the target. -/
def flashAt (s : State α) (target : Point α) (position : Nat) : Report GerberError (State α) := do
  let primitives ← .ofExcept (s.selected position)
  let place := target.map Scalar.toFloat
  s.drawEach (flashOne place s.modes.polarity position) primitives

/-- Moves the selected aperture to the target. -/
def strokeTo (s : State α) (target : Point α) (position : Nat) :
    Report GerberError (State α) := do
  let primitives ← .ofExcept (s.selected position)
  let draw (p : Primitive) : Drawn :=
    match s.modes.arcTo? target with
    | some arc => p.strokeArc arc s.modes.polarity
    | none =>
      p.interpolate (s.modes.position.map Scalar.toFloat) (target.map Scalar.toFloat)
        s.modes.polarity
  s.drawEach (.ok <| draw ·) primitives

/-- Adds the edge to the target to the contour of the open region. -/
def drawEdge (s : State α) (contour : RegionContour) (target : Point α) : State α :=
  let contour :=
    contour.draw (s.modes.position.map Scalar.toFloat) (s.modes.edgeTo target)
  { s with modes.region? := some contour }

/-- Draws to the target: an edge inside a region, a stroke outside. -/
def drawTo (s : State α) (target : Point α) (position : Nat) : Report GerberError (State α) :=
  match s.modes.region? with
  | some contour => .ok (s.drawEdge contour target)
  | none => s.strokeTo target position

/-- Closes the open region; its contour becomes an item if anything was drawn. -/
def closeRegion (s : State α) : Report GerberError (State α) :=
  match s.modes.region? with
  | none => do
    .warn .noOpenContour
    return s
  | some contour =>
    let s := { s with modes.region? := none }
    match contour.build with
    | none => .ok s
    | some path => s.addDrawn (.ofItems [⟨.outline path, s.modes.polarity⟩])

/-! ### Codes -/

/-- Executes a G code other than a comment. -/
def preparatory (s : State α) (code position : Nat) : Report GerberError (State α) :=
  match code with
  | 1 | 10 | 11 | 12 => .ok { s with modes.interpolation := .linear }
  | 2 => .ok { s with modes.interpolation := .clockwise }
  | 3 => .ok { s with modes.interpolation := .counterClockwise }
  | 36 => do
    if s.modes.region?.isSome then .warn (.contourRestarted position)
    return { s with modes.region? := some .unstarted }
  | 37 => s.closeRegion
  | 54 | 55 => .ok s
  | 70 => .ok { s with modes.unit := .inch }
  | 71 => .ok { s with modes.unit := .millimetre }
  | 74 => .ok { s with modes.quadrant := .single }
  | 75 => .ok { s with modes.quadrant := .multi }
  | 90 => .ok { s with modes.format.mode := .absolute }
  | 91 => .ok { s with modes.format.mode := .incremental }
  | _ => do
    .warn (.unknownPreparatory code position)
    return s

/-- Selects an aperture. -/
def select (s : State α) (code position : Nat) : Report GerberError (State α) :=
  if s.registry.contains code then
    .ok { s with modes.aperture? := some code, modes.toolOn := false }
  else .error ⟨.undefinedAperture code, position⟩

/-- Executes a D code with the target of the block. -/
def operation (s : State α) (code : Nat) (target : Point α) (position : Nat) :
    Report GerberError (State α) :=
  match code with
  | 1 => drawTo { s with modes.toolOn := true } target position
  | 2 =>
    let place := target.map Scalar.toFloat
    .ok { s with
      modes.toolOn := false
      modes.region? := s.modes.region?.map (·.moveTo place) }
  | 3 => flashAt { s with modes.toolOn := false } target position
  | _ =>
    if 10 ≤ code then s.select code position
    else do
      .warn (.unknownOperation code position)
      return s

end State

/-! ### Words of a block -/

/-- A block in execution. -/
structure Block (α : Type) where
  state : State α
  /-- Where the block goes. -/
  target : Point α
  /-- Coordinates that no operation has used. -/
  pending : Bool
  /-- The rest of the block is not executed. -/
  ended : Bool

namespace Block

variable {α : Type} [Scalar α]

/-- The start of a block: it goes nowhere, and its arcs have no offsets yet. -/
def start (s : State α) : Block α :=
  { state := { s with modes.arcOffset := ⟨Scalar.zero, Scalar.zero⟩ }
    target := s.modes.position
    pending := false
    ended := false }

/-- The number of a code. -/
def readCode (number : List Char) (position : Nat) : Except GerberError Nat :=
  match readWord? 32 number with
  | some n => .ok n
  | none => .error ⟨.malformedNumber (String.ofList number), position⟩

/-- The value of a coordinate in inches. -/
def readCoordinate (b : Block α) (axis : Axis) (number : List Char) (position : Nat) :
    Except GerberError α :=
  (b.state.modes.format.decode axis b.state.modes.unit number).mapError (·.at position)

/-- The place that a coordinate names, seen from the current one. -/
def placed (b : Block α) (current value : α) : α :=
  match b.state.modes.format.mode with
  | .absolute => value
  | .incremental => current + value

/-- Executes a word. -/
def word (position : Nat) (text : String) (b : Block α) (w : Word) :
    Report GerberError (Block α) :=
  match w.letter with
  | 'G' => do
    let code ← .ofExcept (readCode w.number position)
    if code = 4 then return { b with ended := true }
    let state ← b.state.preparatory code position
    return { b with state }
  | 'X' => do
    let v ← .ofExcept (b.readCoordinate .x w.number position)
    return { b with target.x := b.placed b.state.modes.position.x v, pending := true }
  | 'Y' => do
    let v ← .ofExcept (b.readCoordinate .y w.number position)
    return { b with target.y := b.placed b.state.modes.position.y v, pending := true }
  | 'I' => do
    let v ← .ofExcept (b.readCoordinate .x w.number position)
    return { b with state.modes.arcOffset.x := v }
  | 'J' => do
    let v ← .ofExcept (b.readCoordinate .y w.number position)
    return { b with state.modes.arcOffset.y := v }
  | 'D' => do
    let code ← .ofExcept (readCode w.number position)
    let state ← b.state.operation code b.target position
    return { b with state, pending := b.pending && 10 ≤ code }
  | 'N' => .ok b
  | 'M' => do
    let code ← .ofExcept (readCode w.number position)
    if code = 0 ∨ code = 2 then
      return { b with state.modes.stoppedAt? := some position, ended := true }
    .warn (.unknownMiscellaneous code position)
    return { b with ended := true }
  | _ => do
    .warn (.unknownLetter w.shownLetter text position)
    return { b with ended := true }

/-- Executes words until the block ends. -/
def words (position : Nat) (text : String) (b : Block α) : List Word →
    Report GerberError (Block α)
  | [] => .ok b
  | w :: rest => do
    let b ← b.word position text w
    if b.ended then return b
    words position text b rest

/-- Completes a block: coordinates that no operation used repeat the last one, and the target
becomes the position. A document that stops keeps its position. -/
def finish (b : Block α) (position : Nat) : Report GerberError (State α) :=
  if b.state.modes.stoppedAt?.isSome then .ok b.state
  else do
    let s ←
      if b.pending && (b.state.modes.region?.isSome || b.state.modes.toolOn) then
        b.state.drawTo b.target position
      else .ok b.state
    return { s with modes.position := b.target }

end Block

/-- Executes a block. -/
def State.block {α : Type} [Scalar α] (s : State α) (text : String) (position : Nat) :
    Report GerberError (State α) := do
  let b ← (Block.start s).words position text (Word.split text.toList)
  b.finish position

end GerberMask.Gerber
