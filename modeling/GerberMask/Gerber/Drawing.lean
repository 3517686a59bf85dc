import GerberMask.Gerber.Arc
import GerberMask.Gerber.Report
import GerberMask.Gerber.Shape

/-!
# Drawing with apertures

Flashing an aperture puts its primitives at a place; interpolating moves it along a line, stroking
along an arc. What cannot be drawn gives a warning instead (`Drawn`). A flashed hole is clear
whatever the polarity; a macro primitive without exposure has the inverse polarity.
-/

namespace GerberMask.Gerber

/-- What an operation draws, and the warnings it gives. -/
structure Drawn where
  items : List DrawItem
  warnings : List Warning

namespace Drawn

/-- Shapes and no warning. -/
def ofItems (items : List DrawItem) : Drawn := ⟨items, []⟩

/-- A warning and no shape. -/
def skip (w : Warning) : Drawn := ⟨[], [w]⟩

end Drawn

/-! ### Regular polygons -/

/-- The number of vertices that can be held: each takes sixteen bytes, and a block of memory has
fewer than `2 ^ 63`. -/
def maxVertices : Nat := 0x7ffffffffffffff

/-- The number of sides that a parameter asks for: the nearest integer, and three at least. -/
def sideCount (v : Float) : Nat :=
  max 3 (nearestInt64 v).toNat

/-- The vertices of a regular polygon, the first at an angle in degrees. -/
def regularPolygon (center : Point Float) (radius : Float) (sides : Nat) (degrees : Float) :
    List (Point Float) :=
  (List.range sides).map fun k ↦
    let t := radians (degrees + 360 * Float.ofNat k / Float.ofNat sides)
    center.offset (radius * t.cos) (radius * t.sin)

namespace Primitive

/-- The number of vertices of a regular polygon that is too large to be held. -/
def excessVertices? (p : Primitive) : Option Nat :=
  match p.kind with
  | .polygon | .macroPolygon =>
    if maxVertices < sideCount (p.param 1) then some (sideCount (p.param 1)) else none
  | _ => none

/-! ### Flashes -/

/-- The displacement that puts the origin at a place. -/
def displacement (place : Point Float) : Affine Float32 :=
  .shift 1 0 place.x.toFloat32 place.y.toFloat32

/-- The clockwise rotation about the origin of a macro, which is then put at a place. -/
def placement (degrees : Float) (place : Point Float) : Affine Float32 :=
  let t := radians32 (360 - degrees).toFloat32
  (Affine.rotation 0 t.cos t.sin).andThen (displacement place)

/-- The parameters from an index on, two by two as points. -/
def pointsFrom (params : List Float) : Nat → List (Point Float)
  | 0 => []
  | n + 1 =>
    match params with
    | x :: y :: rest => ⟨x, y⟩ :: pointsFrom rest n
    | _ => []

/-- The shape of a standard primitive at a place, and the index of its hole parameter. -/
def standardShape? (p : Primitive) (place : Point Float) : Option (Shape × Nat) :=
  match p.kind with
  | .circle => some (.circle place (p.param 0), 1)
  | .rectangle => some (.rectangle place (p.param 0) (p.param 1), 2)
  | .obround =>
    some (.rounded place (p.param 0) (p.param 1) (Box.lesser (p.param 0) (p.param 1) / 2), 2)
  | .polygon =>
    let corners := regularPolygon ⟨0, 0⟩ (p.param 0 / 2) (sideCount (p.param 1)) (p.param 2)
    some (.outline ((Path.polygon corners).transform (displacement place)), 3)
  | _ => none

/-- The corners of a line of a given width with square ends. -/
def vectorLineCorners (start stop : Point Float) (length width : Float) : List (Point Float) :=
  let half := width / 2
  let nx := -(stop.y - start.y) / length * half
  let ny := (stop.x - start.x) / length * half
  [start.offset nx ny, stop.offset nx ny, stop.offset (-nx) (-ny), start.offset (-nx) (-ny)]

/-- The shape of a macro primitive at a place, or why there is none. -/
def macroShape (p : Primitive) (place : Point Float) : Except Warning Shape :=
  match p.kind with
  | .macroCircle => .ok (.circle (place.offset (p.param 2) (p.param 3)) (p.param 1))
  | .macroVectorLine =>
    let start : Point Float := ⟨p.param 2, p.param 3⟩
    let stop : Point Float := ⟨p.param 4, p.param 5⟩
    let length := start.distance stop
    if length == 0 then .error .zeroLengthVectorLine
    else
      let corners := vectorLineCorners start stop length (p.param 1)
      .ok (.outline ((Path.polygon corners).transform (placement (p.param 6) place)))
  | .macroCenterLine =>
    let corners := Shape.rectangleCorners ⟨p.param 3, p.param 4⟩ (p.param 1) (p.param 2)
    .ok (.outline ((Path.polygon corners).transform (placement (p.param 5) place)))
  | .macroOutline =>
    match p.outlinePoints? with
    | none => .error (.shortOutline (p.param 1) p.params.length)
    | some n =>
      let corners := pointsFrom (p.params.drop 2) n
      .ok (.outline ((Path.polygon corners).transform (placement (p.param (2 + 2 * n)) place)))
  | .macroPolygon =>
    let corners :=
      regularPolygon ⟨p.param 2, p.param 3⟩ (p.param 4 / 2) (sideCount (p.param 1)) 0
    .ok (.outline ((Path.polygon corners).transform (placement (p.param 5) place)))
  | kind => .error (.primitiveNotRendered kind)

/-- The polarity of a macro primitive: its first parameter is its exposure. -/
def exposed (p : Primitive) (polarity : Polarity) : Polarity :=
  if p.param 0 == 0 then polarity.inverse else polarity

/-- What flashing a primitive at a place draws. -/
def flash (p : Primitive) (place : Point Float) (polarity : Polarity) : Drawn :=
  match p.standardShape? place with
  | some (shape, holeIndex) =>
    let hole := match p.params[holeIndex]? with
      | some d => if 0 < d then [⟨.circle place d, .clear⟩] else []
      | none => []
    .ofItems (⟨shape, polarity⟩ :: hole)
  | none =>
    match p.macroShape place with
    | .ok shape => .ofItems [⟨shape, p.exposed polarity⟩]
    | .error w => .skip w

/-! ### Strokes -/

/-- What moving a primitive along a line draws. -/
def interpolate (p : Primitive) (start stop : Point Float) (polarity : Polarity) : Drawn :=
  match p.kind with
  | .circle => .ofItems [⟨.stroke (.segment start stop) (p.param 0) .round, polarity⟩]
  | .rectangle =>
    let w := p.param 0
    let h := p.param 1
    .ofItems
      [⟨.stroke (.segment start stop) (w * w + h * h).sqrt .butt, polarity⟩,
        ⟨.rectangle start w h, polarity⟩, ⟨.rectangle stop w h, polarity⟩]
  | kind => .skip (.cannotInterpolate kind)

/-- What moving a primitive along an arc draws. -/
def strokeArc (p : Primitive) (arc : Arc) (polarity : Polarity) : Drawn :=
  if p.kind.isMacro then .skip (.cannotDrawArcs p.kind)
  else .ofItems [⟨.stroke arc.toPath (p.param 0) .round, polarity⟩]

end Primitive

/-! ### The drawing of a document -/

/-- What a document has drawn so far: the items in order, and the extent that they have reached,
which may have begun with an earlier document. -/
structure Drawing where
  items : Array DrawItem
  bounds : Bounds

namespace Drawing

/-- Nothing drawn yet, in a given extent. -/
def within (bounds : Bounds) : Drawing := ⟨#[], bounds⟩

/-- Adds an item and grows the extent. -/
def add (d : Drawing) (item : DrawItem) : Drawing :=
  ⟨d.items.push item, item.extend d.bounds⟩

/-- The warning for an item whose extent does not count. -/
def extentWarning (item : DrawItem) : List Warning :=
  let (lo, hi) := item.shape.corners
  if Bounds.admits lo hi then [] else [.extentNotFinite lo hi]

/-- Adds a row of items. -/
def addAll {ε : Type} (d : Drawing) (items : List DrawItem) : Report ε Drawing :=
  ⟨(items.flatMap extentWarning).toArray, .ok (items.foldl add d)⟩

/-- Adds what an operation draws, its warnings first. -/
def addDrawn {ε : Type} (d : Drawing) (drawn : Drawn) : Report ε Drawing := do
  .warnAll drawn.warnings
  d.addAll drawn.items

end Drawing

end GerberMask.Gerber
