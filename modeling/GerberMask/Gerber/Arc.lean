import GerberMask.Gerber.Path
import GerberMask.Number.Scalar

/-!
# Circular interpolation

An arc is given by the place where it begins, the place where it ends and the offsets to its
centre. In multi-quadrant mode the offsets carry their signs. In single-quadrant mode they do not,
and the direction of travel decides on which side of the start the centre lies.

Centre and sweep are stated over any `Scalar`. A sweep is never zero: an arc that ends where it
begins is a full turn.
-/

namespace GerberMask.Gerber

/-- The sense of an arc. -/
inductive ArcDirection where
  | clockwise
  | counterClockwise
  deriving DecidableEq, Repr

/-- How the offsets to the centre are meant. -/
inductive QuadrantMode where
  | single
  | multi
  deriving DecidableEq, Repr

instance : Inhabited QuadrantMode := ⟨.multi⟩

/-- An arc around a centre. Angles are in degrees, counter-clockwise from the x axis; the sweep is
positive counter-clockwise and negative clockwise. -/
structure Arc where
  center : Point Float
  radius : Float
  startAngle : Float
  sweep : Float
  deriving DecidableEq, Repr

namespace Arc

variable {α : Type} [Scalar α]

/-- The centre of an arc. -/
def centerOf (start stop offset : Point α) (direction : ArcDirection) (quadrant : QuadrantMode) :
    Point α :=
  let rightwards := Scalar.less start.x stop.x
  let upwards := Scalar.less start.y stop.y
  match quadrant, direction with
  | .multi, _ => start.offset offset.x offset.y
  | .single, .counterClockwise =>
    ⟨if upwards then start.x - offset.x else start.x + offset.x,
      if rightwards then start.y + offset.y else start.y - offset.y⟩
  | .single, .clockwise =>
    ⟨if upwards then start.x + offset.x else start.x - offset.x,
      if rightwards then start.y - offset.y else start.y + offset.y⟩

/-- The sweep between two angles in degrees. -/
def sweepBetween (direction : ArcDirection) (start stop : α) : α :=
  let turn : α := Scalar.ofNat 360
  let sweep := stop - start
  match direction with
  | .counterClockwise =>
    let sweep := if Scalar.less sweep Scalar.zero then sweep + turn else sweep
    if Scalar.same sweep Scalar.zero then turn else sweep
  | .clockwise =>
    let sweep := if Scalar.less Scalar.zero sweep then sweep - turn else sweep
    if Scalar.same sweep Scalar.zero then -turn else sweep

/-- The direction in which a point is seen from a centre, in degrees from 0 to below 360. -/
def angleOf (center p : Point Float) : Float :=
  let dx := p.x - center.x
  let dy := p.y - center.y
  let angle :=
    if dx == 0 then if 0 < dy then 90 else 270
    else (dy / dx).atan * (180 / halfTurn)
  let angle := if p.x < center.x then angle + 180 else angle
  if angle < 0 then angle + 360 else angle

/-- The arc between two points with the given offsets to its centre. -/
def resolve (start stop offset : Point Float) (direction : ArcDirection)
    (quadrant : QuadrantMode) : Arc :=
  let center := centerOf start stop offset direction quadrant
  let startAngle := angleOf center start
  { center
    radius := (offset.x * offset.x + offset.y * offset.y).sqrt
    startAngle
    sweep := sweepBetween direction startAngle (angleOf center stop) }

/-- The point of the arc's circle at an angle in degrees. -/
def pointAt (a : Arc) (degrees : Float) : Point Float :=
  let t := radians degrees
  a.center.offset (a.radius * t.cos) (a.radius * t.sin)

/-- Where the arc begins. -/
def startPoint (a : Arc) : Point Float :=
  a.pointAt a.startAngle

/-- Where the arc ends. -/
def endPoint (a : Arc) : Point Float :=
  a.pointAt (a.startAngle + a.sweep)

/-- The arc as cubic segments. -/
def segments (a : Arc) : List PathSegment :=
  let r := a.radius.toFloat32
  (EllipseArc.mk (toPathPoint a.center) ⟨r, r⟩ (radians32 a.startAngle.toFloat32)
    (radians32 a.sweep.toFloat32)).segments

/-- The arc as an open path. -/
def toPath (a : Arc) : Path :=
  .ofContour ⟨toPathPoint a.startPoint, a.segments, false⟩

end Arc

end GerberMask.Gerber
