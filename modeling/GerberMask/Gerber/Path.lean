import GerberMask.Board.Affine
import GerberMask.Board.Bounds
import GerberMask.Number.Binary

/-!
# Paths

A path is empty or one contour of straight and cubic segments. Its points are kept in single
precision, which is plenty for coordinates on a board. An arc of an ellipse enters a path as cubic
segments of at most a quarter turn each (`arcSegments`).

The box of a path (`Path.box`) is spanned by the end points and by the points in which a cubic
segment turns back in x or y.
-/

namespace GerberMask.Gerber

/-- A single-precision point. -/
abbrev PathPoint := Point Float32

/-- A board point in single precision. -/
def toPathPoint (p : Point Float) : PathPoint :=
  p.map Float.toFloat32

/-- The next stretch of a contour. -/
inductive PathSegment where
  | line (dest : PathPoint)
  | cubic (control₁ control₂ dest : PathPoint)
  deriving DecidableEq, Repr

/-- A connected line: a start point, its segments, and whether its end is joined to its start. -/
structure Contour where
  start : PathPoint
  segments : List PathSegment
  closed : Bool
  deriving DecidableEq, Repr

/-- Nothing, or a contour. -/
structure Path where
  contour? : Option Contour
  deriving DecidableEq, Repr

namespace PathSegment

/-- The end of a segment. -/
def target : PathSegment → PathPoint
  | line dest => dest
  | cubic _ _ dest => dest

/-- The image of a segment under an affine map. -/
def transform (m : Affine Float32) : PathSegment → PathSegment
  | line dest => line (m.apply dest)
  | cubic c₁ c₂ dest => cubic (m.apply c₁) (m.apply c₂) (m.apply dest)

end PathSegment

namespace Path

/-- The path without points. -/
def empty : Path := ⟨none⟩

/-- A path of one contour. -/
def ofContour (c : Contour) : Path := ⟨some c⟩

/-- The closed polygon with the given corners; empty for fewer than three. -/
def polygon (corners : List (Point Float)) : Path :=
  match corners with
  | first :: second :: third :: rest =>
    ofContour
      ⟨toPathPoint first, (second :: third :: rest).map (.line ∘ toPathPoint), true⟩
  | _ => empty

/-- The open path between two points. -/
def segment (a b : Point Float) : Path :=
  ofContour ⟨toPathPoint a, [.line (toPathPoint b)], false⟩

/-- The image of a path under an affine map. -/
def transform (m : Affine Float32) (p : Path) : Path :=
  ⟨p.contour?.map fun c ↦
    ⟨m.apply c.start, c.segments.map (.transform m), c.closed⟩⟩

end Path

/-! ### Arcs as cubic segments -/

/-- Half a turn in radians. -/
def halfTurn : Float := 3.141592653589793

@[inherit_doc halfTurn]
def halfTurn32 : Float32 := halfTurn.toFloat32

/-- Degrees to radians. -/
def radians (degrees : Float) : Float :=
  degrees * (halfTurn / 180)

@[inherit_doc radians]
def radians32 (degrees : Float32) : Float32 :=
  degrees * (halfTurn32 / 180)

/-- An arc of an axis-parallel ellipse in single precision, angles in radians. -/
structure EllipseArc where
  center : PathPoint
  radii : PathPoint
  start : Float32
  sweep : Float32

namespace EllipseArc

/-- The point at an angle. -/
def pointAt (e : EllipseArc) (a : Float32) : PathPoint :=
  ⟨e.center.x + e.radii.x * a.cos, e.center.y + e.radii.y * a.sin⟩

/-- The direction of travel at an angle. -/
def tangentAt (e : EllipseArc) (a : Float32) : PathPoint :=
  ⟨-(e.radii.x * a.sin), e.radii.y * a.cos⟩

/-- The number of cubic segments: one for every quarter turn that is begun, at most four. -/
def segmentCount (e : EllipseArc) : Nat :=
  let turn := if e.sweep.abs < 2 * halfTurn32 then e.sweep.abs else 2 * halfTurn32
  (floorInt? (-(turn / (halfTurn32 / 2)).toFloat)).elim 0 fun n ↦ (-n).toNat

/-- The cubic segment between two angles. -/
def cubicBetween (e : EllipseArc) (a b : Float32) : PathSegment :=
  let d := b - a
  let t := (d / 2).tan
  let k := d.sin * ((4 + 3 * t * t).sqrt - 1) / 3
  let p := e.pointAt a
  let q := e.pointAt b
  let u := e.tangentAt a
  let v := e.tangentAt b
  .cubic ⟨p.x + u.x * k, p.y + u.y * k⟩ ⟨q.x - v.x * k, q.y - v.y * k⟩ q

/-- The arc as cubic segments. -/
def segments (e : EllipseArc) : List PathSegment :=
  let n := e.segmentCount
  let turn := if e.sweep.abs < 2 * halfTurn32 then e.sweep.abs else 2 * halfTurn32
  let size := turn / Float32.ofNat n
  let step := if e.sweep < 0 then -size else size
  (List.range n).map fun i ↦
    e.cubicBetween (e.start + step * Float32.ofNat i) (e.start + step * Float32.ofNat (i + 1))

end EllipseArc

/-! ### The box of a path

All of it is computed in single precision. A cubic polynomial whose leading coefficients nearly
cancel may therefore lose a turning point; the order of the operations below is part of the
result. -/

/-- The parameters strictly between 0 and 1 at which a cubic polynomial with the given Bézier
coefficients turns back. -/
def turningPoints (p q r s : Float32) : List Float32 :=
  let a := 3 * (s + 3 * (q - r) - p)
  let b := 6 * (r - 2 * q + p)
  let c := 3 * (q - p)
  let roots :=
    if a == 0 then if b == 0 then [] else [-c / b]
    else
      let d := b * b - 4 * a * c
      if d < 0 then []
      else if d == 0 then [-b / (2 * a)]
      else [(-b - d.sqrt) / (2 * a), (-b + d.sqrt) / (2 * a)]
  roots.filter fun t ↦ 0 < t && t < 1

/-- The value of a cubic polynomial with the given Bézier coefficients. -/
def cubicAt (p q r s t : Float32) : Float32 :=
  let u := 1 - t
  let t₂ := t * t
  let u₂ := u * u
  p * (u₂ * u) + q * 3 * u₂ * t + r * 3 * u * t₂ + s * (t₂ * t)

/-- The values that decide the extent of a segment on one axis, beside its start. -/
def extremes (axis : PathPoint → Float32) (start : PathPoint) : PathSegment → List Float32
  | .line dest => [axis dest]
  | .cubic c₁ c₂ dest =>
    let p := axis start
    let q := axis c₁
    let r := axis c₂
    let s := axis dest
    s :: (turningPoints p q r s).map (cubicAt p q r s)

/-- The values that decide the extent of a row of segments on one axis. -/
def extremesFrom (axis : PathPoint → Float32) (start : PathPoint) :
    List PathSegment → List Float32
  | [] => []
  | s :: rest => extremes axis start s ++ extremesFrom axis s.target rest

namespace Path

/-- The least and the greatest value of a path on an axis; zero for the empty path. -/
def range (axis : PathPoint → Float32) (p : Path) : Float × Float :=
  match p.contour? with
  | none => (0, 0)
  | some c =>
    let first := (axis c.start).toFloat
    ((extremesFrom axis c.start c.segments).map Float32.toFloat).foldl
      (fun r v ↦ (Box.lesser r.1 v, Box.greater r.2 v)) (first, first)

/-- The lowest and the highest corner of a path, moved outwards by a margin. -/
def box (p : Path) (margin : Float) : Point Float × Point Float :=
  let (x₀, x₁) := p.range (·.x)
  let (y₀, y₁) := p.range (·.y)
  (⟨x₀ - margin, y₀ - margin⟩, ⟨x₁ + margin, y₁ + margin⟩)

end Path

end GerberMask.Gerber
