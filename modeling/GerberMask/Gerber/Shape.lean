import GerberMask.Gerber.Path

/-!
# Shapes

What a document draws: filled ellipses, rectangles, rounded rectangles and outlines, and stroked
paths, all in board space. A shape is emitted with a polarity, which says whether it adds or
removes material, and is never changed afterwards.

The corners of a rounded rectangle have a radius between zero and half of its smaller side. A
rectangle with a negative side has no such radius, and then there is no path (`Shape.toPath?`).
-/

namespace GerberMask.Gerber

/-- Whether a shape adds or removes material. -/
inductive Polarity where
  | dark
  | clear
  deriving DecidableEq, Repr, Inhabited

/-- The other polarity. -/
def Polarity.inverse : Polarity → Polarity
  | dark => clear
  | clear => dark

/-- How the ends of a stroke look. -/
inductive LineCap where
  | butt
  | round
  deriving DecidableEq, Repr

/-- Something that can be painted. -/
inductive Shape where
  /-- An axis-parallel ellipse. -/
  | ellipse (center : Point Float) (width height : Float)
  | rectangle (center : Point Float) (width height : Float)
  /-- A rectangle with quarter circles as corners. -/
  | rounded (center : Point Float) (width height radius : Float)
  /-- A filled closed path. -/
  | outline (path : Path)
  /-- A path that is drawn with a pen of the given width. -/
  | stroke (path : Path) (width : Float) (cap : LineCap)
  deriving DecidableEq, Repr

namespace Shape

/-- A circle. -/
def circle (center : Point Float) (diameter : Float) : Shape :=
  .ellipse center diameter diameter

/-- The corners of a rectangle around a centre. -/
def extentAround (center : Point Float) (width height : Float) : Point Float × Point Float :=
  (center.offset (-width / 2) (-height / 2), center.offset (width / 2) (height / 2))

/-- Two opposite corners of the extent of a shape. -/
def corners : Shape → Point Float × Point Float
  | ellipse center width height => extentAround center width height
  | rectangle center width height => extentAround center width height
  | rounded center width height _ => extentAround center width height
  | outline path => path.box 0
  | stroke path width _ => path.box (width / 2)

/-- Whether a shape is an ellipse. -/
def isEllipse : Shape → Bool
  | ellipse .. => true
  | _ => false

/-- The path of an ellipse: four cubic segments from its rightmost point on. -/
def ellipsePath (center : Point Float) (rx ry : Float) : Path :=
  let e : EllipseArc := ⟨toPathPoint center, ⟨rx.toFloat32, ry.toFloat32⟩, 0, 2 * halfTurn32⟩
  .ofContour ⟨⟨e.center.x + e.radii.x, e.center.y + 0⟩, e.segments, true⟩

/-- The four corners of a rectangle, counter-clockwise from the lowest left one. -/
def rectangleCorners (center : Point Float) (width height : Float) : List (Point Float) :=
  let hw := width / 2
  let hh := height / 2
  [center.offset (-hw) (-hh), center.offset hw (-hh), center.offset hw hh, center.offset (-hw) hh]

/-- The path of a rectangle. -/
def rectanglePath (center : Point Float) (width height : Float) : Path :=
  .polygon (rectangleCorners center width height)

/-- The radius nearest to the given one that the corners can have. -/
def cornerRadius? (width height radius : Float) : Option Float :=
  let limit := Box.lesser width height / 2
  if 0 ≤ limit then
    some (if radius < 0 then 0 else if limit < radius then limit else radius)
  else none

/-- The path of a rectangle whose corners have a positive radius: from the lower left on, each
corner a straight edge to its first point and a quarter circle. -/
def roundedPath (center : Point Float) (width height radius : Float) : Path :=
  let hw := (width / 2 - radius).toFloat32
  let hh := (height / 2 - radius).toFloat32
  let c := toPathPoint center
  let r := radius.toFloat32
  let corner (dx dy degrees : Float32) : List PathSegment :=
    let e : EllipseArc :=
      ⟨⟨c.x + dx, c.y + dy⟩, ⟨r, r⟩, radians32 degrees, radians32 90⟩
    .line (e.pointAt e.start) :: e.segments
  .ofContour
    ⟨⟨c.x + -hw, c.y + (-hh - r)⟩,
      corner hw (-hh) (-90) ++ corner hw hh 0 ++ corner (-hw) hh 90 ++ corner (-hw) (-hh) 180,
      true⟩

/-- The outline of the filled area; of a stroke, the line that the pen follows. -/
def toPath? : Shape → Option Path
  | ellipse center width height => some (ellipsePath center (width / 2) (height / 2))
  | rectangle center width height => some (rectanglePath center width height)
  | rounded center width height radius =>
    (cornerRadius? width height radius).map fun r ↦
      if r ≤ 0 then rectanglePath center width height else roundedPath center width height r
  | outline path => some path
  | stroke path _ _ => some path

end Shape

/-- A shape and the polarity it was emitted with. -/
structure DrawItem where
  shape : Shape
  polarity : Polarity
  deriving DecidableEq, Repr

/-- Whether an item adds material. -/
def DrawItem.isDark (item : DrawItem) : Bool :=
  item.polarity = .dark

/-- Grows an extent to the extent of an item. -/
def DrawItem.extend (bounds : Bounds) (item : DrawItem) : Bounds :=
  bounds.includeRect item.shape.corners.1 item.shape.corners.2

end GerberMask.Gerber
