import GerberMask.Gerber.Shape

/-!
# Areas

The area of a shape on the raster is a union of polygons. A polygon is filled where its edges wind
around a place a number of times other than zero, and a pixel belongs to it if its centre does. So
on every row an area is a list of stretches of columns (`Area.spans`), and `Area.covers` says
whether one of them holds a column.

A curve is replaced by short chords. A stroke is the union of a rectangle for every chord and of a
disc for every point at which two chords meet; round ends are discs as well.
-/

namespace GerberMask.Raster

open GerberMask.Gerber (Path Contour PathSegment PathPoint Shape LineCap)

/-! ### Polygons -/

/-- An edge of a polygon, in pixels. -/
structure Edge where
  start : Point Float
  stop : Point Float

/-- A closed polygon, in pixels, and the range of its rows. -/
structure Polygon where
  edges : List Edge
  top : Float
  bottom : Float

namespace Polygon

/-- The edges between points that follow each other, and back to the first one. -/
def edgesFrom (first : Point Float) : List (Point Float) → List Edge
  | [] => []
  | [p] => [⟨p, first⟩]
  | p :: q :: rest => ⟨p, q⟩ :: edgesFrom first (q :: rest)

/-- The polygon with the given corners. -/
def ofCorners (corners : List (Point Float)) : Polygon :=
  match corners with
  | [] => ⟨[], 0, 0⟩
  | first :: rest =>
    { edges := edgesFrom first corners
      top := rest.foldl (fun m p ↦ Box.lesser m p.y) first.y
      bottom := rest.foldl (fun m p ↦ Box.greater m p.y) first.y }

/-- Where an edge crosses the level `y`, and in which direction. -/
def crossing? (y : Float) (e : Edge) : Option (Float × Int) :=
  let x := e.start.x + (y - e.start.y) * (e.stop.x - e.start.x) / (e.stop.y - e.start.y)
  if e.start.y ≤ y && y < e.stop.y then some (x, 1)
  else if e.stop.y ≤ y && y < e.start.y then some (x, -1)
  else none

/-- The least column, at most `limit`, whose centre is not to the left of a place. -/
def columnFrom (limit : Nat) (x : Float) : Nat :=
  let v := x - 0.5
  if v ≤ 0 then 0
  else if Float.ofNat limit ≤ v then limit
  else
    let n := v.toUInt64.toNat
    if Float.ofNat n < v then n + 1 else n

/-- The stretches between crossings where the winding number is not zero. -/
def stretches (limit : Nat) (winding : Int) (start : Float) :
    List (Float × Int) → List (Nat × Nat)
  | [] => []
  | (x, turn) :: rest =>
    let tail := stretches limit (winding + turn) x rest
    if winding = 0 then tail else (columnFrom limit start, columnFrom limit x) :: tail

/-- The stretches of columns that a polygon covers on a row of a raster of a given width. -/
def spans (p : Polygon) (width row : Nat) : List (Nat × Nat) :=
  let y := Float.ofNat row + 0.5
  if p.top ≤ y && y < p.bottom then
    let crossings := (p.edges.filterMap (crossing? y)).mergeSort fun a b ↦ a.1 ≤ b.1
    stretches width 0 0 crossings
  else []

end Polygon

/-! ### Areas -/

/-- A union of polygons, and the rows that it can reach on a raster. -/
structure Area where
  polygons : List Polygon
  firstRow : Nat
  pastRow : Nat

namespace Area

/-- The union of polygons on a raster of a given height. -/
def ofPolygons (height : Nat) (polygons : List Polygon) : Area :=
  match polygons with
  | [] => ⟨[], 0, 0⟩
  | p :: rest =>
    { polygons
      firstRow := Polygon.columnFrom height (rest.foldl (fun m q ↦ Box.lesser m q.top) p.top)
      pastRow :=
        Polygon.columnFrom height (rest.foldl (fun m q ↦ Box.greater m q.bottom) p.bottom) }

/-- The stretches of columns of an area on a row. -/
def spans (a : Area) (width row : Nat) : List (Nat × Nat) :=
  a.polygons.flatMap (·.spans width row)

end Area

/-! ### Shapes as polygons -/

/-- A point of a path in double precision. -/
def boardPoint (p : PathPoint) : Point Float :=
  p.map Float32.toFloat

/-- The ends of the chords of a segment. -/
def chordEnds (chords : Nat) (start : PathPoint) : PathSegment → List (Point Float)
  | .line dest => [boardPoint dest]
  | .cubic c₁ c₂ dest =>
    let p := boardPoint start
    let q := boardPoint c₁
    let r := boardPoint c₂
    let s := boardPoint dest
    (List.range chords).map fun i ↦
      let t := Float.ofNat (i + 1) / Float.ofNat chords
      let u := 1 - t
      let blend (a b c d : Float) :=
        u * u * u * a + 3 * u * u * t * b + 3 * u * t * t * c + t * t * t * d
      ⟨blend p.x q.x r.x s.x, blend p.y q.y r.y s.y⟩

/-- The points of a contour, its start first. -/
def contourPoints (chords : Nat) (c : Contour) : List (Point Float) :=
  let rec follow (start : PathPoint) : List PathSegment → List (Point Float)
    | [] => []
    | s :: rest => chordEnds chords start s ++ follow s.target rest
  boardPoint c.start :: follow c.start c.segments

/-- The corners of a disc. -/
def discCorners (center : Point Float) (radius : Float) : List (Point Float) :=
  (List.range 48).map fun i ↦
    let t := 2 * Gerber.halfTurn * Float.ofNat i / 48
    center.offset (radius * t.cos) (radius * t.sin)

/-- The corners of the rectangle around a chord; none where the chord is a point. -/
def chordCorners (a b : Point Float) (radius : Float) : List (List (Point Float)) :=
  let length := a.distance b
  if length == 0 then []
  else
    let nx := -(b.y - a.y) / length * radius
    let ny := (b.x - a.x) / length * radius
    [[a.offset nx ny, b.offset nx ny, b.offset (-nx) (-ny), a.offset (-nx) (-ny)]]

/-- Rectangles around the chords between points, and discs where two chords meet. -/
def strokeCorners (radius : Float) : List (Point Float) → List (List (Point Float))
  | a :: b :: rest =>
    let joint := if rest.isEmpty then [] else [discCorners b radius]
    chordCorners a b radius ++ joint ++ strokeCorners radius (b :: rest)
  | _ => []

/-- The corners of the polygons whose union is a stroke. -/
def penCorners (points : List (Point Float)) (width : Float) (cap : LineCap) :
    List (List (Point Float)) :=
  let radius := width / 2
  let ends := match cap with
    | .butt => []
    | .round => [points.head?, points.getLast?].filterMap fun p? ↦ p?.map (discCorners · radius)
  if 0 < width then strokeCorners radius points ++ ends else []

/-- The corners of the polygons whose union is a shape on the board; `none` for a shape without
outline. -/
def shapeCorners? (s : Shape) : Option (List (List (Point Float))) :=
  match s with
  | .stroke path width cap =>
    let width := width.toFloat32.toFloat
    some ((path.contour?.map fun c ↦ penCorners (contourPoints 24 c) width cap).getD [])
  | _ =>
    s.toPath?.map fun path ↦ (path.contour?.map (contourPoints 64)).toList

/-- The area of a shape on a raster of a given height, under a map from the board to pixels. -/
def Area.ofShape? (height : Nat) (m : Affine Float) (s : Shape) : Option Area :=
  (shapeCorners? s).map fun polygons ↦
    .ofPolygons height (polygons.map fun corners ↦ .ofCorners (corners.map m.apply))

end GerberMask.Raster
