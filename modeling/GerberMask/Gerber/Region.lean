import GerberMask.Gerber.Arc
import GerberMask.Gerber.Shape

/-!
# Regions

Between its opening and its closure a region collects one contour. The contour begins with the first
move, or with the first drawn edge at the place where that edge begins; every further move or line
is a straight edge, every arc a straight edge to the arc's own start and then the arc. A contour in
which nothing was drawn gives no path.
-/

namespace GerberMask.Gerber

/-- An edge of a contour. -/
inductive RegionEdge where
  | line (dest : Point Float)
  | arc (arc : Arc)
  deriving DecidableEq, Repr

/-- The path segments of an edge. -/
def RegionEdge.segments : RegionEdge → List PathSegment
  | line dest => [.line (toPathPoint dest)]
  | arc a => .line (toPathPoint a.startPoint) :: a.segments

/-- A contour that is being collected: without a start, or a start point and edges. -/
inductive RegionContour where
  | unstarted
  | started (start : Point Float) (edges : Array RegionEdge)

namespace RegionContour

instance : Inhabited RegionContour := ⟨unstarted⟩

/-- Whether the contour has a start point. -/
def isStarted : RegionContour → Bool
  | unstarted => false
  | started .. => true

/-- The edges that were drawn. -/
def edges : RegionContour → Array RegionEdge
  | unstarted => #[]
  | started _ es => es

/-- Adds an edge that begins at a place; the place becomes the start point of the contour if it has
none. -/
def draw (c : RegionContour) (place : Point Float) (edge : RegionEdge) : RegionContour :=
  match c with
  | unstarted => started place #[edge]
  | started start es => started start (es.push edge)

/-- Moves to a place: the start point at first, then a straight edge. -/
def moveTo (c : RegionContour) (dest : Point Float) : RegionContour :=
  match c with
  | unstarted => started dest #[]
  | started start es => started start (es.push (.line dest))

/-- The closed path, if anything was drawn. -/
def build (c : RegionContour) : Option Path :=
  match c with
  | unstarted => none
  | started start es =>
    if es.isEmpty then none
    else some (.ofContour ⟨toPathPoint start, es.toList.flatMap RegionEdge.segments, true⟩)

end RegionContour

end GerberMask.Gerber
