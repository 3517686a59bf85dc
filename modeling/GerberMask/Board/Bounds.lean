import GerberMask.Board.Point

/-!
# Bounds

The extent of everything drawn on a board. It starts empty and only grows, by the smallest
axis-parallel box that holds the old extent and the new rectangle; a rectangle with a corner that
is not finite is ignored. One value can be threaded through several layers of a board, so that
they share a frame.
-/

namespace GerberMask

/-- An axis-parallel box, by its lowest and highest corner. -/
structure Box where
  lo : Point Float
  hi : Point Float
  deriving DecidableEq, Repr

namespace Box

/-- The smaller of two numbers; one that is not a number gives way. -/
def lesser (a b : Float) : Float :=
  if a ≤ b ∨ b.isNaN then a else b

/-- The larger of two numbers; one that is not a number gives way. -/
def greater (a b : Float) : Float :=
  if a ≤ b ∨ a.isNaN then b else a

/-- The box with two given opposite corners. -/
def spanned (p q : Point Float) : Box :=
  ⟨⟨lesser p.x q.x, lesser p.y q.y⟩, ⟨greater p.x q.x, greater p.y q.y⟩⟩

/-- The smallest box that holds two boxes. -/
def join (a b : Box) : Box :=
  ⟨⟨lesser a.lo.x b.lo.x, lesser a.lo.y b.lo.y⟩,
    ⟨greater a.hi.x b.hi.x, greater a.hi.y b.hi.y⟩⟩

/-- Whether the second box lies inside the first; edges may touch. -/
def encloses (a b : Box) : Bool :=
  a.lo.x ≤ b.lo.x && a.lo.y ≤ b.lo.y && a.hi.x ≥ b.hi.x && a.hi.y ≥ b.hi.y

end Box

/-- A growing extent, empty at first. -/
structure Bounds where
  extent : Option Box
  deriving DecidableEq, Repr

namespace Bounds

/-- The extent of nothing. -/
def empty : Bounds := ⟨none⟩

instance : Inhabited Bounds := ⟨empty⟩

/-- Whether nothing was included. -/
def isEmpty (b : Bounds) : Bool :=
  b.extent.isNone

/-- Whether the rectangle with two given corners counts: all four coordinates are finite. -/
def admits (p q : Point Float) : Bool :=
  p.isFinite && q.isFinite

/-- Grows the extent to a box. -/
def includeBox (b : Bounds) (box : Box) : Bounds :=
  ⟨some <| match b.extent with
    | none => box
    | some old => old.join box⟩

/-- Grows the extent to the rectangle with two given corners, if it counts. -/
def includeRect (b : Bounds) (p q : Point Float) : Bounds :=
  if admits p q then b.includeBox (Box.spanned p q) else b

/-- Grows the extent to a point, if it counts. -/
def includePoint (b : Bounds) (p : Point Float) : Bounds :=
  b.includeRect p p

/-- Grows the extent to another one. -/
def union (b other : Bounds) : Bounds :=
  match other.extent with
  | none => b
  | some box => b.includeRect box.lo box.hi

/-- The left edge; zero when empty. -/
def minX (b : Bounds) : Float := (b.extent.map (·.lo.x)).getD 0

/-- The lower edge; zero when empty. -/
def minY (b : Bounds) : Float := (b.extent.map (·.lo.y)).getD 0

/-- The right edge; zero when empty. -/
def maxX (b : Bounds) : Float := (b.extent.map (·.hi.x)).getD 0

/-- The upper edge; zero when empty. -/
def maxY (b : Bounds) : Float := (b.extent.map (·.hi.y)).getD 0

/-- The horizontal size. -/
def width (b : Bounds) : Float := b.maxX - b.minX

/-- The vertical size. -/
def height (b : Bounds) : Float := b.maxY - b.minY

/-- Whether the other extent lies inside this one. The empty extent lies inside every one. -/
def contains (b other : Bounds) : Bool :=
  match b.extent, other.extent with
  | _, none => true
  | none, some _ => false
  | some a, some o => a.encloses o

/-! ### What inclusion does -/

theorem includeRect_of_not_admits {p q : Point Float} (h : admits p q = false) (b : Bounds) :
    b.includeRect p q = b := by
  simp [includeRect, h]

@[simp] theorem union_empty (b : Bounds) : b.union empty = b := rfl

@[simp] theorem contains_empty (b : Bounds) : b.contains empty = true := by
  cases b with | mk e => cases e <;> rfl

end Bounds

end GerberMask
