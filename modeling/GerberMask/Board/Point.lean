/-!
# Points

Board space has its y axis upwards and is measured in inches. The type of the coordinates is a
parameter: binary numbers on the board, single precision inside a path, any scalar while
coordinates are decoded.
-/

namespace GerberMask

/-- A point of the plane, or a displacement. -/
structure Point (α : Type) where
  x : α
  y : α
  deriving DecidableEq, Repr, Inhabited

namespace Point

variable {α β : Type}

/-- Applies a function to both coordinates. -/
def map (f : α → β) (p : Point α) : Point β :=
  ⟨f p.x, f p.y⟩

/-- The point that lies a displacement away. -/
def offset [Add α] (p : Point α) (dx dy : α) : Point α :=
  ⟨p.x + dx, p.y + dy⟩

/-- The distance between two points. -/
def distance (p q : Point Float) : Float :=
  let dx := p.x - q.x
  let dy := p.y - q.y
  (dx * dx + dy * dy).sqrt

/-- Both coordinates are finite. -/
def isFinite (p : Point Float) : Bool :=
  p.x.isFinite && p.y.isFinite

@[simp] theorem map_x (f : α → β) (p : Point α) : (p.map f).x = f p.x := rfl

@[simp] theorem map_y (f : α → β) (p : Point α) : (p.map f).y = f p.y := rfl

end Point

end GerberMask
