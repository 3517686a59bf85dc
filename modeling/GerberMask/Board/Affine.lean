import GerberMask.Board.Point

/-!
# Affine maps

A map of the plane that keeps parallels: a linear part and a displacement. The type of the numbers
is a parameter, so the same compositions serve single precision and exact arithmetic. An angle
enters a rotation only by its cosine and sine.
-/

namespace GerberMask

/-- The map `(x, y) ↦ (x · xx + y · yx + dx, x · xy + y · yy + dy)`. -/
structure Affine (α : Type) where
  xx : α
  xy : α
  yx : α
  yy : α
  dx : α
  dy : α
  deriving DecidableEq, Repr

namespace Affine

variable {α : Type}

/-- The image of a point. -/
def apply [Add α] [Mul α] (m : Affine α) (p : Point α) : Point α :=
  ⟨p.x * m.xx + p.y * m.yx + m.dx, p.x * m.xy + p.y * m.yy + m.dy⟩

/-- The first map, then the second. -/
def andThen [Add α] [Mul α] (m n : Affine α) : Affine α where
  xx := m.xx * n.xx + m.xy * n.yx
  xy := m.xx * n.xy + m.xy * n.yy
  yx := m.yx * n.xx + m.yy * n.yx
  yy := m.yx * n.xy + m.yy * n.yy
  dx := m.dx * n.xx + m.dy * n.yx + n.dx
  dy := m.dx * n.xy + m.dy * n.yy + n.dy

/-- The displacement by a vector, given one and zero. -/
def shift (one zero : α) (dx dy : α) : Affine α :=
  ⟨one, zero, zero, one, dx, dy⟩

/-- The counter-clockwise rotation about the origin by the angle with a given cosine and sine. -/
def rotation [Neg α] (zero : α) (cos sin : α) : Affine α :=
  ⟨cos, sin, -sin, cos, zero, zero⟩

end Affine

end GerberMask
