import GerberMask.Board.Bounds
import GerberMask.Proofs.Number.SpecialNumbers

/-!
# Coordinates as exact numbers

A finite binary number is compared as the rational number that it stands for (`exactValue`).
Positive and negative zero are two numbers with one exact value, which is why equalities between
coordinates are stated here and not between the binary numbers themselves.
-/

namespace GerberMask

/-- The exact value of a finite number; zero for the others. -/
def exactValue (x : Float) : ℚ :=
  ((Binary.ofFloat? x).map Binary.toRat).getD 0

variable {x y : Float}

/-- Finite numbers are compared as exact values. -/
theorem le_iff_exactValue_le (hx : x.isFinite = true) (hy : y.isFinite = true) :
    x ≤ y ↔ exactValue x ≤ exactValue y := by
  obtain ⟨a, ha⟩ := Binary.exists_ofFloat? hx
  obtain ⟨b, hb⟩ := Binary.exists_ofFloat? hy
  rw [Binary.le_iff ha hb, exactValue, exactValue, ha, hb]
  rfl

namespace Box

theorem isFinite_lesser (hx : x.isFinite = true) (hy : y.isFinite = true) :
    (lesser x y).isFinite = true := by
  unfold lesser
  split
  · exact hx
  · exact hy

theorem isFinite_greater (hx : x.isFinite = true) (hy : y.isFinite = true) :
    (greater x y).isFinite = true := by
  unfold greater
  split
  · exact hy
  · exact hx

theorem exactValue_lesser (hx : x.isFinite = true) (hy : y.isFinite = true) :
    exactValue (lesser x y) = min (exactValue x) (exactValue y) := by
  simp only [lesser, Binary.isNaN_of_isFinite hy, Bool.false_eq_true, or_false,
    le_iff_exactValue_le hx hy]
  split
  next h => exact (min_eq_left h).symm
  next h => exact (min_eq_right (le_of_not_ge h)).symm

theorem exactValue_greater (hx : x.isFinite = true) (hy : y.isFinite = true) :
    exactValue (greater x y) = max (exactValue x) (exactValue y) := by
  simp only [greater, Binary.isNaN_of_isFinite hx, Bool.false_eq_true, or_false,
    le_iff_exactValue_le hx hy]
  split
  next h => exact (max_eq_right h).symm
  next h => exact (max_eq_left (le_of_not_ge h)).symm

end Box

end GerberMask
