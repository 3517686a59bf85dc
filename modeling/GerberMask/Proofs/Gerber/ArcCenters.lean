import Mathlib.Tactic.LinearCombination
import GerberMask.Gerber.Arc
import GerberMask.Proofs.Number.ExactScalars

/-!
# The centre of an arc

In single-quadrant mode the offsets to the centre come without their signs, and a table of signs is
read off the direction of travel. The table is right for every arc inside one closed quadrant around
its centre, whichever the quadrant and the sense, also where an end lies on its border and an offset
is zero (`arc_centers`).

What carries the proof is a fact about chords of a circle: going counter-clockwise, a chord rises
exactly if its middle lies to the right of the centre, and it advances exactly if its middle lies
below (`chord_rises_iff`, `chord_advances_iff`). Clockwise it is the other way round. The quadrant
is needed only to know that the start lies on the same side of the centre as the middle.
-/

namespace GerberMask

/-! ### Vectors -/

namespace Point

/-- The square of the length of a vector. -/
def normSq (p : Point ℝ) : ℝ :=
  p.x ^ 2 + p.y ^ 2

/-- The square of the distance between two points. -/
def distSq (p q : Point ℝ) : ℝ :=
  (p.x - q.x) ^ 2 + (p.y - q.y) ^ 2

/-- The area between two vectors, positive if the second lies counter-clockwise of the first. -/
def cross (u v : Point ℝ) : ℝ :=
  u.x * v.y - u.y * v.x

end Point

/-- A closed quadrant of the plane, its borders included. -/
structure Quadrant where
  right : Bool
  upper : Bool

/-- Whether a vector lies in a quadrant. -/
def Quadrant.Contains (q : Quadrant) (p : Point ℝ) : Prop :=
  (if q.right then 0 ≤ p.x else p.x ≤ 0) ∧ (if q.upper then 0 ≤ p.y else p.y ≤ 0)

/-- Two numbers on one side of zero. -/
def SameSide (a b : ℝ) : Prop :=
  (0 ≤ a ∧ 0 ≤ b) ∨ (a ≤ 0 ∧ b ≤ 0)

namespace SameSide

variable {a b : ℝ}

theorem nonneg (h : SameSide a b) (hsum : 0 ≤ a + b) : 0 ≤ a := by
  obtain ⟨ha, -⟩ | ⟨ha, hb⟩ := h
  · exact ha
  · linarith

theorem nonpos (h : SameSide a b) (hsum : a + b ≤ 0) : a ≤ 0 := by
  obtain ⟨ha, hb⟩ | ⟨ha, -⟩ := h
  · linarith
  · exact ha

theorem eq_of_eq_neg (h : SameSide a b) (hneg : a = -b) : a = b := by
  obtain ⟨ha, hb⟩ | ⟨ha, hb⟩ := h <;> linarith

end SameSide

theorem Quadrant.Contains.sameSide {q : Quadrant} {u v : Point ℝ} (hu : q.Contains u)
    (hv : q.Contains v) : SameSide u.x v.x ∧ SameSide u.y v.y := by
  obtain ⟨right, upper⟩ := q
  obtain ⟨hux, huy⟩ := hu
  obtain ⟨hvx, hvy⟩ := hv
  constructor
  · cases right
    · exact .inr ⟨hux, hvx⟩
    · exact .inl ⟨hux, hvx⟩
  · cases upper
    · exact .inr ⟨huy, hvy⟩
    · exact .inl ⟨huy, hvy⟩

namespace Gerber

namespace ArcDirection

/-- The sign of a sense of rotation. -/
def sign : ArcDirection → ℝ
  | counterClockwise => 1
  | clockwise => -1

theorem sign_mul_self (direction : ArcDirection) : direction.sign * direction.sign = 1 := by
  cases direction <;> simp [sign]

/-- Whether the way from one vector to another, by less than half a turn, has this sense. -/
def Turns (direction : ArcDirection) (u v : Point ℝ) : Prop :=
  0 < direction.sign * u.cross v

end ArcDirection

/-! ### Chords of a circle -/

section

variable {u v : Point ℝ}

/-- The square of the length of the sum of two vectors, which points to the middle of the chord. -/
private def middleSq (u v : Point ℝ) : ℝ :=
  (u.x + v.x) ^ 2 + (u.y + v.y) ^ 2

private theorem rise_eq (hlength : u.normSq = v.normSq) :
    (v.y - u.y) * middleSq u v = 2 * u.cross v * (u.x + v.x) := by
  unfold Point.normSq at hlength
  unfold middleSq Point.cross
  linear_combination (-(u.y + v.y)) * hlength

private theorem advance_eq (hlength : u.normSq = v.normSq) :
    (v.x - u.x) * middleSq u v = 2 * u.cross v * -(u.y + v.y) := by
  unfold Point.normSq at hlength
  unfold middleSq Point.cross
  linear_combination (-(u.x + v.x)) * hlength

private theorem eq_neg_of_middleSq (h : ¬ 0 < middleSq u v) : u.x = -v.x ∧ u.y = -v.y := by
  unfold middleSq at h
  constructor <;> nlinarith [sq_nonneg (u.x + v.x), sq_nonneg (u.y + v.y)]

private theorem middleSq_pos {direction : ArcDirection} (hturn : direction.Turns u v) :
    0 < middleSq u v := by
  by_contra hzero
  obtain ⟨hx, hy⟩ := eq_neg_of_middleSq hzero
  rw [ArcDirection.Turns, Point.cross, hx, hy] at hturn
  linarith

/-- Counter-clockwise, a chord rises exactly if its middle is to the right of the centre; clockwise,
if it is to the left. -/
theorem chord_rises_iff {direction : ArcDirection} (hlength : u.normSq = v.normSq)
    (hturn : direction.Turns u v) : u.y < v.y ↔ 0 < direction.sign * (u.x + v.x) := by
  have hproduct : (v.y - u.y) * middleSq u v =
      2 * (direction.sign * u.cross v) * (direction.sign * (u.x + v.x)) := by
    linear_combination rise_eq hlength -
      2 * u.cross v * (u.x + v.x) * direction.sign_mul_self
  rw [← sub_pos, ← mul_pos_iff_of_pos_right (middleSq_pos hturn), hproduct,
    mul_pos_iff_of_pos_left (mul_pos two_pos hturn)]

/-- Counter-clockwise, a chord advances exactly if its middle is below the centre; clockwise, if it
is above. -/
theorem chord_advances_iff {direction : ArcDirection} (hlength : u.normSq = v.normSq)
    (hturn : direction.Turns u v) : u.x < v.x ↔ direction.sign * (u.y + v.y) < 0 := by
  have hproduct : (v.x - u.x) * middleSq u v =
      2 * (direction.sign * u.cross v) * -(direction.sign * (u.y + v.y)) := by
    linear_combination advance_eq hlength +
      2 * u.cross v * (u.y + v.y) * direction.sign_mul_self
  rw [← sub_pos, ← mul_pos_iff_of_pos_right (middleSq_pos hturn), hproduct,
    mul_pos_iff_of_pos_left (mul_pos two_pos hturn), neg_pos]

/-- Two different vectors of one length in one quadrant turn one way or the other. -/
theorem exists_turns {q : Quadrant} (hu : q.Contains u) (hv : q.Contains v)
    (hlength : u.normSq = v.normSq) (hne : u ≠ v) : ∃ direction : ArcDirection,
      direction.Turns u v := by
  rcases lt_trichotomy (u.cross v) 0 with hturn | hturn | hturn
  · exact ⟨.clockwise, by simpa [ArcDirection.Turns, ArcDirection.sign] using hturn⟩
  · have hrise := rise_eq hlength
    have hadvance := advance_eq hlength
    rw [hturn, mul_zero, zero_mul, mul_eq_zero, sub_eq_zero] at hrise hadvance
    have hsame : u.x = v.x ∧ u.y = v.y := by
      by_cases hmiddle : 0 < middleSq u v
      · exact ⟨(hadvance.resolve_right hmiddle.ne').symm, (hrise.resolve_right hmiddle.ne').symm⟩
      -- opposite vectors of one quadrant are both zero
      · obtain ⟨hx, hy⟩ := eq_neg_of_middleSq hmiddle
        obtain ⟨hsx, hsy⟩ := hu.sameSide hv
        exact ⟨hsx.eq_of_eq_neg hx, hsy.eq_of_eq_neg hy⟩
    exact absurd (congrArg₂ Point.mk hsame.1 hsame.2) hne
  · exact ⟨.counterClockwise, by simpa [ArcDirection.Turns, ArcDirection.sign] using hturn⟩

end

namespace Arc

/-! ### The table of signs -/

/-- The square of the radius that offsets to a centre give. -/
def radiusSq {α : Type} [Scalar α] (offset : Point α) : α :=
  offset.x * offset.x + offset.y * offset.y

variable {α : Type} [Scalar α] [ExactScalar α]

open ExactScalar

/-- Going back by the size of a coordinate leads to zero, in the direction of its sign. -/
theorem back_eq {c a size : α} {negative : Prop} [Decidable negative]
    (hsize : value size = |value a|) (hpos : ¬negative → 0 ≤ value a)
    (hneg : negative → value a ≤ 0) :
    (if negative then c + a + size else c + a - size) = c := by
  refine value_injective ?_
  split
  next h =>
    rw [value_add, value_add, hsize, abs_of_nonpos (hneg h)]
    ring
  next h =>
    rw [value_sub, value_add, hsize, abs_of_nonneg (hpos h)]
    ring

/-- **The centre of an arc inside one quadrant is found from offsets without signs.** -/
theorem centerOf_single {c u v offset : Point α} {q : Quadrant} {direction : ArcDirection}
    (hu : q.Contains (u.map value)) (hv : q.Contains (v.map value))
    (hlength : (u.map value).normSq = (v.map value).normSq)
    (hturn : direction.Turns (u.map value) (v.map value))
    (hx : value offset.x = |value u.x|) (hy : value offset.y = |value u.y|) :
    centerOf (c.offset u.x u.y) (c.offset v.x v.y) offset direction .single = c := by
  have hupwards : (Scalar.less (c.y + u.y) (c.y + v.y) = true) ↔
      0 < direction.sign * (value u.x + value v.x) := by
    rw [less_iff, value_add, value_add, add_lt_add_iff_left]
    exact chord_rises_iff hlength hturn
  have hrightwards : (Scalar.less (c.x + u.x) (c.x + v.x) = true) ↔
      direction.sign * (value u.y + value v.y) < 0 := by
    rw [less_iff, value_add, value_add, add_lt_add_iff_left]
    exact chord_advances_iff hlength hturn
  obtain ⟨hsx, hsy⟩ := hu.sameSide hv
  cases direction with
  | counterClockwise =>
    rw [ArcDirection.sign, one_mul] at hupwards hrightwards
    refine congrArg₂ Point.mk ?_ ?_
    · show (if Scalar.less (c.y + u.y) (c.y + v.y) then c.x + u.x - offset.x
        else c.x + u.x + offset.x) = c.x
      rw [← ite_not]
      exact back_eq hx (fun h ↦ hsx.nonneg (hupwards.1 (not_not.1 h)).le)
        fun h ↦ hsx.nonpos (not_lt.1 (mt hupwards.2 h))
    · show (if Scalar.less (c.x + u.x) (c.x + v.x) then c.y + u.y + offset.y
        else c.y + u.y - offset.y) = c.y
      exact back_eq hy (fun h ↦ hsy.nonneg (not_lt.1 (mt hrightwards.2 h)))
        fun h ↦ hsy.nonpos (hrightwards.1 h).le
  | clockwise =>
    rw [ArcDirection.sign, neg_one_mul] at hupwards hrightwards
    rw [neg_pos] at hupwards
    rw [neg_lt_zero] at hrightwards
    refine congrArg₂ Point.mk ?_ ?_
    · show (if Scalar.less (c.y + u.y) (c.y + v.y) then c.x + u.x + offset.x
        else c.x + u.x - offset.x) = c.x
      exact back_eq hx (fun h ↦ hsx.nonneg (not_lt.1 (mt hupwards.2 h)))
        fun h ↦ hsx.nonpos (hupwards.1 h).le
    · show (if Scalar.less (c.x + u.x) (c.x + v.x) then c.y + u.y - offset.y
        else c.y + u.y + offset.y) = c.y
      rw [← ite_not]
      exact back_eq hy (fun h ↦ hsy.nonneg (hrightwards.1 (not_not.1 h)).le)
        fun h ↦ hsy.nonpos (not_lt.1 (mt hrightwards.2 h))

/-- The offsets without signs are as long as the radius to both ends. -/
theorem value_radiusSq {c u v offset : Point α}
    (hlength : (u.map value).normSq = (v.map value).normSq)
    (hx : value offset.x = |value u.x|) (hy : value offset.y = |value u.y|) :
    value (radiusSq offset) = ((c.offset u.x u.y).map value).distSq (c.map value) ∧
      value (radiusSq offset) = ((c.offset v.x v.y).map value).distSq (c.map value) := by
  have hsize : value (radiusSq offset) = (u.map value).normSq := by
    simp [radiusSq, hx, hy, Point.normSq, pow_two]
  have hdist : ∀ w : Point α, ((c.offset w.x w.y).map value).distSq (c.map value) =
      (w.map value).normSq := by
    intro w
    simp [Point.distSq, Point.normSq, Point.offset]
  exact ⟨hsize.trans (hdist u).symm, hsize.trans (hlength.trans (hdist v).symm)⟩

end Arc

open Arc ExactScalar

variable (α : Type) [Scalar α] [ExactScalar α]

/-- **The table of signs recovers the centre.** In exact arithmetic, for two different vectors of
one length in one closed quadrant around a centre, an arc between their ends in the sense in which
the first turns to the second, with the sizes of the coordinates of the first as offsets, has that
centre in single-quadrant mode, and the square of its radius is that of the distance to both ends.
In multi-quadrant mode the centre lies the offsets away from the start in either sense. An arc is
resolved with this centre and this radius. -/
theorem arc_centers :
    (∀ (c u v offset : Point α) (q : Quadrant), q.Contains (u.map value) →
      q.Contains (v.map value) → (u.map value).normSq = (v.map value).normSq → u ≠ v →
      value offset.x = |value u.x| → value offset.y = |value u.y| →
      (∃ direction : ArcDirection, direction.Turns (u.map value) (v.map value)) ∧
      (∀ direction : ArcDirection, direction.Turns (u.map value) (v.map value) →
        centerOf (c.offset u.x u.y) (c.offset v.x v.y) offset direction .single = c) ∧
      value (radiusSq offset) = ((c.offset u.x u.y).map value).distSq (c.map value) ∧
      value (radiusSq offset) = ((c.offset v.x v.y).map value).distSq (c.map value)) ∧
    (∀ (start stop offset : Point α) (direction : ArcDirection),
      centerOf start stop offset direction .multi =
        ⟨start.x + offset.x, start.y + offset.y⟩) ∧
    ∀ (start stop offset : Point Float) (direction : ArcDirection) (quadrant : QuadrantMode),
      (resolve start stop offset direction quadrant).center =
        centerOf start stop offset direction quadrant ∧
      (resolve start stop offset direction quadrant).radius = (radiusSq offset).sqrt := by
  refine ⟨fun c u v offset q hu hv hlength hne hx hy ↦ ?_, fun _ _ _ _ ↦ rfl,
    fun _ _ _ _ _ ↦ ⟨rfl, rfl⟩⟩
  have hne' : u.map value ≠ v.map value := by
    intro hsame
    obtain ⟨hsx, hsy⟩ := Point.mk.inj hsame
    exact hne (congrArg₂ Point.mk (value_injective hsx) (value_injective hsy))
  exact ⟨exists_turns hu hv hlength hne',
    fun direction hturn ↦ centerOf_single hu hv hlength hturn hx hy,
    value_radiusSq hlength hx hy⟩

/-- An arc in the upper left quadrant that begins on its border, where one offset is zero. -/
theorem arc_centers_on_border :
    (⟨false, true⟩ : Quadrant).Contains ((⟨0, 5⟩ : Point ℚ).map value) ∧
    (⟨false, true⟩ : Quadrant).Contains ((⟨-3, 4⟩ : Point ℚ).map value) ∧
    ArcDirection.counterClockwise.Turns ((⟨0, 5⟩ : Point ℚ).map value)
      ((⟨-3, 4⟩ : Point ℚ).map value) ∧
    centerOf (⟨1 + 0, 2 + 5⟩ : Point ℚ) ⟨1 + -3, 2 + 4⟩ ⟨0, 5⟩ .counterClockwise .single =
      ⟨1, 2⟩ ∧
    value (radiusSq (⟨0, 5⟩ : Point ℚ)) =
      ((⟨1 + -3, 2 + 4⟩ : Point ℚ).map value).distSq ((⟨1, 2⟩ : Point ℚ).map value) := by
  have hu : (⟨false, true⟩ : Quadrant).Contains ((⟨0, 5⟩ : Point ℚ).map value) := by
    constructor <;> norm_num [value]
  have hv : (⟨false, true⟩ : Quadrant).Contains ((⟨-3, 4⟩ : Point ℚ).map value) := by
    constructor <;> norm_num [value]
  have hlength : ((⟨0, 5⟩ : Point ℚ).map value).normSq =
      ((⟨-3, 4⟩ : Point ℚ).map value).normSq := by
    norm_num [Point.normSq, value]
  have hturn : ArcDirection.counterClockwise.Turns ((⟨0, 5⟩ : Point ℚ).map value)
      ((⟨-3, 4⟩ : Point ℚ).map value) := by
    norm_num [ArcDirection.Turns, ArcDirection.sign, Point.cross, value]
  obtain ⟨-, hcenter, -, hradius⟩ := (arc_centers ℚ).1 ⟨1, 2⟩ ⟨0, 5⟩ ⟨-3, 4⟩ ⟨0, 5⟩ _ hu hv hlength
    (by decide) (by norm_num [value]) (by norm_num [value])
  exact ⟨hu, hv, hturn, hcenter _ hturn, hradius⟩

end Gerber

end GerberMask
