import GerberMask.Proofs.Gerber.ArcCenters

/-!
# The sweep of an arc

An arc sweeps from the direction of its start to the direction of its end, both between 0 and 360
degrees. The difference of the two is right up to full turns, and there is one sweep of each sense
that is not zero and not more than a full turn. Both senses are the same formula with a sign
(`Arc.value_sweepBetween`): a difference in the sense of the arc stays as it is, any other one gains
a full turn in that sense, and a difference of zero is one of the others.

## Where the angles come from

The direction of a point from a centre is found by an arctangent, which exact arithmetic does not
have. `Arc.angleBy` is the same computation with the arctangent as a parameter: the program uses it
with the one of binary numbers (`Arc.angleOf_eq`), and all that exact arithmetic asks of it is to
lie between the two vertical directions (`Arc.value_angleBy`).
-/

namespace GerberMask.Gerber

open ExactScalar

namespace ArcDirection

/-- The other sense. -/
def reverse : ArcDirection → ArcDirection
  | clockwise => counterClockwise
  | counterClockwise => clockwise

theorem sign_reverse (direction : ArcDirection) : direction.reverse.sign = -direction.sign := by
  cases direction <;> simp [sign, reverse]

theorem abs_eq_sign_mul {direction : ArcDirection} {x : ℝ} (h : 0 < direction.sign * x) :
    |x| = direction.sign * x := by
  cases direction with
  | clockwise =>
    rw [sign, neg_one_mul, neg_pos] at h
    rw [abs_of_neg h, sign, neg_one_mul]
  | counterClockwise =>
    rw [sign, one_mul] at h
    rw [abs_of_pos h, sign, one_mul]

end ArcDirection

namespace Arc

section Definitions

variable {α : Type} [Scalar α]

/-- The direction in which a point is seen from a centre, by a given arctangent in degrees. -/
def angleBy (arctangent : α → α) (center p : Point α) : α :=
  let dx := p.x - center.x
  let dy := p.y - center.y
  let angle :=
    if Scalar.same dx Scalar.zero then
      if Scalar.less Scalar.zero dy then Scalar.ofNat 90 else Scalar.ofNat 270
    else arctangent (dy / dx)
  let angle := if Scalar.less p.x center.x then angle + Scalar.ofNat 180 else angle
  if Scalar.less angle Scalar.zero then angle + Scalar.ofNat 360 else angle

/-- The sweep of the arc between two points with the given offsets to its centre, by a given
arctangent in degrees. -/
def sweepBy (arctangent : α → α) (start stop offset : Point α) (direction : ArcDirection)
    (quadrant : QuadrantMode) : α :=
  let center := centerOf start stop offset direction quadrant
  sweepBetween direction (angleBy arctangent center start) (angleBy arctangent center stop)

end Definitions

/-! ### Angles and sweeps of binary numbers -/

/-- The arctangent of a binary number in degrees. -/
def arctangentOf (t : Float) : Float :=
  t.atan * (180 / halfTurn)

theorem angleOf_eq (center p : Point Float) : angleOf center p = angleBy arctangentOf center p := by
  have hzero : (Scalar.zero : Float) = 0 := rfl
  have hquarter : (Scalar.ofNat 90 : Float) = 90 := rfl
  have hhalf : (Scalar.ofNat 180 : Float) = 180 := rfl
  have hthree : (Scalar.ofNat 270 : Float) = 270 := rfl
  have hfull : (Scalar.ofNat 360 : Float) = 360 := rfl
  simp only [angleOf, angleBy, arctangentOf, hzero, hquarter, hhalf, hthree, hfull, Scalar.same,
    Scalar.less, decide_eq_true_iff]

theorem sweep_resolve (start stop offset : Point Float) (direction : ArcDirection)
    (quadrant : QuadrantMode) :
    (resolve start stop offset direction quadrant).sweep =
      sweepBy arctangentOf start stop offset direction quadrant := by
  simp only [resolve, sweepBy, angleOf_eq]

variable {α : Type} [Scalar α] [ExactScalar α] {arctangent : α → α}

/-! ### Angles -/

/-- **Every direction has an angle from 0 to below a full turn**, since an arctangent lies between
the two vertical directions. -/
theorem value_angleBy (harctangent : ∀ t, |value (arctangent t)| < 90) (center p : Point α) :
    value (angleBy arctangent center p) ∈ Set.Ico (0 : ℝ) 360 := by
  rw [Set.mem_Ico]
  simp only [angleBy, apply_ite value, less_iff, same_iff, value_add, value_sub, value_ofNat,
    value_zero, sub_eq_zero, sub_pos]
  obtain ⟨hlower, hupper⟩ := abs_lt.1 (harctangent ((p.y - center.y) / (p.x - center.x)))
  norm_num
  split_ifs <;> constructor <;> linarith

/-! ### Sweeps -/

section Sweeps

variable (direction : ArcDirection) {start stop : α} (hstart : value start ∈ Set.Ico (0 : ℝ) 360)
  (hstop : value stop ∈ Set.Ico (0 : ℝ) 360)

include hstart hstop

/-- **The sweep of either sense.** A difference of angles in this sense is the sweep, any other
difference is a full turn short of it. -/
theorem value_sweepBetween : value (sweepBetween direction start stop) =
    if 0 < direction.sign * (value stop - value start) then value stop - value start
    else value stop - value start + direction.sign * 360 := by
  obtain ⟨hstart₀, hstart₁⟩ := hstart
  obtain ⟨hstop₀, hstop₁⟩ := hstop
  have hlower : -360 < value stop - value start := by linarith
  have hupper : value stop - value start < 360 := by linarith
  cases direction <;>
    simp only [sweepBetween, ArcDirection.sign, apply_ite value, less_iff, same_iff, value_add,
      value_sub, value_neg, value_ofNat, value_zero]
  -- behind a difference that is not in the sense there is a full turn, also behind zero
  all_goals grind

theorem sign_mul_sweepBetween :
    direction.sign * value (sweepBetween direction start stop) ∈ Set.Ioc (0 : ℝ) 360 := by
  rw [value_sweepBetween direction hstart hstop]
  obtain ⟨hstart₀, hstart₁⟩ := hstart
  obtain ⟨hstop₀, hstop₁⟩ := hstop
  split
  next hsense =>
    refine ⟨hsense, ?_⟩
    cases direction <;> simp only [ArcDirection.sign] <;> linarith
  next hsense =>
    rw [mul_add, ← mul_assoc, direction.sign_mul_self, one_mul]
    refine ⟨?_, by linarith⟩
    cases direction <;> simp only [ArcDirection.sign] <;> linarith

/-- A sweep is the difference of the angles up to full turns. -/
theorem exists_value_sweepBetween : ∃ k : ℤ,
    value (sweepBetween direction start stop) = value stop - value start + 360 * k := by
  rw [value_sweepBetween direction hstart hstop]
  split
  · exact ⟨0, by simp⟩
  · cases direction
    · exact ⟨-1, by simp [ArcDirection.sign]⟩
    · exact ⟨1, by simp [ArcDirection.sign]⟩

/-- A sweep is a full turn exactly from an angle to itself. -/
theorem abs_sweepBetween_eq_iff :
    |value (sweepBetween direction start stop)| = 360 ↔ start = stop := by
  have hsame : start = stop ↔ value start = value stop := value_injective.eq_iff.symm
  rw [ArcDirection.abs_eq_sign_mul (sign_mul_sweepBetween direction hstart hstop).1,
    value_sweepBetween direction hstart hstop, hsame]
  obtain ⟨hstart₀, hstart₁⟩ := hstart
  obtain ⟨hstop₀, hstop₁⟩ := hstop
  cases direction <;> simp only [ArcDirection.sign, one_mul, neg_one_mul] <;> grind

/-- The way back sweeps as much in the other sense. -/
theorem sweepBetween_reverse :
    sweepBetween direction.reverse stop start = -sweepBetween direction start stop := by
  refine value_injective ?_
  have hsense : direction.reverse.sign * (value start - value stop) =
      direction.sign * (value stop - value start) := by
    rw [direction.sign_reverse]
    ring
  rw [value_neg, value_sweepBetween direction hstart hstop,
    value_sweepBetween direction.reverse hstop hstart, hsense, direction.sign_reverse]
  split <;> ring

end Sweeps

end Arc

open Arc

variable {α : Type} [Scalar α] [ExactScalar α]

/-- **Sweeps are normalised.** Between two angles from 0 to below 360 degrees, in exact arithmetic,
the sweep counter-clockwise is above 0 and at most 360, the one clockwise is below 0 and at least
-360, either is the difference of the angles up to full turns, it is a full turn exactly if the
angles are equal, and on the way back, in the other sense, it is the opposite number.

The angles of an arc are of this kind, so an arc with the same centre, the ends exchanged and the
sense reversed has the opposite sweep. The arcs of the program are resolved by these formulas. -/
theorem arc_sweeps (arctangent : α → α) (harctangent : ∀ t, |value (arctangent t)| < 90) :
    (∀ start stop : α, value start ∈ Set.Ico (0 : ℝ) 360 → value stop ∈ Set.Ico (0 : ℝ) 360 →
      value (sweepBetween .counterClockwise start stop) ∈ Set.Ioc (0 : ℝ) 360 ∧
      value (sweepBetween .clockwise start stop) ∈ Set.Ico (-360 : ℝ) 0 ∧
      ∀ direction,
        (∃ k : ℤ, value (sweepBetween direction start stop) =
          value stop - value start + 360 * k) ∧
        (|value (sweepBetween direction start stop)| = 360 ↔ start = stop) ∧
        sweepBetween direction.reverse stop start = -sweepBetween direction start stop) ∧
    (∀ center p : Point α, value (angleBy arctangent center p) ∈ Set.Ico (0 : ℝ) 360) ∧
    (∀ (start stop offset offset' : Point α) (direction : ArcDirection)
      (quadrant quadrant' : QuadrantMode),
      centerOf stop start offset' direction.reverse quadrant' =
        centerOf start stop offset direction quadrant →
      sweepBy arctangent stop start offset' direction.reverse quadrant' =
        -sweepBy arctangent start stop offset direction quadrant) ∧
    ∀ (start stop offset : Point Float) (direction : ArcDirection) (quadrant : QuadrantMode),
      (resolve start stop offset direction quadrant).startAngle =
        angleBy arctangentOf (centerOf start stop offset direction quadrant) start ∧
      (resolve start stop offset direction quadrant).sweep =
        sweepBy arctangentOf start stop offset direction quadrant := by
  refine ⟨fun start stop hstart hstop ↦ ⟨?_, ?_, fun direction ↦ ⟨?_, ?_, ?_⟩⟩,
    value_angleBy harctangent,
    fun start stop offset offset' direction quadrant quadrant' hcenter ↦ ?_,
    fun start stop offset direction quadrant ↦ ⟨angleOf_eq .., sweep_resolve ..⟩⟩
  · simpa [ArcDirection.sign] using sign_mul_sweepBetween .counterClockwise hstart hstop
  · obtain ⟨hneg, hturn⟩ := sign_mul_sweepBetween .clockwise hstart hstop
    rw [ArcDirection.sign, neg_one_mul] at hneg hturn
    exact ⟨by linarith, by linarith⟩
  · exact exists_value_sweepBetween direction hstart hstop
  · exact abs_sweepBetween_eq_iff direction hstart hstop
  · exact sweepBetween_reverse direction hstart hstop
  · rw [sweepBy, sweepBy, hcenter]
    exact sweepBetween_reverse direction (value_angleBy harctangent ..)
      (value_angleBy harctangent ..)

/-- An arctangent that is right on the diagonals and on the horizontal. -/
def diagonalArctangent (t : ℚ) : ℚ :=
  if t < 0 then -45 else if 0 < t then 45 else 0

/-- An arc over the angle zero, from the lower to the upper diagonal and back. -/
theorem arc_sweeps_across_zero :
    (∀ t, |value (diagonalArctangent t)| < 90) ∧
    (angleBy diagonalArctangent ⟨2, 3⟩ ⟨3, 2⟩ = 315 ∧
      angleBy diagonalArctangent ⟨2, 3⟩ ⟨3, 4⟩ = 45) ∧
    (value (315 : ℚ) ∈ Set.Ico (0 : ℝ) 360 ∧ value (45 : ℚ) ∈ Set.Ico (0 : ℝ) 360) ∧
    value (sweepBetween .counterClockwise (315 : ℚ) 45) ∈ Set.Ioc (0 : ℝ) 360 ∧
    centerOf ⟨3, 4⟩ ⟨3, 2⟩ (⟨-1, -1⟩ : Point ℚ) .clockwise .multi =
      centerOf ⟨3, 2⟩ ⟨3, 4⟩ ⟨-1, 1⟩ .counterClockwise .multi ∧
    sweepBy diagonalArctangent ⟨3, 4⟩ ⟨3, 2⟩ ⟨-1, -1⟩ .clockwise .multi =
      -sweepBy diagonalArctangent ⟨3, 2⟩ ⟨3, 4⟩ ⟨-1, 1⟩ .counterClockwise .multi := by
  have harctangent : ∀ t, |value (diagonalArctangent t)| < 90 := by
    intro t
    unfold diagonalArctangent
    split_ifs <;> norm_num [value]
  have hlower : value (315 : ℚ) ∈ Set.Ico (0 : ℝ) 360 := by norm_num [value]
  have hupper : value (45 : ℚ) ∈ Set.Ico (0 : ℝ) 360 := by norm_num [value]
  have hcenter : centerOf ⟨3, 4⟩ ⟨3, 2⟩ (⟨-1, -1⟩ : Point ℚ) .clockwise .multi =
      centerOf ⟨3, 2⟩ ⟨3, 4⟩ ⟨-1, 1⟩ .counterClockwise .multi := by decide +kernel
  obtain ⟨hsweeps, -, hreverse, -⟩ := arc_sweeps diagonalArctangent harctangent
  exact ⟨harctangent, by decide +kernel, ⟨hlower, hupper⟩, (hsweeps 315 45 hlower hupper).1,
    hcenter, hreverse ⟨3, 2⟩ ⟨3, 4⟩ ⟨-1, 1⟩ ⟨-1, -1⟩ .counterClockwise .multi .multi hcenter⟩

end GerberMask.Gerber
