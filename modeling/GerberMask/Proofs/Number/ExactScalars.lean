import Mathlib.Algebra.Order.Round
import Mathlib.Data.Rat.Floor
import Mathlib.Algebra.Order.Archimedean.Real.Basic
import Mathlib.Tactic.FieldSimp
import Mathlib.Tactic.Ring
import GerberMask.Board.LengthUnit

/-!
# Exact arithmetic

Statements about coordinates in exact arithmetic are statements over scalars that do not round. Each
number of such a type stands for one real number, its `value`, and every operation is the operation
on the values (`ExactScalar`). Rational numbers are the instance that can be computed with, and all
real numbers are exact scalars too (`ExactScalar.real`).

What is derived from the operations is then a formula on values: powers of ten by repeated squaring
are powers of ten (`value_tenPow`), and a length in inches is a length in its unit divided by the
number of these units in an inch (`value_toInches`).
-/

namespace GerberMask

/-- The integer nearest to a real number, halves away from zero. -/
noncomputable def nearestInteger (x : ℝ) : ℤ :=
  if x < 0 then -round (-x) else round x

/-- Scalars that do not round: every number has a real value of its own, and the operations are
those on the values. -/
class ExactScalar (α : Type) [Scalar α] where
  /-- The real number that a number stands for. -/
  value : α → ℝ
  value_injective : Function.Injective value
  value_add : ∀ a b : α, value (a + b) = value a + value b
  value_sub : ∀ a b : α, value (a - b) = value a - value b
  value_mul : ∀ a b : α, value (a * b) = value a * value b
  value_div : ∀ a b : α, value (a / b) = value a / value b
  value_neg : ∀ a : α, value (-a) = -value a
  less_iff : ∀ a b : α, Scalar.less a b = true ↔ value a < value b
  same_iff : ∀ a b : α, Scalar.same a b = true ↔ value a = value b
  value_ofDecimal : ∀ d : Decimal, value (Scalar.ofDecimal d) = d.toRat
  isFinite_eq_true : ∀ a : α, Scalar.isFinite a = true
  nearestInt_eq : ∀ a : α, Scalar.nearestInt a = clampInt64 (nearestInteger (value a))

/-! ### Rounding -/

theorem abs_sub_nearestInteger (x : ℝ) : |x - nearestInteger x| ≤ 1 / 2 := by
  unfold nearestInteger
  split
  · calc |x - (-round (-x) : ℤ)|
        = |-(-x - round (-x))| := by
          push_cast
          ring_nf
      _ = |-x - round (-x)| := abs_neg _
      _ ≤ 1 / 2 := abs_sub_round (-x)
  · exact abs_sub_round x

theorem nearestInteger_intCast (n : ℤ) : nearestInteger n = n := by
  unfold nearestInteger
  rw [← Int.cast_neg, round_intCast, round_intCast, neg_neg, ite_self]

theorem roundHalfUp_eq_round {num den : ℕ} (h : 0 < den) :
    (roundHalfUp num den : ℤ) = round ((num : ℚ) / den) := by
  have hsum : (num : ℚ) / den + 1 / 2 = ((2 * num + den : ℕ) : ℚ) / (2 * den : ℕ) := by
    push_cast
    field_simp
  rw [round_eq, hsum, Rat.floor_natCast_div_natCast]
  rfl

theorem roundRat_eq (q : ℚ) : roundRat q = nearestInteger q := by
  have hmagnitude : ((q.num.natAbs : ℕ) : ℚ) / q.den = |q| := by
    rw [Rat.abs_def, Rat.divInt_eq_div]
    rfl
  have hround : (roundHalfUp q.num.natAbs q.den : ℤ) = round |q| := by
    rw [roundHalfUp_eq_round q.den_pos, hmagnitude]
  unfold roundRat nearestInteger
  dsimp only
  rw [hround]
  simp only [Rat.num_neg, Rat.cast_lt_zero]
  split
  next h => rw [abs_of_neg h, ← Rat.cast_neg, Rat.round_cast]
  next h => rw [abs_of_nonneg (not_lt.1 h), Rat.round_cast]

theorem clampInt64_of_mem {n : ℤ} (hmin : int64Min ≤ n) (hmax : n ≤ int64Max) :
    clampInt64 n = n := by
  rw [clampInt64, min_eq_right hmax, max_eq_right hmin]

/-- Rational numbers do not round. -/
noncomputable instance : ExactScalar ℚ where
  value q := q
  value_injective := Rat.cast_injective
  value_add := Rat.cast_add
  value_sub := Rat.cast_sub
  value_mul := Rat.cast_mul
  value_div := Rat.cast_div
  value_neg := Rat.cast_neg
  less_iff _ _ := decide_eq_true_iff.trans Rat.cast_lt.symm
  same_iff _ _ := beq_iff_eq.trans Rat.cast_inj.symm
  value_ofDecimal _ := rfl
  isFinite_eq_true _ := rfl
  nearestInt_eq q := congrArg clampInt64 (roundRat_eq q)

/-- Real numbers, with any choice of the binary numbers that they are drawn at. They are no instance
because nothing could be run with them. -/
@[reducible]
noncomputable def Scalar.real (toFloat : ℝ → Float) : Scalar ℝ where
  less a b := a < b
  same a b := a = b
  ofDecimal d := d.toRat
  isFinite _ := true
  nearestInt a := clampInt64 (nearestInteger a)
  toFloat := toFloat

/-- Real numbers do not round either, so what holds over all exact scalars holds over them. -/
@[reducible]
noncomputable def ExactScalar.real (toFloat : ℝ → Float) :
    @ExactScalar ℝ (Scalar.real toFloat) :=
  letI := Scalar.real toFloat
  { value := id
    value_injective := Function.injective_id
    value_add := fun _ _ ↦ rfl
    value_sub := fun _ _ ↦ rfl
    value_mul := fun _ _ ↦ rfl
    value_div := fun _ _ ↦ rfl
    value_neg := fun _ ↦ rfl
    less_iff := fun _ _ ↦ decide_eq_true_iff
    same_iff := fun _ _ ↦ decide_eq_true_iff
    value_ofDecimal := fun _ ↦ rfl
    isFinite_eq_true := fun _ ↦ rfl
    nearestInt_eq := fun _ ↦ rfl }

/-! ### Values of what is derived -/

namespace ExactScalar

variable {α : Type} [Scalar α] [ExactScalar α]

attribute [simp] value_add value_sub value_mul value_div value_neg

theorem value_ofNat (n : ℕ) : value (Scalar.ofNat n : α) = n := by
  rw [Scalar.ofNat, value_ofDecimal]
  simp [Decimal.toRat, Decimal.ofNat]

theorem value_zero : value (Scalar.zero : α) = 0 := by
  rw [Scalar.zero, value_ofDecimal]
  simp [Decimal.toRat, Decimal.zero]

theorem value_powLoop (r a : α) (n : ℕ) :
    value (Scalar.powLoop r a n) = value r * value a ^ n := by
  induction n using Nat.strongRecOn generalizing r a with
  | ind n ih =>
    -- the factor that the lowest bit of the exponent asks for
    have hbit : value (if n % 2 = 1 then r * a else r) = value r * value a ^ (n % 2) := by
      rcases Nat.mod_two_eq_zero_or_one n with h | h <;> simp [h]
    rw [Scalar.powLoop]
    split
    next hlast =>
      rw [hbit, show n % 2 = n by omega]
    next hmore =>
      rw [ih (n / 2) (by omega), hbit, value_mul, ← pow_two, ← pow_mul, mul_assoc, ← pow_add,
        Nat.mod_add_div]

/-- **Repeated squaring gives the power of ten.** -/
theorem value_tenPow (n : ℤ) : value (Scalar.tenPow n : α) = 10 ^ n := by
  have hpow : value (Scalar.powLoop (Scalar.ofNat 1) (Scalar.ofNat 10) n.natAbs : α) =
      10 ^ n.natAbs := by
    simp [value_powLoop, value_ofNat]
  unfold Scalar.tenPow
  dsimp only
  split
  next h =>
    rw [value_div, hpow, value_ofNat, Nat.cast_one, one_div, ← zpow_natCast, ← zpow_neg,
      show -(n.natAbs : ℤ) = n by omega]
  next h => rw [hpow, ← zpow_natCast, show (n.natAbs : ℤ) = n by omega]

end ExactScalar

/-! ### Lengths -/

namespace LengthUnit

/-- How many of a unit are an inch. -/
noncomputable def perInch : LengthUnit → ℝ
  | inch => 1
  | millimetre => 25.4

variable {α : Type} [Scalar α] [ExactScalar α]

open ExactScalar in
theorem value_toInches (unit : LengthUnit) (a : α) :
    value (unit.toInches a) = value a / unit.perInch := by
  cases unit with
  | inch => exact (div_one _).symm
  | millimetre =>
    rw [toInches, inchesOfMm, value_div, mmPerInch, value_ofDecimal]
    norm_num [Decimal.toRat, perInch]

end LengthUnit

end GerberMask
