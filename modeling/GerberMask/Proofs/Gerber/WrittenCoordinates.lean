import GerberMask.Proofs.Gerber.CoordinateValues

/-!
# Writing coordinates back

A value is written as the integer nearest to it in units of the last digit of its axis. While
leading zeros are left out, decoding divides the integer of a row of digits by the same power of ten
(`decodeRaw_signed`), whatever its exponent is. So decoding an integer and writing the value gives
the integer back, in its one canonical spelling, and writing a value and decoding it loses no more
than the rounding does (`written_coordinates`).

An integer that is written fits into 64 bits whatever the value, which is why writing twice is
writing once without any condition on the size.
-/

namespace GerberMask

/-! ### Canonical decimals -/

/-- The canonical decimal of an integer: a minus sign exactly if it is negative, no other sign, and
digits that begin with a zero only if that is all there is. -/
def CanonicalDecimal (n : ℤ) (text : List Char) : Prop :=
  ∃ digits, text = (if n < 0 then ['-'] else []) ++ digits ∧ (∀ c ∈ digits, c.isDigit = true) ∧
    digitsValue digits = n.natAbs ∧ digits ≠ [] ∧ (digits.head? = some '0' → digits = ['0'])

theorem canonicalDecimal_toString (n : ℤ) : CanonicalDecimal n (toString n).toList := by
  refine ⟨Nat.toDigits 10 n.natAbs, toString_toList n, fun c ↦ isDigit_of_mem_toDigits,
    digitsValue_toDigits _, Nat.toDigits_ne_nil, fun hzero ↦ ?_⟩
  obtain ⟨ds, hds⟩ := List.head?_eq_some_iff.1 hzero
  rw [eq_zero_of_toDigits_eq_cons hds]
  rfl

/-- An integer is written with a sign and digits. -/
theorem exists_toString_eq (n : ℤ) : ∃ (sign : WrittenSign) (digits : List Char),
    (toString n).toList = sign.text ++ digits ∧ (∀ c ∈ digits, c.isDigit = true) ∧ digits ≠ [] ∧
      sign.apply (digitsValue digits : ℤ) = n := by
  have hdigits : ∀ c ∈ Nat.toDigits 10 n.natAbs, c.isDigit = true := fun c ↦ isDigit_of_mem_toDigits
  rw [toString_toList]
  split
  next hneg =>
    refine ⟨.minus, _, rfl, hdigits, Nat.toDigits_ne_nil, ?_⟩
    rw [digitsValue_toDigits]
    show -(n.natAbs : ℤ) = n
    omega
  next hpos =>
    refine ⟨.unwritten, _, rfl, hdigits, Nat.toDigits_ne_nil, ?_⟩
    rw [digitsValue_toDigits]
    show (n.natAbs : ℤ) = n
    omega

/-! ### Integers of 64 bits -/

theorem clampInt64_mem (n : ℤ) : int64Min ≤ clampInt64 n ∧ clampInt64 n ≤ int64Max :=
  ⟨le_max_left _ _, max_le (by decide) (min_le_left _ _)⟩

/-- At most half beyond the range, staying inside it does not make a rounding worse. -/
theorem abs_clampInt64_sub_le {n : ℤ} {x : ℝ} (hround : |x - n| ≤ 1 / 2)
    (hmin : (int64Min : ℝ) - 1 / 2 ≤ x) (hmax : x ≤ int64Max + 1 / 2) :
    |(clampInt64 n : ℝ) - x| ≤ 1 / 2 := by
  rw [abs_sub_comm]
  obtain ⟨hbelow, habove⟩ := abs_le.1 hround
  by_cases hover : int64Max < n
  · have hclamp : clampInt64 n = int64Max := by
      rw [clampInt64, min_eq_left hover.le, max_eq_right (by decide)]
    have hn : (int64Max : ℝ) + 1 ≤ n := by exact_mod_cast hover
    rw [hclamp, abs_le]
    constructor <;> linarith
  by_cases hunder : n < int64Min
  · have hclamp : clampInt64 n = int64Min := by
      rw [clampInt64, min_eq_right (not_lt.1 hover), max_eq_left hunder.le]
    have hn : (n : ℝ) + 1 ≤ int64Min := by exact_mod_cast hunder
    rw [hclamp, abs_le]
    constructor <;> linarith
  · rwa [clampInt64_of_mem (not_lt.1 hunder) (not_lt.1 hover)]

/-! ### Decoding and writing -/

namespace Gerber

namespace CoordinateFormat

variable {f : CoordinateFormat} {axis : Axis} {α : Type} [Scalar α] [ExactScalar α]

open ExactScalar

/-- Signed digits are decoded to their integer in units of the last digit. -/
theorem decodeRaw_signed (hzeros : f.zeros = .leading) (sign : WrittenSign) {digits : List Char}
    (hdigits : ∀ c ∈ digits, c.isDigit = true) (hne : digits ≠ []) :
    ∃ v : α, f.decodeRaw axis (sign.text ++ digits) = .ok v ∧
      value v = (sign.apply (digitsValue digits : ℤ) : ℤ) / 10 ^ (f.layout axis).places := by
  obtain ⟨v, hv, hvalue⟩ := decodeRaw_of_says (α := α) (.row sign hdigits hne : f.Says axis _ _)
  refine ⟨v, hv, ?_⟩
  rw [hvalue, sign.map_apply Rat.cast_neg, sign.map_apply Int.cast_neg, rowValue, hzeros]
  unfold WrittenSign.apply
  split <;> push_cast <;> ring

variable (axis) in
/-- What is written of an integer is decoded to it. -/
theorem decodeRaw_toString (hzeros : f.zeros = .leading) (n : ℤ) :
    ∃ v : α, f.decodeRaw axis (toString n).toList = .ok v ∧
      value v = n / 10 ^ (f.layout axis).places := by
  obtain ⟨sign, digits, htext, hdigits, hne, hn⟩ := exists_toString_eq n
  rw [htext, ← hn]
  exact decodeRaw_signed hzeros sign hdigits hne

/-- A value is written as its nearest integer in units of the last digit. -/
theorem write_eq (v : α) : f.write axis v =
    toString (clampInt64 (nearestInteger (value v * 10 ^ (f.layout axis).places))) := by
  rw [write, nearestInt_eq, value_mul, value_tenPow]

theorem write_of_value_eq {v : α} {n : ℤ} (hmin : int64Min ≤ n) (hmax : n ≤ int64Max)
    (hv : value v = n / 10 ^ (f.layout axis).places) : f.write axis v = toString n := by
  have hscaled : value v * 10 ^ (f.layout axis).places = n := by
    rw [hv]
    field_simp
  rw [write_eq, hscaled, nearestInteger_intCast, clampInt64_of_mem hmin hmax]

end CoordinateFormat

open CoordinateFormat ExactScalar

variable (α : Type) [Scalar α] [ExactScalar α]

/-- **Writing undoes decoding.** In exact arithmetic, with leading zeros left out, a text of a sign
and digits whose integer fits into 64 bits is decoded to a value that is written as the canonical
decimal of that integer. Every value is written as a text that can be decoded, and the value decoded
from it is written the same; while the value fits into 64 bits in units of the last digit, a final
rounding included, the two differ by half such a unit at most. The place of the last digit is the
number of decimal digits, if that is an exponent. -/
theorem written_coordinates (f : CoordinateFormat) (axis : Axis) (hzeros : f.zeros = .leading) :
    ((f.layout axis).decimalDigits.toNat < 2 ^ 31 →
      (f.layout axis).places = (f.layout axis).decimalDigits.toNat) ∧
    (∀ (sign : WrittenSign) (digits : List Char) (n : ℤ), (∀ c ∈ digits, c.isDigit = true) →
      digits ≠ [] → n = sign.apply (digitsValue digits : ℤ) → int64Min ≤ n → n ≤ int64Max →
      ∃ v : α, f.decodeRaw axis (sign.text ++ digits) = .ok v ∧
        CanonicalDecimal n (f.write axis v).toList) ∧
    ∀ v : α, ∃ v' : α, f.decodeRaw axis (f.write axis v).toList = .ok v' ∧
      f.write axis v' = f.write axis v ∧
      ((int64Min : ℝ) - 1 / 2 ≤ value v * 10 ^ (f.layout axis).places →
        value v * 10 ^ (f.layout axis).places ≤ int64Max + 1 / 2 →
        |value v' - value v| ≤ 1 / 2 / 10 ^ (f.layout axis).places) := by
  refine ⟨DigitLayout.places_of_lt, ?_, ?_⟩
  · rintro sign digits _ hdigits hne rfl hmin hmax
    obtain ⟨v, hv, hvalue⟩ := decodeRaw_signed (α := α) hzeros sign hdigits hne
    refine ⟨v, hv, ?_⟩
    rw [write_of_value_eq hmin hmax hvalue]
    exact canonicalDecimal_toString _
  · intro v
    obtain ⟨hmin, hmax⟩ :=
      clampInt64_mem (nearestInteger (value v * 10 ^ (f.layout axis).places))
    obtain ⟨v', hv', hvalue⟩ := decodeRaw_toString (α := α) axis hzeros
      (clampInt64 (nearestInteger (value v * 10 ^ (f.layout axis).places)))
    refine ⟨v', by rw [write_eq, hv'], by rw [write_of_value_eq hmin hmax hvalue, write_eq], ?_⟩
    intro hmin hmax
    have herror := abs_clampInt64_sub_le (abs_sub_nearestInteger _) hmin hmax
    have hunit : (0 : ℝ) < 10 ^ (f.layout axis).places := zpow_pos (by norm_num) _
    calc |value v' - value v|
        = |(clampInt64 (nearestInteger (value v * 10 ^ (f.layout axis).places)) : ℝ) -
            value v * 10 ^ (f.layout axis).places| /
              10 ^ (f.layout axis).places := by
          rw [hvalue, ← abs_of_pos hunit, ← abs_div, abs_of_pos hunit]
          congr 1
          field_simp
      _ ≤ 1 / 2 / 10 ^ (f.layout axis).places := by gcongr

/-- A row with leading zeros, and a negative value halfway between two written ones, which goes away
from zero. -/
theorem written_coordinates_halfway :
    ∃ f : CoordinateFormat, f = ⟨⟨2, 3⟩, ⟨2, 3⟩, .leading, .absolute⟩ ∧
      (∃ v : ℚ, f.decodeRaw .x ['-', '0', '0', '7'] = .ok v ∧
        CanonicalDecimal (-7) (f.write .x v).toList) ∧
      f.write .x (-0.0005 : ℚ) = "-1" ∧
      ∃ v' : ℚ, f.decodeRaw .x (f.write .x (-0.0005 : ℚ)).toList = .ok v' ∧
        f.write .x v' = f.write .x (-0.0005 : ℚ) ∧
        |value v' - value (-0.0005 : ℚ)| ≤ 1 / 2 / 10 ^ 3 := by
  refine ⟨_, rfl, ?_, by decide +kernel, ?_⟩
  · exact (written_coordinates ℚ _ .x rfl).2.1 .minus ['0', '0', '7'] (-7)
      (List.all_eq_true.1 (by decide)) (by decide) (by decide) (by decide) (by decide)
  · obtain ⟨hplaces, -, hwritten⟩ :=
      written_coordinates ℚ ⟨⟨2, 3⟩, ⟨2, 3⟩, .leading, .absolute⟩ .x rfl
    obtain ⟨v', hv', hwrite, herror⟩ := hwritten (-0.0005)
    rw [hplaces (by decide), zpow_natCast] at herror
    have hscaled : value (-0.0005 : ℚ) * 10 ^ 3 = -(1 / 2) := by
      show ((-0.0005 : ℚ) : ℝ) * 10 ^ 3 = _
      norm_num
    have hmin : (int64Min : ℝ) - 1 / 2 ≤ -(1 / 2) := by norm_num [int64Min]
    have hmax : -(1 / 2) ≤ (int64Max : ℝ) + 1 / 2 := by norm_num [int64Max]
    exact ⟨v', hv', hwrite, herror (hmin.trans_eq hscaled.symm) (hscaled.trans_le hmax)⟩

end Gerber

end GerberMask
