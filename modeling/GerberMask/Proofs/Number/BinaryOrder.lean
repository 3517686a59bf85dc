import GerberMask.Number.Binary
import Mathlib

/-!
# The order of binary numbers

Finite binary numbers are compared by their signs, then by their exponents, then by their mantissas.
That is the order of their exact values (`Binary.compare_unpacked`), because of what the bits of a
number can stand for: the leading bit of a mantissa is in front unless the exponent is the least one
(`Binary.IsCanonical`), so a number with a larger exponent is larger.
-/

namespace GerberMask

namespace Binary

open Float.Model Float.Model.UnpackedFloat

/-! ### Canonical numbers -/

/-- The form in which bits give a number. -/
structure IsCanonical (b : Binary) : Prop where
  mantissa_lt : b.mantissa < 2 ^ 53
  le_exponent : -1074 ≤ b.exponent
  le_mantissa : -1074 < b.exponent → 2 ^ 52 ≤ b.mantissa

theorem isCanonical_of_ofFloat? {x : Float} {b : Binary} (h : ofFloat? x = some b) :
    b.IsCanonical := by
  unfold ofFloat? at h
  dsimp only at h
  have hfraction : x.toBits.toNat % Nat.pow 2 52 < 2 ^ 52 := Nat.mod_lt _ (by decide)
  split at h
  · cases h
  · split at h
    · cases h
      exact ⟨Nat.lt_trans hfraction (by decide), le_refl _, fun hlt ↦ absurd hlt (lt_irrefl _)⟩
    next hspecial hzero =>
      cases h
      refine ⟨?_, ?_, fun _ ↦ ?_⟩
      · have hpow : Nat.pow 2 52 = 2 ^ 52 := rfl
        dsimp only
        omega
      · dsimp only
        omega
      · exact Nat.le_add_right _ _

/-- The exact value without its sign. -/
def magnitude (b : Binary) : ℚ := b.mantissa * 2 ^ b.exponent

theorem toRat_eq (b : Binary) : b.toRat = if b.negative then -b.magnitude else b.magnitude := rfl

theorem magnitude_nonneg (b : Binary) : 0 ≤ b.magnitude := by
  unfold magnitude
  positivity

theorem magnitude_pos_iff {b : Binary} : 0 < b.magnitude ↔ 0 < b.mantissa := by
  unfold magnitude
  rw [mul_pos_iff_of_pos_right (by positivity), Nat.cast_pos]

/-- A larger exponent makes a larger number. -/
theorem magnitude_lt_of_exponent_lt {a b : Binary} (ha : a.IsCanonical) (hb : b.IsCanonical)
    (h : a.exponent < b.exponent) : a.magnitude < b.magnitude := by
  have ha' : (a.mantissa : ℚ) < 2 ^ 53 := by exact_mod_cast ha.mantissa_lt
  have hb' : (2 : ℚ) ^ 52 ≤ b.mantissa := by
    exact_mod_cast hb.le_mantissa (lt_of_le_of_lt ha.le_exponent h)
  calc a.magnitude < 2 ^ 53 * 2 ^ a.exponent := by
        unfold magnitude
        gcongr
    _ = 2 ^ 52 * 2 ^ (a.exponent + 1) := by
        rw [zpow_add_one₀ two_ne_zero]
        ring
    _ ≤ 2 ^ 52 * 2 ^ b.exponent := by
        gcongr
        · norm_num
        · exact h
    _ ≤ b.magnitude := by
        unfold magnitude
        gcongr

theorem magnitude_lt_iff {a b : Binary} (ha : a.IsCanonical) (hb : b.IsCanonical) :
    a.magnitude < b.magnitude ↔
      a.exponent < b.exponent ∨ a.exponent = b.exponent ∧ a.mantissa < b.mantissa := by
  obtain h | h | h := lt_trichotomy a.exponent b.exponent
  · exact iff_of_true (magnitude_lt_of_exponent_lt ha hb h) (.inl h)
  · simp only [h, lt_irrefl, true_and, false_or, magnitude]
    rw [mul_lt_mul_iff_left₀ (by positivity), Nat.cast_lt]
  · exact iff_of_false (magnitude_lt_of_exponent_lt hb ha h).not_gt (by omega)

/-! ### Comparison of bits -/

/-- The number as comparisons take it apart. -/
def unpacked (b : Binary) : Float.Model.UnpackedFloat :=
  let sign : Sign := if b.negative then .negative else .positive
  if h : 0 < b.mantissa then .finite sign b.mantissa b.exponent h else .zero sign

theorem toNat_unpackExponent (u : BitVec 64) :
    (@unpackExponent .binary64 u).toNat = u.toNat / 2 ^ 52 % 2 ^ 11 := by
  simp [unpackExponent, Nat.shiftRight_eq_div_pow]

theorem toNat_unpackMantissa (u : BitVec 64) :
    (@unpackMantissa .binary64 u).toNat = u.toNat % 2 ^ 52 := by
  simp [unpackMantissa]

theorem ofBitVec_unpackSign (u : BitVec 64) :
    Sign.ofBitVec (@unpackSign .binary64 u) =
      if u.toNat / 2 ^ 63 % 2 == 1 then .negative else .positive := by
  have hbit : (@unpackSign .binary64 u).toNat = u.toNat / 2 ^ 63 % 2 := by
    simp [unpackSign, Nat.shiftRight_eq_div_pow]
  rw [Sign.ofBitVec, ← hbit]
  obtain hzero | hone := BitVec.eq_zero_or_eq_one (@unpackSign .binary64 u)
  · simp [hzero]
  · simp [hone]

theorem finite_congr {s : Sign} {m m' : Nat} {e e' : Int} {hm : 0 < m} {hm' : 0 < m'} (h : m = m')
    (he : e = e') : finite s m e hm = finite s m' e' hm' := by
  subst h he
  rfl

/-- Comparisons read the bits of a number as `ofFloat?` does. -/
theorem unpack_eq {x : Float} {b : Binary} (h : ofFloat? x = some b) :
    x.toModel.unpack = b.unpacked := by
  have hexponent := toNat_unpackExponent x.toModel.toBits.toBitVec
  have hmantissa := toNat_unpackMantissa x.toModel.toBits.toBitVec
  have hsign := ofBitVec_unpackSign x.toModel.toBits.toBitVec
  unfold ofFloat? at h
  dsimp only at h
  split at h
  · cases h
  next hspecial =>
    have hfinite : @unpackExponent .binary64 x.toModel.toBits.toBitVec ≠ -1#_ := by
      intro heq
      rw [heq] at hexponent
      exact hspecial hexponent.symm
    rw [Float.Model.unpack, UnpackedFloat.unpack]
    simp only [hfinite, if_false]
    rw [hsign]
    -- subnormal numbers and zero, then the others
    split at h
    next hzero =>
      cases h
      have hsubnormal : @unpackExponent .binary64 x.toModel.toBits.toBitVec = 0#11 :=
        BitVec.eq_of_toNat_eq (hexponent.trans hzero)
      rw [if_pos hsubnormal]
      split
      next hfraction =>
        rw [hfraction] at hmantissa
        rw [unpacked, dif_neg (Nat.lt_irrefl _ <| hmantissa ▸ ·)]
        rfl
      next hfraction =>
        have hpos : 0 < x.toBits.toNat % Nat.pow 2 52 := by
          refine Nat.pos_of_ne_zero fun hnone ↦ hfraction ?_
          exact BitVec.eq_of_toNat_eq (hmantissa.trans hnone)
        rw [unpacked, dif_pos hpos]
        refine finite_congr hmantissa ?_
        rw [hsubnormal]
        rfl
    next hzero =>
      cases h
      have hnormal : @unpackExponent .binary64 x.toModel.toBits.toBitVec ≠ 0#11 := by
        intro heq
        rw [heq] at hexponent
        exact hzero hexponent.symm
      rw [if_neg hnormal, unpacked, dif_pos (Nat.add_pos_left (by decide) _)]
      refine finite_congr ?_ ?_
      · rw [BitVec.toNat_append, ← Nat.shiftLeft_add_eq_or_of_lt (BitVec.isLt _), hmantissa]
        rfl
      · rw [hexponent]
        show _ - ((1023 : ℕ) + (52 : ℕ) : ℤ) = _
        norm_num
        rfl

/-- Zero, positive or negative, with the exact value. -/
theorem unpacked_cases (b : Binary) :
    (∃ s, b.unpacked = .zero s ∧ b.toRat = 0) ∨
    (∃ h, b.unpacked = .finite .positive b.mantissa b.exponent h ∧ b.toRat = b.magnitude) ∨
    ∃ h, b.unpacked = .finite .negative b.mantissa b.exponent h ∧ b.toRat = -b.magnitude := by
  rw [toRat_eq, unpacked]
  by_cases h : 0 < b.mantissa
  · cases hsign : b.negative with
    | false => exact .inr (.inl ⟨h, by simp [h], by simp⟩)
    | true => exact .inr (.inr ⟨h, by simp [h], by simp⟩)
  · refine .inl ⟨_, dif_neg h, ?_⟩
    have hzero : b.magnitude = 0 :=
      le_antisymm (not_lt.1 fun hpos ↦ h (magnitude_pos_iff.1 hpos)) b.magnitude_nonneg
    simp [hzero]

theorem lt_iff_compare {x y : Float} :
    x < y ↔ x.toModel.unpack.compare y.toModel.unpack = some .lt := by
  show decide (x.toModel.lt y.toModel = true) = true ↔ _
  rw [decide_eq_true_iff]
  show (x.toModel.unpack.compare y.toModel.unpack == some .lt) = true ↔ _
  simp

theorem le_iff_compare {x y : Float} :
    x ≤ y ↔ (x.toModel.unpack.compare y.toModel.unpack).any (·.isLE) = true := by
  show decide (x.toModel.le y.toModel = true) = true ↔ _
  rw [decide_eq_true_iff]
  rfl

theorem compare_lt_iff {a b : Binary} (ha : a.IsCanonical) (hb : b.IsCanonical) :
    (compare a.exponent b.exponent).then (compare a.mantissa b.mantissa) = .lt ↔
      a.magnitude < b.magnitude := by
  rw [magnitude_lt_iff ha hb, Ordering.then_eq_lt, compare_lt_iff_lt, compare_eq_iff_eq,
    compare_lt_iff_lt]

theorem compare_eq_magnitude {a b : Binary} (ha : a.IsCanonical) (hb : b.IsCanonical) :
    (compare a.exponent b.exponent).then (compare a.mantissa b.mantissa) =
      compare a.magnitude b.magnitude := by
  have hswap : (compare b.exponent a.exponent).then (compare b.mantissa a.mantissa) =
      ((compare a.exponent b.exponent).then (compare a.mantissa b.mantissa)).swap := by
    rw [Ordering.swap_then, ← Std.OrientedCmp.eq_swap, ← Std.OrientedCmp.eq_swap]
  have hlt := compare_lt_iff ha hb
  have hgt := compare_lt_iff hb ha
  rw [hswap, Ordering.swap_eq_lt] at hgt
  obtain h | h | h := lt_trichotomy a.magnitude b.magnitude
  · rw [hlt.2 h, compare_lt_iff_lt.2 h]
  · rw [compare_eq_iff_eq.2 h]
    rcases heq : (compare a.exponent b.exponent).then (compare a.mantissa b.mantissa) with _ | _ | _
    · exact absurd (hlt.1 heq) h.not_lt
    · rfl
    · exact absurd (hgt.1 heq) h.not_gt
  · rw [hgt.2 h, compare_gt_iff_gt.2 h]

/-- **Binary numbers are compared by their exact values.** -/
theorem compare_unpacked {a b : Binary} (ha : a.IsCanonical) (hb : b.IsCanonical) :
    a.unpacked.compare b.unpacked = some (compare a.toRat b.toRat) := by
  -- zero, positive or negative on both sides
  obtain ⟨s, hau, har⟩ | ⟨ha₀, hau, har⟩ | ⟨ha₀, hau, har⟩ := a.unpacked_cases <;>
    obtain ⟨s', hbu, hbr⟩ | ⟨hb₀, hbu, hbr⟩ | ⟨hb₀, hbu, hbr⟩ := b.unpacked_cases <;>
    rw [hau, hbu, har, hbr, UnpackedFloat.compare, Option.some_inj]
  · exact (compare_eq_iff_eq.2 rfl).symm
  · exact (compare_lt_iff_lt.2 (magnitude_pos_iff.2 hb₀)).symm
  · exact (compare_gt_iff_gt.2 (neg_lt_zero.2 (magnitude_pos_iff.2 hb₀))).symm
  · exact (compare_gt_iff_gt.2 (magnitude_pos_iff.2 ha₀)).symm
  · exact compare_eq_magnitude ha hb
  · have hapos := magnitude_pos_iff.2 ha₀
    have hbpos := magnitude_pos_iff.2 hb₀
    exact (compare_gt_iff_gt.2 (by linarith)).symm
  · exact (compare_lt_iff_lt.2 (neg_lt_zero.2 (magnitude_pos_iff.2 ha₀))).symm
  · have hapos := magnitude_pos_iff.2 ha₀
    have hbpos := magnitude_pos_iff.2 hb₀
    exact (compare_lt_iff_lt.2 (by linarith)).symm
  · rw [Ordering.swap_then, ← Std.OrientedCmp.eq_swap, ← Std.OrientedCmp.eq_swap,
      compare_eq_magnitude hb ha]
    obtain h | h | h := lt_trichotomy a.magnitude b.magnitude
    · rw [compare_gt_iff_gt.2 h, compare_gt_iff_gt.2 (neg_lt_neg h)]
    · rw [h, compare_eq_iff_eq.2 rfl, compare_eq_iff_eq.2 rfl]
    · rw [compare_lt_iff_lt.2 h, compare_lt_iff_lt.2 (neg_lt_neg h)]

/-- The strict order. -/
theorem lt_iff {x y : Float} {a b : Binary} (hx : ofFloat? x = some a)
    (hy : ofFloat? y = some b) : x < y ↔ a.toRat < b.toRat := by
  rw [lt_iff_compare, unpack_eq hx, unpack_eq hy,
    compare_unpacked (isCanonical_of_ofFloat? hx) (isCanonical_of_ofFloat? hy), Option.some_inj,
    compare_lt_iff_lt]

/-- The order with ties. -/
theorem le_iff {x y : Float} {a b : Binary} (hx : ofFloat? x = some a)
    (hy : ofFloat? y = some b) : x ≤ y ↔ a.toRat ≤ b.toRat := by
  rw [le_iff_compare, unpack_eq hx, unpack_eq hy,
    compare_unpacked (isCanonical_of_ofFloat? hx) (isCanonical_of_ofFloat? hy), Option.any_some,
    Ordering.isLE_iff_ne_gt, compare_gt_iff_gt, not_lt]

/-! ### Rounding down -/

/-- The positive finite numbers. -/
theorem pos_iff {x : Float} {a : Binary} (hx : ofFloat? x = some a) :
    0 < x ↔ a.negative = false ∧ 0 < a.magnitude := by
  have hzero : ofFloat? 0 = some ⟨false, 0, -1074, false⟩ := rfl
  have hvalue : toRat ⟨false, 0, -1074, false⟩ = 0 := by simp [toRat]
  rw [lt_iff hzero hx, hvalue, toRat_eq]
  cases a.negative with
  | false => simp
  | true => simpa using a.magnitude_nonneg

theorem magnitude_eq_div (b : Binary) : b.magnitude = b.quotient.1 / b.quotient.2 := by
  unfold magnitude quotient
  split
  next h =>
    obtain ⟨n, hn⟩ := Int.eq_ofNat_of_zero_le h
    simp [hn]
  next h =>
    obtain ⟨n, hn⟩ := Int.eq_ofNat_of_zero_le (show 0 ≤ -b.exponent by omega)
    rw [show b.exponent = -(n : ℤ) by omega]
    simp [div_eq_mul_inv]

/-- The integer part is that of the exact value. -/
theorem floorInt?_eq {x : Float} {b : Binary} (h : ofFloat? x = some b) :
    floorInt? x = some ⌊b.toRat⌋ := by
  rw [floorInt?, h, Option.map_some, Option.some_inj]
  have hvalue : b.toRat =
      ((if b.negative then -(b.quotient.1 : ℤ) else b.quotient.1 : ℤ) : ℚ) / b.quotient.2 := by
    rw [toRat_eq, magnitude_eq_div]
    split <;> push_cast <;> ring
  rw [hvalue, Rat.floor_intCast_div_natCast]
  exact Int.fdiv_eq_ediv_of_nonneg _ (Int.natCast_nonneg _)

end Binary

end GerberMask
