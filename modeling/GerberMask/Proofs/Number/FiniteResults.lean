import GerberMask.Proofs.Number.ExactValues
import GerberMask.Proofs.Number.RoundedResults

/-!
# Finite results

Whether a result is finite is a question about exact values: a product is finite exactly if its
factors are and their exact product is below the bound (`isFinite_mul_iff`). What is not finite
stays so in products and as a dividend, whatever the other operand is. Dividing by a number from one
on, infinity among them, neither makes a finite number infinite nor the other way round
(`isFinite_div_iff`); dividing by a smaller positive one is judged by the exact quotient
(`isFinite_div_iff_lt`).

Powers of ten are products by repeated squaring. Products add the exponents of powers of two that
bound their factors (`Reaches.mul`, `Within.mul`), and repeated squaring multiplies them
(`powLoop_bound`). So powers of ten are numbers from one on, and it is known which of them are
finite (`isFinite_tenPow_iff`).
-/

namespace GerberMask

namespace Binary

open Float.Model Float.Model.UnpackedFloat

variable {x y : Float} {a b : Binary} {negative : Bool} {w : ℚ}

/-! ### Exact values of rounded numbers -/

theorem exactValue_eq (hx : ofFloat? x = some a) : exactValue x = a.toRat := by
  rw [exactValue, hx]
  rfl

theorem exactValue_eq_magnitude (hx : ofFloat? x = some a) (hsign : a.negative = false) :
    exactValue x = a.magnitude := by
  rw [exactValue_eq hx, toRat_eq, hsign]
  rfl

theorem abs_exactValue (hx : ofFloat? x = some a) : |exactValue x| = a.magnitude := by
  rw [exactValue_eq hx, toRat_eq]
  split
  · rw [abs_neg, abs_of_nonneg a.magnitude_nonneg]
  · exact abs_of_nonneg a.magnitude_nonneg

theorem exactValue_of_not_isFinite (h : ¬ x.isFinite = true) : exactValue x = 0 := by
  rw [exactValue]
  cases hx : ofFloat? x with
  | none => rfl
  | some a => exact absurd (isFinite_iff.2 ⟨a, hx⟩) h

namespace IsRounded

variable {n : ℤ}

/-- The exact value of a positive number that was rounded, unless it is infinite. -/
theorem exactValue_cases (h : IsRounded false w x) :
    exactValue x = 0 ∨ ∃ b, IsRounding w b ∧ exactValue x = b.magnitude := by
  rcases lt_or_ge w overflowBound with hlt | hge
  · obtain ⟨b, hb, hsign, hr⟩ := h.exists_ofFloat? hlt
    exact .inr ⟨b, hr, exactValue_eq_magnitude hb hsign⟩
  · exact .inl (exactValue_of_not_isFinite (h.isFinite_iff.not.2 hge.not_gt))

theorem exactValue_nonneg (h : IsRounded false w x) : 0 ≤ exactValue x := by
  obtain hzero | ⟨b, -, hvalue⟩ := h.exactValue_cases
  · exact hzero.ge
  · exact hvalue ▸ b.magnitude_nonneg

theorem exactValue_le (h : IsRounded false w x) (hn : -1022 ≤ n) (hw : w ≤ 2 ^ n) :
    exactValue x ≤ 2 ^ n := by
  obtain hzero | ⟨b, hr, hvalue⟩ := h.exactValue_cases
  · exact hzero.trans_le (by positivity)
  · exact hvalue ▸ hr.le_two_zpow hn hw

/-- What is rounded from a positive power of two on is positive. -/
theorem pos (h : IsRounded false w x) (hn : -1022 ≤ n) (hw : 2 ^ n ≤ w) : 0 < x := by
  rcases lt_or_ge w overflowBound with hlt | hge
  · obtain ⟨b, hb, hsign, hr⟩ := h.exists_ofFloat? hlt
    exact (pos_iff hb).2 ⟨hsign, (zpow_pos two_pos n).trans_le (hr.two_zpow_le hn hw)⟩
  · rw [lt_iff_compare, h.unpack_eq_infinity hge]
    rfl

end IsRounded

/-! ### Finite results -/

/-- What is taken apart as no finite number is packed as none. -/
theorem isFinite_pack {u : Float.Model.UnpackedFloat} (h : u.isFinite = false) :
    (Float.Model.pack u).unpack.isFinite = false := by
  rcases u with s | - | s | ⟨s, m, e, hm⟩
  · cases s <;> rfl
  · rfl
  · cases h
  · cases h

/-- A factor that is not finite leaves no finite product. -/
theorem isFinite_of_isFinite_mul (h : (x * y).isFinite = true) :
    x.isFinite = true ∧ y.isFinite = true := by
  have hmul : ∀ u v : Float.Model.UnpackedFloat, u.isFinite = false ∨ v.isFinite = false →
      (UnpackedFloat.mul .binary64 u v).isFinite = false := by
    rintro (s | - | s | ⟨s, m, e, hm⟩) (s' | - | s' | ⟨s', m', e', hm'⟩) (h | h) <;>
      first | rfl | cases h
  by_contra hnone
  have hpack := isFinite_pack (hmul x.toModel.unpack y.toModel.unpack (by
    rw [not_and_or, Bool.not_eq_true, Bool.not_eq_true] at hnone
    exact hnone))
  exact absurd (h.symm.trans hpack) (by decide)

/-- A dividend that is not finite leaves no finite quotient. -/
theorem isFinite_of_isFinite_div (h : (x / y).isFinite = true) : x.isFinite = true := by
  have hdiv : ∀ u v : Float.Model.UnpackedFloat, u.isFinite = false →
      (UnpackedFloat.div .binary64 u v).isFinite = false := by
    rintro (s | - | s | ⟨s, m, e, hm⟩) (s' | - | s' | ⟨s', m', e', hm'⟩) h <;>
      first | rfl | cases h
  by_contra hnone
  have hpack := isFinite_pack (hdiv x.toModel.unpack y.toModel.unpack (Bool.not_eq_true _ ▸ hnone))
  exact absurd (h.symm.trans hpack) (by decide)

/-- **A product is finite exactly if its factors are and their exact product is below the
bound.** -/
theorem isFinite_mul_iff : (x * y).isFinite = true ↔
    x.isFinite = true ∧ y.isFinite = true ∧ |exactValue x * exactValue y| < overflowBound := by
  constructor
  · intro h
    obtain ⟨hx, hy⟩ := isFinite_of_isFinite_mul h
    obtain ⟨a, ha⟩ := exists_ofFloat? hx
    obtain ⟨b, hb⟩ := exists_ofFloat? hy
    refine ⟨hx, hy, ?_⟩
    rw [abs_mul, abs_exactValue ha, abs_exactValue hb]
    exact (isRounded_mul ha hb).isFinite_iff.1 h
  · rintro ⟨hx, hy, hlt⟩
    obtain ⟨a, ha⟩ := exists_ofFloat? hx
    obtain ⟨b, hb⟩ := exists_ofFloat? hy
    rw [abs_mul, abs_exactValue ha, abs_exactValue hb] at hlt
    exact (isRounded_mul ha hb).isFinite_iff.2 hlt

/-- A change of sign does not change whether a number is finite. -/
theorem isFinite_neg : (-x).isFinite = x.isFinite := by
  rcases hx : x.isFinite with - | -
  · have hneg : ∀ u : Float.Model.UnpackedFloat, u.isFinite = false → u.neg.isFinite = false := by
      rintro (s | - | s | ⟨s, m, e, hm⟩) h <;> first | rfl | cases h
    exact isFinite_pack (hneg _ hx)
  · obtain ⟨a, ha⟩ := exists_ofFloat? hx
    exact (isRounded_neg ha).isFinite_iff.2 (magnitude_lt_overflowBound ha)

/-! ### Numbers from a power of two on -/

/-- Infinity, or a finite number that is not below a power of two. -/
def Reaches (n : ℕ) (x : Float) : Prop :=
  x.toModel.unpack = .infinity .positive ∨
    ∃ a, ofFloat? x = some a ∧ a.negative = false ∧ 2 ^ n ≤ a.magnitude

/-- What is rounded from a power of two on is a number from there on. -/
theorem IsRounded.reaches {n : ℕ} (h : IsRounded false w x) (hw : 2 ^ n ≤ w) : Reaches n x := by
  rcases lt_or_ge w overflowBound with hlt | hge
  · obtain ⟨b, hb, hsign, hr⟩ := h.exists_ofFloat? hlt
    have hmagnitude : 2 ^ (n : ℤ) ≤ b.magnitude :=
      hr.two_zpow_le (by omega) (zpow_natCast (2 : ℚ) n ▸ hw)
    exact .inr ⟨b, hb, hsign, zpow_natCast (2 : ℚ) n ▸ hmagnitude⟩
  · exact .inl (h.unpack_eq_infinity hge)

theorem mantissa_pos_of_two_pow_le {n : ℕ} (h : 2 ^ n ≤ a.magnitude) : 0 < a.mantissa :=
  magnitude_pos_iff.1 ((pow_pos two_pos n).trans_le h)

/-- Exponents are added in products. -/
theorem Reaches.mul {m n : ℕ} (hx : Reaches m x) (hy : Reaches n y) : Reaches (m + n) (x * y) := by
  have hmul : (x * y).toModel =
      Float.Model.pack (UnpackedFloat.mul .binary64 x.toModel.unpack y.toModel.unpack) := rfl
  have hinf : (Float.Model.pack (.infinity .positive)).unpack = .infinity .positive := rfl
  rcases hx with hxinf | ⟨a, ha, hsa, hma⟩ <;> rcases hy with hyinf | ⟨b, hb, hsb, hmb⟩
  · refine .inl ?_
    rw [hmul, hxinf, hyinf]
    exact hinf
  · refine .inl ?_
    rw [hmul, hxinf, unpack_eq hb, unpacked_of_pos (mantissa_pos_of_two_pow_le hmb), hsb]
    exact hinf
  · refine .inl ?_
    rw [hmul, hyinf, unpack_eq ha, unpacked_of_pos (mantissa_pos_of_two_pow_le hma), hsa]
    exact hinf
  · have hrounded := isRounded_mul ha hb
    rw [hsa, hsb] at hrounded
    refine hrounded.reaches ?_
    rw [pow_add]
    exact mul_le_mul hma hmb (by positivity) a.magnitude_nonneg

theorem Reaches.not_isFinite {n : ℕ} (h : Reaches n x) (hn : 1024 ≤ n) :
    ¬ x.isFinite = true := by
  intro hx
  rcases h with hinf | ⟨a, ha, -, hle⟩
  · replace hx : x.toModel.unpack.isFinite = true := hx
    rw [hinf] at hx
    cases hx
  · have hlt : a.magnitude < 2 ^ n := calc
      a.magnitude < overflowBound := magnitude_lt_overflowBound ha
      _ ≤ 2 ^ (1024 : ℤ) := overflowBound_le
      _ ≤ 2 ^ (n : ℤ) := zpow_le_zpow_right₀ one_le_two (by omega)
      _ = 2 ^ n := zpow_natCast 2 n
    exact hlt.not_ge hle

/-- A finite number that is not above a power of two. -/
def Within (n : ℕ) (x : Float) : Prop :=
  ∃ a, ofFloat? x = some a ∧ a.magnitude ≤ 2 ^ n

theorem IsRounded.within {n : ℕ} (h : IsRounded negative w x) (hn : n ≤ 1023)
    (hw : w ≤ 2 ^ n) : Within n x := by
  have hpower : w ≤ 2 ^ (n : ℤ) := zpow_natCast (2 : ℚ) n ▸ hw
  obtain ⟨b, hb, -, hr⟩ := h.exists_ofFloat? (lt_overflowBound hpower (by omega))
  exact ⟨b, hb, zpow_natCast (2 : ℚ) n ▸ hr.le_two_zpow (by omega) hpower⟩

theorem Within.isFinite {n : ℕ} (h : Within n x) : x.isFinite = true :=
  isFinite_iff.2 (h.imp fun _ ↦ And.left)

theorem Within.mul {m n : ℕ} (hle : m + n ≤ 1023) (hx : Within m x) (hy : Within n y) :
    Within (m + n) (x * y) := by
  obtain ⟨a, ha, hma⟩ := hx
  obtain ⟨b, hb, hmb⟩ := hy
  refine (isRounded_mul ha hb).within hle ?_
  rw [pow_add]
  exact mul_le_mul hma hmb b.magnitude_nonneg (by positivity)

/-- The numbers from one on are those from the zeroth power of two on. -/
theorem one_le_iff : 1 ≤ x ↔ Reaches 0 x := by
  have hone : ofFloat? 1 = some ⟨false, 2 ^ 52, -52, true⟩ := by decide +kernel
  have hvalue : toRat ⟨false, 2 ^ 52, -52, true⟩ = 1 := by norm_num [toRat]
  rcases hx : x.isFinite with - | -
  · have hnone : ¬ ∃ a, ofFloat? x = some a ∧ a.negative = false ∧ 2 ^ 0 ≤ a.magnitude := by
      rintro ⟨a, ha, -⟩
      exact absurd (isFinite_iff.2 ⟨a, ha⟩) (by rw [hx]; decide)
    rw [Reaches, or_iff_left hnone, le_iff_compare]
    replace hx : x.toModel.unpack.isFinite = false := hx
    generalize x.toModel.unpack = u at hx ⊢
    rcases u with (- | -) | - | s | ⟨s, m, e, hm⟩
    · exact iff_of_false (by decide) (by rintro ⟨⟩)
    · exact iff_of_true rfl rfl
    · exact iff_of_false (by decide) (by rintro ⟨⟩)
    · cases hx
    · cases hx
  · obtain ⟨a, ha⟩ := exists_ofFloat? hx
    have hnot : x.toModel.unpack ≠ .infinity .positive := by
      intro hinf
      replace hx : x.toModel.unpack.isFinite = true := hx
      rw [hinf] at hx
      cases hx
    rw [le_iff hone ha, hvalue, Reaches, or_iff_right hnot, toRat_eq]
    have hnonneg := a.magnitude_nonneg
    constructor
    · intro h
      cases hsign : a.negative with
      | false => exact ⟨a, ha, hsign, by simpa [hsign] using h⟩
      | true =>
        rw [hsign, if_pos rfl] at h
        linarith
    · rintro ⟨a', ha', hsign, hle⟩
      obtain rfl : a' = a := Option.some.inj (ha'.symm.trans ha)
      simpa [hsign] using hle

theorem exactValue_nonneg_of_one_le (h : 1 ≤ x) : 0 ≤ exactValue x := by
  by_cases hx : x.isFinite = true
  · have hone : (1 : Float).isFinite = true := by decide +kernel
    have hvalue : exactValue 1 = 1 := by decide +kernel
    exact zero_le_one.trans (hvalue ▸ (le_iff_exactValue_le hone hx).1 h)
  · exact (exactValue_of_not_isFinite hx).ge

/-- A finite number divided by a number from one on is a smaller magnitude rounded. -/
theorem exists_isRounded_div (hx : ofFloat? x = some a) (hy : 1 ≤ y) :
    ∃ negative w, w ≤ a.magnitude ∧ IsRounded negative w (x / y) := by
  rcases one_le_iff.1 hy with hinf | ⟨b, hb, -, hmagnitude⟩
  · have hdiv : UnpackedFloat.div .binary64 x.toModel.unpack y.toModel.unpack =
        .zero (signOf a.negative / .positive) := by
      rw [hinf, unpack_eq hx]
      rcases Nat.eq_zero_or_pos a.mantissa with ha₀ | ha₀
      · rw [unpacked_of_zero ha₀]
        rfl
      · rw [unpacked_of_pos ha₀]
        rfl
    obtain ⟨r, hsign, hr, hzero⟩ := exists_zero (a.negative != false) rfl
    refine ⟨_, 0, a.magnitude_nonneg, r, hsign, hr, ?_⟩
    rw [← hzero, ← signOf_div]
    exact congrArg Float.Model.pack hdiv
  · refine ⟨_, _, ?_, isRounded_div hx hb (mantissa_pos_of_two_pow_le hmagnitude)⟩
    exact div_le_self a.magnitude_nonneg (by simpa using hmagnitude)

/-- **Dividing by a number from one on does not change whether a number is finite.** -/
theorem isFinite_div_iff (hy : 1 ≤ y) : (x / y).isFinite = true ↔ x.isFinite = true := by
  refine ⟨isFinite_of_isFinite_div, fun hx ↦ ?_⟩
  obtain ⟨a, ha⟩ := exists_ofFloat? hx
  obtain ⟨negative, w, hle, hrounded⟩ := exists_isRounded_div ha hy
  exact hrounded.isFinite_iff.2 (hle.trans_lt (magnitude_lt_overflowBound ha))

/-- And it does not make the magnitude larger. -/
theorem abs_exactValue_div_le (hx : x.isFinite = true) (hy : 1 ≤ y) :
    |exactValue (x / y)| ≤ |exactValue x| := by
  obtain ⟨a, ha⟩ := exists_ofFloat? hx
  obtain ⟨negative, w, hle, hrounded⟩ := exists_isRounded_div ha hy
  obtain ⟨c, hc, -, hr⟩ := hrounded.exists_ofFloat? (hle.trans_lt (magnitude_lt_overflowBound ha))
  rw [abs_exactValue ha, abs_exactValue hc]
  exact hr.le_of_le a (isCanonical_of_ofFloat? ha) hle

/-- **A quotient by a positive finite number is finite exactly if the dividend is and the exact
quotient is below the bound.** -/
theorem isFinite_div_iff_lt (hy : y.isFinite = true) (hpos : 0 < y) :
    (x / y).isFinite = true ↔
      x.isFinite = true ∧ |exactValue x / exactValue y| < overflowBound := by
  obtain ⟨b, hb⟩ := exists_ofFloat? hy
  have hmantissa := magnitude_pos_iff.1 ((pos_iff hb).1 hpos).2
  constructor
  · intro h
    have hx := isFinite_of_isFinite_div h
    obtain ⟨a, ha⟩ := exists_ofFloat? hx
    refine ⟨hx, ?_⟩
    rw [abs_div, abs_exactValue ha, abs_exactValue hb]
    exact (isRounded_div ha hb hmantissa).isFinite_iff.1 h
  · rintro ⟨hx, hlt⟩
    obtain ⟨a, ha⟩ := exists_ofFloat? hx
    rw [abs_div, abs_exactValue ha, abs_exactValue hb] at hlt
    exact (isRounded_div ha hb hmantissa).isFinite_iff.2 hlt

/-- Nothing is finite that is divided by zero. -/
theorem not_isFinite_div_of_zero {s : Sign} (hy : y.toModel.unpack = .zero s) :
    ¬ (x / y).isFinite = true := by
  have hdiv : ∀ u : Float.Model.UnpackedFloat,
      (UnpackedFloat.div .binary64 u (.zero s)).isFinite = false := by
    rintro (s' | - | s' | ⟨s', m, e, hm⟩) <;> rfl
  have hpack := isFinite_pack (hdiv x.toModel.unpack)
  rw [← hy] at hpack
  exact fun h ↦ absurd (h.symm.trans hpack) (by decide)

/-! ### Powers of ten -/

/-- Repeated squaring multiplies exponents, in bounds that products add them in. -/
theorem powLoop_bound {P : ℕ → Float → Prop}
    (hmul : ∀ {m n x y}, P m x → P n y → P (m + n) (x * y)) {k l : ℕ} (hx : P k x) (hy : P l y)
    (n : ℕ) : P (k + l * n) (Scalar.powLoop x y n) := by
  induction n using Nat.strongRecOn generalizing x y k l with
  | ind n ih =>
    have hbit : P (k + l * (n % 2)) (if n % 2 = 1 then x * y else x) := by
      split
      next hone =>
        rw [hone, mul_one]
        exact hmul hx hy
      next hzero =>
        rw [Nat.mod_two_ne_one.1 hzero, mul_zero, add_zero]
        exact hx
    have hexponent : k + l * n = k + l * (n % 2) + (l + l) * (n / 2) := by
      calc k + l * n = k + l * (2 * (n / 2) + n % 2) := by rw [Nat.div_add_mod]
        _ = k + l * (n % 2) + (l + l) * (n / 2) := by ring
    rw [hexponent, Scalar.powLoop]
    split
    next hlast =>
      rw [hlast, mul_zero, add_zero]
      exact hbit
    next hmore => exact ih (n / 2) (by omega) hbit (hmul hy hy)

theorem tenPow_eq (n : ℕ) :
    (Scalar.tenPow n : Float) = Scalar.powLoop (Float.ofNat 1) (Float.ofNat 10) n := by
  rw [Scalar.tenPow, if_neg (by omega), scalar_ofNat, scalar_ofNat, Int.natAbs_natCast]

/-- A power of ten is not below the power of a power of two that is not above ten. -/
theorem reaches_tenPow {l : ℕ} (hl : 2 ^ l ≤ 10) (n : ℕ) : Reaches (l * n) (Scalar.tenPow n) := by
  have hone : Reaches 0 (Float.ofNat 1) := (isRounded_ofNat 1).reaches (by norm_num)
  have hten : Reaches l (Float.ofNat 10) := (isRounded_ofNat 10).reaches (by exact_mod_cast hl)
  have hbound := powLoop_bound (P := Reaches) Reaches.mul hone hten n
  rwa [zero_add, ← tenPow_eq] at hbound

/-- Powers of ten by repeated squaring are numbers from one on, however large the exponent is. -/
theorem one_le_tenPow (n : ℕ) : 1 ≤ (Scalar.tenPow n : Float) :=
  one_le_iff.2 (Nat.zero_mul n ▸ reaches_tenPow (l := 0) (by decide) n)

/-- A power of ten is finite if the power of sixteen is. -/
theorem within_tenPow {n : ℕ} (hn : 4 * n ≤ 1023) : Within (4 * n) (Scalar.tenPow n) := by
  have hone : Within 0 (Float.ofNat 1) := (isRounded_ofNat 1).within (by decide) (by norm_num)
  have hten : Within 4 (Float.ofNat 10) := (isRounded_ofNat 10).within (by decide) (by norm_num)
  have hbound := powLoop_bound (P := fun m x ↦ m ≤ 1023 → Within m x)
    (fun hx hy hle ↦ Within.mul hle (hx (by omega)) (hy (by omega)))
    (fun _ ↦ hone) (fun _ ↦ hten) n
  rw [zero_add, ← tenPow_eq] at hbound
  exact hbound hn

/-- The power of ten with a negative exponent is one divided by that with the opposite exponent. -/
theorem tenPow_neg {n : ℕ} (hn : n ≠ 0) :
    (Scalar.tenPow (-n) : Float) = Scalar.ofNat 1 / Scalar.tenPow n := by
  simp only [Scalar.tenPow, Int.natAbs_neg, Int.natAbs_natCast]
  rw [if_pos (by omega), if_neg (by omega)]

/-- It is finite, and at most one. -/
theorem isFinite_tenPow_neg {n : ℕ} (hn : n ≠ 0) :
    (Scalar.tenPow (-n) : Float).isFinite = true ∧ |exactValue (Scalar.tenPow (-n))| ≤ 1 := by
  have hone : (Scalar.ofNat 1 : Float).isFinite = true := by decide +kernel
  have hvalue : |exactValue (Scalar.ofNat 1)| = 1 := by decide +kernel
  rw [tenPow_neg hn]
  exact ⟨(isFinite_div_iff (one_le_tenPow n)).2 hone,
    (abs_exactValue_div_le hone (one_le_tenPow n)).trans hvalue.le⟩

/-- **The powers of ten that are finite.** -/
theorem isFinite_tenPow_iff (n : ℕ) : (Scalar.tenPow n : Float).isFinite = true ↔ n ≤ 308 := by
  rcases le_or_gt n 255 with hsmall | hlarge
  · exact iff_of_true (within_tenPow (by omega)).isFinite (by omega)
  rcases lt_or_ge n 342 with hclose | hfar
  · -- around the largest power the powers of two are too coarse
    obtain ⟨k, rfl⟩ := Nat.exists_eq_add_of_lt hlarge
    exact (by decide +kernel :
      ∀ k < 86, ((Scalar.tenPow (255 + k + 1 : ℕ) : Float).isFinite = true ↔ 255 + k + 1 ≤ 308))
      k (by omega)
  · refine iff_of_false ?_ (by omega)
    exact (reaches_tenPow (l := 3) (by decide) n).not_isFinite (by omega)

theorem ofFloat?_ofNat_one :
    ofFloat? (Scalar.ofNat 1) = some ⟨false, 2 ^ 52, -52, true⟩ := by
  decide +kernel

theorem magnitude_one : (⟨false, 2 ^ 52, -52, true⟩ : Binary).magnitude = 1 := by
  norm_num [magnitude]

theorem of_one_le (h : 1 ≤ x) (ha : ofFloat? x = some a) :
    a.negative = false ∧ 2 ^ 0 ≤ a.magnitude := by
  rcases one_le_iff.1 h with hinf | ⟨a', ha', hbounds⟩
  · have hx : x.toModel.unpack.isFinite = true := isFinite_iff.2 ⟨a, ha⟩
    rw [hinf] at hx
    cases hx
  · rwa [Option.some.inj (ha.symm.trans ha')]

/-- A power with an exponent from `-308` on is positive. -/
theorem tenPow_neg_pos {n : ℕ} (hn : n ≠ 0) (hle : n ≤ 308) : 0 < (Scalar.tenPow (-n) : Float) := by
  rcases le_or_gt n 255 with hsmall | hlarge
  · obtain ⟨a, ha, hmagnitude⟩ := within_tenPow (n := n) (by omega)
    obtain ⟨hsign, hone⟩ := of_one_le (one_le_tenPow n) ha
    have hrounded := isRounded_div ofFloat?_ofNat_one ha (mantissa_pos_of_two_pow_le (n := 0) hone)
    rw [hsign, ← tenPow_neg hn] at hrounded
    refine hrounded.pos (n := -(4 * n : ℕ)) (by omega) ?_
    rw [magnitude_one, zpow_neg, zpow_natCast, one_div]
    exact inv_anti₀ (zero_lt_one.trans_le (by simpa using hone)) hmagnitude
  · obtain ⟨k, rfl⟩ := Nat.exists_eq_add_of_lt hlarge
    exact (by decide +kernel : ∀ k < 53, 0 < (Scalar.tenPow (-(255 + k + 1 : ℕ)) : Float))
      k (by omega)

/-- Below, the power is zero. -/
theorem unpack_tenPow_neg {n : ℕ} (hlt : 308 < n) :
    (Scalar.tenPow (-n) : Float).toModel.unpack = .zero .positive := by
  have hinf : (Scalar.tenPow n : Float).toModel.unpack = .infinity .positive := by
    refine (one_le_iff.1 (one_le_tenPow n)).resolve_right ?_
    rintro ⟨a, ha, -⟩
    exact absurd ((isFinite_tenPow_iff n).1 (isFinite_iff.2 ⟨a, ha⟩)) (by omega)
  have hdiv : (Scalar.ofNat 1 / Scalar.tenPow n : Float).toModel = Float.Model.pack
      (UnpackedFloat.div .binary64 (Scalar.ofNat 1 : Float).toModel.unpack
        (Scalar.tenPow n : Float).toModel.unpack) := rfl
  rw [tenPow_neg (by omega), hdiv, hinf, unpack_eq ofFloat?_ofNat_one, unpacked_of_pos (by decide)]
  rfl

/-- **Dividing by a power of ten with a negative exponent.** -/
theorem isFinite_div_tenPow_neg_iff {n : ℕ} (hn : n ≠ 0) :
    (x / Scalar.tenPow (-n)).isFinite = true ↔ x.isFinite = true ∧ n ≤ 308 ∧
      |exactValue x / exactValue (Scalar.tenPow (-n))| < overflowBound := by
  rcases le_or_gt n 308 with hle | hlt
  · rw [isFinite_div_iff_lt (isFinite_tenPow_neg hn).1 (tenPow_neg_pos hn hle)]
    simp [hle]
  · exact iff_of_false (not_isFinite_div_of_zero (unpack_tenPow_neg hlt)) (by omega)

end Binary

end GerberMask
