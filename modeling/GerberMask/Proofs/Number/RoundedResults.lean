import GerberMask.Proofs.Number.Rounding

/-!
# Results that are rounded

The product and the quotient of two binary numbers are the exact product and quotient of their
values rounded (`isRounded_mul`, `isRounded_div`), and a natural number as a binary number is the
natural number rounded (`isRounded_ofNat`). What was rounded is finite exactly if the exact result
is below the bound (`IsRounded.isFinite_iff`), and then it is a number that no other one separates
from the exact result (`IsRounded.exists_ofFloat?`).

So a comparison with a number that was rounded says something about the number it was rounded from:
a comparison with a natural number is one with the integer part (`floorInt?_lt`).
-/

namespace GerberMask

namespace Binary

open Float.Model Float.Model.UnpackedFloat

variable {x y : Float} {a b : Binary} {negative : Bool} {w : ℚ}

/-! ### Signs -/

/-- The sign of a number as operations take it apart. -/
def signOf (negative : Bool) : Sign := if negative then .negative else .positive

theorem signOf_injective : Function.Injective signOf := by
  intro s s' h
  cases s <;> cases s' <;> first | rfl | cases h

theorem signOf_mul (s s' : Bool) : signOf s * signOf s' = signOf (s != s') := by
  cases s <;> cases s' <;> rfl

theorem signOf_div (s s' : Bool) : signOf s / signOf s' = signOf (s != s') := by
  cases s <;> cases s' <;> rfl

theorem unpacked_of_pos (h : 0 < b.mantissa) :
    b.unpacked = .finite (signOf b.negative) b.mantissa b.exponent h :=
  dif_pos h

theorem unpacked_of_zero (h : b.mantissa = 0) : b.unpacked = .zero (signOf b.negative) :=
  dif_neg h.not_gt

theorem magnitude_of_zero (h : b.mantissa = 0) : b.magnitude = 0 := by
  rw [magnitude, h, Nat.cast_zero, zero_mul]

/-- Taking apart keeps the sign and the value of a number. -/
theorem eq_of_unpacked_eq (h : a.unpacked = b.unpacked) :
    a.negative = b.negative ∧ a.magnitude = b.magnitude := by
  rcases Nat.eq_zero_or_pos a.mantissa with ha | ha <;>
    rcases Nat.eq_zero_or_pos b.mantissa with hb | hb
  · rw [unpacked_of_zero ha, unpacked_of_zero hb] at h
    injection h with hsign
    exact ⟨signOf_injective hsign, by rw [magnitude_of_zero ha, magnitude_of_zero hb]⟩
  · rw [unpacked_of_zero ha, unpacked_of_pos hb] at h
    cases h
  · rw [unpacked_of_pos ha, unpacked_of_zero hb] at h
    cases h
  · rw [unpacked_of_pos ha, unpacked_of_pos hb] at h
    injection h with hsign hmantissa hexponent
    exact ⟨signOf_injective hsign, by rw [magnitude, magnitude, hmantissa, hexponent]⟩

/-! ### Rounded numbers -/

/-- A canonical number that is too large for its bits is packed as infinity. -/
theorem unpack_pack_of_lt {r : Binary} (hr : r.IsCanonical) (hlt : 971 < r.exponent) :
    (Float.Model.pack r.unpacked).unpack = .infinity (signOf r.negative) := by
  have hpos : 0 < r.mantissa := Nat.lt_of_lt_of_le (by decide) (hr.le_mantissa (by omega))
  have hpack : UnpackedFloat.pack .binary64 r.unpacked =
      packedInfinity .binary64 (signOf r.negative) := by
    rw [unpacked_of_pos hpos]
    simp only [UnpackedFloat.pack]
    rw [if_pos]
    show 2 ^ 11 ≤ (r.exponent + (1023 : ℕ) + (52 : ℕ)).toNat + 1
    omega
  show UnpackedFloat.unpack .binary64 (UnpackedFloat.pack .binary64 r.unpacked) = _
  rw [hpack]
  cases r.negative <;> rfl

/-- A binary number is a magnitude rounded, with a sign. -/
def IsRounded (negative : Bool) (w : ℚ) (x : Float) : Prop :=
  ∃ r : Binary, r.negative = negative ∧ IsRounding w r ∧ x.toModel = Float.Model.pack r.unpacked

/-- Below the bound the rounded number is finite, and no other one separates it from the value. -/
theorem IsRounded.exists_ofFloat? (h : IsRounded negative w x) (hw : w < overflowBound) :
    ∃ b, ofFloat? x = some b ∧ b.negative = negative ∧ IsRounding w b := by
  obtain ⟨r, rfl, hr, hx⟩ := h
  have hunpack : x.toModel.unpack = r.unpacked := by
    rw [hx, unpack_pack hr.canonical (hr.fits_iff.2 hw)]
  have hfinite : x.isFinite = true := by
    show x.toModel.unpack.isFinite = true
    rw [hunpack]
    obtain ⟨s, hr, -⟩ | ⟨hpos, hr, -⟩ | ⟨hpos, hr, -⟩ := r.unpacked_cases <;> rw [hr] <;> rfl
  obtain ⟨b, hb⟩ := Binary.exists_ofFloat? hfinite
  obtain ⟨hsign, hmagnitude⟩ := eq_of_unpacked_eq ((unpack_eq hb).symm.trans hunpack)
  refine ⟨b, hb, hsign, isCanonical_of_ofFloat? hb, ?_, ?_, ?_⟩
  · rw [hmagnitude]
    exact hr.le_of_le
  · rw [hmagnitude]
    exact hr.ge_of_ge
  · exact iff_of_true (exponent_le_of_ofFloat? hb) hw

/-- From the bound on the rounded number is infinite. -/
theorem IsRounded.unpack_eq_infinity (h : IsRounded negative w x) (hw : overflowBound ≤ w) :
    x.toModel.unpack = .infinity (signOf negative) := by
  obtain ⟨r, rfl, hr, hx⟩ := h
  rw [hx, unpack_pack_of_lt hr.canonical (not_le.1 fun hle ↦ hw.not_gt (hr.fits_iff.1 hle))]

/-- What is not above a power of two that is finite is below the bound. -/
theorem lt_overflowBound {n : ℤ} (hw : w ≤ 2 ^ n) (hn : n ≤ 1023) : w < overflowBound := by
  calc w ≤ 2 ^ n := hw
    _ ≤ 2 ^ (52 + 971 : ℤ) := zpow_le_zpow_right₀ one_le_two hn
    _ = 2 ^ 52 * 2 ^ (971 : ℤ) := zpow_add₀ two_ne_zero _ _
    _ < overflowBound := by
      unfold overflowBound
      gcongr
      norm_num

/-- The bound is below the next power of two. -/
theorem overflowBound_le : overflowBound ≤ 2 ^ (1024 : ℤ) := by
  calc overflowBound ≤ 2 ^ 53 * 2 ^ (971 : ℤ) := by
        unfold overflowBound
        gcongr
        norm_num
    _ = 2 ^ (53 + 971 : ℤ) := (zpow_add₀ two_ne_zero _ _).symm

/-- Finite numbers are below the bound. -/
theorem magnitude_lt_overflowBound (h : ofFloat? x = some b) : b.magnitude < overflowBound :=
  (isCanonical_of_ofFloat? h).lt_overflowBound_iff.1 (exponent_le_of_ofFloat? h)

/-- **A rounded number is finite exactly if the value is below the bound.** -/
theorem IsRounded.isFinite_iff (h : IsRounded negative w x) :
    x.isFinite = true ↔ w < overflowBound := by
  constructor
  · intro hfinite
    by_contra hw
    replace hfinite : x.toModel.unpack.isFinite = true := hfinite
    rw [h.unpack_eq_infinity (not_lt.1 hw)] at hfinite
    cases hfinite
  · intro hw
    obtain ⟨b, hb, -⟩ := h.exists_ofFloat? hw
    exact Binary.isFinite_iff.2 ⟨b, hb⟩

/-- Rounding what was rounded is rounding once. -/
theorem IsRounding.isRounded {r : Binary} (h : IsRounding w r)
    (hx : IsRounded negative r.magnitude x) : IsRounded negative w x := by
  obtain ⟨r', hsign, hr', hx⟩ := hx
  exact ⟨r', hsign, h.trans hr', hx⟩

/-- Powers of two are canonical numbers, down to the least exponent. -/
theorem exists_isCanonical_two_zpow {n : ℤ} (hn : -1022 ≤ n) :
    ∃ c : Binary, c.IsCanonical ∧ c.magnitude = 2 ^ n := by
  refine ⟨⟨false, 2 ^ 52, n - 52, true⟩,
    ⟨by norm_num, show -1074 ≤ n - 52 by omega, fun _ ↦ le_refl _⟩, ?_⟩
  rw [magnitude, zpow_sub₀ two_ne_zero]
  norm_num
  field_simp

/-- Rounding does not go beyond a power of two from below. -/
theorem IsRounding.le_two_zpow {r : Binary} {n : ℤ} (h : IsRounding w r) (hn : -1022 ≤ n)
    (hw : w ≤ 2 ^ n) : r.magnitude ≤ 2 ^ n := by
  obtain ⟨c, hc, hvalue⟩ := exists_isCanonical_two_zpow hn
  exact hvalue ▸ h.le_of_le c hc (hvalue ▸ hw)

/-- Nor from above. -/
theorem IsRounding.two_zpow_le {r : Binary} {n : ℤ} (h : IsRounding w r) (hn : -1022 ≤ n)
    (hw : 2 ^ n ≤ w) : 2 ^ n ≤ r.magnitude := by
  obtain ⟨c, hc, hvalue⟩ := exists_isCanonical_two_zpow hn
  exact hvalue ▸ h.ge_of_ge c hc (hvalue ▸ hw)

/-- Zero is rounded to zero. -/
theorem isRounding_zero (negative : Bool) : IsRounding 0 ⟨negative, 0, -1074, false⟩ where
  canonical := ⟨by norm_num, le_refl _, fun h ↦ absurd h (lt_irrefl _)⟩
  le_of_le c _ _ := by simpa [magnitude] using c.magnitude_nonneg
  ge_of_ge c _ hc := by simpa [magnitude] using hc
  fits_iff := by
    refine iff_of_true (by norm_num) ?_
    rw [overflowBound]
    exact mul_pos (by norm_num) (by positivity)

/-- A result that is zero is rounded. -/
theorem exists_zero (negative : Bool) (hw : w = 0) :
    ∃ r : Binary, r.negative = negative ∧ IsRounding w r ∧
      UnpackedFloat.zero (signOf negative) = r.unpacked :=
  ⟨⟨negative, 0, -1074, false⟩, rfl, hw ▸ isRounding_zero negative, rfl⟩

/-! ### Products -/

/-- The product of two canonical numbers is rounded. -/
theorem exists_mul (ha : a.IsCanonical) (hb : b.IsCanonical) :
    ∃ r : Binary, r.negative = (a.negative != b.negative) ∧
      IsRounding (a.magnitude * b.magnitude) r ∧
      UnpackedFloat.mul .binary64 a.unpacked b.unpacked = r.unpacked := by
  rcases Nat.eq_zero_or_pos a.mantissa with ha₀ | ha₀
  · have hmul : UnpackedFloat.mul .binary64 a.unpacked b.unpacked =
        .zero (signOf (a.negative != b.negative)) := by
      rw [unpacked_of_zero ha₀, ← signOf_mul]
      rcases Nat.eq_zero_or_pos b.mantissa with hb₀ | hb₀
      · rw [unpacked_of_zero hb₀]
        rfl
      · rw [unpacked_of_pos hb₀]
        rfl
    rw [hmul]
    exact exists_zero _ (by rw [magnitude_of_zero ha₀, zero_mul])
  rcases Nat.eq_zero_or_pos b.mantissa with hb₀ | hb₀
  · have hmul : UnpackedFloat.mul .binary64 a.unpacked b.unpacked =
        .zero (signOf (a.negative != b.negative)) := by
      rw [unpacked_of_pos ha₀, unpacked_of_zero hb₀, ← signOf_mul]
      rfl
    rw [hmul]
    exact exists_zero _ (by rw [magnitude_of_zero hb₀, mul_zero])
  have hproduct : 0 < a.mantissa * b.mantissa := Nat.mul_pos ha₀ hb₀
  have hlog : -1074 < a.exponent ∨ -1074 < b.exponent → 52 ≤ (a.mantissa * b.mantissa).log2 := by
    rintro (h | h) <;> refine (Nat.le_log2 hproduct.ne').2 ?_
    · exact (ha.le_mantissa h).trans (Nat.le_mul_of_pos_right _ hb₀)
    · exact (hb.le_mantissa h).trans (Nat.le_mul_of_pos_left _ ha₀)
  have hleast := ha.le_exponent
  have hleast' := hb.le_exponent
  obtain ⟨r, hr, hrounding, hround⟩ := exists_roundWithAccuracy (m := a.mantissa * b.mantissa)
    (e := a.exponent + b.exponent) (a.negative != b.negative)
    (by rw [targetExponent_eq]; omega) (holds_exact _)
  refine ⟨r, hr, ?_, ?_⟩
  · have hvalue : ((a.mantissa * b.mantissa : ℕ) : ℚ) * 2 ^ (a.exponent + b.exponent) =
        a.magnitude * b.magnitude := by
      rw [magnitude, magnitude, zpow_add₀ two_ne_zero]
      push_cast
      ring
    rwa [hvalue] at hrounding
  · rw [unpacked_of_pos ha₀, unpacked_of_pos hb₀, ← hround]
    show roundWithAccuracy .binary64 (signOf a.negative * signOf b.negative) _ _ _ = _
    rw [signOf_mul]
    rfl

/-- **The product of two numbers is their exact product rounded.** -/
theorem isRounded_mul (hx : ofFloat? x = some a) (hy : ofFloat? y = some b) :
    IsRounded (a.negative != b.negative) (a.magnitude * b.magnitude) (x * y) := by
  obtain ⟨r, hsign, hr, hmul⟩ :=
    exists_mul (isCanonical_of_ofFloat? hx) (isCanonical_of_ofFloat? hy)
  refine ⟨r, hsign, hr, ?_⟩
  rw [← hmul, ← unpack_eq hx, ← unpack_eq hy]
  rfl

/-! ### Quotients -/

/-- The integer quotient of two natural numbers, with what is known of the remainder. -/
theorem holds_quotient (n : ℕ) {d : ℕ} (hd : 0 < d) :
    Holds (.ofMantissaAndAccuracy (n / d) (accuracyOfFraction (n % d) d)) (n / d : ℚ) := by
  have hd' : (0 : ℚ) < d := by exact_mod_cast hd
  have hvalue : (n / d : ℚ) = (n / d : ℕ) + (n % d : ℕ) / d := by
    have hn : (d : ℚ) * (n / d : ℕ) + (n % d : ℕ) = n := by exact_mod_cast Nat.div_add_mod n d
    field_simp
    linarith
  unfold accuracyOfFraction
  split
  next hzero =>
    rw [hvalue, hzero, Nat.cast_zero, zero_div, add_zero]
    exact holds_exact _
  next hrest =>
    have hpos : (0 : ℚ) < (n % d : ℕ) / d :=
      div_pos (by exact_mod_cast Nat.pos_of_ne_zero hrest) hd'
    have hless : ((n % d : ℕ) : ℚ) / d < 1 := by
      rw [div_lt_one hd']
      exact_mod_cast Nat.mod_lt n hd
    have hhalf : compare (2 * (n % d)) d ≠ .lt ↔ (1 / 2 : ℚ) ≤ (n % d : ℕ) / d := by
      rw [Ne, compare_lt_iff_lt, not_lt, div_le_div_iff₀ two_pos hd', one_mul, mul_comm _ (2 : ℚ)]
      exact_mod_cast Iff.rfl
    rw [hvalue]
    exact holds_inexact _ hpos hless hhalf

/-- An integer quotient has the bits that the lengths of its operands promise. -/
theorem le_log2_div {m n s : ℕ} (hm : 0 < m) (hn : 0 < n) (h : n.log2 + 1 ≤ m.log2 + s) :
    m.log2 + s - (n.log2 + 1) ≤ ((m <<< s) / n).log2 := by
  have hle : 2 ^ (m.log2 + s - (n.log2 + 1)) ≤ (m <<< s) / n := by
    rw [Nat.le_div_iff_mul_le hn, Nat.shiftLeft_eq]
    calc 2 ^ (m.log2 + s - (n.log2 + 1)) * n
        ≤ 2 ^ (m.log2 + s - (n.log2 + 1)) * 2 ^ (n.log2 + 1) := by
          gcongr
          exact Nat.lt_log2_self.le
      _ = 2 ^ m.log2 * 2 ^ s := by rw [← pow_add, ← pow_add, Nat.sub_add_cancel h]
      _ ≤ m * 2 ^ s := Nat.mul_le_mul_right _ (Nat.log2_self_le hm.ne')
  exact (Nat.le_log2 ((Nat.two_pow_pos _).trans_le hle).ne').2 hle

/-- The quotient of two canonical numbers is rounded. -/
theorem exists_div (hb₀ : 0 < b.mantissa) :
    ∃ r : Binary, r.negative = (a.negative != b.negative) ∧
      IsRounding (a.magnitude / b.magnitude) r ∧
      UnpackedFloat.div .binary64 a.unpacked b.unpacked = r.unpacked := by
  rcases Nat.eq_zero_or_pos a.mantissa with ha₀ | ha₀
  · have hdiv : UnpackedFloat.div .binary64 a.unpacked b.unpacked =
        .zero (signOf (a.negative != b.negative)) := by
      rw [unpacked_of_zero ha₀, unpacked_of_pos hb₀, ← signOf_div]
      rfl
    rw [hdiv]
    exact exists_zero _ (by rw [magnitude_of_zero ha₀, zero_div])
  obtain ⟨t, ht⟩ : ∃ t, min (a.exponent - b.exponent) (Format.binary64.targetExponent
    (totalExponent a.mantissa a.exponent - totalExponent b.mantissa b.exponent)) = t := ⟨_, rfl⟩
  obtain ⟨s, hs⟩ : ∃ s : ℕ, a.exponent - b.exponent - t = s :=
    Int.eq_ofNat_of_zero_le (by omega)
  have hcore : divCore .binary64 a.mantissa a.exponent b.mantissa b.exponent =
      ((a.mantissa <<< s) / b.mantissa, t,
        accuracyOfFraction ((a.mantissa <<< s) % b.mantissa) b.mantissa) := by
    simp only [divCore, ht, hs, Int.toNat_natCast]
  have htarget : Format.binary64.targetExponent
      (totalExponent a.mantissa a.exponent - totalExponent b.mantissa b.exponent) =
        max (a.mantissa.log2 + a.exponent - (b.mantissa.log2 + b.exponent) - 53) (-1074) := by
    simp only [Format.targetExponent, totalExponent, Format.mantissaBits, Format.minExponent]
    norm_num
    omega
  have hlog := le_log2_div (s := s) ha₀ hb₀
  rw [htarget] at ht
  obtain ⟨r, hr, hrounding, hround⟩ := exists_roundWithAccuracy
    (m := (a.mantissa <<< s) / b.mantissa) (e := t) (a.negative != b.negative)
    (by rw [targetExponent_eq]; omega) (holds_quotient (a.mantissa <<< s) hb₀)
  refine ⟨r, hr, ?_, ?_⟩
  · have hvalue : ((a.mantissa <<< s : ℕ) : ℚ) / b.mantissa * 2 ^ t =
        a.magnitude / b.magnitude := by
      rw [magnitude, magnitude, show t = a.exponent - b.exponent - s by omega,
        zpow_sub₀ two_ne_zero, zpow_sub₀ two_ne_zero, zpow_natCast, Nat.shiftLeft_eq]
      push_cast
      field_simp
    rwa [hvalue] at hrounding
  · rw [unpacked_of_pos ha₀, unpacked_of_pos hb₀, ← hround]
    simp only [UnpackedFloat.div, hcore, signOf_div]
    rfl

/-- **The quotient of two numbers is their exact quotient rounded.** -/
theorem isRounded_div (hx : ofFloat? x = some a) (hy : ofFloat? y = some b) (hb₀ : 0 < b.mantissa) :
    IsRounded (a.negative != b.negative) (a.magnitude / b.magnitude) (x / y) := by
  obtain ⟨r, hsign, hr, hdiv⟩ := exists_div (a := a) hb₀
  refine ⟨r, hsign, hr, ?_⟩
  rw [← hdiv, ← unpack_eq hx, ← unpack_eq hy]
  rfl

/-! ### Changes of sign -/

/-- Changing the sign of a number does not round. -/
theorem isRounded_neg (hx : ofFloat? x = some a) : IsRounded (!a.negative) a.magnitude (-x) := by
  have hneg : a.unpacked.neg = unpacked { a with negative := !a.negative } := by
    rcases Nat.eq_zero_or_pos a.mantissa with ha₀ | ha₀
    · rw [unpacked_of_zero ha₀, unpacked_of_zero (b := { a with negative := !a.negative }) ha₀]
      cases a.negative <;> rfl
    · rw [unpacked_of_pos ha₀, unpacked_of_pos (b := { a with negative := !a.negative }) ha₀]
      cases a.negative <;> rfl
  have ha := isCanonical_of_ofFloat? hx
  refine ⟨{ a with negative := !a.negative }, rfl, ?_, ?_⟩
  · exact ⟨⟨ha.mantissa_lt, ha.le_exponent, ha.le_mantissa⟩, fun _ _ h ↦ h, fun _ _ h ↦ h,
      ha.lt_overflowBound_iff⟩
  · rw [← hneg, ← unpack_eq hx]
    rfl

/-! ### Natural numbers -/

/-- A natural number with enough bits is rounded. -/
theorem exists_roundWithAccuracy_nat {n s : ℕ} (hn : 0 < n) (hs : 52 ≤ n.log2 + s) :
    ∃ r : Binary, r.negative = false ∧ IsRounding n r ∧
      roundWithAccuracy .binary64 .positive (n <<< s) (-s) .exact = r.unpacked := by
  have hpos : 0 < n <<< s := by
    rw [Nat.shiftLeft_eq]
    positivity
  have hlog : n.log2 + s ≤ (n <<< s).log2 := by
    rw [Nat.le_log2 hpos.ne', Nat.shiftLeft_eq, pow_add]
    exact Nat.mul_le_mul_right _ (Nat.log2_self_le hn.ne')
  obtain ⟨r, hsign, hr, hround⟩ := exists_roundWithAccuracy (m := n <<< s) (e := -s) false
    (by rw [targetExponent_eq]; omega) (holds_exact _)
  refine ⟨r, hsign, ?_, hround⟩
  have hvalue : ((n <<< s : ℕ) : ℚ) * 2 ^ (-s : ℤ) = n := by
    rw [Nat.shiftLeft_eq, zpow_neg, zpow_natCast]
    push_cast
    field_simp
  rwa [hvalue] at hr

/-- A natural number as a binary number, in the two ways in which it is computed. -/
theorem ofScientific_eq {n : ℕ} (hn : 0 < n) :
    UnpackedFloat.ofScientific .binary64 n 0 =
      roundWithAccuracy .binary64 .positive (n <<< 53) (-(53 : ℕ)) .exact := by
  have hbits : Format.binary64.mantissaBits = 53 := rfl
  rw [UnpackedFloat.ofScientific, dif_neg hn.ne', if_neg (by norm_num), if_neg (by norm_num),
    if_pos le_rfl]
  simp only [hbits, UnpackedFloat.mul, Int.toNat_zero, pow_zero, mul_one, add_zero]
  rfl

@[inherit_doc ofScientific_eq]
theorem ofNat_eq {n : ℕ} (hn : 0 < n) (hlt : n < 2 ^ 53) :
    UnpackedFloat.ofNat .binary64 n =
      roundWithAccuracy .binary64 .positive (n <<< (52 - n.log2)) (-(52 - n.log2 : ℕ)) .exact := by
  have hlog : n.log2 < 53 := (Nat.log2_lt hn.ne').2 hlt
  have hcompare : compare (n : ℤ) 0 = .gt := compare_gt_iff_gt.2 (by omega)
  have hshift : (-Format.binary64.targetExponent (totalExponent n 0)).toNat = 52 - n.log2 := by
    rw [targetExponent_eq]
    omega
  simp only [UnpackedFloat.ofNat, UnpackedFloat.ofInt, UnpackedFloat.normalize, hcompare,
    UnpackedFloat.round, decreaseExponent, Int.toNat_natCast, zero_sub, hshift]

/-- **A natural number is rounded**, in one step or in two. -/
theorem isRounded_ofNat (n : ℕ) : IsRounded false n (Float.ofNat n) := by
  rcases Nat.eq_zero_or_pos n with rfl | hn
  · exact ⟨_, rfl, by simpa using isRounding_zero false, by decide +kernel⟩
  show IsRounded false n (Float.ofScientific n false 0)
  rw [Float.ofScientific]
  split
  next hfast =>
    -- the number, then the number times one
    have hword : n.toUInt64.toNat = n := UInt64.toNat_ofNat_of_lt' (hfast.1.trans (by decide))
    have hexact : IsRounded false n n.toUInt64.toFloat := by
      obtain ⟨r, hsign, hr, hround⟩ := exists_roundWithAccuracy_nat (s := 52 - n.log2) hn
        (by omega)
      refine ⟨r, hsign, hr, ?_⟩
      show Float.Model.pack (UnpackedFloat.ofNat .binary64 n.toUInt64.toNat) = _
      rw [hword, ofNat_eq hn hfast.1, hround]
    have hless : (n : ℚ) < overflowBound := by
      refine lt_overflowBound (n := 53) ?_ (by norm_num)
      exact_mod_cast hfast.1.le
    obtain ⟨a, ha, hsign, hr⟩ := hexact.exists_ofFloat? hless
    have hone : ofFloat? 1 = some ⟨false, 2 ^ 52, -52, true⟩ := by decide +kernel
    have hmul := isRounded_mul ha hone
    rw [hsign, show magnitude ⟨false, 2 ^ 52, -52, true⟩ = 1 by norm_num [magnitude],
      mul_one] at hmul
    exact hr.isRounded hmul
  next =>
    obtain ⟨r, hsign, hr, hround⟩ := exists_roundWithAccuracy_nat (s := 53) hn (by omega)
    refine ⟨r, hsign, hr, ?_⟩
    show Float.Model.pack (UnpackedFloat.ofScientific .binary64 n 0) = _
    rw [ofScientific_eq hn, hround]

theorem scalar_ofNat (n : ℕ) : (Scalar.ofNat n : Float) = Float.ofNat n := by
  show Decimal.toFloat ⟨false, n, 0⟩ = _
  rcases Nat.eq_zero_or_pos n with rfl | hn
  · rfl
  · simp only [Decimal.toFloat, hn.ne', if_false, Bool.false_eq_true]
    rw [if_neg (by norm_num), if_neg (by omega)]
    rfl

/-- **What is below a natural number as a binary number is below the natural number.** -/
theorem lt_of_lt_ofNat {x : Float} {a : Binary} {n : ℕ} (hx : ofFloat? x = some a)
    (hlt : x < Scalar.ofNat n) : a.toRat < n := by
  by_contra hge
  rw [not_lt] at hge
  have hvalue : a.toRat = a.magnitude := by
    have hzero : (0 : ℚ) ≤ n := Nat.cast_nonneg n
    have hnonneg := a.magnitude_nonneg
    rcases hsign : a.negative with - | -
    · simp [toRat_eq, hsign]
    · rw [toRat_eq, hsign, if_pos rfl] at hge ⊢
      linarith
  rw [hvalue] at hge
  obtain ⟨b, hb, hsign, hr⟩ :=
    (isRounded_ofNat n).exists_ofFloat? (hge.trans_lt (magnitude_lt_overflowBound hx))
  rw [scalar_ofNat, lt_iff hx hb, hvalue, toRat_eq, hsign] at hlt
  exact hlt.not_ge (hr.le_of_le a (isCanonical_of_ofFloat? hx) hge)

end Binary

/-- The integer part of a number is below every natural number that the number is below. -/
theorem floorInt?_lt {x : Float} {k : ℤ} {n : ℕ} (h : x < Scalar.ofNat n)
    (hx : floorInt? x = some k) : k < n := by
  obtain ⟨a, ha, -⟩ := Option.map_eq_some_iff.1 hx
  obtain rfl : ⌊a.toRat⌋ = k := Option.some.inj ((Binary.floorInt?_eq ha).symm.trans hx)
  have hlt : (⌊a.toRat⌋ : ℚ) < n := (Int.floor_le _).trans_lt (Binary.lt_of_lt_ofNat ha h)
  exact_mod_cast hlt

/-- The integer part of a number that is not negative is not negative. -/
theorem floorInt?_nonneg {x : Float} {k : ℤ} (h : 0 < x) (hx : floorInt? x = some k) : 0 ≤ k := by
  obtain ⟨a, ha, -⟩ := Option.map_eq_some_iff.1 hx
  obtain rfl : ⌊a.toRat⌋ = k := Option.some.inj ((Binary.floorInt?_eq ha).symm.trans hx)
  obtain ⟨hsign, hpos⟩ := (Binary.pos_iff ha).1 h
  rw [Int.floor_nonneg, Binary.toRat_eq, hsign]
  exact hpos.le

end GerberMask
