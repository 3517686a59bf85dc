import GerberMask.Number.Scalar
import GerberMask.Proofs.Number.SpecialNumbers

/-!
# Rounding

An operation on binary numbers finds a mantissa, an exponent and two bits that say how much is
missing, and rounds. What is missing is kept as an invariant of the mantissa alone (`Holds`): it is
the integer part of the value, the bits are clear exactly if nothing is missing, and the first of
them is set exactly if at least a half is. Shifting keeps the invariant, so that the mantissa which
is left after rounding is never separated from the value by an integer, and the number never by a
canonical one (`IsRounding`). The number is too large for its bits exactly if the value is at least
half a unit beyond the largest number that is not (`overflowBound`).

Packing a canonical number that is not too large into bits loses nothing (`unpack_pack`).
-/

namespace GerberMask

namespace Binary

open Float.Model Float.Model.UnpackedFloat

/-! ### A mantissa and what is missing -/

/-- A mantissa is the integer part of a value, its two further bits are clear exactly if it is the
value, and the first of them says whether at least a half is missing. -/
structure Holds (em : ExtendedMantissa) (v : ℚ) : Prop where
  le : em.mantissa ≤ v
  lt : v < em.mantissa + 1
  exact_iff : (em.roundBit || em.stickyBit) = false ↔ v = em.mantissa
  half_iff : em.roundBit = true ↔ em.mantissa + 1 / 2 ≤ v

theorem holds_exact (m : ℕ) : Holds (.ofMantissaAndAccuracy m .exact) m where
  le := le_refl _
  lt := lt_add_one _
  exact_iff := by simp [ExtendedMantissa.ofMantissaAndAccuracy]
  half_iff := by simp [ExtendedMantissa.ofMantissaAndAccuracy]

theorem mantissa_ofMantissaAndAccuracy (m : ℕ) (accuracy : Accuracy) :
    (ExtendedMantissa.ofMantissaAndAccuracy m accuracy).mantissa = m := by
  rcases accuracy with - | (- | - | -) <;> rfl

/-- An integer part with how the rest compares to a half. -/
theorem holds_inexact (m : ℕ) {o : Ordering} {rest : ℚ} (hpos : 0 < rest) (hlt : rest < 1)
    (hhalf : o ≠ .lt ↔ 1 / 2 ≤ rest) :
    Holds (.ofMantissaAndAccuracy m (.inexact o)) (m + rest) := by
  refine ⟨?_, ?_, ?_, ?_⟩
  · rw [mantissa_ofMantissaAndAccuracy]
    linarith
  · rw [mantissa_ofMantissaAndAccuracy]
    linarith
  · rw [mantissa_ofMantissaAndAccuracy]
    refine iff_of_false ?_ (by linarith)
    cases o <;> simp [ExtendedMantissa.ofMantissaAndAccuracy]
  · rw [mantissa_ofMantissaAndAccuracy, add_le_add_iff_left, ← hhalf]
    cases o <;> simp [ExtendedMantissa.ofMantissaAndAccuracy]

variable {em : ExtendedMantissa} {v : ℚ}

theorem Holds.shiftRightOne (h : Holds em v) : Holds em.shiftRightOne (v / 2) := by
  have hle := h.le
  have hlt := h.lt
  have hdiv : (em.mantissa : ℚ) = 2 * (em.mantissa / 2 : ℕ) + (em.mantissa % 2 : ℕ) := by
    exact_mod_cast (Nat.div_add_mod em.mantissa 2).symm
  have hbit : em.mantissa % 2 = 0 ∨ em.mantissa % 2 = 1 := Nat.mod_two_eq_zero_or_one _
  refine ⟨?_, ?_, ?_, ?_⟩
  · show ((em.mantissa / 2 : ℕ) : ℚ) ≤ v / 2
    have : (0 : ℚ) ≤ (em.mantissa % 2 : ℕ) := Nat.cast_nonneg _
    linarith
  · show v / 2 < ((em.mantissa / 2 : ℕ) : ℚ) + 1
    have : ((em.mantissa % 2 : ℕ) : ℚ) ≤ 1 := by exact_mod_cast Nat.le_of_lt_succ (by omega)
    linarith
  · show ((em.mantissa % 2 != 0) || (em.roundBit || em.stickyBit)) = false ↔
      v / 2 = (em.mantissa / 2 : ℕ)
    rw [Bool.or_eq_false_iff, h.exact_iff]
    constructor
    · rintro ⟨heven, rfl⟩
      have heven : em.mantissa % 2 = 0 := by simpa using heven
      rw [heven, Nat.cast_zero] at hdiv
      linarith
    · intro hhalf
      rcases hbit with hzero | hone
      · rw [hzero, Nat.cast_zero] at hdiv
        exact ⟨by simp [hzero], by linarith⟩
      · rw [hone, Nat.cast_one] at hdiv
        linarith
  · show (em.mantissa % 2 != 0) = true ↔ ((em.mantissa / 2 : ℕ) : ℚ) + 1 / 2 ≤ v / 2
    rcases hbit with hzero | hone
    · rw [hzero, Nat.cast_zero] at hdiv
      exact iff_of_false (by simp [hzero]) (by linarith)
    · rw [hone, Nat.cast_one] at hdiv
      exact iff_of_true (by simp [hone]) (by linarith)

theorem Holds.shiftRight (h : Holds em v) (n : ℕ) : Holds (em >>> n) (v / 2 ^ n) := by
  show Holds (n.repeat ExtendedMantissa.shiftRightOne em) _
  induction n with
  | zero => simpa [Nat.repeat] using h
  | succ n ih =>
    rw [Nat.repeat, pow_succ, ← div_div]
    exact ih.shiftRightOne

theorem le_roundedMantissa (em : ExtendedMantissa) : em.mantissa ≤ em.roundedMantissa := by
  obtain ⟨m, round, sticky⟩ := em
  cases round <;> cases sticky <;> simp [ExtendedMantissa.roundedMantissa,
    ExtendedMantissa.accuracy, Accuracy.roundToNearestEven]

theorem roundedMantissa_le (em : ExtendedMantissa) :
    em.roundedMantissa ≤ em.mantissa + 1 := by
  have hbit : em.mantissa % 2 ≤ 1 := by omega
  obtain ⟨m, round, sticky⟩ := em
  cases round <;> cases sticky <;> simp [ExtendedMantissa.roundedMantissa,
    ExtendedMantissa.accuracy, Accuracy.roundToNearestEven]
  exact hbit

/-- An integer that is not below the value is not below the rounded mantissa. -/
theorem Holds.roundedMantissa_le_of_le {k : ℕ} (h : Holds em v) (hk : v ≤ k) :
    em.roundedMantissa ≤ k := by
  have hle : em.mantissa ≤ k := by exact_mod_cast h.le.trans hk
  rcases hle.eq_or_lt with heq | hlt
  · -- then nothing is missing
    have hexact := h.exact_iff.2 (le_antisymm (heq ▸ hk) h.le)
    obtain ⟨m, round, sticky⟩ := em
    rw [Bool.or_eq_false_iff] at hexact
    obtain ⟨rfl, rfl⟩ := hexact
    exact hle
  · exact (roundedMantissa_le em).trans hlt

/-- An integer that is not above the value is not above the rounded mantissa. -/
theorem Holds.le_roundedMantissa_of_le {k : ℕ} (h : Holds em v) (hk : k ≤ v) :
    k ≤ em.roundedMantissa := by
  have hlt : (k : ℚ) < em.mantissa + 1 := lt_of_le_of_lt hk h.lt
  have hle : k ≤ em.mantissa := Nat.le_of_lt_succ (by exact_mod_cast hlt)
  exact hle.trans (le_roundedMantissa em)

/-- Of an integer and the even one behind it, a value is rounded to the latter exactly if no more
than a half is missing. -/
theorem Holds.roundedMantissa_lt_iff {k : ℕ} (h : Holds em v) (hk : Even k) :
    em.roundedMantissa < k ↔ v < k - 1 / 2 := by
  have hround := roundedMantissa_le em
  have hfloor := le_roundedMantissa em
  rcases lt_trichotomy (em.mantissa + 1) k with hlt | rfl | hgt
  · have hlt' : (em.mantissa : ℚ) + 1 + 1 ≤ k := by exact_mod_cast hlt
    have hbelow := h.lt
    exact iff_of_true (by omega) (by linarith)
  · have hodd : em.mantissa % 2 = 1 := by
      obtain ⟨n, hn⟩ := hk
      omega
    have hup : em.roundedMantissa < em.mantissa + 1 ↔ ¬ em.roundBit = true := by
      obtain ⟨m, round, sticky⟩ := em
      cases round <;> cases sticky <;> simp [ExtendedMantissa.roundedMantissa,
        ExtendedMantissa.accuracy, Accuracy.roundToNearestEven]
      exact hodd
    rw [hup, h.half_iff, not_le]
    push_cast
    constructor <;> intro <;> linarith
  · have hge : (k : ℚ) ≤ em.mantissa := by exact_mod_cast Nat.le_of_lt_succ hgt
    have habove := h.le
    exact iff_of_false (by omega) (by linarith)

/-! ### Rounding to a canonical number -/

/-- The exponent that rounding aims at. -/
theorem targetExponent_eq (m : ℕ) (e : ℤ) :
    Format.binary64.targetExponent (totalExponent m e) = max (m.log2 + e - 52) (-1074) := by
  simp only [Format.targetExponent, totalExponent, Format.mantissaBits, Format.minExponent]
  norm_num
  omega

/-- The first shift: the mantissa gets its place, and nothing that it loses is forgotten. -/
theorem exists_shiftToTargetExponent {m : ℕ} {e t : ℤ} {accuracy : Accuracy}
    (ht : Format.binary64.targetExponent (totalExponent m e) = t) (hle : e ≤ t)
    (hv : Holds (.ofMantissaAndAccuracy m accuracy) v) :
    ∃ em, shiftToTargetExponent .binary64 m e accuracy = (em, t) ∧
      Holds em (v * 2 ^ e / 2 ^ t) ∧ em.mantissa < 2 ^ 53 ∧ -1074 ≤ t ∧
      (-1074 < t → 2 ^ 52 ≤ em.mantissa) := by
  obtain ⟨s, hs⟩ := Int.eq_ofNat_of_zero_le (Int.sub_nonneg_of_le hle)
  have hshift : shiftToTargetExponent .binary64 m e accuracy =
      (ExtendedMantissa.ofMantissaAndAccuracy m accuracy >>> s, t) := by
    simp only [shiftToTargetExponent, shiftToExponent, ht, hs, Int.toNat_natCast]
    rw [← hs, add_sub_cancel]
  have hvalue : v * 2 ^ e / 2 ^ t = v / 2 ^ s := by
    rw [show t = e + s by omega, zpow_add₀ two_ne_zero, zpow_natCast]
    field_simp
  have hmantissa := mantissa_ofMantissaAndAccuracy m accuracy
  have hholds := hv.shiftRight s
  rw [targetExponent_eq] at ht
  refine ⟨_, hshift, hvalue ▸ hholds, ?_, by omega, fun hnormal ↦ ?_⟩
  · have hlt : v < 2 ^ (m.log2 + 1) := by
      have hnext := hv.lt
      rw [hmantissa] at hnext
      have hle : (m : ℚ) + 1 ≤ 2 ^ (m.log2 + 1) := by exact_mod_cast Nat.lt_log2_self
      linarith
    have hpow : (2 : ℚ) ^ (m.log2 + 1) ≤ 2 ^ 53 * 2 ^ s := by
      rw [← pow_add]
      exact pow_le_pow_right₀ one_le_two (by omega)
    have hquotient : v / 2 ^ s < 2 ^ 53 := by
      rw [div_lt_iff₀ (by positivity)]
      linarith
    exact_mod_cast hholds.le.trans_lt hquotient
  · have hm : 0 < m := by
      rcases Nat.eq_zero_or_pos m with rfl | hpos
      · rw [Nat.log2_zero] at ht
        omega
      · exact hpos
    have hle : (2 : ℚ) ^ m.log2 ≤ v := by
      have hfloor := hv.le
      rw [hmantissa] at hfloor
      have hself : (2 : ℚ) ^ m.log2 ≤ m := by exact_mod_cast Nat.log2_self_le hm.ne'
      linarith
    have hpow : (2 : ℚ) ^ 52 * 2 ^ s = 2 ^ m.log2 := by
      rw [← pow_add]
      congr 1
      omega
    have hquotient : (2 : ℚ) ^ 52 ≤ v / 2 ^ s := by
      rw [le_div_iff₀ (by positivity)]
      linarith
    have hbelow := hquotient.trans_lt hholds.lt
    exact Nat.le_of_lt_succ (by exact_mod_cast hbelow)

/-- A mantissa that has its place is not shifted. -/
theorem shiftToTargetExponent_of_lt {m : ℕ} {e : ℤ} (hm : m < 2 ^ 53) (he : -1074 ≤ e) :
    shiftToTargetExponent .binary64 m e .exact = (⟨m, false, false⟩, e) := by
  have hlog : m.log2 ≤ 52 := by
    rcases Nat.eq_zero_or_pos m with rfl | hpos
    · decide
    · exact Nat.le_of_lt_succ ((Nat.log2_lt hpos.ne').2 hm)
  have hstay : (Format.binary64.targetExponent (totalExponent m e) - e).toNat = 0 := by
    rw [targetExponent_eq]
    omega
  simp only [shiftToTargetExponent, shiftToExponent, hstay]
  rw [Int.natCast_zero, add_zero]
  rfl

/-- A mantissa that rounding has made one bit too long is shifted by that bit. -/
theorem shiftToTargetExponent_carry {e : ℤ} (he : -1074 ≤ e) :
    shiftToTargetExponent .binary64 (2 ^ 53) e .exact = (⟨2 ^ 52, false, false⟩, e + 1) := by
  have hone : (Format.binary64.targetExponent (totalExponent (2 ^ 53) e) - e).toNat = 1 := by
    rw [targetExponent_eq, Nat.log2_two_pow]
    omega
  simp only [shiftToTargetExponent, shiftToExponent, hone]
  rfl

/-- The least exact value that is rounded to a number which is too large for its bits: half a unit
beyond the largest one that is not. -/
def overflowBound : ℚ := (2 ^ 53 - 1 / 2) * 2 ^ (971 : ℤ)

/-- A canonical number that a value is rounded to: no canonical number lies between the two, and it
is too large for its bits exactly if the value is. -/
structure IsRounding (w : ℚ) (r : Binary) : Prop where
  canonical : r.IsCanonical
  le_of_le : ∀ c : Binary, c.IsCanonical → w ≤ c.magnitude → r.magnitude ≤ c.magnitude
  ge_of_ge : ∀ c : Binary, c.IsCanonical → c.magnitude ≤ w → c.magnitude ≤ r.magnitude
  fits_iff : r.exponent ≤ 971 ↔ w < overflowBound

/-- A canonical number whose exponent is not below another is a multiple of its unit. -/
theorem exists_mul_eq_magnitude {c : Binary} {t : ℤ} (h : t ≤ c.exponent) :
    ∃ k : ℕ, c.magnitude = k * 2 ^ t := by
  obtain ⟨n, hn⟩ := Int.eq_ofNat_of_zero_le (Int.sub_nonneg_of_le h)
  refine ⟨c.mantissa * 2 ^ n, ?_⟩
  rw [magnitude, show c.exponent = t + n by omega, zpow_add₀ two_ne_zero, zpow_natCast]
  push_cast
  ring

/-- A canonical number with a smaller exponent is below every number that has all its bits. -/
theorem magnitude_lt_of_normal {c : Binary} {t : ℤ} {n : ℕ} (hc : c.IsCanonical)
    (hlt : c.exponent < t) (hn : 2 ^ 52 ≤ n) : c.magnitude < n * 2 ^ t := by
  have hunit : IsCanonical ⟨false, 2 ^ 52, t, false⟩ :=
    ⟨by norm_num, (hc.le_exponent.trans_lt hlt).le, fun _ ↦ le_refl _⟩
  have hn' : ((2 ^ 52 : ℕ) : ℚ) ≤ n := by exact_mod_cast hn
  calc c.magnitude < ((2 ^ 52 : ℕ) : ℚ) * 2 ^ t := magnitude_lt_of_exponent_lt hc hunit hlt
    _ ≤ n * 2 ^ t := by gcongr

/-- Whether a canonical number fits into its bits is decided by any bound between the largest number
that does and the next power of two. -/
theorem IsCanonical.exponent_le_iff {c : Binary} (hc : c.IsCanonical) {k : ℚ}
    (hlow : 2 ^ 53 - 1 < k) (hhigh : k ≤ 2 ^ 53) :
    c.exponent ≤ 971 ↔ c.magnitude < k * 2 ^ (971 : ℤ) := by
  constructor
  · intro hle
    have hmantissa : (c.mantissa : ℚ) + 1 ≤ 2 ^ 53 := by exact_mod_cast hc.mantissa_lt
    calc c.magnitude ≤ c.mantissa * 2 ^ (971 : ℤ) := by
          unfold magnitude
          gcongr
          exact one_le_two
      _ < k * 2 ^ (971 : ℤ) := by
          gcongr
          linarith
  · intro hlt
    by_contra hgt
    refine hlt.not_ge ?_
    have hmantissa : (2 : ℚ) ^ 52 ≤ c.mantissa := by exact_mod_cast hc.le_mantissa (by omega)
    calc k * 2 ^ (971 : ℤ) ≤ 2 ^ 53 * 2 ^ (971 : ℤ) := by gcongr
      _ = 2 ^ 52 * 2 ^ (971 + 1 : ℤ) := by
          rw [zpow_add_one₀ two_ne_zero]
          ring
      _ ≤ c.magnitude := by
          unfold magnitude
          gcongr
          · exact one_le_two
          · omega

theorem IsCanonical.lt_overflowBound_iff {c : Binary} (hc : c.IsCanonical) :
    c.exponent ≤ 971 ↔ c.magnitude < overflowBound :=
  hc.exponent_le_iff (by norm_num) (by norm_num)

/-- What a mantissa is rounded to is a power of two too large exactly if the value is beyond the
bound. -/
theorem Holds.lt_overflowBound_iff {w : ℚ} {t : ℤ} (h : Holds em (w / 2 ^ t))
    (hlt : em.mantissa < 2 ^ 53) (hnormal : -1074 < t → 2 ^ 52 ≤ em.mantissa) :
    (em.roundedMantissa : ℚ) * 2 ^ t < 2 ^ 53 * 2 ^ (971 : ℤ) ↔ w < overflowBound := by
  have hunit : (0 : ℚ) < 2 ^ t := by positivity
  have hbelow := (div_lt_iff₀ hunit).1 h.lt
  have habove := (le_div_iff₀ hunit).1 h.le
  have hmost : (em.mantissa : ℚ) + 1 ≤ 2 ^ 53 := by exact_mod_cast hlt
  have hround : (em.roundedMantissa : ℚ) ≤ 2 ^ 53 := by
    exact_mod_cast (roundedMantissa_le em).trans hlt
  have hlimit : (0 : ℚ) < 2 ^ (971 : ℤ) := by positivity
  unfold overflowBound
  rcases lt_trichotomy t 971 with hsmall | rfl | hlarge
  · have hhalf : (2 : ℚ) ^ t * 2 ≤ 2 ^ (971 : ℤ) := by
      rw [← zpow_add_one₀ two_ne_zero]
      exact zpow_le_zpow_right₀ one_le_two hsmall
    have hless : (em.roundedMantissa : ℚ) * 2 ^ t ≤ 2 ^ 53 * 2 ^ t := by gcongr
    have hless' : ((em.mantissa : ℚ) + 1) * 2 ^ t ≤ 2 ^ 53 * 2 ^ t := by gcongr
    generalize (2 : ℚ) ^ t = unit, (2 : ℚ) ^ (971 : ℤ) = limit at *
    exact iff_of_true (by linarith) (by linarith)
  · have hhalf := h.roundedMantissa_lt_iff (k := 2 ^ 53) ⟨2 ^ 52, by norm_num⟩
    rw [Nat.cast_pow, Nat.cast_ofNat, div_lt_iff₀ hunit] at hhalf
    rw [← hhalf, mul_lt_mul_iff_left₀ hunit]
    exact_mod_cast Iff.rfl
  · have hdouble : (2 : ℚ) ^ (971 : ℤ) * 2 ≤ 2 ^ t := by
      rw [← zpow_add_one₀ two_ne_zero]
      exact zpow_le_zpow_right₀ one_le_two hlarge
    have hleast : (2 : ℚ) ^ 52 ≤ em.mantissa := by exact_mod_cast hnormal (by omega)
    have hmore : (2 : ℚ) ^ 52 * 2 ^ t ≤ em.mantissa * 2 ^ t := by gcongr
    have hup : (em.mantissa : ℚ) * 2 ^ t ≤ em.roundedMantissa * 2 ^ t := by
      gcongr
      exact le_roundedMantissa em
    generalize (2 : ℚ) ^ t = unit, (2 : ℚ) ^ (971 : ℤ) = limit at *
    exact iff_of_false (by linarith) (by linarith)

/-- The number with the rounded mantissa is a rounding. -/
theorem Holds.isRounding {w : ℚ} {t : ℤ} {r : Binary} (h : Holds em (w / 2 ^ t))
    (hlt : em.mantissa < 2 ^ 53) (hnormal : -1074 < t → 2 ^ 52 ≤ em.mantissa) (hr : r.IsCanonical)
    (hvalue : r.magnitude = em.roundedMantissa * 2 ^ t) : IsRounding w r where
  canonical := hr
  le_of_le c hc hw := by
    rw [hvalue]
    rcases le_or_gt t c.exponent with hge | hlt
    · obtain ⟨k, hk⟩ := exists_mul_eq_magnitude hge
      rw [hk] at hw ⊢
      have hround : em.roundedMantissa ≤ k :=
        h.roundedMantissa_le_of_le ((div_le_iff₀ (by positivity)).2 hw)
      gcongr
    · -- the value has more bits than the number can have
      have habove := magnitude_lt_of_normal hc hlt (hnormal (hc.le_exponent.trans_lt hlt))
      have hfloor := (le_div_iff₀ (by positivity)).1 h.le
      linarith
  ge_of_ge c hc hw := by
    rw [hvalue]
    rcases le_or_gt t c.exponent with hge | hlt
    · obtain ⟨k, hk⟩ := exists_mul_eq_magnitude hge
      rw [hk] at hw ⊢
      have hround : k ≤ em.roundedMantissa :=
        h.le_roundedMantissa_of_le ((le_div_iff₀ (by positivity)).2 hw)
      gcongr
    · exact (magnitude_lt_of_normal hc hlt ((hnormal (hc.le_exponent.trans_lt hlt)).trans
        (le_roundedMantissa em))).le
  fits_iff := by
    rw [hr.exponent_le_iff (by norm_num) le_rfl, hvalue]
    exact h.lt_overflowBound_iff hlt hnormal

/-- **A mantissa is rounded to a canonical number** that no other one separates from the value. -/
theorem exists_roundWithAccuracy {m : ℕ} {e : ℤ} {accuracy : Accuracy} (negative : Bool)
    (hle : e ≤ Format.binary64.targetExponent (totalExponent m e))
    (hv : Holds (.ofMantissaAndAccuracy m accuracy) v) :
    ∃ r : Binary, r.negative = negative ∧ IsRounding (v * 2 ^ e) r ∧
      roundWithAccuracy .binary64 (if negative then .negative else .positive) m e accuracy =
        r.unpacked := by
  obtain ⟨t, ht⟩ : ∃ t, Format.binary64.targetExponent (totalExponent m e) = t := ⟨_, rfl⟩
  obtain ⟨em, hshift, hholds, hlt, hleast, hnormal⟩ :=
    exists_shiftToTargetExponent ht (ht ▸ hle) hv
  have hround := roundedMantissa_le em
  rw [roundWithAccuracy, hshift]
  dsimp only
  rcases (show em.roundedMantissa ≤ 2 ^ 53 by omega).lt_or_eq with hfits | hcarry
  · have hr : IsCanonical ⟨negative, em.roundedMantissa, t, false⟩ :=
      ⟨hfits, hleast, fun h ↦ (hnormal h).trans (le_roundedMantissa em)⟩
    refine ⟨_, rfl, hholds.isRounding hlt hnormal hr rfl, ?_⟩
    rw [shiftToTargetExponent_of_lt hfits hleast, unpacked]
    rcases Nat.eq_zero_or_pos em.roundedMantissa with hzero | hpos
    · simp [hzero]
    · simp [hpos, hpos.ne']
  · have hr : IsCanonical ⟨negative, 2 ^ 52, t + 1, false⟩ :=
      ⟨by norm_num, by dsimp only; omega, fun _ ↦ le_refl _⟩
    refine ⟨_, rfl, hholds.isRounding hlt hnormal hr ?_, ?_⟩
    · rw [magnitude, hcarry, zpow_add_one₀ two_ne_zero]
      push_cast
      ring
    · rw [hcarry, shiftToTargetExponent_carry hleast]
      rfl

/-- Rounding what was rounded is rounding once. -/
theorem IsRounding.trans {w : ℚ} {r r' : Binary} (h : IsRounding w r)
    (h' : IsRounding r.magnitude r') : IsRounding w r' where
  canonical := h'.canonical
  le_of_le c hc hw := h'.le_of_le c hc (h.le_of_le c hc hw)
  ge_of_ge c hc hw := h'.ge_of_ge c hc (h.ge_of_ge c hc hw)
  fits_iff := h'.fits_iff.trans (h.canonical.lt_overflowBound_iff.symm.trans h.fits_iff)

/-! ### Packing -/

/-- A mantissa with its leading bit loses it in a pack, and gets it back. -/
theorem toNat_one_append {m : ℕ} (hle : 2 ^ 52 ≤ m) (hlt : m < 2 ^ 53) :
    (1#1 ++ BitVec.ofNat 52 m).toNat = m := by
  rw [BitVec.toNat_append, ← Nat.shiftLeft_add_eq_or_of_lt (BitVec.isLt _), BitVec.toNat_ofNat,
    BitVec.toNat_ofNat, Nat.shiftLeft_eq]
  omega

theorem unpack_pack_normal {s : Sign} {m : ℕ} {e : ℤ} (hm : 0 < m) (hle : 2 ^ 52 ≤ m)
    (hlt : m < 2 ^ 53) (hleast : -1074 ≤ e) (hmost : e ≤ 971) :
    UnpackedFloat.unpack .binary64 (UnpackedFloat.pack .binary64 (.finite s m e hm)) =
      .finite s m e hm := by
  have hlog : m.log2 + 1 = Format.binary64.mantissaBits := by
    show m.log2 + 1 = 53
    rw [(Nat.log2_eq_iff hm.ne').2 ⟨hle, hlt⟩]
  obtain ⟨b, hb⟩ := Int.eq_ofNat_of_zero_le (show 0 ≤ e + 1023 + 52 by omega)
  have hexponent : (BitVec.ofNat 11 b).toNat = b := by
    rw [BitVec.toNat_ofNat, Nat.mod_eq_of_lt (by omega)]
  have hspecial : BitVec.ofNat 11 b ≠ -1#_ := by
    intro heq
    have hmax : b = 2047 := hexponent.symm.trans (congrArg BitVec.toNat heq)
    omega
  have hzero : BitVec.ofNat 11 b ≠ 0#_ := by
    intro heq
    have hnone : b = 0 := hexponent.symm.trans (congrArg BitVec.toNat heq)
    omega
  have hpack : UnpackedFloat.pack .binary64 (.finite s m e hm) =
      packComponents .binary64 s (.ofNat 11 b) (.ofNat 52 m) := by
    have hbiased : (e + (Format.binary64.exponentBias : ℤ) + (52 : ℕ)).toNat = b := by
      show (e + (1023 : ℕ) + (52 : ℕ) : ℤ).toNat = b
      omega
    simp only [UnpackedFloat.pack, hbiased, hlog, if_true]
    rw [if_neg (by norm_num; omega)]
  rw [hpack, UnpackedFloat.unpack]
  simp only [unpackMantissa_packComponents, unpackExponent_packComponents,
    unpackSign_packComponents, Sign.ofBitVec_toBitVec, hspecial, hzero, if_false]
  refine finite_congr (toNat_one_append hle hlt) ?_
  show ((BitVec.ofNat 11 b).toNat : ℤ) - ((1023 : ℕ) + (52 : ℕ) : ℤ) = e
  rw [hexponent]
  omega

theorem unpack_pack_subnormal {s : Sign} {m : ℕ} (hm : 0 < m) (hlt : m < 2 ^ 52) :
    UnpackedFloat.unpack .binary64 (UnpackedFloat.pack .binary64 (.finite s m (-1074) hm)) =
      .finite s m (-1074) hm := by
  have hlog : ¬ m.log2 + 1 = Format.binary64.mantissaBits := by
    show ¬ m.log2 + 1 = 53
    have := (Nat.log2_lt hm.ne').2 hlt
    omega
  have hfraction : (BitVec.ofNat 52 m).toNat = m := by
    rw [BitVec.toNat_ofNat, Nat.mod_eq_of_lt hlt]
  have hzero : BitVec.ofNat 52 m ≠ 0#_ := by
    intro heq
    have hnone : m = 0 := hfraction.symm.trans (congrArg BitVec.toNat heq)
    omega
  have hpack : UnpackedFloat.pack .binary64 (.finite s m (-1074) hm) =
      packComponents .binary64 s 0#11 (.ofNat 52 m) := by
    simp only [UnpackedFloat.pack, hlog, if_false]
    rfl
  rw [hpack, UnpackedFloat.unpack]
  simp only [unpackMantissa_packComponents, unpackExponent_packComponents,
    unpackSign_packComponents, Sign.ofBitVec_toBitVec, hzero]
  rw [if_neg (by decide), if_pos trivial, dif_neg not_false]
  exact finite_congr hfraction rfl

/-- **Packing a canonical number that is not too large loses nothing.** -/
theorem unpack_pack {r : Binary} (hr : r.IsCanonical) (hle : r.exponent ≤ 971) :
    (Float.Model.pack r.unpacked).unpack = r.unpacked := by
  show UnpackedFloat.unpack .binary64 (UnpackedFloat.pack .binary64 r.unpacked) = _
  rw [unpacked]
  by_cases hpos : 0 < r.mantissa
  · rw [dif_pos hpos]
    rcases Nat.lt_or_ge r.mantissa (2 ^ 52) with hlt | hge
    · have hleast : r.exponent = -1074 := by
        by_contra hne
        have hnormal := hr.le_mantissa (lt_of_le_of_ne hr.le_exponent (Ne.symm hne))
        omega
      simp only [hleast]
      exact unpack_pack_subnormal hpos hlt
    · exact unpack_pack_normal hpos hge hr.mantissa_lt hr.le_exponent hle
  · rw [dif_neg hpos]
    exact unpack_packedZero

/-- The exponent of a finite number is not that of the special numbers. -/
theorem exponent_le_of_ofFloat? {x : Float} {b : Binary} (h : ofFloat? x = some b) :
    b.exponent ≤ 971 := by
  have hbits : x.toBits.toNat / Nat.pow 2 52 % Nat.pow 2 11 < 2048 := Nat.mod_lt _ (by decide)
  unfold ofFloat? at h
  dsimp only at h
  split at h
  · cases h
  next hspecial =>
    split at h
    · cases h
      show (-1074 : ℤ) ≤ 971
      decide
    · cases h
      dsimp only
      omega

end Binary

end GerberMask
