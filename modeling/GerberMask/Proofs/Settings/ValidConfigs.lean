import GerberMask.Proofs.Number.FiniteResults
import GerberMask.Settings.Meaning

/-!
# Valid configurations

A configuration is valid if its screen has pixels in both directions and a size, and its drill holes
have a diameter where one is set (`Config.validate_eq_ok`).

The raster asks for more, densities that are positive and finite. Those of a valid configuration are
positive, however large the screen is. They are finite exactly if the quotient of pixels and size is
in the range of binary numbers (`PrinterProfile.Fits`), which it is for every screen that is not
smaller than a power of two far below any length there is (`screen_densities`).
-/

namespace GerberMask.Settings

open Binary (overflowBound)

/-! ### What is checked -/

/-- Both of two checks pass. -/
theorem check_and_then {ε α : Type} {x : Except ε Unit} {y : Except ε α} {a : α} :
    (x >>= fun _ ↦ y) = .ok a ↔ x = .ok () ∧ y = .ok a := by
  rcases x with e | ⟨⟩
  · constructor
    · rintro ⟨⟩
    · rintro ⟨⟨⟩, -⟩
  · exact (and_iff_right rfl).symm

theorem checkResolution_eq_ok {key : String} {pixels : UInt32} :
    checkResolution key pixels = .ok () ↔ pixels ≠ 0 := by
  rw [checkResolution]
  split
  next hzero => exact iff_of_false (by rintro ⟨⟩) (not_not.2 hzero)
  next hpixels => exact iff_of_true rfl hpixels

theorem checkLength_eq_ok {key : String} {mm : Float} :
    checkLength key mm = .ok () ↔ mm.isFinite = true ∧ 0 < mm := by
  rw [checkLength]
  split
  next hlength => exact iff_of_true rfl (by simpa using hlength)
  next hlength => exact iff_of_false (by rintro ⟨⟩) (by simpa using hlength)

/-- **What validation checks.** -/
theorem Config.validate_eq_ok {c : Config} : c.validate = .ok () ↔
    c.printer.resolutionX ≠ 0 ∧ c.printer.resolutionY ≠ 0 ∧
    (c.printer.screenWidthMm.isFinite = true ∧ 0 < c.printer.screenWidthMm) ∧
    (c.printer.screenHeightMm.isFinite = true ∧ 0 < c.printer.screenHeightMm) ∧
    ∀ d ∈ c.drill.holeDiameterMm?, d.isFinite = true ∧ 0 < d := by
  rw [validate, check_and_then, check_and_then, check_and_then, check_and_then,
    checkResolution_eq_ok, checkResolution_eq_ok, checkLength_eq_ok, checkLength_eq_ok]
  refine and_congr_right fun _ ↦ and_congr_right fun _ ↦ and_congr_right fun _ ↦
    and_congr_right fun _ ↦ ?_
  cases c.drill.holeDiameterMm? with
  | none => exact iff_of_true rfl (by rintro d ⟨⟩)
  | some d => simpa using checkLength_eq_ok

/-! ### Densities -/

/-- The density that pixels on a length have, before it is rounded. -/
def exactDensity (pixels : UInt32) (mm : Float) : ℚ :=
  exactValue (Float.ofNat pixels.toNat * LengthUnit.mmPerInch) / exactValue mm

/-- Both densities are in the range of binary numbers. -/
def PrinterProfile.Fits (p : PrinterProfile) : Prop :=
  exactDensity p.resolutionX p.screenWidthMm < overflowBound ∧
    exactDensity p.resolutionY p.screenHeightMm < overflowBound

section

variable {pixels : UInt32} {mm : Float}

/-- The binary number of millimetres in an inch. -/
theorem exists_mmPerInch : ∃ b, Binary.ofFloat? LengthUnit.mmPerInch = some b ∧
    b.negative = false ∧ 2 ^ (4 : ℤ) ≤ b.magnitude ∧ b.magnitude ≤ 2 ^ (5 : ℤ) :=
  ⟨⟨false, 7149464408450662, -48, false⟩, by decide +kernel, rfl, by norm_num [Binary.magnitude],
    by norm_num [Binary.magnitude]⟩

/-- The dividend of a density, between two powers of two. -/
theorem exists_dividend (hpixels : pixels ≠ 0) :
    ∃ a, Binary.ofFloat? (Float.ofNat pixels.toNat * LengthUnit.mmPerInch) = some a ∧
      a.negative = false ∧ 2 ^ (4 : ℤ) ≤ a.magnitude ∧ a.magnitude ≤ 2 ^ (37 : ℤ) := by
  have hnat : pixels.toNat ≠ 0 := fun h ↦ hpixels (UInt32.toNat_inj.1 h)
  have hone : (2 : ℚ) ^ (0 : ℤ) ≤ pixels.toNat := by
    exact_mod_cast Nat.one_le_iff_ne_zero.2 hnat
  have hword : (pixels.toNat : ℚ) ≤ 2 ^ (32 : ℤ) := by
    exact_mod_cast pixels.toNat_lt.le
  obtain ⟨n, hn, hsign, hrounding⟩ := (Binary.isRounded_ofNat pixels.toNat).exists_ofFloat?
    (Binary.lt_overflowBound hword (by decide))
  obtain ⟨b, hb, hbsign, hble, hbge⟩ := exists_mmPerInch
  have hproduct := Binary.isRounded_mul hn hb
  rw [hsign, hbsign] at hproduct
  have hle : n.magnitude * b.magnitude ≤ 2 ^ (32 + 5 : ℤ) := by
    rw [zpow_add₀ two_ne_zero]
    exact mul_le_mul (hrounding.le_two_zpow (by decide) hword) hbge b.magnitude_nonneg
      (by positivity)
  have hge : 2 ^ (0 + 4 : ℤ) ≤ n.magnitude * b.magnitude := by
    rw [zpow_add₀ two_ne_zero]
    exact mul_le_mul (hrounding.two_zpow_le (by decide) hone) hble (by positivity)
      n.magnitude_nonneg
  obtain ⟨a, ha, hasign, hr⟩ :=
    hproduct.exists_ofFloat? (Binary.lt_overflowBound hle (by decide))
  exact ⟨a, ha, hasign, hr.two_zpow_le (by decide) hge, hr.le_two_zpow (by decide) hle⟩

/-- **The density is the exact one rounded.** -/
theorem isRounded_density (hpixels : pixels ≠ 0) (hmm : mm.isFinite = true) (hpos : 0 < mm) :
    Binary.IsRounded false (exactDensity pixels mm)
      (Float.ofNat pixels.toNat * LengthUnit.mmPerInch / mm) := by
  obtain ⟨a, ha, hasign, -⟩ := exists_dividend hpixels
  obtain ⟨b, hb⟩ := Binary.exists_ofFloat? hmm
  obtain ⟨hbsign, hmagnitude⟩ := (Binary.pos_iff hb).1 hpos
  have hquotient := Binary.isRounded_div ha hb (Binary.magnitude_pos_iff.1 hmagnitude)
  rw [hasign, hbsign] at hquotient
  rw [exactDensity, Binary.exactValue_eq_magnitude ha hasign,
    Binary.exactValue_eq_magnitude hb hbsign]
  exact hquotient

theorem exactValue_pos (hmm : mm.isFinite = true) (hpos : 0 < mm) : 0 < exactValue mm := by
  obtain ⟨b, hb⟩ := Binary.exists_ofFloat? hmm
  obtain ⟨hsign, hmagnitude⟩ := (Binary.pos_iff hb).1 hpos
  rwa [Binary.exactValue_eq_magnitude hb hsign]

/-- The dividend of a density in its bounds. -/
theorem dividend_bounds (hpixels : pixels ≠ 0) :
    2 ^ (4 : ℤ) ≤ exactValue (Float.ofNat pixels.toNat * LengthUnit.mmPerInch) ∧
      exactValue (Float.ofNat pixels.toNat * LengthUnit.mmPerInch) ≤ 2 ^ (37 : ℤ) := by
  obtain ⟨a, ha, hsign, hbounds⟩ := exists_dividend hpixels
  rwa [Binary.exactValue_eq_magnitude ha hsign]

theorem le_exactDensity {n : ℤ} (hpixels : pixels ≠ 0) (hmm : mm.isFinite = true) (hpos : 0 < mm)
    (hle : exactValue mm ≤ 2 ^ n) : 2 ^ (4 - n) ≤ exactDensity pixels mm := by
  rw [exactDensity, zpow_sub₀ two_ne_zero]
  exact div_le_div₀ ((by positivity : (0 : ℚ) ≤ 2 ^ (4 : ℤ)).trans (dividend_bounds hpixels).1)
    (dividend_bounds hpixels).1 (exactValue_pos hmm hpos) hle

theorem exactDensity_le {n : ℤ} (hpixels : pixels ≠ 0) (hle : 2 ^ n ≤ exactValue mm) :
    exactDensity pixels mm ≤ 2 ^ (37 - n) := by
  rw [exactDensity, zpow_sub₀ two_ne_zero]
  exact div_le_div₀ (by positivity) (dividend_bounds hpixels).2 (by positivity) hle

/-- No screen is so large that its density is rounded to zero. -/
theorem density_pos (hpixels : pixels ≠ 0) (hmm : mm.isFinite = true) (hpos : 0 < mm) :
    0 < Float.ofNat pixels.toNat * LengthUnit.mmPerInch / mm := by
  have hle : exactValue mm ≤ 2 ^ (1024 : ℤ) := by
    obtain ⟨b, hb⟩ := Binary.exists_ofFloat? hmm
    calc exactValue mm ≤ |exactValue mm| := le_abs_self _
      _ = b.magnitude := Binary.abs_exactValue hb
      _ ≤ overflowBound := (Binary.magnitude_lt_overflowBound hb).le
      _ ≤ 2 ^ (1024 : ℤ) := Binary.overflowBound_le
  exact (isRounded_density hpixels hmm hpos).pos (by decide) (le_exactDensity hpixels hmm hpos hle)

theorem isUsableDensity_iff (hpixels : pixels ≠ 0) (hmm : mm.isFinite = true) (hpos : 0 < mm) :
    Raster.isUsableDensity (Float.ofNat pixels.toNat * LengthUnit.mmPerInch / mm) = true ↔
      exactDensity pixels mm < overflowBound := by
  rw [Raster.isUsableDensity, Bool.and_eq_true,
    and_iff_left (decide_eq_true (density_pos hpixels hmm hpos))]
  exact (isRounded_density hpixels hmm hpos).isFinite_iff

end

open Raster

/-- The raster accepts the screen of a valid configuration exactly if its densities fit. -/
theorem validate_renderOptions {c : Config} (h : c.validate = .ok ()) :
    (c.printer.Fits → c.renderOptions.validate = .ok ()) ∧
    (¬ c.printer.Fits → c.renderOptions.validate =
      .error (.invalidDensity c.renderOptions.ppiX c.renderOptions.ppiY)) := by
  obtain ⟨hx, hy, ⟨hwidth, hwidth₀⟩, ⟨hheight, hheight₀⟩, -⟩ := Config.validate_eq_ok.1 h
  have hpixels : ¬ (c.renderOptions.width = 0 ∨ c.renderOptions.height = 0) := by
    rintro (hzero | hzero)
    · exact hx (UInt32.toNat_inj.1 hzero)
    · exact hy (UInt32.toNat_inj.1 hzero)
  have husable : (isUsableDensity c.renderOptions.ppiX && isUsableDensity c.renderOptions.ppiY) =
      true ↔ c.printer.Fits := by
    rw [Bool.and_eq_true]
    exact and_congr (isUsableDensity_iff hx hwidth hwidth₀)
      (isUsableDensity_iff hy hheight hheight₀)
  rw [RenderOptions.validate, if_neg hpixels]
  exact ⟨fun hfits ↦ if_pos (husable.2 hfits), fun hfits ↦ if_neg (husable.not.2 hfits)⟩

/-- Screens that are not tiny fit, whatever their resolution is: the largest dividend is below
`2 ^ 37`, and the power of two with the exponent `37 + 986 = 1023` is finite. -/
theorem PrinterProfile.fits_of_le {p : PrinterProfile} (hx : p.resolutionX ≠ 0)
    (hy : p.resolutionY ≠ 0) (hwidth : 2 ^ (-986 : ℤ) ≤ exactValue p.screenWidthMm)
    (hheight : 2 ^ (-986 : ℤ) ≤ exactValue p.screenHeightMm) : p.Fits :=
  ⟨Binary.lt_overflowBound (exactDensity_le hx hwidth) (by decide),
    Binary.lt_overflowBound (exactDensity_le hy hheight) (by decide)⟩

/-- **What a valid configuration can be used for.** Its screen has pixels in both directions, and
both densities are positive. The raster accepts them exactly if they fit, which they do if no side
of the screen is shorter than `2 ^ (-986)` millimetres, and which they do not if one side is not
longer than `2 ^ (-1020)` of them. What does not fit is infinite, and is refused with both
densities before anything is painted. -/
theorem valid_configs (c : Config) (h : c.validate = .ok ()) :
    (c.renderOptions.width ≠ 0 ∧ c.renderOptions.height ≠ 0 ∧
      0 < c.renderOptions.ppiX ∧ 0 < c.renderOptions.ppiY) ∧
    (c.renderOptions.ppiX.isFinite = true ↔
      exactDensity c.printer.resolutionX c.printer.screenWidthMm < overflowBound) ∧
    (c.renderOptions.ppiY.isFinite = true ↔
      exactDensity c.printer.resolutionY c.printer.screenHeightMm < overflowBound) ∧
    (c.printer.Fits → c.renderOptions.validate = .ok ()) ∧
    (¬ c.printer.Fits →
      c.renderOptions.validate =
        .error (.invalidDensity c.renderOptions.ppiX c.renderOptions.ppiY) ∧
      ∀ items bounds correction?, c.renderOptions.render items bounds correction? =
        .error (.invalidDensity c.renderOptions.ppiX c.renderOptions.ppiY)) ∧
    (2 ^ (-986 : ℤ) ≤ exactValue c.printer.screenWidthMm →
      2 ^ (-986 : ℤ) ≤ exactValue c.printer.screenHeightMm → c.printer.Fits) ∧
    (exactValue c.printer.screenWidthMm ≤ 2 ^ (-1020 : ℤ) ∨
      exactValue c.printer.screenHeightMm ≤ 2 ^ (-1020 : ℤ) → ¬ c.printer.Fits) := by
  obtain ⟨hx, hy, ⟨hwidth, hwidth₀⟩, ⟨hheight, hheight₀⟩, -⟩ := Config.validate_eq_ok.1 h
  obtain ⟨haccept, hrefuse⟩ := validate_renderOptions h
  refine ⟨⟨?_, ?_, ?_, ?_⟩, ?_, ?_, haccept, fun hfits ↦ ⟨hrefuse hfits, ?_⟩,
    PrinterProfile.fits_of_le hx hy, ?_⟩
  · exact fun hzero ↦ hx (UInt32.toNat_inj.1 hzero)
  · exact fun hzero ↦ hy (UInt32.toNat_inj.1 hzero)
  · exact density_pos hx hwidth hwidth₀
  · exact density_pos hy hheight hheight₀
  · exact (isRounded_density hx hwidth hwidth₀).isFinite_iff
  · exact (isRounded_density hy hheight hheight₀).isFinite_iff
  · intro items bounds correction?
    rw [RenderOptions.render, hrefuse hfits]
    rfl
  -- the least dividend is above `2 ^ 4`, and `4 + 1020 = 1024` is beyond the range
  · rintro (hsmall | hsmall) ⟨hfitsx, hfitsy⟩
    · have hlarge := le_exactDensity hx hwidth hwidth₀ hsmall
      exact hfitsx.not_ge (Binary.overflowBound_le.trans hlarge)
    · have hlarge := le_exactDensity hy hheight hheight₀ hsmall
      exact hfitsy.not_ge (Binary.overflowBound_le.trans hlarge)

/-- The default screen is accepted; one that is valid and has no width to speak of is refused. -/
theorem valid_configs_default :
    (Config.default.validate = .ok () ∧ Config.default.renderOptions.validate = .ok ()) ∧
    ∃ c : Config, c.validate = .ok () ∧ c.renderOptions.ppiX.isFinite = false ∧
      c.renderOptions.validate =
        .error (.invalidDensity c.renderOptions.ppiX c.renderOptions.ppiY) := by
  have hdefault : Config.default.validate = .ok () := by decide +kernel
  have hsmall : { Config.default with
      printer := { PrinterProfile.default with screenWidthMm := 1e-308 } }.validate = .ok () := by
    decide +kernel
  obtain ⟨-, -, -, haccept, -, hlarge, -⟩ := valid_configs _ hdefault
  obtain ⟨-, -, -, -, hrefuse, -, hshort⟩ := valid_configs _ hsmall
  have hnot := hshort (.inl (by decide +kernel))
  refine ⟨⟨hdefault, haccept (hlarge (by decide +kernel) (by decide +kernel))⟩, _, hsmall, ?_,
    (hrefuse hnot).1⟩
  decide +kernel

/-- A valid configuration that the raster refuses: a screen of `1e-306` millimetres has infinitely
many pixels in an inch. -/
theorem tiny_screen_refused :
    { Config.default with
      printer := { PrinterProfile.default with screenWidthMm := 1e-306 } }.validate = .ok () ∧
    { Config.default with
      printer := { PrinterProfile.default with screenWidthMm := 1e-306 } }.renderOptions.validate =
        .error (.invalidDensity (1.0 / 0.0) Config.default.renderOptions.ppiY) := by
  decide +kernel

end GerberMask.Settings
