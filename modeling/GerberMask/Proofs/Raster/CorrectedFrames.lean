import Mathlib.Analysis.SpecialFunctions.Trigonometric.Basic
import GerberMask.Proofs.Number.ExactScalars
import GerberMask.Raster.Frame

/-!
# Where a correction puts the points of a board

A board is turned about the corner of its bounds, shifted, and then framed, which turns the y axis
over and changes inches to pixels. The maps are made by a library. What is asked of it is little
(`TransformLibrary.Lawful`): a map by its coefficients is the map that they say, a rotation turns by
its angle about its pivot, and what is composed is done one after the other. Maps by coefficients
are such a library where numbers do not round (`affineMaps_lawful`).

By any of these libraries the maps of a board have one formula (`value_boardMapBy`). Everything else
is read off it: the corner stands still under every rotation, a shift is the same number of pixels
everywhere, to the right and down, and where a correction moves nothing, the general map is the
plain frame, so the shortcut that leaves such a correction out changes nothing.
-/

namespace GerberMask

open ExactScalar

theorem Point.ext_value {α : Type} [Scalar α] [ExactScalar α] {p q : Point α}
    (h : p.map value = q.map value) : p = q := by
  obtain ⟨hx, hy⟩ := Point.mk.inj h
  exact congrArg₂ Point.mk (value_injective hx) (value_injective hy)

/-! ### Maps by coefficients -/

namespace Affine

variable {α : Type} [Scalar α] [ExactScalar α]

/-- The first map, then the second. -/
theorem apply_andThen (m n : Affine α) (p : Point α) :
    (m.andThen n).apply p = n.apply (m.apply p) := by
  refine Point.ext_value (congrArg₂ Point.mk ?_ ?_) <;> simp [andThen, apply] <;> ring

theorem value_apply_shift (dx dy : α) (p : Point α) :
    ((shift (Scalar.ofNat 1) Scalar.zero dx dy).apply p).map value =
      ⟨(p.map value).x + value dx, (p.map value).y + value dy⟩ := by
  simp [shift, apply, Point.map, value_ofNat, value_zero]

theorem value_apply_rotation (cos sin : α) (p : Point α) :
    ((rotation Scalar.zero cos sin).apply p).map value =
      ⟨value cos * (p.map value).x - value sin * (p.map value).y,
        value sin * (p.map value).x + value cos * (p.map value).y⟩ := by
  refine congrArg₂ Point.mk ?_ ?_ <;> simp [rotation, apply, value_zero] <;> ring

end Affine

namespace Raster

variable {α γ : Type} [Scalar α] [ExactScalar α]

/-! ### Libraries of maps -/

/-- The cosine of an angle in degrees. -/
noncomputable def cosOfDegrees (degrees : ℝ) : ℝ :=
  Real.cos (degrees * (Real.pi / 180))

/-- The sine of an angle in degrees. -/
noncomputable def sinOfDegrees (degrees : ℝ) : ℝ :=
  Real.sin (degrees * (Real.pi / 180))

/-- What is asked of a library of maps, in exact arithmetic. -/
structure TransformLibrary.Lawful (lib : TransformLibrary α γ) : Prop where
  value_fromRow : ∀ (sx ky kx sy tx ty : α) (p : Point α),
    (lib.mapPoint (lib.fromRow sx ky kx sy tx ty) p).map value =
      ⟨value p.x * value sx + value p.y * value kx + value tx,
        value p.x * value ky + value p.y * value sy + value ty⟩
  /-- A rotation is counter-clockwise, where the y axis points upwards. -/
  value_rotationAt : ∀ (degrees : α) (pivot p : Point α),
    (lib.mapPoint (lib.rotationAt degrees pivot) p).map value =
      ⟨value pivot.x + (cosOfDegrees (value degrees) * (value p.x - value pivot.x) -
          sinOfDegrees (value degrees) * (value p.y - value pivot.y)),
        value pivot.y + (sinOfDegrees (value degrees) * (value p.x - value pivot.x) +
          cosOfDegrees (value degrees) * (value p.y - value pivot.y))⟩
  value_postTranslate : ∀ (m : γ) (dx dy : α) (p : Point α),
    (lib.mapPoint (lib.postTranslate m dx dy) p).map value =
      ((lib.mapPoint m p).map value).offset (value dx) (value dy)
  mapPoint_postConcat : ∀ (m n : γ) (p : Point α),
    lib.mapPoint (lib.postConcat m n) p = lib.mapPoint n (lib.mapPoint m p)

/-- **Maps by coefficients are lawful**, if they are given the cosine and the sine. -/
theorem affineMaps_lawful {cosine sine : α → α}
    (hcosine : ∀ a, value (cosine a) = cosOfDegrees (value a))
    (hsine : ∀ a, value (sine a) = sinOfDegrees (value a)) :
    (affineMaps (Scalar.zero : α) (Scalar.ofNat 1) cosine sine).Lawful where
  value_fromRow sx ky kx sy tx ty p := by
    simp [affineMaps, Affine.apply, Point.map]
  value_rotationAt degrees pivot p := by
    simp only [affineMaps, Affine.apply_andThen, Affine.value_apply_shift,
      Affine.value_apply_rotation, hcosine, hsine, Point.map_x, Point.map_y, value_neg]
    refine congrArg₂ Point.mk ?_ ?_ <;> ring
  value_postTranslate m dx dy p := by
    simp only [affineMaps, Affine.apply_andThen, Affine.value_apply_shift]
    rfl
  mapPoint_postConcat := Affine.apply_andThen

/-! ### Corrections -/

namespace Correction

/-- The correction without its shifts. -/
def unshifted {β : Type} [Scalar β] (c : Correction β) : Correction β :=
  ⟨Scalar.zero, Scalar.zero, c.rotation⟩

theorem isIdentity_iff {c : Correction α} : c.isIdentity = true ↔ c = identity := by
  obtain ⟨offsetX, offsetY, rotation⟩ := c
  simp only [isIdentity, identity, Bool.and_eq_true, same_iff, value_injective.eq_iff, mk.injEq,
    and_assoc]

theorem value_inchesOfMm (mm : α) : value (LengthUnit.inchesOfMm mm) = value mm / 25.4 :=
  LengthUnit.value_toInches .millimetre mm

end Correction

/-! ### Frames -/

namespace FrameNumbers

/-- The pixel that belongs to a point: seen from the corner of the bounds it is turned, shifted to
the right and down, and counted in columns from the left and in rows from the top. -/
noncomputable def pixel (n : FrameNumbers α) (c : Correction α) (p : Point α) : Point ℝ :=
  let x := value p.x - value n.minX
  let y := value p.y - value n.minY
  let cos := cosOfDegrees (value c.rotation)
  let sin := sinOfDegrees (value c.rotation)
  ⟨value n.ppiX * (cos * x - sin * y + value c.offsetX / 25.4),
    value n.ppiY * (value n.maxY - value n.minY - sin * x - cos * y + value c.offsetY / 25.4)⟩

variable {lib : TransformLibrary α γ} (hlib : lib.Lawful) (n : FrameNumbers α)

include hlib

theorem value_frameBy (p : Point α) :
    (lib.mapPoint (n.frameBy lib id Scalar.zero) p).map value =
      ⟨value n.ppiX * (value p.x - value n.minX), value n.ppiY * (value n.maxY - value p.y)⟩ := by
  rw [frameBy, hlib.value_fromRow]
  refine congrArg₂ Point.mk ?_ ?_ <;> simp only [id, value_zero, value_mul, value_neg] <;> ring

/-- On the board, a correction turns a point about the corner of the bounds, then shifts it. -/
theorem value_transformBy (c : Correction α) (p : Point α) :
    (lib.mapPoint (c.transformBy lib id ⟨n.minX, n.minY⟩) p).map value =
      ⟨value n.minX + (cosOfDegrees (value c.rotation) * (value p.x - value n.minX) -
          sinOfDegrees (value c.rotation) * (value p.y - value n.minY)) + value c.offsetX / 25.4,
        value n.minY + (sinOfDegrees (value c.rotation) * (value p.x - value n.minX) +
          cosOfDegrees (value c.rotation) * (value p.y - value n.minY)) -
            value c.offsetY / 25.4⟩ := by
  rw [Correction.transformBy, hlib.value_postTranslate, hlib.value_rotationAt]
  simp only [id, Point.map_x, Point.map_y, Point.offset, value_neg, Correction.value_inchesOfMm,
    sub_eq_add_neg]

/-- **The maps of a board have one formula.** -/
theorem value_postConcat (c : Correction α) (p : Point α) :
    (lib.mapPoint (lib.postConcat (c.transformBy lib id ⟨n.minX, n.minY⟩)
      (n.frameBy lib id Scalar.zero)) p).map value = n.pixel c p := by
  obtain ⟨hx, hy⟩ := Point.mk.inj (n.value_transformBy hlib c p)
  rw [hlib.mapPoint_postConcat, value_frameBy hlib, hx, hy]
  refine congrArg₂ Point.mk ?_ ?_ <;> ring

/-- A correction that moves nothing leads to the plain frame. -/
theorem mapPoint_identity (p : Point α) :
    lib.mapPoint (lib.postConcat (Correction.identity.transformBy lib id ⟨n.minX, n.minY⟩)
      (n.frameBy lib id Scalar.zero)) p = lib.mapPoint (n.frameBy lib id Scalar.zero) p := by
  refine Point.ext_value ?_
  rw [value_postConcat hlib, value_frameBy hlib]
  simp [pixel, Correction.identity, value_zero, cosOfDegrees, sinOfDegrees]

/-- **The shortcut changes nothing.** -/
theorem value_boardMapBy (c : Correction α) (p : Point α) :
    (lib.mapPoint (n.boardMapBy lib id Scalar.zero (some c)) p).map value = n.pixel c p := by
  cases hidentity : c.isIdentity with
  | false =>
    rw [boardMapBy, Option.filter_some_pos (by rw [hidentity]; rfl)]
    exact n.value_postConcat hlib c p
  | true =>
    rw [boardMapBy, Option.filter_some_neg (by rw [hidentity]; rfl),
      Correction.isIdentity_iff.1 hidentity, ← n.value_postConcat hlib, n.mapPoint_identity hlib]

end FrameNumbers

open FrameNumbers Correction

/-- **A correction and a frame compose as they should.** By a lawful library, for all bounds,
densities and corrections, a point of the board is turned about the corner of least x and y, shifted
by the offsets in inches, and put where the frame puts it, in columns from the left and rows from
the top. So the corner lands on one pixel under all rotations, and offsets displace every point by
the same number of pixels, to the right and down, whatever the rotation. A correction that moves
nothing leads to the plain frame on the general way too, so it makes no difference that it is left
out. The raster makes the same maps in single precision, by formulas that are lawful in exact
arithmetic. -/
theorem corrected_frames {lib : TransformLibrary α γ} (hlib : lib.Lawful) (n : FrameNumbers α) :
    (∀ (c : Correction α) (p : Point α),
      (lib.mapPoint (n.boardMapBy lib id Scalar.zero (some c)) p).map value =
        ⟨value n.ppiX * (cosOfDegrees (value c.rotation) * (value p.x - value n.minX) -
            sinOfDegrees (value c.rotation) * (value p.y - value n.minY) + value c.offsetX / 25.4),
          value n.ppiY * (value n.maxY - value n.minY -
            sinOfDegrees (value c.rotation) * (value p.x - value n.minX) -
            cosOfDegrees (value c.rotation) * (value p.y - value n.minY) +
              value c.offsetY / 25.4)⟩) ∧
    (∀ c c' : Correction α, c.offsetX = c'.offsetX → c.offsetY = c'.offsetY →
      lib.mapPoint (n.boardMapBy lib id Scalar.zero (some c)) ⟨n.minX, n.minY⟩ =
        lib.mapPoint (n.boardMapBy lib id Scalar.zero (some c')) ⟨n.minX, n.minY⟩) ∧
    (∀ (c : Correction α) (p : Point α),
      (lib.mapPoint (n.boardMapBy lib id Scalar.zero (some c)) p).map value =
        ((lib.mapPoint (n.boardMapBy lib id Scalar.zero (some c.unshifted)) p).map value).offset
          (value n.ppiX * value c.offsetX / 25.4) (value n.ppiY * value c.offsetY / 25.4)) ∧
    (∀ c : Correction α, c.isIdentity = true ↔ c = Correction.identity) ∧
    (∀ c? : Option (Correction α), c? = none ∨ c? = some Correction.identity →
      n.boardMapBy lib id Scalar.zero c? = n.frameBy lib id Scalar.zero) ∧
    (∀ p : Point α,
      lib.mapPoint (lib.postConcat (Correction.identity.transformBy lib id ⟨n.minX, n.minY⟩)
        (n.frameBy lib id Scalar.zero)) p = lib.mapPoint (n.frameBy lib id Scalar.zero) p) ∧
    (∀ (o : RenderOptions) (b : Bounds) (c? : Option (Correction Float)),
      o.boardTransform b c? =
        boardMapBy (affineMaps 0 1 (fun degrees ↦ (Gerber.radians32 degrees).cos)
          fun degrees ↦ (Gerber.radians32 degrees).sin) Float.toFloat32 0
            ⟨b.minX, b.minY, b.maxY, o.ppiX, o.ppiY⟩ c?) ∧
    ∀ cosine sine : α → α, (∀ a, value (cosine a) = cosOfDegrees (value a)) →
      (∀ a, value (sine a) = sinOfDegrees (value a)) →
        (affineMaps (Scalar.zero : α) (Scalar.ofNat 1) cosine sine).Lawful := by
  refine ⟨n.value_boardMapBy hlib, fun c c' hx hy ↦ Point.ext_value ?_, fun c p ↦ ?_,
    fun c ↦ isIdentity_iff, ?_, n.mapPoint_identity hlib, fun _ _ _ ↦ rfl,
    fun cosine sine ↦ affineMaps_lawful⟩
  · rw [value_boardMapBy hlib, value_boardMapBy hlib]
    simp only [pixel, hx, hy, sub_self, mul_zero]
  · rw [value_boardMapBy hlib, value_boardMapBy hlib]
    refine congrArg₂ Point.mk ?_ ?_ <;> simp only [pixel, unshifted, value_zero] <;> ring
  · have hidentity : (Correction.identity : Correction α).isIdentity = true := isIdentity_iff.2 rfl
    rintro _ (rfl | rfl)
    · rfl
    · rw [boardMapBy, Option.filter_some_neg (by rw [hidentity]; rfl)]

/-- A board away from the origin, turned by a quarter and shifted by an inch: the point an inch to
the right of the corner is then an inch above it. -/
theorem corrected_frames_quarter_turn :
    letI := Scalar.real fun _ ↦ 0
    letI := ExactScalar.real fun _ ↦ 0
    ∃ lib : TransformLibrary ℝ (Affine ℝ), lib.Lawful ∧
      lib.mapPoint
          (boardMapBy lib id Scalar.zero ⟨1, 2, 4, 10, 20⟩ (some ⟨25.4, 25.4, 90⟩)) ⟨2, 2⟩ =
        ⟨10, 40⟩ := by
  let _ := Scalar.real fun _ ↦ 0
  let _ := ExactScalar.real fun _ ↦ 0
  have hlawful : (affineMaps (Scalar.zero : ℝ) (Scalar.ofNat 1) cosOfDegrees sinOfDegrees).Lawful :=
    affineMaps_lawful (fun _ ↦ rfl) fun _ ↦ rfl
  have hcos : cosOfDegrees 90 = 0 := by
    rw [cosOfDegrees, show (90 : ℝ) * (Real.pi / 180) = Real.pi / 2 by ring, Real.cos_pi_div_two]
  have hsin : sinOfDegrees 90 = 1 := by
    rw [sinOfDegrees, show (90 : ℝ) * (Real.pi / 180) = Real.pi / 2 by ring, Real.sin_pi_div_two]
  refine ⟨_, hlawful,
    Point.ext_value (((corrected_frames hlawful ⟨1, 2, 4, 10, 20⟩).1 _ _).trans ?_)⟩
  show (⟨10 * (cosOfDegrees 90 * (2 - 1) - sinOfDegrees 90 * (2 - 2) + 25.4 / 25.4),
    20 * (4 - 2 - sinOfDegrees 90 * (2 - 1) - cosOfDegrees 90 * (2 - 2) + 25.4 / 25.4)⟩ :
      Point ℝ) = ⟨10, 40⟩
  rw [hcos, hsin]
  norm_num

end Raster

end GerberMask
