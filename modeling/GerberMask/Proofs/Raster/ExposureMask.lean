import GerberMask.Raster.Exposure

/-!
# What a mask shows

A mask is made by carrying the pixels of a layer onto it, one after the other. Here it is read the
other way: a pixel of the mask shows one column and one row of the layer (`sourceColumn`), and it is
lit where the layer has ink there, or for positive resist where it has none (`get?_finishExposure`).

The loop is followed once, in `carriedOnto_pixel`: after some pixels of the layer, a pixel of the
mask is decided by those of them that were carried there. There is at most one, since different
pixels are carried to different places (`Lands.unique`), so nothing is painted over.

Mirroring, inversion and the margin are then compared place by place, by linear arithmetic on
`sourceColumn`.
-/

namespace GerberMask.Raster

/-! ### The place of the layer that is shown -/

/-- The pixel of an image in a column and a row that may lie outside it. -/
def Image.at? {γ : Type} (img : Image γ) (x y : Int) : Option γ :=
  if 0 ≤ x ∧ 0 ≤ y then img.get? x.toNat y.toNat else none

namespace Image

variable {γ : Type} {img : Image γ} {x y : Int} {c : γ}

/-- Every place inside an image belongs to one index. -/
theorem at?_eq_some_iff : img.at? x y = some c ↔ ∃ i, ∃ h : i < img.pixels.size,
    ((i % img.width : Nat) : Int) = x ∧ ((i / img.width : Nat) : Int) = y ∧ img.pixels[i] = c := by
  constructor
  · intro h
    rw [at?] at h
    split at h
    next hsigns =>
      obtain ⟨hx, hy⟩ := hsigns
      rw [get?] at h
      split at h
      next hwidth =>
        obtain ⟨hi, hc⟩ := Array.getElem?_eq_some_iff.1 h
        refine ⟨_, hi, ?_, ?_, hc⟩
        · rw [Nat.mul_comm, Nat.mul_add_mod, Nat.mod_eq_of_lt hwidth]
          omega
        · rw [Nat.mul_comm, Nat.mul_add_div (by omega), Nat.div_eq_of_lt hwidth]
          omega
      · cases h
    · cases h
  · rintro ⟨i, hi, rfl, rfl, rfl⟩
    have hpos : 0 < img.width := by
      rw [img.size_eq] at hi
      exact Nat.pos_of_mul_pos_right (Nat.lt_of_le_of_lt (Nat.zero_le i) hi)
    rw [at?, if_pos ⟨Int.natCast_nonneg _, Int.natCast_nonneg _⟩, Int.toNat_natCast,
      Int.toNat_natCast, get?_eq_getElem? img (Nat.mod_lt i hpos), Nat.mul_comm, Nat.div_add_mod,
      Array.getElem?_eq_getElem hi]

theorem at?_natCast (img : Image γ) (x y : Nat) : img.at? x y = img.get? x y := by
  rw [at?, if_pos ⟨Int.natCast_nonneg x, Int.natCast_nonneg y⟩, Int.toNat_natCast,
    Int.toNat_natCast]

theorem at?_of_outside (h : ¬ (0 ≤ x ∧ x < img.width ∧ 0 ≤ y ∧ y < img.height)) :
    img.at? x y = none := by
  refine Option.eq_none_iff_forall_ne_some.2 fun c hc ↦ h ?_
  obtain ⟨i, hi, rfl, rfl, -⟩ := at?_eq_some_iff.1 hc
  rw [img.size_eq] at hi
  have hpos : 0 < img.width := Nat.pos_of_mul_pos_right (Nat.lt_of_le_of_lt (Nat.zero_le i) hi)
  exact ⟨Int.natCast_nonneg _, Int.ofNat_lt.2 (Nat.mod_lt i hpos), Int.natCast_nonneg _,
    Int.ofNat_lt.2 (Nat.div_lt_of_lt_mul hi)⟩

/-- The mirror image has no pixel where the image has none. -/
theorem at?_flip [Inhabited γ] (img : Image γ) (x y : Int) :
    img.flip.at? x y = img.at? (img.width - 1 - x) y := by
  by_cases h : 0 ≤ x ∧ x < img.width ∧ 0 ≤ y ∧ y < img.height
  · obtain ⟨hx, hwidth, hy, hheight⟩ := h
    obtain ⟨x, rfl⟩ := Int.eq_ofNat_of_zero_le hx
    obtain ⟨y, rfl⟩ := Int.eq_ofNat_of_zero_le hy
    have hcolumn : (img.width : Int) - 1 - x = (img.width - 1 - x : Nat) := by omega
    rw [hcolumn, at?_natCast, at?_natCast, get?_flip img (by omega) (by omega)]
  · have hflip : img.flip.at? x y = none := at?_of_outside h
    rw [hflip, at?_of_outside (by omega)]

end Image

/-- The colour with every channel the other way round. -/
def complement (c : Rgb) : Rgb :=
  ⟨0xff - c.r, 0xff - c.g, 0xff - c.b⟩

theorem complement_white : complement .white = .black := by decide

theorem complement_black : complement .black = .white := by decide

namespace ExposureOptions

variable (o : ExposureOptions)

/-- The column of the layer that a column of the mask shows. -/
def sourceColumn (width x : Nat) : Int :=
  if o.mirror then (width : Int) - 1 - (x + o.marginX) else x - o.marginX

/-- Whether the layer has ink at the place that a pixel of the mask shows. Outside the layer there
is none. -/
def inked (layer : Image Rgba) (x y : Nat) : Bool :=
  ((layer.at? (o.sourceColumn layer.width x) (y - o.marginY)).map isInk).getD false

/-- The pixel of a layer with a given index is carried to a place of the mask. -/
def Lands (width i x y : Nat) : Prop :=
  o.targetColumn width (i % width) = x ∧ o.targetRow (i / width) = y

variable {o}

/-- Carrying a pixel to a place and showing it there are inverse to each other. -/
theorem lands_iff {width i x y : Nat} : o.Lands width i x y ↔
    ((i % width : Nat) : Int) = o.sourceColumn width x ∧
      ((i / width : Nat) : Int) = y - o.marginY := by
  unfold Lands targetColumn targetRow sourceColumn
  dsimp only
  cases o.mirror
  · simp only [Bool.false_eq_true, if_false]
    omega
  · simp only [if_true]
    omega

/-- At most one pixel of a layer is carried to a place. -/
theorem Lands.unique {width i j x y : Nat} (hi : o.Lands width i x y) (hj : o.Lands width j x y) :
    i = j := by
  rw [lands_iff] at hi hj
  have hmod : i % width = j % width := by omega
  have hdiv : i / width = j / width := by omega
  rw [← Nat.div_add_mod i width, ← Nat.div_add_mod j width, hmod, hdiv]

/-! ### The loop -/

/-- The mask after the first `n` pixels of a layer. -/
def carriedOnto (o : ExposureOptions) (layer : Image Rgba) (n : Nat) (hn : n ≤ layer.pixels.size) :
    Image Rgb :=
  n.fold (fun i _ mask ↦ o.carry mask i layer.pixels[i])
    (.solid layer.width layer.height (o.exposed false))

theorem carriedOnto_succ {layer : Image Rgba} {n : Nat} (hn : n + 1 ≤ layer.pixels.size) :
    o.carriedOnto layer (n + 1) hn =
      o.carry (o.carriedOnto layer n (by omega)) n layer.pixels[n] :=
  Nat.fold_succ ..

theorem carriedOnto_size (layer : Image Rgba) (n : Nat) (hn : n ≤ layer.pixels.size) :
    (o.carriedOnto layer n hn).width = layer.width ∧
      (o.carriedOnto layer n hn).height = layer.height := by
  induction n with
  | zero => exact ⟨rfl, rfl⟩
  | succ n ih =>
    obtain ⟨hwidth, hheight⟩ := ih (by omega)
    rw [carriedOnto_succ, carry, Image.width_put, Image.height_put]
    exact ⟨hwidth, hheight⟩

theorem get?_carry (mask : Image Rgb) (i : Nat) (c : Rgba) {x y : Nat} (hx : x < mask.width)
    (hy : y < mask.height) [Decidable (o.Lands mask.width i x y)] :
    (o.carry mask i c).get? x y =
      if o.Lands mask.width i x y then some (o.exposed (isInk c)) else mask.get? x y := by
  rw [carry, Image.get?_put _ _ _ _ hx hy]
  congr

/-- **A pixel of the mask is decided by what was carried to it.** -/
theorem carriedOnto_pixel (layer : Image Rgba) {n x y : Nat} (hn : n ≤ layer.pixels.size)
    (hx : x < layer.width) (hy : y < layer.height) :
    ∃ ink : Bool, (o.carriedOnto layer n hn).get? x y = some (o.exposed ink) ∧
      (ink = true ↔
        ∃ i, ∃ h : i < n, o.Lands layer.width i x y ∧ isInk layer.pixels[i] = true) := by
  classical
  induction n with
  | zero => exact ⟨false, Image.get?_solid _ hx hy, by simp⟩
  | succ n ih =>
    obtain ⟨ink, hpixel, hink⟩ := ih (by omega)
    obtain ⟨hwidth, hheight⟩ := o.carriedOnto_size layer n (by omega)
    rw [carriedOnto_succ, get?_carry _ _ _ (hwidth ▸ hx) (hheight ▸ hy), hwidth]
    by_cases hlands : o.Lands layer.width n x y
    · -- the new pixel is the only one that is carried here
      refine ⟨isInk layer.pixels[n], if_pos hlands, fun h ↦ ⟨n, by omega, hlands, h⟩, ?_⟩
      rintro ⟨i, hlt, hi, h⟩
      obtain rfl := hi.unique hlands
      exact h
    · refine ⟨ink, (if_neg hlands).trans hpixel, hink.trans ⟨?_, ?_⟩⟩
      · rintro ⟨i, hlt, h⟩
        exact ⟨i, by omega, h⟩
      · rintro ⟨i, hlt, hi, h⟩
        have hne : i ≠ n := fun heq ↦ hlands (heq ▸ hi)
        exact ⟨i, by omega, hi, h⟩

/-- A layer has ink where one of its pixels with ink is shown. -/
theorem inked_iff {layer : Image Rgba} {x y : Nat} : o.inked layer x y = true ↔
    ∃ i, ∃ h : i < layer.pixels.size, o.Lands layer.width i x y ∧ isInk layer.pixels[i] = true := by
  have hink : o.inked layer x y = true ↔
      ∃ c, layer.at? (o.sourceColumn layer.width x) (y - o.marginY) = some c ∧ isInk c = true := by
    rw [inked]
    cases layer.at? (o.sourceColumn layer.width x) (y - o.marginY) <;> simp
  simp only [hink, Image.at?_eq_some_iff, lands_iff]
  constructor
  · rintro ⟨_, ⟨i, h, hcolumn, hrow, rfl⟩, hc⟩
    exact ⟨i, h, ⟨hcolumn, hrow⟩, hc⟩
  · rintro ⟨i, h, ⟨hcolumn, hrow⟩, hc⟩
    exact ⟨_, ⟨i, h, hcolumn, hrow, rfl⟩, hc⟩

end ExposureOptions

/-! ### The whole mask -/

variable (layer : Image Rgba) (o : ExposureOptions)

theorem finishExposure_size :
    (finishExposure layer o).width = layer.width ∧ (finishExposure layer o).height = layer.height :=
  o.carriedOnto_size layer _ (Nat.le_refl _)

/-- **A pixel of the mask tells whether the layer has ink at the place that is shown.** -/
theorem get?_finishExposure {x y : Nat} (hx : x < layer.width) (hy : y < layer.height) :
    (finishExposure layer o).get? x y = some (o.exposed (o.inked layer x y)) := by
  obtain ⟨ink, hpixel, hink⟩ := o.carriedOnto_pixel layer (Nat.le_refl _) hx hy
  obtain rfl : ink = o.inked layer x y :=
    Bool.eq_iff_iff.2 (hink.trans ExposureOptions.inked_iff.symm)
  exact hpixel

/-- Masks are compared place by place. -/
theorem eq_finishExposure {mask : Image Rgb} (hwidth : mask.width = layer.width)
    (hheight : mask.height = layer.height)
    (h : ∀ x < layer.width, ∀ y < layer.height,
      mask.get? x y = some (o.exposed (o.inked layer x y))) : finishExposure layer o = mask := by
  obtain ⟨hw, hh⟩ := finishExposure_size layer o
  refine Image.ext_get? (hw.trans hwidth.symm) (hh.trans hheight.symm) fun x hx y hy ↦ ?_
  rw [hw] at hx
  rw [hh] at hy
  rw [get?_finishExposure layer o hx hy, h x hx y hy]

/-! ### Mirroring and inversion -/

/-- A mirrored mask shows in a column what the other mask shows in the opposite one. -/
theorem inked_mirror {x : Nat} (hx : x < layer.width) (y : Nat) :
    { o with mirror := true }.inked layer x y =
      { o with mirror := false }.inked layer (layer.width - 1 - x) y := by
  have hcolumn : { o with mirror := true }.sourceColumn layer.width x =
      { o with mirror := false }.sourceColumn layer.width (layer.width - 1 - x) := by
    simp only [ExposureOptions.sourceColumn, if_true, Bool.false_eq_true, if_false]
    omega
  simp only [ExposureOptions.inked, hcolumn]

/-- A mirrored layer is shown by a mask that is not mirrored and has its margin on the other
side. -/
theorem inked_flip (x y : Nat) :
    { o with mirror := false, marginX := -o.marginX }.inked layer.flip x y =
      { o with mirror := true }.inked layer x y := by
  have hcolumn : (layer.width : Int) - 1 - (x - -o.marginX) =
      (layer.width : Int) - 1 - (x + o.marginX) := by
    omega
  simp only [ExposureOptions.inked, ExposureOptions.sourceColumn, Image.at?_flip, if_true,
    Bool.false_eq_true, if_false, Image.width_flip, hcolumn]

theorem complement_exposed (ink : Bool) :
    complement ({ o with material := .negative }.exposed ink) =
      { o with material := .positive }.exposed ink := by
  cases ink with
  | false => exact complement_black
  | true => exact complement_white

/-- **The mask is an exact map of pixels.** A pixel is lit exactly if the layer has ink at the place
that it shows or, for positive resist, if it has none there. Mirroring flips the mask, positive
resist inverts it, and a mirrored mask is the mask of the preview with the margin on the other
side. -/
theorem exposure_map :
    (finishExposure layer o).width = layer.width ∧
    (finishExposure layer o).height = layer.height ∧
    (∀ x < layer.width, ∀ y < layer.height, (finishExposure layer o).get? x y =
      some (if o.inked layer x y != o.material.inverts then Rgb.white else Rgb.black)) ∧
    finishExposure layer { o with mirror := true } =
      (finishExposure layer { o with mirror := false }).flip ∧
    finishExposure layer { o with material := .positive } =
      (finishExposure layer { o with material := .negative }).map complement ∧
    finishExposure layer { o with mirror := true } =
      finishExposure (previewImage layer true)
        { o with mirror := false, marginX := -o.marginX } := by
  obtain ⟨hwidth, hheight⟩ := finishExposure_size layer o
  refine ⟨hwidth, hheight, fun x hx y hy ↦ get?_finishExposure layer o hx hy, ?_, ?_, ?_⟩
  · obtain ⟨hw, hh⟩ := finishExposure_size layer { o with mirror := false }
    refine eq_finishExposure layer _ hw hh fun x hx y hy ↦ ?_
    rw [Image.get?_flip _ (hw.symm ▸ hx) (hh.symm ▸ hy), hw,
      get?_finishExposure layer _ (by omega) hy, inked_mirror layer o hx]
    rfl
  · obtain ⟨hw, hh⟩ := finishExposure_size layer { o with material := .negative }
    refine eq_finishExposure layer _ hw hh fun x hx y hy ↦ ?_
    rw [Image.get?_map, get?_finishExposure layer _ hx hy, Option.map_some, complement_exposed]
    rfl
  · obtain ⟨hw, hh⟩ := finishExposure_size layer.flip
      { o with mirror := false, marginX := -o.marginX }
    refine eq_finishExposure layer _ hw hh fun x hx y hy ↦ ?_
    rw [previewImage, if_pos rfl, get?_finishExposure layer.flip _ hx hy, inked_flip]
    rfl

/-- A mirrored layer of ink under positive resist: dark where the layer is, lit in the margin that
it leaves on the right. -/
theorem exposure_map_bezel :
    (1 < 3 ∧ 2 < 3 ∧ 1 < 2) ∧
      (finishExposure (.solid 3 2 (.opaqueOf .white)) ⟨true, 1, 1, .positive⟩).get? 1 1 =
        some .black ∧
      (finishExposure (.solid 3 2 (.opaqueOf .white)) ⟨true, 1, 1, .positive⟩).get? 2 1 =
        some .white := by
  have hmap := (exposure_map (.solid 3 2 (.opaqueOf .white)) ⟨true, 1, 1, .positive⟩).2.2.1
  refine ⟨by decide, ?_, ?_⟩
  · exact (hmap 1 (by decide) 1 (by decide)).trans (by decide)
  · exact (hmap 2 (by decide) 1 (by decide)).trans (by decide)

end GerberMask.Raster
