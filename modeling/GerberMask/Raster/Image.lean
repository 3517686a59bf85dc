/-!
# Images

A rectangle of pixels, kept row by row from the top left. An image can be built from a function of
the place (`Image.ofFn`), a stretch of a row can be filled (`Image.fillRow`), and a single pixel can
be put at a place that need not lie inside the image (`Image.put`).
-/

namespace GerberMask.Raster

/-- A rectangle of pixels. -/
structure Image (γ : Type) where
  width : Nat
  height : Nat
  /-- The pixels, row by row from the top left. -/
  pixels : Array γ
  size_eq : pixels.size = width * height
  deriving DecidableEq

namespace Image

variable {γ δ : Type}

/-- The pixel in a column and a row, if both lie inside the image. -/
def get? (img : Image γ) (x y : Nat) : Option γ :=
  if x < img.width then img.pixels[y * img.width + x]? else none

/-- The image whose pixels are given by column and row. -/
def ofFn (width height : Nat) (f : Nat → Nat → γ) : Image γ where
  width
  height
  pixels := Array.ofFn fun i : Fin (width * height) ↦ f (i % width) (i / width)
  size_eq := Array.size_ofFn

/-- The image of one colour. -/
def solid (width height : Nat) (c : γ) : Image γ where
  width
  height
  pixels := Array.replicate (width * height) c
  size_eq := Array.size_replicate

/-- The image with every pixel changed in the same way. -/
def map (f : γ → δ) (img : Image γ) : Image δ where
  width := img.width
  height := img.height
  pixels := img.pixels.map f
  size_eq := by rw [Array.size_map, img.size_eq]

/-- The mirror image: columns in reverse order. -/
def flip [Inhabited γ] (img : Image γ) : Image γ :=
  ofFn img.width img.height fun x y ↦ (img.get? (img.width - 1 - x) y).getD default

/-! ### Filling -/

/-- Sets `n` entries of an array from an index on, as far as they exist. -/
def fillFrom (c : γ) (pixels : Array γ) (start : Nat) : Nat → Array γ
  | 0 => pixels
  | n + 1 => fillFrom c (pixels.setIfInBounds start c) (start + 1) n

theorem size_fillFrom (c : γ) (pixels : Array γ) (start n : Nat) :
    (fillFrom c pixels start n).size = pixels.size := by
  induction n generalizing pixels start with
  | zero => rfl
  | succ n ih => rw [fillFrom, ih, Array.size_setIfInBounds]

/-- Fills a row from one column up to but not including another. -/
def fillRow (c : γ) (img : Image γ) (y first past : Nat) : Image γ where
  width := img.width
  height := img.height
  pixels := fillFrom c img.pixels (y * img.width + first) (min past img.width - first)
  size_eq := by rw [size_fillFrom, img.size_eq]

/-- Puts a pixel into a column and a row. Outside the image nothing changes. -/
def put (img : Image γ) (x y : Int) (c : γ) : Image γ :=
  if 0 ≤ x ∧ 0 ≤ y ∧ x < img.width ∧ y < img.height then
    { width := img.width
      height := img.height
      pixels := img.pixels.setIfInBounds (y.toNat * img.width + x.toNat) c
      size_eq := by rw [Array.size_setIfInBounds, img.size_eq] }
  else img

/-! ### Pixels of an image -/

@[simp] theorem height_fillRow (c : γ) (img : Image γ) (y first past : Nat) :
    (img.fillRow c y first past).height = img.height := rfl

theorem index_lt {width height x y : Nat} (hx : x < width) (hy : y < height) :
    y * width + x < width * height := by
  calc y * width + x < y * width + width := by omega
    _ = (y + 1) * width := by rw [Nat.add_mul, Nat.one_mul]
    _ ≤ height * width := Nat.mul_le_mul_right _ hy
    _ = width * height := Nat.mul_comm ..

theorem get?_ofFn {width height x y : Nat} (f : Nat → Nat → γ) (hx : x < width)
    (hy : y < height) : (ofFn width height f).get? x y = some (f x y) := by
  have hi := index_lt hx hy
  have hm : (y * width + x) % width = x := by
    rw [Nat.mul_comm, Nat.mul_add_mod, Nat.mod_eq_of_lt hx]
  have hd : (y * width + x) / width = y := by
    rw [Nat.mul_comm, Nat.mul_add_div (by omega), Nat.div_eq_of_lt hx, Nat.add_zero]
  simp [get?, ofFn, hx, hi, hm, hd]

theorem get?_eq_getElem? (img : Image γ) {x y : Nat} (hx : x < img.width) :
    img.get? x y = img.pixels[y * img.width + x]? :=
  if_pos hx

theorem isSome_get? (img : Image γ) {x y : Nat} (hx : x < img.width) (hy : y < img.height) :
    (img.get? x y).isSome := by
  have hi := img.size_eq.symm ▸ index_lt hx hy
  rw [get?_eq_getElem? img hx, Array.getElem?_eq_getElem hi]
  rfl

theorem get?_map (f : γ → δ) (img : Image γ) (x y : Nat) :
    (img.map f).get? x y = (img.get? x y).map f := by
  unfold get? map
  split
  · exact Array.getElem?_map
  · rfl

@[simp] theorem width_flip [Inhabited γ] (img : Image γ) : img.flip.width = img.width := rfl

@[simp] theorem height_flip [Inhabited γ] (img : Image γ) : img.flip.height = img.height := rfl

theorem get?_flip [Inhabited γ] (img : Image γ) {x y : Nat} (hx : x < img.width)
    (hy : y < img.height) : img.flip.get? x y = img.get? (img.width - 1 - x) y := by
  obtain ⟨c, hc⟩ := Option.isSome_iff_exists.1 <|
    img.isSome_get? (show img.width - 1 - x < img.width by omega) hy
  rw [flip, get?_ofFn _ hx hy, hc, Option.getD_some]

theorem get?_solid {width height x y : Nat} (c : γ) (hx : x < width) (hy : y < height) :
    (solid width height c).get? x y = some c := by
  rw [get?_eq_getElem? _ hx]
  exact Array.getElem?_replicate.trans (if_pos (index_lt hx hy))

@[simp] theorem width_put (c : γ) (img : Image γ) (x y : Int) :
    (img.put x y c).width = img.width := by
  unfold put
  split <;> rfl

@[simp] theorem height_put (c : γ) (img : Image γ) (x y : Int) :
    (img.put x y c).height = img.height := by
  unfold put
  split <;> rfl

/-- A row and a column are determined by the index. -/
theorem index_inj {width x y x' y' : Nat} (hx : x < width) (hx' : x' < width)
    (h : y * width + x = y' * width + x') : x = x' ∧ y = y' := by
  have hpos : 0 < width := by omega
  have hmod := congrArg (· % width) h
  have hdiv := congrArg (· / width) h
  simp only [Nat.mul_comm _ width, Nat.mul_add_mod, Nat.mul_add_div hpos, Nat.mod_eq_of_lt hx,
    Nat.mod_eq_of_lt hx', Nat.div_eq_of_lt hx, Nat.div_eq_of_lt hx', Nat.add_zero] at hmod hdiv
  exact ⟨hmod, hdiv⟩

theorem get?_put (c : γ) (img : Image γ) (x' y' : Int) {x y : Nat} (hx : x < img.width)
    (hy : y < img.height) :
    (img.put x' y' c).get? x y = if x' = x ∧ y' = y then some c else img.get? x y := by
  have hi := img.size_eq.symm ▸ index_lt hx hy
  by_cases hplace : x' = x ∧ y' = y
  · obtain ⟨rfl, rfl⟩ := hplace
    rw [put, if_pos (by omega), if_pos ⟨rfl, rfl⟩]
    simp [get?, hx, hi]
  rw [if_neg hplace, put]
  split
  next hinside =>
    have hne : y'.toNat * img.width + x'.toNat ≠ y * img.width + x := by
      intro heq
      obtain ⟨hcolumn, hrow⟩ := index_inj (by omega) hx heq
      exact hplace (by omega)
    simp only [get?, hx, if_true]
    exact Array.getElem?_setIfInBounds_ne hne
  · rfl

/-- Images of one size that have the same pixels are the same. -/
theorem ext_get? {img img' : Image γ} (hwidth : img.width = img'.width)
    (hheight : img.height = img'.height)
    (h : ∀ x < img.width, ∀ y < img.height, img.get? x y = img'.get? x y) : img = img' := by
  obtain ⟨width, height, pixels, hsize⟩ := img
  obtain ⟨width', height', pixels', hsize'⟩ := img'
  dsimp only at hwidth hheight h
  subst hwidth hheight
  congr 1
  refine Array.ext_getElem? fun i ↦ ?_
  by_cases hi : i < width * height
  · have hpos : 0 < width := Nat.pos_of_mul_pos_right (Nat.lt_of_le_of_lt (Nat.zero_le i) hi)
    have hx := Nat.mod_lt i hpos
    have hplace := h (i % width) hx (i / width) (Nat.div_lt_of_lt_mul hi)
    rw [get?_eq_getElem? _ hx, get?_eq_getElem? _ hx] at hplace
    dsimp only at hplace
    rwa [Nat.mul_comm, Nat.div_add_mod] at hplace
  · rw [Array.getElem?_eq_none (by omega), Array.getElem?_eq_none (by omega)]

end Image

end GerberMask.Raster
