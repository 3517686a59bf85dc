import GerberMask.Raster.Area
import GerberMask.Raster.Frame
import GerberMask.Raster.Image

/-!
# Rendering

Items are painted in order: a dark one sets every pixel of its area to the ink, a clear one makes
it transparent. So the last item that covers a pixel decides it. Cutting drills is painting the
cutouts of their pads as clear shapes; only dark ellipses have one.

Pixels are painted with their alpha channel multiplied into their colour. Opaque and fully
transparent pixels do not change by that; a colour in between may, by the rounding of both steps.
-/

namespace GerberMask.Raster

open GerberMask.Gerber (DrawItem Polarity Shape)

/-! ### Alpha -/

/-- A channel multiplied by alpha, rounded. -/
def premultiplyChannel (c a : UInt8) : UInt8 :=
  let p := c.toNat * a.toNat + 128
  UInt8.ofNat ((p + p / 256) / 256)

/-- A colour with its alpha multiplied in. -/
def premultiply (c : Rgba) : Rgba :=
  if c.a = 0xff then c
  else
    ⟨premultiplyChannel c.r c.a, premultiplyChannel c.g c.a, premultiplyChannel c.b c.a, c.a⟩

/-- A channel divided by alpha, rounded. -/
def demultiplyChannel (c a : UInt8) : UInt8 :=
  (Float.ofNat c.toNat / (Float.ofNat a.toNat / 255) + 0.5).toUInt8

/-- A colour with its alpha divided out. -/
def demultiply (c : Rgba) : Rgba :=
  if c.a = 0xff then c
  else
    ⟨demultiplyChannel c.r c.a, demultiplyChannel c.g c.a, demultiplyChannel c.b c.a, c.a⟩

/-- Refuses an image that cannot be painted: one without pixels, or with rows of `2 ^ 31` bytes or
more, four for each pixel. -/
def checkPaintable (width height : Nat) : Except RasterError Unit :=
  if width = 0 ∨ height = 0 ∨ 0x80000000 ≤ 4 * width then .error (.invalidResolution width height)
  else .ok ()

/-- An image with its alpha multiplied in, to be painted on. -/
def toPaintable (img : Image Rgba) : Except RasterError (Image Rgba) := do
  checkPaintable img.width img.height
  return img.map premultiply

/-- A painted image with its alpha divided out. -/
def ofPaintable (img : Image Rgba) : Image Rgba :=
  img.map demultiply

/-! ### Painting -/

/-- Paints an area on a row. -/
def paintRow {γ : Type} (c : γ) (a : Area) (img : Image γ) (y : Nat) : Image γ :=
  (a.spans img.width y).foldl (fun img s ↦ img.fillRow c y s.1 s.2) img

/-- Paints an area. -/
def paintArea {γ : Type} (c : γ) (a : Area) (img : Image γ) : Image γ :=
  (List.range' a.firstRow (a.pastRow - a.firstRow)).foldl (paintRow c a) img

/-- The colour that a polarity paints. -/
def paintColor (ink : Rgb) : Polarity → Rgba
  | .dark => .opaqueOf ink
  | .clear => .transparent

/-- Paints a shape under a map from the board to pixels. -/
def paintShape (ink : Rgb) (m : Affine Float) (img : Image Rgba) (s : Shape)
    (polarity : Polarity) : Except RasterError (Image Rgba) :=
  match Area.ofShape? img.height m s with
  | none => .error .noOutline
  | some a => .ok (paintArea (paintColor ink polarity) a img)

/-- An affine map in double precision. -/
def widen (m : Affine Float32) : Affine Float :=
  ⟨m.xx.toFloat, m.xy.toFloat, m.yx.toFloat, m.yy.toFloat, m.dx.toFloat, m.dy.toFloat⟩

namespace RenderOptions

/-- Paints items on an image, in order. -/
def paintItems (o : RenderOptions) (items : List DrawItem) (m : Affine Float)
    (img : Image Rgba) : Except RasterError (Image Rgba) :=
  items.foldlM (fun img item ↦ paintShape o.ink m img item.shape item.polarity) img

/-- Renders items within a frame, corrected if a correction is given. -/
def render (o : RenderOptions) (items : List DrawItem) (b : Bounds)
    (c? : Option (Correction Float)) : Except RasterError (Image Rgba) := do
  o.validate
  checkPaintable o.width o.height
  let img ← o.paintItems items (widen (o.boardTransform b c?))
    (.solid o.width o.height .transparent)
  return ofPaintable img

end RenderOptions

/-! ### Drills -/

/-- How drill pads are cut out. -/
structure DrillOverlay where
  /-- The diameter of every hole in inches; the whole pad is cut out where there is none. -/
  holeDiameter? : Option Float
  /-- The correction of the layer underneath. -/
  correction? : Option (Correction Float)
  deriving DecidableEq, Repr

namespace DrillOverlay

/-- The shape that is cut out for an item: only a dark ellipse has one. A hole diameter that is not
positive counts as none. -/
def cutout? (o : DrillOverlay) (item : DrawItem) : Option Shape :=
  match item.polarity, item.shape with
  | .dark, .ellipse center width height =>
    match o.holeDiameter? with
    | some d =>
      some (if 0 < d then .circle center d else .ellipse center width height)
    | none => some (.ellipse center width height)
  | _, _ => none

end DrillOverlay

/-- Cuts the pads of a drill layer out of an image that was rendered in the same frame. -/
def RenderOptions.overlayDrills (o : RenderOptions) (img : Image Rgba) (drills : List DrawItem)
    (b : Bounds) (overlay : DrillOverlay) : Except RasterError (Image Rgba) := do
  o.validate
  if (img.width, img.height) ≠ (o.width, o.height) then
    throw (.sizeMismatch (o.width, o.height) (img.width, img.height))
  let cuts := (drills.filterMap overlay.cutout?).map fun s ↦ DrawItem.mk s .clear
  let img ← toPaintable img
  let img ← o.paintItems cuts (widen (o.boardTransform b overlay.correction?)) img
  return ofPaintable img

end GerberMask.Raster
