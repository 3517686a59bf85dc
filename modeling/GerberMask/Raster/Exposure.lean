import GerberMask.Board.Color
import GerberMask.Board.Material
import GerberMask.Raster.Image

/-!
# Exposure masks

The mask of a layer is lit where the layer has ink, and for positive resist where it has none. It
begins as a mask without ink, onto which the pixels of the layer are carried one by one: the layer
is shifted by the margin of the screen, and a mirrored layer is shifted to the left instead of to
the right. What falls outside the mask is lost.
-/

namespace GerberMask.Raster

/-- How a layer becomes a mask. -/
structure ExposureOptions where
  /-- Left and right are exchanged, for a board that lies face down. -/
  mirror : Bool
  marginX : Int
  marginY : Int
  material : Material
  deriving DecidableEq, Repr

/-- Whether a pixel counts as ink: at least half covered. -/
def isInk (c : Rgba) : Bool :=
  0x80 ≤ c.a

namespace ExposureOptions

/-- The column of the mask onto which a column of the layer is carried. -/
def targetColumn (o : ExposureOptions) (width x : Nat) : Int :=
  let shift := if o.mirror then -o.marginX else o.marginX
  (if o.mirror then (width : Int) - 1 - x else x) + shift

/-- The row of the mask onto which a row of the layer is carried. -/
def targetRow (o : ExposureOptions) (y : Nat) : Int :=
  y + o.marginY

/-- The pixel of the mask for a place with or without ink. -/
def exposed (o : ExposureOptions) (ink : Bool) : Rgb :=
  if ink != o.material.inverts then .white else .black

/-- Carries a pixel of a layer, given by its index, onto the mask. -/
def carry (o : ExposureOptions) (mask : Image Rgb) (i : Nat) (c : Rgba) : Image Rgb :=
  mask.put (o.targetColumn mask.width (i % mask.width)) (o.targetRow (i / mask.width))
    (o.exposed (isInk c))

end ExposureOptions

/-- The mask of a layer. -/
def finishExposure (layer : Image Rgba) (o : ExposureOptions) : Image Rgb :=
  layer.pixels.size.fold (fun i _ mask ↦ o.carry mask i layer.pixels[i])
    (.solid layer.width layer.height (o.exposed false))

/-- The image that is stored beside a mask: the layer, mirrored where the mask is. -/
def previewImage (layer : Image Rgba) (mirror : Bool) : Image Rgba :=
  if mirror then layer.flip else layer

end GerberMask.Raster
