import GerberMask.Raster.Exposure
import GerberMask.Raster.Render
import GerberMask.Settings.Config

/-!
# What a configuration asks of the raster

The options of the raster, of the mask and of the drill overlay that a configuration stands for.
-/

namespace GerberMask.Settings.Config

open GerberMask.Raster

/-- The raster of the screen. -/
def renderOptions (c : Config) : RenderOptions where
  width := c.printer.resolutionX.toNat
  height := c.printer.resolutionY.toNat
  ppiX := c.printer.pixelsPerInch.1
  ppiY := c.printer.pixelsPerInch.2
  ink := c.render.ink

/-- The correction of the panel. -/
def rasterCorrection (c : Config) : Correction Float where
  offsetX := c.correction.offsetXMm
  offsetY := c.correction.offsetYMm
  rotation := c.correction.rotationDeg

/-- How the mask is made. -/
def exposureOptions (c : Config) : ExposureOptions where
  mirror := c.exporting.mirror
  marginX := c.printer.bezelMarginX.toInt
  marginY := c.printer.bezelMarginY.toInt
  material := c.exporting.material

/-- How drill pads are cut out, under the correction of the layer if it has one. -/
def drillOverlay (c : Config) (correction? : Option (Correction Float)) : DrillOverlay where
  holeDiameter? := c.drill.holeDiameterInches?
  correction? := correction?

end GerberMask.Settings.Config
