import GerberMask.Board.Color
import GerberMask.Board.LengthUnit
import GerberMask.Board.Material
import GerberMask.Number.Shortest
import GerberMask.Settings.Error

/-!
# Configurations

A configuration has five sections: the screen that is exposed through, the ink, the alignment of
the panel, the drill holes and the export. Every value has a default. `Config.validate` says which
configurations can be used: a screen has pixels and a size, and a hole has a diameter.
-/

namespace GerberMask.Settings

/-- The screen of a printer. -/
structure PrinterProfile where
  name : String
  /-- Pixels in a row and in a column. -/
  resolutionX : UInt32
  resolutionY : UInt32
  /-- The size of the visible screen. -/
  screenWidthMm : Float
  screenHeightMm : Float
  /-- Pixels that the bezel hides. -/
  bezelMarginX : Int32
  bezelMarginY : Int32
  deriving BEq, Repr

/-- How layers are drawn. -/
structure RenderSettings where
  ink : Rgb
  deriving BEq, Repr

/-- The alignment of the panel: shifts and a rotation. -/
structure CorrectionSettings where
  offsetXMm : Float
  offsetYMm : Float
  rotationDeg : Float
  deriving BEq, Repr

/-- How drill pads are cut out. -/
structure DrillSettings where
  /-- The diameter of every hole; whole pads are cut out where it is not set. -/
  holeDiameterMm? : Option Float
  deriving BEq, Repr

/-- How the mask is made. -/
structure ExportSettings where
  mirror : Bool
  material : Material
  deriving BEq, Repr

/-- All settings. -/
structure Config where
  printer : PrinterProfile
  render : RenderSettings
  correction : CorrectionSettings
  drill : DrillSettings
  exporting : ExportSettings
  deriving BEq, Repr

/-! ### Defaults -/

/-- The screen that is assumed where none is named. -/
def PrinterProfile.default : PrinterProfile where
  name := "Elegoo Mars"
  resolutionX := 2560
  resolutionY := 1440
  screenWidthMm := 120.96
  screenHeightMm := 68.04
  bezelMarginX := 35
  bezelMarginY := 35

/-- Red ink. -/
def RenderSettings.default : RenderSettings where
  ink := ⟨0xff, 0x00, 0x00⟩

/-- No shift and no rotation. -/
def CorrectionSettings.default : CorrectionSettings where
  offsetXMm := 0
  offsetYMm := 0
  rotationDeg := 0

/-- Whole pads. -/
def DrillSettings.default : DrillSettings where
  holeDiameterMm? := none

/-- An upright mask for negative resist. -/
def ExportSettings.default : ExportSettings where
  mirror := false
  material := .negative

/-- Every section as it is by default. -/
def Config.default : Config where
  printer := .default
  render := .default
  correction := .default
  drill := .default
  exporting := .default

/-! ### What the settings mean -/

/-- Pixels in an inch, in a row and in a column. -/
def PrinterProfile.pixelsPerInch (p : PrinterProfile) : Float × Float :=
  (Float.ofNat p.resolutionX.toNat * LengthUnit.mmPerInch / p.screenWidthMm,
    Float.ofNat p.resolutionY.toNat * LengthUnit.mmPerInch / p.screenHeightMm)

/-- Whether the panel stays where it is. -/
def CorrectionSettings.isIdentity (c : CorrectionSettings) : Bool :=
  c.offsetXMm == 0 && c.offsetYMm == 0 && c.rotationDeg == 0

/-- The diameter of every hole in inches. -/
def DrillSettings.holeDiameterInches? (d : DrillSettings) : Option Float :=
  d.holeDiameterMm?.map LengthUnit.inchesOfMm

/-! ### Validity -/

/-- Refuses a resolution of zero. -/
def checkResolution (key : String) (pixels : UInt32) : Except ConfigError Unit :=
  if pixels = 0 then .error (.valueOutOfRange key "0") else .ok ()

/-- Refuses a length that is not finite or not above zero. -/
def checkLength (key : String) (mm : Float) : Except ConfigError Unit :=
  if mm.isFinite && 0 < mm then .ok ()
  else .error (.valueOutOfRange key (PointLayout.plain.text mm))

/-- Refuses a configuration that cannot be used; of several faults the first is told. -/
def Config.validate (c : Config) : Except ConfigError Unit := do
  checkResolution "printer.resolution_x" c.printer.resolutionX
  checkResolution "printer.resolution_y" c.printer.resolutionY
  checkLength "printer.screen_width_mm" c.printer.screenWidthMm
  checkLength "printer.screen_height_mm" c.printer.screenHeightMm
  match c.drill.holeDiameterMm? with
  | none => return
  | some d => checkLength "drill.hole_diameter_mm" d

end GerberMask.Settings
