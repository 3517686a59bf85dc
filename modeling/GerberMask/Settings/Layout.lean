import GerberMask.Settings.Config
import GerberMask.Settings.Field

/-!
# The layout of a configuration file

The sections of a configuration and the names of their values.
-/

namespace GerberMask.Settings

/-- The screen. -/
def PrinterProfile.schema (conv : Conventions) : Schema PrinterProfile where
  default := .default
  fields :=
    [.of "name" .text (·.name) fun p v ↦ { p with name := v },
      .of "resolution_x" .word32 (·.resolutionX) fun p v ↦ { p with resolutionX := v },
      .of "resolution_y" .word32 (·.resolutionY) fun p v ↦ { p with resolutionY := v },
      .of "screen_width_mm" (.real conv) (·.screenWidthMm) fun p v ↦
        { p with screenWidthMm := v },
      .of "screen_height_mm" (.real conv) (·.screenHeightMm) fun p v ↦
        { p with screenHeightMm := v },
      .of "bezel_margin_x" .int32 (·.bezelMarginX) fun p v ↦ { p with bezelMarginX := v },
      .of "bezel_margin_y" .int32 (·.bezelMarginY) fun p v ↦ { p with bezelMarginY := v }]

/-- The ink. -/
def RenderSettings.schema (conv : Conventions) : Schema RenderSettings where
  default := .default
  fields := [.of "ink_color" (.rgb conv) (·.ink) fun r v ↦ { r with ink := v }]

/-- The alignment of the panel. -/
def CorrectionSettings.schema (conv : Conventions) : Schema CorrectionSettings where
  default := .default
  fields :=
    [.of "offset_x_mm" (.real conv) (·.offsetXMm) fun c v ↦ { c with offsetXMm := v },
      .of "offset_y_mm" (.real conv) (·.offsetYMm) fun c v ↦ { c with offsetYMm := v },
      .of "rotation_deg" (.real conv) (·.rotationDeg) fun c v ↦ { c with rotationDeg := v }]

/-- The drill holes. -/
def DrillSettings.schema (conv : Conventions) : Schema DrillSettings where
  default := .default
  fields :=
    [.of "hole_diameter_mm" (.optional (.real conv)) (·.holeDiameterMm?) fun d v ↦
      { d with holeDiameterMm? := v }]

/-- The export. -/
def ExportSettings.schema (conv : Conventions) : Schema ExportSettings where
  default := .default
  fields :=
    [.of "mirror" .flag (·.mirror) fun e v ↦ { e with mirror := v },
      .of "material" (.material conv) (·.material) fun e v ↦ { e with material := v }]

/-- The sections. -/
def Config.schema (conv : Conventions) : Schema Config where
  default := .default
  fields :=
    [.of "printer" ((PrinterProfile.schema conv).codec conv) (·.printer) fun c v ↦
        { c with printer := v },
      .of "render" ((RenderSettings.schema conv).codec conv) (·.render) fun c v ↦
        { c with render := v },
      .of "correction" ((CorrectionSettings.schema conv).codec conv) (·.correction) fun c v ↦
        { c with correction := v },
      .of "drill" ((DrillSettings.schema conv).codec conv) (·.drill) fun c v ↦
        { c with drill := v },
      .of "export" ((ExportSettings.schema conv).codec conv) (·.exporting) fun c v ↦
        { c with exporting := v }]

end GerberMask.Settings
