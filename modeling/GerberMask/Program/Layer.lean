import GerberMask.Board.LayerKind
import GerberMask.Gerber.Interpretation
import GerberMask.Program.Failure
import GerberMask.Settings.Meaning

/-!
# Layers

A layer is a document read from a file whose name says what the layer is for. A layer is rendered
for the screen of a configuration. Drills are loaded within the extent of the layer that they go
through, so that their extent frames both.
-/

namespace GerberMask.Program

open GerberMask.Gerber (Interpretation interpretWithin)
open GerberMask.Raster (Image RasterError)
open GerberMask.Settings (Config)

/-- An interpreted document and what it is for. -/
structure Layer where
  kind : LayerKind
  interpretation : Interpretation

namespace Layer

/-- The extent of a layer. -/
def bounds (l : Layer) : Bounds :=
  l.interpretation.bounds

/-- The layer that the text of a file describes, growing an extent. -/
def ofText (path text : String) (bounds : Bounds) : Except Failure Layer := do
  let i ← (interpretWithin text bounds).result.mapError (.interpreting path)
  return ⟨.ofPath path, i⟩

/-- The layer in the file at a path, growing an extent. -/
def load {m : Type → Type} [Monad m] (files : FileAccess m) (path : String) (bounds : Bounds) :
    m (Except Failure Layer) := do
  let text ← files.readText path
  return do ofText path (← text.mapError (.reading path)) bounds

/-- The image of a layer on the screen of a configuration, with drills cut out if there are any. The
correction of the panel applies to both. -/
def render (c : Config) (l : Layer) (drills? : Option Layer) (corrected : Bool) :
    Except RasterError (Image Rgba) := do
  let bounds := (drills?.getD l).bounds
  let correction? := if corrected then some c.rasterCorrection else none
  let img ← c.renderOptions.render l.interpretation.items.toList bounds correction?
  match drills? with
  | none => return img
  | some drills =>
    c.renderOptions.overlayDrills img drills.interpretation.items.toList bounds
      (c.drillOverlay correction?)

end Layer

end GerberMask.Program
