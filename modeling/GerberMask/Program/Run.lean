import GerberMask.Program.Command
import GerberMask.Program.Layer
import GerberMask.Program.Libraries
import GerberMask.Raster.PreviewRecord

/-!
# Running commands

Every command as a program over files and libraries. What a command prints is its value; a command
that fails prints nothing and leaves its output file as it was, unless writing that file is what
fails.
-/

namespace GerberMask.Program

open GerberMask.Png (Picture)
open GerberMask.Raster (Image PreviewRecord)
open GerberMask.Settings (Config)

variable {m : Type → Type} [Monad m] (libs : Libraries) (files : FileAccess m)

/-! ### Pictures -/

/-- The picture in the file at a path. -/
def readPicture (path : String) : m (Except ImageError Picture) := do
  match ← files.read path with
  | .error e => return .error (.file e)
  | .ok bytes => return libs.pictures.read path bytes

/-- Writes the file of a picture to a path, if the picture has one. -/
def writePicture (path : String) (bytes : Except ImageError Bytes) :
    m (Except ImageError Unit) := do
  match bytes with
  | .error e => return .error e
  | .ok bytes => return (← files.write path bytes).mapError .file

/-! ### Commands -/

/-- The configuration at a path, or the default one. -/
def loadConfig (path? : Option String) : ExceptT Failure m Config := do
  match path? with
  | none => return .default
  | some path =>
    ExceptT.mk (return (← Config.load libs.formats files path).mapError (.loadingConfig path))

/-- Renders a layer. -/
def runRender (input output : String) (config? drill? : Option String) (corrected mask : Bool) :
    ExceptT Failure m String := do
  let c ← loadConfig libs files config?
  let layer ← ExceptT.mk (Layer.load files input .empty)
  let drills? ← match drill? with
    | none => pure none
    | some path => some <$> ExceptT.mk (Layer.load files path layer.bounds)
  let img ← ExceptT.mk (pure ((layer.render c drills? corrected).mapError Failure.raster))
  let bytes :=
    if mask then libs.pictures.writeRgb output (Raster.finishExposure img c.exposureOptions)
    else libs.pictures.writeRgba output img
  ExceptT.mk (return (← writePicture files output bytes).mapError (.saving output))
  return ""

/-- Encodes a picture; the bytes in front of the address are zero. -/
def runEncode (input output : String) (address : Nat) : ExceptT Failure m String := do
  let picture ← ExceptT.mk (return (← readPicture libs files input).mapError (.opening input))
  let record := PreviewRecord.ofImage (picture.image.map Rgba.rgb)
  let bytes := Array.replicate address 0 ++ record.toBytes (UInt32.ofNat address)
  ExceptT.mk (return (← files.write output bytes).mapError (.writing output))
  return ""

/-- Decodes a preview record. -/
def runDecode (input output : String) (address : Nat) : ExceptT Failure m String := do
  let bytes ← ExceptT.mk (return (← files.read input).mapError (Failure.reading input))
  let decoded ← ExceptT.mk
    (pure (((PreviewRecord.ofBytes bytes address).bind (·.decode)).mapError Failure.raster))
  let bytes := libs.pictures.writeRgb output decoded.image
  ExceptT.mk (return (← writePicture files output bytes).mapError (.saving output))
  return ""

/-- A length with four decimal places. -/
def lengthText (x : Float) : String :=
  fixedText 4 x

/-- What is told about a layer. -/
def infoText (l : Layer) : String :=
  let b := l.bounds
  "Layer:      " ++ l.kind.name ++ "\n" ++
  "Items:      " ++ toString l.interpretation.items.size ++ " (" ++
    toString l.interpretation.darkCount ++ " dark)\n" ++
  "Apertures:  " ++ toString l.interpretation.apertures ++ "\n" ++
  "Bounds:     (" ++ lengthText b.minX ++ ", " ++ lengthText b.minY ++ ") - (" ++
    lengthText b.maxX ++ ", " ++ lengthText b.maxY ++ ") in\n" ++
  "Size:       " ++ lengthText b.width ++ " x " ++ lengthText b.height ++ " in\n" ++
  (if l.interpretation.isStopped then "Terminated: stop command\n" else "")

/-- Tells about a layer. -/
def runInfo (input : String) : ExceptT Failure m String := do
  let layer ← ExceptT.mk (Layer.load files input .empty)
  return infoText layer

/-- Writes the default configuration. -/
def runConfig (path : String) : ExceptT Failure m String := do
  ExceptT.mk (return (← Config.default.save libs.formats files path).mapError (.savingConfig path))
  return ""

/-- Runs a command; the value is what it prints. -/
def Command.run : Command → ExceptT Failure m String
  | .render input output config? drill? corrected mask =>
    runRender libs files input output config? drill? corrected mask
  | .encode input output address => runEncode libs files input output address
  | .decode input output address => runDecode libs files input output address
  | .info input => runInfo files input
  | .config path => runConfig libs files path

/-- What the program ends with. -/
structure Outcome where
  exitCode : UInt32
  out : String
  err : String
  deriving DecidableEq, Repr

/-- How the program is called. -/
def usage : String :=
  "Usage: gerbermask <COMMAND>\n\n" ++
  "Commands:\n" ++
  "  render INPUT --output FILE [--config FILE] [--drill FILE] [--corrected] [--mask]\n" ++
  "  encode INPUT --output FILE [--address N]\n" ++
  "  decode INPUT --output FILE [--address N]\n" ++
  "  info INPUT\n" ++
  "  config PATH\n"

/-- Runs the program with the words behind its name. -/
def runWords (words : List String) : m Outcome := do
  match Command.parse? words with
  | none => return ⟨2, "", usage⟩
  | some command =>
    match ← (command.run libs files).run with
    | .ok out => return ⟨0, out, ""⟩
    | .error f => return ⟨1, "", f.report⟩

end GerberMask.Program
