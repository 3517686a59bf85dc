import GerberMask.Gerber.Error
import GerberMask.Png.Picture
import GerberMask.Raster.Error
import GerberMask.Settings.Error

/-!
# Failures

What can stop a command. A failure names the file that it is about and the cause, and is told as a
row of messages from the outermost to the innermost.
-/

namespace GerberMask.Program

open GerberMask.Gerber (GerberError)
open GerberMask.Png (PictureError)
open GerberMask.Raster (RasterError)
open GerberMask.Settings (SettingsError)

/-- Why a picture cannot be loaded or saved. -/
inductive ImageError where
  | file (cause : FileError)
  /-- The file name says nothing about its format. -/
  | unnamedFormat
  /-- The file extension names no format. -/
  | unknownExtension (extension : String)
  | picture (cause : PictureError)
  deriving DecidableEq, Repr

namespace ImageError

/-- What is wrong with a picture file. -/
def pictureMessage : PictureError → String
  | .badSignature => "Invalid PNG signature."
  | .ended => "unexpected end of file"
  | .damaged => "Corrupt PNG stream."

/-- The messages from the outermost to the innermost. -/
def messages : ImageError → List String
  | file cause => [cause.message]
  | unnamedFormat => ["The image format could not be determined"]
  | unknownExtension extension =>
    ["The file extension `.\"" ++ extension ++ "\"` was not recognized as an image format"]
  | picture .ended => [pictureMessage .ended]
  | picture cause =>
    ["Format error decoding Png: " ++ pictureMessage cause, pictureMessage cause]

end ImageError

/-- Why a command stops. -/
inductive Failure where
  | reading (path : String) (cause : FileError)
  | interpreting (path : String) (cause : GerberError)
  | loadingConfig (path : String) (cause : SettingsError)
  | savingConfig (path : String) (cause : SettingsError)
  | raster (cause : RasterError)
  | opening (path : String) (cause : ImageError)
  | saving (path : String) (cause : ImageError)
  | writing (path : String) (cause : FileError)
  deriving DecidableEq, Repr

namespace Failure

/-- The messages from the outermost to the innermost. -/
def messages : Failure → List String
  | reading path cause => ["Failed to read " ++ path, cause.message]
  | interpreting path cause => ["Failed to interpret " ++ path, cause.message]
  | loadingConfig path cause => ("Failed to load config " ++ path) :: cause.messages
  | savingConfig path cause => ("Failed to write " ++ path) :: cause.messages
  | raster cause => [cause.message]
  | opening path cause => ("Failed to open " ++ path) :: cause.messages
  | saving path cause => ("Failed to save " ++ path) :: cause.messages
  | writing path cause => ["Failed to write " ++ path, cause.message]

/-- The messages in one line. -/
def chain (f : Failure) : String :=
  ": ".intercalate f.messages

/-- A number at the end of five columns. -/
def numberColumn (n : Nat) : String :=
  let s := toString n
  String.ofList (List.replicate (5 - s.length) ' ') ++ s ++ ": "

/-- A cause on lines of its own: the first line behind a mark, the others as far to the right. -/
def causeText (mark : String) (message : String) : String :=
  let margin := String.ofList (List.replicate mark.length ' ')
  "\n" ++ mark ++ ("\n" ++ margin).intercalate (message.splitOn "\n")

/-- The text that tells the user: the outermost message, and below it the causes, numbered if there
are several. -/
def report (f : Failure) : String :=
  match f.messages with
  | [] => "Error: \n"
  | [message] => "Error: " ++ message ++ "\n"
  | [message, cause] =>
    "Error: " ++ message ++ "\n\nCaused by:" ++ causeText "    " cause ++ "\n"
  | message :: causes =>
    "Error: " ++ message ++ "\n\nCaused by:" ++
      String.join (causes.zipIdx.map fun (cause, n) ↦ causeText (numberColumn n) cause) ++ "\n"

end Failure

end GerberMask.Program
