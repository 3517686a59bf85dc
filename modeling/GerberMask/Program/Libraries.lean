import GerberMask.Program.Failure
import GerberMask.Settings.File

/-!
# What the program leaves to libraries

How a picture or a configuration is spelled in a file is not the program's concern: it hands images
and settings to libraries and gets bytes and texts, and the other way round. The commands are run
with any `Libraries`; those of this project know the picture format PNG and both settings formats.
-/

namespace GerberMask.Program

open GerberMask.Png (Picture)
open GerberMask.Raster (Image)
open GerberMask.Settings (Format FormatLibrary)

/-! ### Pictures -/

/-- Reading and writing pictures. The format is said by the path of the file. -/
structure PictureLibrary where
  /-- The picture in a file at a path with these bytes. -/
  read : String → Bytes → Except ImageError Picture
  /-- The bytes that are written to a path for an opaque image. -/
  writeRgb : String → Image Rgb → Except ImageError Bytes
  /-- The bytes that are written to a path for an image with an alpha channel. -/
  writeRgba : String → Image Rgba → Except ImageError Bytes

/-- Whether a file extension names the picture format. -/
def isPictureExtension (extension : String) : Bool :=
  extension.toList.map Char.toLower == "png".toList

/-- Refuses a path that cannot be a picture to be written. -/
def checkPicturePath (path : String) : Except ImageError Unit :=
  match Text.extension? path with
  | none => .error .unnamedFormat
  | some extension =>
    if isPictureExtension extension then .ok () else .error (.unknownExtension extension)

/-- Pictures in PNG and in no other format. -/
def PictureLibrary.png : PictureLibrary where
  read path bytes :=
    if (Text.extension? path).any isPictureExtension then (Png.read bytes).mapError .picture
    else .error .unnamedFormat
  writeRgb path img := (checkPicturePath path).map fun _ ↦ Png.writeRgb img
  writeRgba path img := (checkPicturePath path).map fun _ ↦ Png.writeRgba img

/-! ### Libraries -/

/-- What the commands use to read and write formats. -/
structure Libraries where
  pictures : PictureLibrary
  formats : Format → FormatLibrary

/-- The readers and writers of this project. -/
def Libraries.own : Libraries := ⟨.png, Format.library⟩

end GerberMask.Program
