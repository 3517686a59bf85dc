import GerberMask.Number.Shortest

/-!
# Errors of the raster

What can go wrong with sizes, densities and encoded images.
-/

namespace GerberMask.Raster

/-- Why an image cannot be made, encoded or decoded. -/
inductive RasterError where
  /-- An image without pixels, or one that is too wide to be painted. -/
  | invalidResolution (width height : Nat)
  /-- A pixel density that is not positive and finite. -/
  | invalidDensity (x y : Float)
  /-- An encoded image that ends inside a word. -/
  | truncated (offset : Nat)
  /-- A run that goes past the last pixel. -/
  | overflow (run offset width height : Nat)
  /-- A file that is too short for a record header. -/
  | shortHeader (offset length : Nat)
  /-- A header that names bytes outside the file. -/
  | payloadOutOfRange (offset size length : Nat)
  /-- Two images of different sizes where one size is needed. -/
  | sizeMismatch (expected actual : Nat × Nat)
  /-- A shape that has no outline. -/
  | noOutline
  /-- An image whose pixels do not fit into memory. -/
  | tooManyPixels (width height : Nat)
  deriving DecidableEq, Repr

namespace RasterError

/-- Two numbers in parentheses. -/
def pairText (p : Nat × Nat) : String :=
  "(" ++ toString p.1 ++ ", " ++ toString p.2 ++ ")"

/-- A width and a height. -/
def sizeText (width height : Nat) : String :=
  toString width ++ "x" ++ toString height

/-- The message that tells the user. -/
def message : RasterError → String
  | invalidResolution width height => "Invalid resolution " ++ sizeText width height
  | invalidDensity x y =>
    "Invalid pixel density " ++ PointLayout.plain.text x ++ "x" ++ PointLayout.plain.text y ++
      " ppi"
  | truncated offset => "Encoded stream truncated at byte " ++ toString offset
  | overflow run offset width height =>
    "Run of " ++ toString run ++ " pixels at byte " ++ toString offset ++ " overflows a " ++
      sizeText width height ++ " image"
  | shortHeader offset length =>
    "Record header at offset " ++ toString offset ++ " needs 32 bytes, file has " ++
      toString length
  | payloadOutOfRange offset size length =>
    "Payload at " ++ toString offset ++ "+" ++ toString size ++ " exceeds file size " ++
      toString length
  | sizeMismatch expected actual =>
    "Image size mismatch: expected " ++ pairText expected ++ ", got " ++ pairText actual
  | noOutline => "Shape without an outline"
  | tooManyPixels width height =>
    "Image of " ++ sizeText width height ++ " pixels does not fit into memory"

end RasterError

end GerberMask.Raster
