import GerberMask.Board.Color
import GerberMask.Number.LittleEndian
import GerberMask.Raster.Error
import GerberMask.Raster.Image

/-!
# Run-length code

An image is coded as a row of runs, each one or two little-endian words. The first word is the
colour with five bits per channel, red in bits 11 to 15, green in 6 to 10, blue in 0 to 4. If its
bit 5 is set, a second word follows whose low twelve bits are the length of the run less one;
otherwise the run is one pixel. Encoding makes every run as long as it can be, up to 4096 pixels;
decoding accepts every row of whole runs that does not exceed the image, and what the runs leave
open is black.
-/

namespace GerberMask.Raster

/-! ### Colour words -/

/-- The bit of a colour word that announces a length word. -/
def runFlag : UInt16 := 0x20

/-- The longest run that a length word can say. -/
def maxRun : Nat := 4096

/-- A channel without its three lowest bits. -/
def quantizeChannel (c : UInt8) : UInt8 :=
  c &&& 0xf8

/-- The colour that a pixel has after coding. -/
def quantize (c : Rgb) : Rgb :=
  ⟨quantizeChannel c.r, quantizeChannel c.g, quantizeChannel c.b⟩

/-- The colour word of a colour, without the run flag. -/
def colorWord (c : Rgb) : UInt16 :=
  ((c.r >>> 3).toUInt16 <<< 11) ||| ((c.g >>> 3).toUInt16 <<< 6) ||| (c.b >>> 3).toUInt16

/-- The colour of a colour word; its run flag does not matter. -/
def wordColor (w : UInt16) : Rgb :=
  ⟨((w >>> 11) &&& 0x1f).toUInt8 <<< 3, ((w >>> 6) &&& 0x1f).toUInt8 <<< 3,
    (w &&& 0x1f).toUInt8 <<< 3⟩

/-! ### Runs -/

/-- Pixels of one colour, one after the other. -/
structure Run where
  color : Rgb
  count : Nat
  deriving DecidableEq, Repr

namespace Run

/-- The pixels of a run. -/
def pixels (r : Run) : List Rgb :=
  List.replicate r.count r.color

/-- The pixels of a row of runs. -/
def expand (rs : List Run) : List Rgb :=
  rs.flatMap pixels

/-- The code of a run of at most 4096 pixels. -/
def bytes (r : Run) : List UInt8 :=
  if 1 < r.count then
    LittleEndian.bytes16 (colorWord r.color ||| runFlag) ++
      LittleEndian.bytes16 (UInt16.ofNat (r.count - 1) &&& 0xfff)
  else LittleEndian.bytes16 (colorWord r.color)

end Run

/-! ### Encoding -/

/-- An encoder: the code so far and the run that may still grow. -/
structure Encoder where
  code : Bytes
  run? : Option Run

namespace Encoder

/-- An encoder that has seen no pixel. -/
def empty : Encoder := ⟨#[], none⟩

/-- Takes the next pixel. -/
def push (e : Encoder) (c : Rgb) : Encoder :=
  match e with
  | ⟨code, none⟩ => ⟨code, some ⟨c, 1⟩⟩
  | ⟨code, some r⟩ =>
    if r.color = c ∧ r.count < maxRun then ⟨code, some ⟨r.color, r.count + 1⟩⟩
    else ⟨code ++ r.bytes, some ⟨c, 1⟩⟩

/-- The whole code, the last run included. -/
def finish (e : Encoder) : Bytes :=
  match e.run? with
  | none => e.code
  | some r => e.code ++ r.bytes

end Encoder

/-- The code of a row of pixels. -/
def encodePixels (pixels : Array Rgb) : Bytes :=
  (pixels.foldl Encoder.push .empty).finish

/-- The code of an image. -/
def encode (img : Image Rgb) : Bytes :=
  encodePixels img.pixels

/-- The colour that a pixel with an alpha channel is coded as: black where it is transparent. -/
def visibleColor (c : Rgba) : Rgb :=
  if c.a = 0 then .black else c.rgb

/-- The code of an image with an alpha channel. -/
def encodeRgba (img : Image Rgba) : Bytes :=
  encodePixels (img.pixels.map visibleColor)

/-! ### Decoding -/

/-- A run that was read from a code. -/
structure CodedRun where
  run : Run
  /-- How many bytes it takes. -/
  size : Nat

/-- The run at an offset. -/
def readRun (code : Bytes) (offset : Nat) : Except RasterError CodedRun :=
  match LittleEndian.read16? code offset with
  | none => .error (.truncated offset)
  | some word =>
    if word &&& runFlag = 0 then .ok ⟨⟨wordColor word, 1⟩, 2⟩
    else
      match LittleEndian.read16? code (offset + 2) with
      | none => .error (.truncated (offset + 2))
      | some length => .ok ⟨⟨wordColor word, (length &&& 0xfff).toNat + 1⟩, 4⟩

theorem two_le_size_of_readRun {code : Bytes} {offset : Nat} {r : CodedRun}
    (h : readRun code offset = .ok r) : 2 ≤ r.size := by
  unfold readRun at h
  repeat' split at h
  all_goals cases h
  all_goals simp

/-- Reads runs from an offset to the end of a code, after the pixels that were read before. -/
def decodeFrom (code : Bytes) (width height offset : Nat) (pixels : Array Rgb) :
    Except RasterError (Array Rgb) :=
  if offset < code.size then
    match _h : readRun code offset with
    | .error e => .error e
    | .ok r =>
      if width * height < pixels.size + r.run.count then
        .error (.overflow r.run.count offset width height)
      else
        decodeFrom code width height (offset + r.size)
          (pixels ++ Array.replicate r.run.count r.run.color)
  else .ok pixels
termination_by code.size - offset
decreasing_by
  have := two_le_size_of_readRun _h
  omega

/-- The bytes of the pixels of an image, three for each. -/
def bufferSize (width height : Nat) : Nat :=
  width * height * 3

/-- A block of memory has fewer bytes than this. -/
def memoryLimit : Nat := 0x8000000000000000

/-- A decoded image. -/
structure Decoded where
  image : Image Rgb
  /-- The code ended before the last pixel; the rest is black. -/
  short : Bool

/-- The image of given pixels, cut or filled up with black where they are too many or too few. -/
def fillUp (width height : Nat) (pixels : Array Rgb) : Image Rgb where
  width
  height
  pixels :=
    (pixels ++ Array.replicate (width * height - pixels.size) Rgb.black).take (width * height)
  size_eq := by
    simp only [Array.take_eq_extract, Array.size_extract, Array.size_append, Array.size_replicate]
    omega

/-- Decodes an image of a given size. -/
def decode (code : Bytes) (width height : Nat) : Except RasterError Decoded := do
  if width = 0 ∨ height = 0 then throw (.invalidResolution width height)
  if memoryLimit ≤ bufferSize width height then throw (.tooManyPixels width height)
  let pixels ← decodeFrom code width height 0 #[]
  return ⟨fillUp width height pixels, pixels.size < width * height⟩

end GerberMask.Raster
