import GerberMask.Board.Color
import GerberMask.Png.Deflate
import GerberMask.Png.Rows
import GerberMask.Raster.Image

/-!
# Pictures in files

Pictures of every colour type and depth are read, in one pass or in seven; they are written with
eight bits for every channel, in one pass and without filters.
-/

namespace GerberMask.Png

open GerberMask.Raster (Image)

/-- Why a picture file cannot be read. -/
inductive PictureError where
  /-- The file does not begin with the signature. -/
  | badSignature
  /-- The file ends too early. -/
  | ended
  /-- What follows the signature is no picture. -/
  | damaged
  deriving DecidableEq, Repr

/-- A picture, and whether its file has an alpha channel. -/
structure Picture where
  image : Image Rgba
  hasAlpha : Bool

/-! ### Pixels -/

/-- The number at an index of a row. -/
def sample (depth : Nat) (row : Bytes) (i : Nat) : Nat :=
  if depth = 8 then ((row[i]?).getD 0).toNat
  else if depth = 16 then (bigWord16? row (2 * i)).getD 0
  else
    let bit := i * depth
    ((row[bit / 8]?).getD 0).toNat / Nat.pow 2 (8 - depth - bit % 8) % Nat.pow 2 depth

/-- A number as a channel of eight bits. -/
def channel (depth n : Nat) : UInt8 :=
  if depth = 8 then UInt8.ofNat n
  else if depth = 16 then UInt8.ofNat ((n + 128) / 257)
  else UInt8.ofNat (n * 255 / (Nat.pow 2 depth - 1))

/-- The alpha channel of numbers that may be the transparent colour. -/
def alphaOf (h : Header) (numbers : List Nat) : UInt8 :=
  match h.transparency? with
  | none => 0xff
  | some t =>
    if numbers = (List.range numbers.length).map fun i ↦ (bigWord16? t (2 * i)).getD 0 then 0
    else 0xff

/-- The colour of the pixel at an index of a row. -/
def pixel (h : Header) (row : Bytes) (i : Nat) : Rgba :=
  let number (k : Nat) := sample h.depth row (i * h.colorType.channels + k)
  let value (k : Nat) := channel h.depth (number k)
  match h.colorType with
  | .gray => ⟨value 0, value 0, value 0, alphaOf h [number 0]⟩
  | .rgb => ⟨value 0, value 1, value 2, alphaOf h [number 0, number 1, number 2]⟩
  | .palette =>
    let entry (k : Nat) := (h.palette[3 * number 0 + k]?).getD 0
    ⟨entry 0, entry 1, entry 2, (h.transparency?.bind (·[number 0]?)).getD 0xff⟩
  | .grayAlpha => ⟨value 0, value 0, value 0, value 1⟩
  | .rgba => ⟨value 0, value 1, value 2, value 3⟩

/-- The colour of a pixel of the picture, from the pass that takes it. -/
def pixelAt (h : Header) (rows : List (Pass × Array Bytes)) (x y : Nat) : Rgba :=
  match rows.find? fun (p, _) ↦ p.takes x y with
  | none => .transparent
  | some (p, rows) =>
    pixel h ((rows[(y - p.firstRow) / p.rowStep]?).getD #[]) ((x - p.firstColumn) / p.columnStep)

/-- The picture that chunks hold. -/
def ofChunks? (chunks : List Chunk) : Option Picture := do
  let h ← Header.ofChunks? chunks
  let data ← inflate? (gather chunks "IDAT")
  let rows ← passRows? h data (passes h.interlaced) 0
  return ⟨.ofFn h.width h.height (pixelAt h rows), h.hasAlpha⟩

/-- Reads a picture file. -/
def read (file : Bytes) : Except PictureError Picture :=
  if (file.extract 0 8).toList ≠ signature.take file.size then .error .badSignature
  else if file.size < 8 then .error .ended
  else
    match (chunks? file file.size 8).bind ofChunks? with
    | some p => .ok p
    | none => .error .damaged

/-! ### Writing -/

/-- The rows of an image, each with the number of no filter in front. -/
def rowsOf {γ : Type} (img : Image γ) (channels : γ → Bytes → Bytes) : Bytes :=
  let pixel (s : Bytes × Nat) (c : γ) :=
    let (out, x) := s
    let out := if x = 0 then out.push 0 else out
    (channels c out, if x + 1 = img.width then 0 else x + 1)
  (img.pixels.foldl pixel (#[], 0)).1

/-- The file of an image with eight bits for every channel. -/
def writeImage {γ : Type} (img : Image γ) (colorCode : UInt8) (channels : γ → Bytes → Bytes) :
    Bytes :=
  let header := bigBytes32 (UInt32.ofNat img.width) ++ bigBytes32 (UInt32.ofNat img.height) ++
    [8, colorCode, 0, 0, 0]
  let out := appendChunk signature.toArray "IHDR" header.toArray
  let out := appendChunk out "IDAT" (deflate (rowsOf img channels))
  appendChunk out "IEND" #[]

/-- The file of an opaque image. -/
def writeRgb (img : Image Rgb) : Bytes :=
  writeImage img 2 fun c out ↦ ((out.push c.r).push c.g).push c.b

/-- The file of an image with an alpha channel. -/
def writeRgba (img : Image Rgba) : Bytes :=
  writeImage img 6 fun c out ↦ (((out.push c.r).push c.g).push c.b).push c.a

end GerberMask.Png
