import GerberMask.Png.Chunk

/-!
# Headers

The header of a picture says its size, what the numbers of a pixel mean and how many bits they
have. A palette and a transparent colour have chunks of their own.
-/

namespace GerberMask.Png

/-- What the numbers of a pixel mean. -/
inductive ColorType where
  | gray
  | rgb
  | palette
  | grayAlpha
  | rgba
  deriving DecidableEq, Repr

namespace ColorType

/-- The colour type with a number. -/
def ofCode? : Nat → Option ColorType
  | 0 => some gray
  | 2 => some rgb
  | 3 => some palette
  | 4 => some grayAlpha
  | 6 => some rgba
  | _ => none

/-- The count of numbers for a pixel. -/
def channels : ColorType → Nat
  | gray => 1
  | rgb => 3
  | palette => 1
  | grayAlpha => 2
  | rgba => 4

/-- The depths that are allowed. -/
def depths : ColorType → List Nat
  | gray => [1, 2, 4, 8, 16]
  | palette => [1, 2, 4, 8]
  | _ => [8, 16]

end ColorType

/-- The header of a picture. -/
structure Header where
  width : Nat
  height : Nat
  /-- Bits of a number. -/
  depth : Nat
  colorType : ColorType
  /-- The picture comes in seven passes. -/
  interlaced : Bool
  /-- The channels of every palette entry. -/
  palette : Bytes
  /-- The alpha channels of a palette, or the colour that is transparent. -/
  transparency? : Option Bytes

namespace Header

/-- The header that the chunks of a file give. -/
def ofChunks? (chunks : List Chunk) : Option Header := do
  let d ← find? chunks "IHDR"
  let width ← bigWord32? d 0
  let height ← bigWord32? d 4
  let depth := (← d[8]?).toNat
  let colorType ← ColorType.ofCode? (← d[9]?).toNat
  let interlace := (← d[12]?).toNat
  let palette := (find? chunks "PLTE").getD #[]
  if width = 0 ∨ height = 0 ∨ depth ∉ colorType.depths ∨ d[10]? ≠ some 0 ∨ d[11]? ≠ some 0 ∨
      1 < interlace then none
  else
    return ⟨width, height, depth, colorType, interlace == 1, palette, find? chunks "tRNS"⟩

/-- Whether the file of a picture has an alpha channel. -/
def hasAlpha (h : Header) : Bool :=
  h.colorType == .grayAlpha || h.colorType == .rgba || h.transparency?.isSome

/-- The bits of a pixel. -/
def pixelBits (h : Header) : Nat :=
  h.depth * h.colorType.channels

/-- The bytes of a row of pixels. -/
def rowBytes (h : Header) (width : Nat) : Nat :=
  (width * h.pixelBits + 7) / 8

/-- The bytes from a byte to the one that predicts it from the left. -/
def stride (h : Header) : Nat :=
  (h.pixelBits + 7) / 8

end Header

end GerberMask.Png
