import GerberMask.Raster.RunLength

/-!
# Preview records

An encoded image in a file: a header of eight little-endian words of four bytes and the code. The
header names the size of the image, the place of the code in the file and its length; its last
four words are reserved and kept as they are. A record is written for the address at which it will
stand, with the code directly after the header; when it is read, the code is taken from wherever
the header says.
-/

namespace GerberMask.Raster

/-- The bytes of a header. -/
def headerSize : Nat := 32

/-- An encoded image and the fields of its header. -/
structure PreviewRecord where
  width : UInt32
  height : UInt32
  payload : Bytes
  reserved : Vector UInt32 4
  deriving DecidableEq

namespace PreviewRecord

/-- The record of a code for an image of a given size. -/
def ofCode (width height : Nat) (code : Bytes) : PreviewRecord :=
  ⟨UInt32.ofNat width, UInt32.ofNat height, code, #v[0, 0, 0, 0]⟩

/-- The record of an image. -/
def ofImage (img : Image Rgb) : PreviewRecord :=
  ofCode img.width img.height (encode img)

/-- The record of an image with an alpha channel. -/
def ofRgba (img : Image Rgba) : PreviewRecord :=
  ofCode img.width img.height (encodeRgba img)

/-- The image of a record. -/
def decode (r : PreviewRecord) : Except RasterError Decoded :=
  Raster.decode r.payload r.width.toNat r.height.toNat

/-- The bytes of header and code. -/
def byteSize (r : PreviewRecord) : Nat :=
  headerSize + r.payload.size

/-- The words of the header of a record at an address. -/
def headerWords (r : PreviewRecord) (address : UInt32) : List UInt32 :=
  [r.width, r.height, address + UInt32.ofNat headerSize, UInt32.ofNat r.payload.size,
    r.reserved[0], r.reserved[1], r.reserved[2], r.reserved[3]]

/-- The bytes of a record at an address. -/
def toBytes (r : PreviewRecord) (address : UInt32) : Bytes :=
  ((r.headerWords address).flatMap LittleEndian.bytes32).toArray ++ r.payload

/-- The words of the header at an address of a file. -/
def readHeader? (file : Bytes) (address : Nat) : Option (Vector UInt32 8) := do
  let word (i : Nat) := LittleEndian.read32? file (address + 4 * i)
  return #v[← word 0, ← word 1, ← word 2, ← word 3, ← word 4, ← word 5, ← word 6, ← word 7]

/-- The record at an address of a file. -/
def ofBytes (file : Bytes) (address : Nat) : Except RasterError PreviewRecord :=
  match readHeader? file address with
  | none => .error (.shortHeader address file.size)
  | some h =>
    let start := h[2].toNat
    let size := h[3].toNat
    if start + size ≤ file.size then
      .ok ⟨h[0], h[1], file.extract start (start + size), #v[h[4], h[5], h[6], h[7]]⟩
    else .error (.payloadOutOfRange start size file.size)

end PreviewRecord

end GerberMask.Raster
