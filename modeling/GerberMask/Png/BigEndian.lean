import GerberMask.Number.LittleEndian

/-!
# Big-endian words

Words of two and four bytes, highest byte first.
-/

namespace GerberMask.Png

/-- The four bytes of a word. -/
def bigBytes32 (w : UInt32) : List UInt8 :=
  (LittleEndian.bytes32 w).reverse

/-- The two-byte word at an offset. -/
def bigWord16? (data : Bytes) (offset : Nat) : Option Nat := do
  let hi ← data[offset]?
  let lo ← data[offset + 1]?
  return 256 * hi.toNat + lo.toNat

/-- The four-byte word at an offset. -/
def bigWord32? (data : Bytes) (offset : Nat) : Option Nat := do
  let hi ← bigWord16? data offset
  let lo ← bigWord16? data (offset + 2)
  return 65536 * hi + lo

end GerberMask.Png
