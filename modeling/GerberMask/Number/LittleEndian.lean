/-!
# Little-endian words

Words of two and four bytes, lowest byte first. Putting the bytes of a word together gives the word
again (`word16_bytes`, `word32_bytes`). Reading at an offset is refused where the bytes end too
early.
-/

namespace GerberMask

/-- A row of bytes. -/
abbrev Bytes := Array UInt8

namespace LittleEndian

/-- The byte of a number at a power of 256. -/
def byteAt (n place : Nat) : UInt8 :=
  UInt8.ofNat (n / Nat.pow 256 place)

/-- The two bytes of a word. -/
def bytes16 (w : UInt16) : List UInt8 :=
  [byteAt w.toNat 0, byteAt w.toNat 1]

/-- The word of two bytes. -/
def word16 (lo hi : UInt8) : UInt16 :=
  UInt16.ofNat (lo.toNat + 256 * hi.toNat)

/-- The four bytes of a word. -/
def bytes32 (w : UInt32) : List UInt8 :=
  [byteAt w.toNat 0, byteAt w.toNat 1, byteAt w.toNat 2, byteAt w.toNat 3]

/-- The word of four bytes. -/
def word32 (b₀ b₁ b₂ b₃ : UInt8) : UInt32 :=
  UInt32.ofNat (b₀.toNat + 256 * (b₁.toNat + 256 * (b₂.toNat + 256 * b₃.toNat)))

/-- The two-byte word at an offset. -/
def read16? (data : Bytes) (offset : Nat) : Option UInt16 := do
  let lo ← data[offset]?
  let hi ← data[offset + 1]?
  return word16 lo hi

/-- The four-byte word at an offset. -/
def read32? (data : Bytes) (offset : Nat) : Option UInt32 := do
  let b₀ ← data[offset]?
  let b₁ ← data[offset + 1]?
  let b₂ ← data[offset + 2]?
  let b₃ ← data[offset + 3]?
  return word32 b₀ b₁ b₂ b₃

/-! ### Bytes put together -/

theorem toNat_byteAt (n place : Nat) : (byteAt n place).toNat = n / Nat.pow 256 place % 256 := by
  simp [byteAt]

theorem word16_bytes (w : UInt16) : word16 (byteAt w.toNat 0) (byteAt w.toNat 1) = w := by
  have h := w.toNat_lt
  rw [← UInt16.toNat_inj]
  simp only [word16, toNat_byteAt, Nat.pow_eq, UInt16.toNat_ofNat']
  omega

theorem word32_bytes (w : UInt32) :
    word32 (byteAt w.toNat 0) (byteAt w.toNat 1) (byteAt w.toNat 2) (byteAt w.toNat 3) = w := by
  have h := w.toNat_lt
  rw [← UInt32.toNat_inj]
  simp only [word32, toNat_byteAt, Nat.pow_eq, UInt32.toNat_ofNat']
  omega

end LittleEndian

end GerberMask
