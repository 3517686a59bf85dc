import GerberMask.Number.LittleEndian

/-!
# Checksums

The two checksums of compressed pictures: the cyclic redundancy check of 32 bits with the reflected
polynomial `edb88320`, computed from a table of its effect on single bytes, and the pair of sums
modulo 65521.
-/

namespace GerberMask.Png

/-- One bit of a cyclic redundancy check. -/
def crcBit (c : UInt32) : UInt32 :=
  if c &&& 1 = 1 then (0xedb88320 : UInt32) ^^^ (c >>> 1) else c >>> 1

/-- The effect of every byte on a cyclic redundancy check. -/
def crcTable : Vector UInt32 256 :=
  Vector.ofFn fun i ↦ Nat.repeat crcBit 8 (UInt32.ofNat i)

/-- A cyclic redundancy check with one more byte. -/
def crcByte (c : UInt32) (b : UInt8) : UInt32 :=
  let i := (c.toUInt8 ^^^ b).toNat
  (crcTable[i]?).getD 0 ^^^ (c >>> 8)

/-- The cyclic redundancy check of the bytes of several parts. -/
def crc32 (parts : List Bytes) : UInt32 :=
  parts.foldl (fun c bytes ↦ bytes.foldl crcByte c) 0xffffffff ^^^ 0xffffffff

/-- Both sums with one more byte. -/
def adlerByte (s : UInt32 × UInt32) (b : UInt8) : UInt32 × UInt32 :=
  let a := (s.1 + b.toUInt32) % 65521
  (a, (s.2 + a) % 65521)

/-- The sum of the bytes and the sum of its stages, modulo 65521. -/
def adler32 (bytes : Bytes) : UInt32 :=
  let (a, b) := bytes.foldl adlerByte (1, 0)
  (b <<< 16) ||| a

end GerberMask.Png
