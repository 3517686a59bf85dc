import GerberMask.Png.BigEndian
import GerberMask.Png.Checksum

/-!
# Compressed data

Data is compressed in blocks. A block is stored as it is, or it is a row of symbols in a prefix
code: bytes, copies of data that came before, and an end mark. The code of a block is fixed or
stands in front of it. Every block can be read; all data is written in stored blocks.

Reading goes through the bits from the lowest of every byte upwards. Every symbol takes at least
one bit, so the number of bits bounds the number of steps.
-/

namespace GerberMask.Png

/-! ### Bits -/

/-- Bytes and a position among their bits. -/
structure BitCursor where
  data : Bytes
  position : Nat

namespace BitCursor

/-- The next bit. -/
def bit? (c : BitCursor) : Option (Nat × BitCursor) :=
  (c.data[c.position / 8]?).map fun b ↦
    (b.toNat / Nat.pow 2 (c.position % 8) % 2, { c with position := c.position + 1 })

/-- The number in the next bits, lowest bit first. -/
def bits? (c : BitCursor) : Nat → Option (Nat × BitCursor)
  | 0 => some (0, c)
  | n + 1 => do
    let (low, c) ← c.bit?
    let (high, c) ← c.bits? n
    return (low + 2 * high, c)

/-- The cursor at the beginning of the next whole byte. -/
def align (c : BitCursor) : BitCursor :=
  { c with position := (c.position + 7) / 8 * 8 }

end BitCursor

/-! ### Prefix codes -/

/-- The longest code word. -/
def longestCode : Nat := 15

/-- A prefix code by the number of words of every length and the symbols in the order of their
words. -/
structure PrefixCode where
  /-- How many words have the length 1, 2, … -/
  counts : List Nat
  symbols : Array Nat

namespace PrefixCode

/-- The code in which every symbol has a word of a given length; a symbol of length zero has
none. -/
def ofLengths (lengths : List Nat) : PrefixCode where
  counts := (List.range' 1 longestCode).map fun n ↦ lengths.count n
  symbols :=
    ((List.range' 1 longestCode).flatMap fun n ↦
      lengths.zipIdx.filterMap fun (m, symbol) ↦ if m = n then some symbol else none).toArray

/-- Reads one more bit of a word for every length, until the word is one of this length: `code` is
what was read, `first` the first word of the length before and `index` the symbols before it. -/
def symbolFrom? (symbols : Array Nat) : List Nat → Nat → Nat → Nat → BitCursor →
    Option (Nat × BitCursor)
  | [], _, _, _, _ => none
  | count :: counts, code, first, index, c => do
    let (bit, c) ← c.bit?
    let code := 2 * code + bit
    let first := 2 * first
    if code < first + count then return (← symbols[index + (code - first)]?, c)
    else symbolFrom? symbols counts code (first + count) (index + count) c

/-- The next symbol. -/
def symbol? (p : PrefixCode) (c : BitCursor) : Option (Nat × BitCursor) :=
  symbolFrom? p.symbols p.counts 0 0 0 c

end PrefixCode

/-- The fixed code of bytes, end mark and lengths of copies. -/
def fixedLiterals : PrefixCode :=
  .ofLengths (List.replicate 144 8 ++ List.replicate 112 9 ++ List.replicate 24 7 ++
    List.replicate 8 8)

/-- The fixed code of distances. -/
def fixedDistances : PrefixCode :=
  .ofLengths (List.replicate 30 5)

/-! ### Copies -/

/-- The shortest copy of every length symbol, with the number of bits that add to it. -/
def copyLengths : List (Nat × Nat) :=
  [(3, 0), (4, 0), (5, 0), (6, 0), (7, 0), (8, 0), (9, 0), (10, 0), (11, 1), (13, 1), (15, 1),
    (17, 1), (19, 2), (23, 2), (27, 2), (31, 2), (35, 3), (43, 3), (51, 3), (59, 3), (67, 4),
    (83, 4), (99, 4), (115, 4), (131, 5), (163, 5), (195, 5), (227, 5), (258, 0)]

/-- The shortest distance of every distance symbol, with the number of bits that add to it. -/
def copyDistances : List (Nat × Nat) :=
  [(1, 0), (2, 0), (3, 0), (4, 0), (5, 1), (7, 1), (9, 2), (13, 2), (17, 3), (25, 3), (33, 4),
    (49, 4), (65, 5), (97, 5), (129, 6), (193, 6), (257, 7), (385, 7), (513, 8), (769, 8),
    (1025, 9), (1537, 9), (2049, 10), (3073, 10), (4097, 11), (6145, 11), (8193, 12), (12289, 12),
    (16385, 13), (24577, 13)]

/-- The number that a symbol of a table and the bits after it stand for. -/
def extended? (table : List (Nat × Nat)) (symbol : Nat) (c : BitCursor) :
    Option (Nat × BitCursor) := do
  let (base, extra) ← table[symbol]?
  let (n, c) ← c.bits? extra
  return (base + n, c)

/-- Copies bytes from a distance before the end, one by one. -/
def copyBack (out : Bytes) (distance : Nat) : Nat → Bytes
  | 0 => out
  | n + 1 => copyBack (out.push ((out[out.size - distance]?).getD 0)) distance n

/-! ### Blocks -/

/-- Reads symbols up to the end mark. -/
def symbols? (literals distances : PrefixCode) : Nat → BitCursor → Bytes →
    Option (BitCursor × Bytes)
  | 0, _, _ => none
  | fuel + 1, c, out => do
    let (symbol, c) ← literals.symbol? c
    if symbol < 256 then symbols? literals distances fuel c (out.push (UInt8.ofNat symbol))
    else if symbol = 256 then return (c, out)
    else
      let (length, c) ← extended? copyLengths (symbol - 257) c
      let (symbol, c) ← distances.symbol? c
      let (distance, c) ← extended? copyDistances symbol c
      if out.size < distance then none
      else symbols? literals distances fuel c (copyBack out distance length)

/-- Reads a stored block. -/
def stored? (c : BitCursor) (out : Bytes) : Option (BitCursor × Bytes) := do
  let (size, c) ← c.align.bits? 16
  let (check, c) ← c.bits? 16
  let start := c.position / 8
  if size + check ≠ 65535 ∨ c.data.size < start + size then none
  else
    return ({ c with position := 8 * (start + size) }, out ++ c.data.extract start (start + size))

/-- The order in which the lengths of the code of lengths are given. -/
def lengthOrder : List Nat :=
  [16, 17, 18, 0, 8, 7, 9, 6, 10, 5, 11, 4, 12, 3, 13, 2, 14, 1, 15]

/-- Reads numbers of three bits. -/
def triples? : Nat → BitCursor → Option (List Nat × BitCursor)
  | 0, c => some ([], c)
  | n + 1, c => do
    let (x, c) ← c.bits? 3
    let (xs, c) ← triples? n c
    return (x :: xs, c)

/-- Reads lengths of code words, in reverse behind those that were read before, until there are
enough of them. Three symbols repeat: the last length, and zeros in two ranges. -/
def lengths? (p : PrefixCode) (wanted : Nat) : Nat → BitCursor → List Nat →
    Option (List Nat × BitCursor)
  | 0, _, _ => none
  | fuel + 1, c, read => do
    if wanted < read.length then none
    else if read.length = wanted then return (read.reverse, c)
    else
      let (symbol, c) ← p.symbol? c
      if symbol < 16 then lengths? p wanted fuel c (symbol :: read)
      else if symbol = 16 then
        let (n, c) ← c.bits? 2
        lengths? p wanted fuel c (List.replicate (n + 3) (← read.head?) ++ read)
      else if symbol = 17 then
        let (n, c) ← c.bits? 3
        lengths? p wanted fuel c (List.replicate (n + 3) 0 ++ read)
      else
        let (n, c) ← c.bits? 7
        lengths? p wanted fuel c (List.replicate (n + 11) 0 ++ read)

/-- Reads the two codes of a block. -/
def codes? (c : BitCursor) : Option (PrefixCode × PrefixCode × BitCursor) := do
  let (literals, c) ← c.bits? 5
  let (distances, c) ← c.bits? 5
  let (orders, c) ← c.bits? 4
  let (given, c) ← triples? (orders + 4) c
  let pairs := lengthOrder.zip given
  let p := PrefixCode.ofLengths ((List.range 19).map fun n ↦ (pairs.lookup n).getD 0)
  let wanted := literals + 257 + (distances + 1)
  let (lengths, c) ← lengths? p wanted (wanted + 1) c []
  return (.ofLengths (lengths.take (literals + 257)), .ofLengths (lengths.drop (literals + 257)), c)

/-- Reads blocks up to the last one. -/
def blocks? : Nat → BitCursor → Bytes → Option Bytes
  | 0, _, _ => none
  | fuel + 1, c, out => do
    let (isLast, c) ← c.bit?
    let (kind, c) ← c.bits? 2
    let (c, out) ←
      if kind = 0 then stored? c out
      else if kind = 1 then symbols? fixedLiterals fixedDistances (8 * c.data.size) c out
      else if kind = 2 then do
        let (literals, distances, c) ← codes? c
        symbols? literals distances (8 * c.data.size) c out
      else none
    if isLast = 1 then return out else blocks? fuel c out

/-- The data of a compressed stream: two bytes of header, blocks, and the checksum of the data. -/
def inflate? (stream : Bytes) : Option Bytes := do
  let header ← bigWord16? stream 0
  if header % 31 ≠ 0 ∨ header / 256 % 16 ≠ 8 ∨ header / 32 % 2 = 1 then none
  else blocks? (8 * stream.size) ⟨stream, 16⟩ #[]

/-! ### Writing -/

/-- The largest stored block. -/
def storedLimit : Nat := 65535

/-- Writes stored blocks for data from an offset on. -/
def storeFrom (data : Bytes) (offset : Nat) (out : Bytes) : Bytes :=
  let size := min storedLimit (data.size - offset)
  let header := (if data.size ≤ offset + size then 1 else 0) ::
    (LittleEndian.bytes16 (UInt16.ofNat size) ++
      LittleEndian.bytes16 (UInt16.ofNat (storedLimit - size)))
  let out := out ++ header.toArray ++ data.extract offset (offset + size)
  if _h : data.size ≤ offset + size then out else storeFrom data (offset + size) out
termination_by data.size - offset
decreasing_by
  simp only [Nat.not_le, storedLimit] at _h ⊢
  omega

/-- A compressed stream of data. -/
def deflate (data : Bytes) : Bytes :=
  storeFrom data 0 #[0x78, 0x01] ++ (bigBytes32 (adler32 data)).toArray

end GerberMask.Png
