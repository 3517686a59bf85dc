import GerberMask.Png.Header

/-!
# Rows

Every row of a picture begins with the number of the filter that was applied to its bytes; a filter
predicts a byte from those to its left and above. The rows of an interlaced picture come in seven
passes, each over the pixels in every so many columns and rows.
-/

namespace GerberMask.Png

/-! ### Filters -/

/-- Of three neighbours the one that is nearest to `left + above - corner`. -/
def paeth (left above corner : UInt8) : UInt8 :=
  let p : Int := left.toNat + above.toNat - corner.toNat
  let pa := (p - left.toNat).natAbs
  let pb := (p - above.toNat).natAbs
  let pc := (p - corner.toNat).natAbs
  if pa ≤ pb ∧ pa ≤ pc then left else if pb ≤ pc then above else corner

/-- The prediction of a filter for a byte. -/
def predict? (filter : Nat) (left above corner : UInt8) : Option UInt8 :=
  match filter with
  | 0 => some 0
  | 1 => some left
  | 2 => some above
  | 3 => some (UInt8.ofNat ((left.toNat + above.toNat) / 2))
  | 4 => some (paeth left above corner)
  | _ => none

/-- Restores the bytes of a row from the row above; `size` bytes are left in `data` from `offset`
on. -/
def restoreRow? (filter stride : Nat) (above data : Bytes) (offset : Nat) : Nat → Bytes →
    Option Bytes
  | 0, row => some row
  | size + 1, row => do
    let i := row.size
    let behind (bytes : Bytes) : UInt8 := if i < stride then 0 else (bytes[i - stride]?).getD 0
    let b ← data[offset]?
    let p ← predict? filter (behind row) ((above[i]?).getD 0) (behind above)
    restoreRow? filter stride above data (offset + 1) size (row.push (b + p))

/-- Restores rows of a given size from an offset on; returns them with the offset behind them. -/
def restoreRows? (stride size : Nat) (data : Bytes) : Nat → Nat → Bytes → Array Bytes →
    Option (Array Bytes × Nat)
  | 0, offset, _, rows => some (rows, offset)
  | n + 1, offset, above, rows => do
    let filter := (← data[offset]?).toNat
    let row ← restoreRow? filter stride above data (offset + 1) size (Array.mkEmpty size)
    restoreRows? stride size data n (offset + 1 + size) row (rows.push row)

/-! ### Passes -/

/-- A pass: the pixels in every so many columns and rows from a first one on. -/
structure Pass where
  firstColumn : Nat
  firstRow : Nat
  columnStep : Nat
  rowStep : Nat

/-- The passes of a picture. -/
def passes (interlaced : Bool) : List Pass :=
  if interlaced then
    [⟨0, 0, 8, 8⟩, ⟨4, 0, 8, 8⟩, ⟨0, 4, 4, 8⟩, ⟨2, 0, 4, 4⟩, ⟨0, 2, 2, 4⟩, ⟨1, 0, 2, 2⟩, ⟨0, 1, 1, 2⟩]
  else [⟨0, 0, 1, 1⟩]

/-- How many of a row of places a pass takes. -/
def taken (size first step : Nat) : Nat :=
  (size - first + step - 1) / step

/-- The rows of every pass. -/
def passRows? (h : Header) (data : Bytes) : List Pass → Nat → Option (List (Pass × Array Bytes))
  | [], _ => some []
  | p :: ps, offset => do
    let width := taken h.width p.firstColumn p.columnStep
    let height := if width = 0 then 0 else taken h.height p.firstRow p.rowStep
    let (rows, offset) ← restoreRows? h.stride (h.rowBytes width) data height offset #[] #[]
    let rest ← passRows? h data ps offset
    return (p, rows) :: rest

/-- Whether a pass takes a pixel. -/
def Pass.takes (p : Pass) (x y : Nat) : Bool :=
  p.firstColumn ≤ x && p.firstRow ≤ y && (x - p.firstColumn) % p.columnStep == 0 &&
    (y - p.firstRow) % p.rowStep == 0

end GerberMask.Png
