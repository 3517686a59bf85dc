import GerberMask.Files.Access
import GerberMask.Png.BigEndian
import GerberMask.Png.Checksum

/-!
# Chunks

A picture file is a signature and a row of named chunks up to an end mark. Every chunk gives the
size of its data in front and a checksum of its name and data behind.
-/

namespace GerberMask.Png

/-- The bytes that every picture file begins with. -/
def signature : List UInt8 :=
  [0x89, 0x50, 0x4e, 0x47, 0x0d, 0x0a, 0x1a, 0x0a]

/-! ### Chunks -/

/-- A named part of a file. -/
structure Chunk where
  name : List UInt8
  data : Bytes

/-- The name of a chunk. -/
def chunkName (name : String) : List UInt8 :=
  (bytesOf name).toList

/-- The chunks from an offset up to the end mark. -/
def chunks? (file : Bytes) : Nat → Nat → Option (List Chunk)
  | 0, _ => none
  | fuel + 1, offset => do
    let size ← bigWord32? file offset
    let check ← bigWord32? file (offset + 8 + size)
    let body := file.extract (offset + 4) (offset + 8 + size)
    if (crc32 [body]).toNat ≠ check then none
    else
      let name := (body.extract 0 4).toList
      if name = chunkName "IEND" then return []
      else
        let rest ← chunks? file fuel (offset + 12 + size)
        return ⟨name, body.extract 4 body.size⟩ :: rest

/-- The data of the first chunk with a name. -/
def find? (chunks : List Chunk) (name : String) : Option Bytes :=
  (chunks.find? (·.name == chunkName name)).map (·.data)

/-- The data of all chunks with a name. -/
def gather (chunks : List Chunk) (name : String) : Bytes :=
  (chunks.filter (·.name == chunkName name)).foldl (fun out c ↦ out ++ c.data) #[]

/-- Bytes with a chunk behind them. -/
def appendChunk (out : Bytes) (name : String) (data : Bytes) : Bytes :=
  let name := bytesOf name
  out ++ bigBytes32 (UInt32.ofNat data.size) ++ name ++ data ++ bigBytes32 (crc32 [name, data])

end GerberMask.Png
