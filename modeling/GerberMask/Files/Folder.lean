import GerberMask.Files.Access
import GerberMask.Text.FileName

/-!
# Folders in memory

A folder maps places to bytes. A place is the row of names on the way to a file; a folder below
exists as soon as a file lies in it. What was written last at a place is what is read there
(`read_write`).
-/

namespace GerberMask

/-- The names on the way to a file. -/
abbrev Place := List (List Char)

/-- Files by their places. -/
structure Folder where
  files : List (Place × Bytes)

namespace Folder

/-- The folder without files. -/
def empty : Folder := ⟨[]⟩

/-- The place that a path denotes; `none` where the path does not stay in the folder. -/
def placeOf? (path : String) : Option Place :=
  match path.toList with
  | [] => none
  | '/' :: _ => none
  | cs =>
    let parts := (Text.pathParts cs).filter (· != ['.'])
    if parts.contains ['.', '.'] then none else some parts

/-- Whether a file lies below a place, or the place is the folder itself. -/
def isFolderAt (f : Folder) (place : Place) : Bool :=
  place.isEmpty || f.files.any fun (p, _) ↦ place.isPrefixOf p && p != place

/-- Whether a place goes on after a file. -/
def passesFile (f : Folder) (place : Place) : Bool :=
  f.files.any fun (p, _) ↦ p.isPrefixOf place && p != place

/-- The bytes at a path. -/
def read (f : Folder) (path : String) : Except FileError Bytes :=
  match placeOf? path with
  | none => .error .missing
  | some place =>
    match f.files.lookup place with
    | some bytes => .ok bytes
    | none =>
      if f.isFolderAt place then .error .isAFolder
      else if f.passesFile place then .error .notAFolder
      else .error .missing

/-- The folder after writing at a path. -/
def write (f : Folder) (path : String) (bytes : Bytes) : Except FileError Folder :=
  match placeOf? path with
  | none => .error .missing
  | some place =>
    if f.isFolderAt place then .error .isAFolder
    else if f.isFolderAt place.dropLast then .ok ⟨(place, bytes) :: f.files⟩
    else if f.passesFile place then .error .notAFolder
    else .error .missing

/-- What was written last at a path is read there. -/
theorem read_write {f f' : Folder} {path : String} {bytes : Bytes}
    (h : f.write path bytes = .ok f') : f'.read path = .ok bytes := by
  unfold write at h
  split at h
  · simp at h
  · rename_i place hp
    split at h
    · simp at h
    · split at h
      · cases h
        simp [read, hp]
      · split at h <;> simp at h

/-- Reads and writes of a program that runs in a folder. -/
def access : FileAccess (StateM Folder) where
  read path := return (← get).read path
  write path bytes := do
    match (← get).write path bytes with
    | .ok f =>
      set f
      return .ok ()
    | .error e => return .error e

end Folder

end GerberMask
