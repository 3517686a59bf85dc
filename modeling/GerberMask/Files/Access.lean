import GerberMask.Number.LittleEndian

/-!
# Access to files

The program touches files in two ways only: it reads a whole file and it writes a whole file.
`FileAccess m` names these two actions in any monad, so that what the program does with files can
be run against a disk and reasoned about against a `Folder`. Text is read as UTF-8 and refused
where it is not.
-/

namespace GerberMask

/-- Why a file cannot be read or written. -/
inductive FileError where
  /-- The system refuses; its reason and its code for that reason. -/
  | refused (reason : String) (code : Nat)
  /-- The bytes are no UTF-8 text. -/
  | notText
  deriving DecidableEq, Repr

namespace FileError

/-- There is no such file, or no folder to put it in. -/
def missing : FileError := .refused "No such file or directory" 2

/-- The path goes on after a file. -/
def notAFolder : FileError := .refused "Not a directory" 20

/-- The path ends at a folder. -/
def isAFolder : FileError := .refused "Is a directory" 21

/-- The message that tells the user. -/
def message : FileError → String
  | refused reason code => reason ++ " (os error " ++ toString code ++ ")"
  | notText => "stream did not contain valid UTF-8"

end FileError

/-- The two things that are done to files. -/
structure FileAccess (m : Type → Type) where
  /-- The bytes of the file at a path. -/
  read : String → m (Except FileError Bytes)
  /-- Makes the file at a path hold these bytes and no others. -/
  write : String → Bytes → m (Except FileError Unit)

/-- The text of a row of bytes. -/
def textOf (bytes : Bytes) : Except FileError String :=
  match String.fromUTF8? ⟨bytes⟩ with
  | some text => .ok text
  | none => .error .notText

/-- The bytes of a text. -/
def bytesOf (text : String) : Bytes :=
  text.toUTF8.data

namespace FileAccess

variable {m : Type → Type} [Monad m]

/-- The text of the file at a path. -/
def readText (files : FileAccess m) (path : String) : m (Except FileError String) := do
  return (← files.read path).bind textOf

/-- Makes the file at a path hold a text. -/
def writeText (files : FileAccess m) (path text : String) : m (Except FileError Unit) :=
  files.write path (bytesOf text)

end FileAccess

end GerberMask
