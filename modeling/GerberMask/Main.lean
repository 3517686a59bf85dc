import GerberMask.Program.Run

/-!
# The command line

The program with the disk as its files and with the libraries of this project.
-/

namespace GerberMask.Program

/-- Why the system refuses access to a file. -/
def fileErrorOf : IO.Error → FileError
  | .noFileOrDirectory _ _ _ => .missing
  | .noSuchThing _ _ _ => .missing
  | .inappropriateType _ code _ =>
    if code = 21 then .isAFolder else .notAFolder
  | .permissionDenied _ code _ => .refused "Permission denied" code.toNat
  | .resourceExhausted _ code _ => .refused "No space left on device" code.toNat
  | e => .refused (toString e) 5

/-- Runs an action on a file. -/
def attempt {α : Type} (action : IO α) : IO (Except FileError α) := do
  try
    return .ok (← action)
  catch e => return .error (fileErrorOf e)

/-- The files on disk. -/
def disk : FileAccess IO where
  read path := attempt do return (← IO.FS.readBinFile path).data
  write path bytes := attempt (IO.FS.writeBinFile path ⟨bytes⟩)

end GerberMask.Program

/-- Runs the command that the arguments ask for. -/
def main (args : List String) : IO UInt32 := do
  let outcome ← GerberMask.Program.runWords .own GerberMask.Program.disk args
  IO.print outcome.out
  IO.eprint outcome.err
  return outcome.exitCode
