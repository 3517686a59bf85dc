import GerberMask.Settings.Json.Number
import GerberMask.Settings.Json.Text

/-!
# Writing JSON

Every item of a list and every entry of a group stands on a line of its own, two blanks deeper than
the line of the bracket; brackets with nothing between them stay together. A number that is not
finite has no spelling in JSON and is written as `null`.
-/

namespace GerberMask.Settings.Json

/-- A new line at a depth. -/
def newLine (depth : Nat) : List Char :=
  '\n' :: List.replicate (2 * depth) ' '

/-- Lines between brackets. -/
def bracketed (opening closing : Char) (depth : Nat) : List (List Char) → List Char
  | [] => [opening, closing]
  | parts =>
    opening :: (List.intercalate [','] (parts.map (newLine (depth + 1) ++ ·)) ++
      (newLine depth ++ [closing]))

/-- The text of a number. -/
def writeReal (x : Float) : List Char :=
  if x.isFinite then (numberLayout.text x).toList else "null".toList

mutual

/-- The text of a value at a depth. -/
def write (depth : Nat) : Setting → List Char
  | .nothing => "null".toList
  | .flag b => (if b then "true" else "false").toList
  | .integer n => (toString n).toList
  | .real x => writeReal x
  | .text s => writeText s.toList
  | .moment => "null".toList
  | .unreadable => "null".toList
  | .list items => bracketed '[' ']' depth (writeItems (depth + 1) items)
  | .group entries => bracketed '{' '}' depth (writeEntries (depth + 1) entries)

/-- The texts of values. -/
def writeItems (depth : Nat) : List Setting → List (List Char)
  | [] => []
  | v :: vs => write depth v :: writeItems depth vs

/-- The texts of named values. -/
def writeEntries (depth : Nat) : List (String × Setting) → List (List Char)
  | [] => []
  | (key, v) :: es => (writeText key.toList ++ ':' :: ' ' :: write depth v) :: writeEntries depth es

end

end GerberMask.Settings.Json
