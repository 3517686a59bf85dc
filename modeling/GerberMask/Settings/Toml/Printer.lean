import GerberMask.Number.Shortest
import GerberMask.Settings.Setting
import GerberMask.Settings.Toml.Text

/-!
# Writing TOML

A document of sections: every section is a header and below it a line for each of its values, with
an empty line between sections. A list of two items or more has every item on a line of its own.
Numbers are written without an exponent, and those that could be read as integers with `.0`.
-/

namespace GerberMask.Settings.Toml

/-- Numbers never have an exponent, and integers keep their point. -/
def numberLayout : PointLayout := ⟨none, none, true, false⟩

/-- The text of a number. -/
def writeReal (x : Float) : List Char :=
  if x.isNaN then "nan".toList else (numberLayout.text x).toList

/-- The text of a value. Groups are written as sections, and the other values that have no text here
do not occur in sections. -/
def write : Setting → List Char
  | .flag b => (if b then "true" else "false").toList
  | .integer n => (toString n).toList
  | .real x => writeReal x
  | .text s => writeText s.toList
  | .list [] => ['[', ']']
  | .list [v] => '[' :: write v ++ [']']
  | .list vs => '[' :: writeItems vs ++ ['\n', ']']
  | _ => []
where
  /-- Items on lines of their own. -/
  writeItems : List Setting → List Char
    | [] => []
    | v :: vs => "\n    ".toList ++ write v ++ ',' :: writeItems vs

/-- The line of a value. -/
def writeEntry (e : String × Setting) : List Char :=
  e.1.toList ++ " = ".toList ++ write e.2 ++ ['\n']

/-- The lines of a section: a header and its values. -/
def writeSection : String × Setting → List Char
  | (name, .group es) => '[' :: name.toList ++ ']' :: '\n' :: es.flatMap writeEntry
  | entry => writeEntry entry

/-- The text of a document. -/
def writeDocument (sections : List (String × Setting)) : List Char :=
  List.intercalate ['\n'] (sections.map writeSection)

end GerberMask.Settings.Toml
