/-!
# File extensions

A path is a text of parts separated by `/`. Empty parts and parts `.` do not count, except that a
path may begin with `.`; the last part that counts is the file's name, unless it is `.` or `..`.
The extension is what follows the last point of the name, provided that something stands before
that point.
-/

namespace GerberMask.Text

/-- The parts of a path that count, in order. -/
def pathParts (path : List Char) : List (List Char) :=
  match path.splitOn '/' with
  | [] => []
  | first :: rest =>
    (if first.isEmpty then [] else [first]) ++ rest.filter fun p ↦ !p.isEmpty && p != ['.']

/-- The name of the file that a path denotes, if it denotes one. -/
def fileName? (path : List Char) : Option (List Char) :=
  match (pathParts path).getLast? with
  | none => none
  | some name => if name = ['.'] ∨ name = ['.', '.'] then none else some name

/-- What follows the last point of a name; `none` where there is no point or nothing stands
before it. -/
def extensionOf? (name : List Char) : Option (List Char) :=
  let tail := name.reverse.takeWhile (· != '.')
  if tail.length + 1 < name.length then some tail.reverse else none

/-- The extension of the file that a path denotes. -/
def extension? (path : String) : Option String :=
  (fileName? path.toList).bind fun name ↦ (extensionOf? name).map String.ofList

end GerberMask.Text
