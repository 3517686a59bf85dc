import GerberMask.Settings.Toml.Scalar
import GerberMask.Settings.Toml.Table
import GerberMask.Settings.Toml.Text

/-!
# Reading TOML

A document is a row of lines: blank lines, comments, headers and values with a name. A list can go
on over several lines, with comments between its items; a table in braces stays on one line. The
readers return what they read together with what follows it. Lists and braces can be nested to a
limited depth, and names can have a limited number of parts; the readers take one unit of room for
every level. They also take fuel for their recursion: of two calls in a row at least one comes
after a character of its own, so two units of fuel for every character are always enough.
-/

namespace GerberMask.Settings.Toml

/-- Brackets can be nested, and names have parts, less often than this. -/
def depthLimit : Nat := 80

/-- Drops the blanks in front. -/
def skip (cs : List Char) : List Char :=
  cs.dropWhile isBlank

/-- What follows a comment, if there is one. -/
def skipComment (cs : List Char) : List Char :=
  match cs with
  | '#' :: rest => rest.dropWhile isPlain
  | _ => cs

/-- What follows the end of a line: blanks, a comment, and a line break or the end of the text. -/
def endLine? (cs : List Char) : Option (List Char) :=
  match skipComment (skip cs) with
  | [] => some []
  | cs => lineBreak? cs

/-- Drops blanks, line breaks and comments. -/
def skipLines : Nat → List Char → List Char
  | 0, cs => cs
  | fuel + 1, cs =>
    match lineBreak? (skipComment (skip cs)) with
    | some rest => skipLines fuel rest
    | none => skip cs

/-! ### Names -/

/-- A character of a name that is not quoted. -/
def isNameChar (c : Char) : Bool :=
  c.isAlphanum || c == '_' || c == '-'

/-- The part of a name at the beginning of a text. -/
def part? (cs : List Char) : Option (String × List Char) :=
  match quoted? cs with
  | some (name, rest) => some (String.ofList name, rest)
  | none =>
    let name := cs.takeWhile isNameChar
    if name.isEmpty then none else some (String.ofList name, cs.dropWhile isNameChar)

/-- A name with points between its parts: the parts in front, the last part, and what follows. -/
def name? : Nat → List Char → Option (List String × String × List Char)
  | 0, _ => none
  | room + 1, cs => do
    let (part, rest) ← part? (skip cs)
    match skip rest with
    | '.' :: rest =>
      let (path, key, rest) ← name? room rest
      return (part :: path, key, rest)
    | rest => return ([], part, rest)

/-! ### Values -/

mutual

/-- The value at the beginning of a text. -/
def value? : Nat → Nat → List Char → Option (Setting × List Char)
  | 0, _, _ => none
  | fuel + 1, room, cs =>
    match cs with
    | '[' :: rest =>
      match room with
      | 0 => none
      | room + 1 => (items? fuel room rest).map fun (vs, rest) ↦ (.list vs, rest)
    | '{' :: rest =>
      match room with
      | 0 => none
      | room + 1 =>
        match skip rest with
        | '}' :: rest => some (.group [], rest)
        | rest => (entries? fuel room [] rest).map fun (es, rest) ↦ (.group (settings es), rest)
    | '"' :: _ => (text? cs).map fun (s, rest) ↦ (.text (String.ofList s), rest)
    | '\'' :: _ => (text? cs).map fun (s, rest) ↦ (.text (String.ofList s), rest)
    | _ => scalar? cs

/-- The items of a list up to its closing bracket; a comma may stand behind the last one. -/
def items? : Nat → Nat → List Char → Option (List Setting × List Char)
  | 0, _, _ => none
  | fuel + 1, room, cs =>
    match skipLines fuel cs with
    | ']' :: rest => some ([], rest)
    | cs => do
      let (v, rest) ← value? fuel room cs
      match skipLines fuel rest with
      | ']' :: rest => return ([v], rest)
      | ',' :: rest =>
        let (vs, rest) ← items? fuel room rest
        return (v :: vs, rest)
      | _ => none

/-- The entries of a table in braces, from one of them to the closing brace, added to entries. -/
def entries? : Nat → Nat → Entries → List Char → Option (Entries × List Char)
  | 0, _, _, _ => none
  | fuel + 1, room, es, cs => do
    let (path, key, rest) ← name? (depthLimit - 1) cs
    match rest with
    | '=' :: rest =>
      let (v, rest) ← value? fuel room (skip rest)
      let es ← Entries.assign? path key v .declared es
      match skip rest with
      | '}' :: rest => return (es, rest)
      | ',' :: rest => entries? fuel room es rest
      | _ => none
    | _ => none

end

/-! ### Documents -/

/-- A document as far as it is read: its entries and the table that values go into. -/
structure Document where
  entries : Entries
  path : List String

namespace Document

/-- The document before anything is read. -/
def empty : Document := ⟨[], []⟩

/-- Gives a value to a name in the current table. -/
def assign? (d : Document) (path : List String) (key : String) (v : Setting) : Option Document :=
  (Entries.at? false (Entries.assign? path key v) d.path .declared d.entries).map (⟨·, d.path⟩)

/-- Opens a table and makes it the current one. -/
def declare? (d : Document) (path : List String) (key : String) : Option Document :=
  (Entries.at? false (Entries.declare? key) path .declared d.entries).map (⟨·, path ++ [key]⟩)

/-- Appends a table to a list and makes it the current one. -/
def append? (d : Document) (path : List String) (key : String) : Option Document :=
  (Entries.at? false (Entries.append? key) path .declared d.entries).map (⟨·, path ++ [key]⟩)

/-- The document after a line that is not empty, and what follows the line. -/
def line? (d : Document) (cs : List Char) : Option (Document × List Char) :=
  match cs with
  | '[' :: '[' :: rest => do
    let (path, key, rest) ← name? (depthLimit - 1) rest
    match rest with
    | ']' :: ']' :: rest => return (← d.append? path key, ← endLine? rest)
    | _ => none
  | '[' :: rest => do
    let (path, key, rest) ← name? (depthLimit - 1) rest
    match rest with
    | ']' :: rest => return (← d.declare? path key, ← endLine? rest)
    | _ => none
  | cs => do
    let (path, key, rest) ← name? (depthLimit - 1) cs
    match rest with
    | '=' :: rest =>
      let (v, rest) ← value? (2 * rest.length + 2) (depthLimit - 1) (skip rest)
      return (← d.assign? path key v, ← endLine? rest)
    | _ => none

/-- The document after all lines. -/
def lines? : Nat → Document → List Char → Option Document
  | 0, _, _ => none
  | fuel + 1, d, cs =>
    match skip cs with
    | [] => some d
    | cs =>
      match endLine? cs with
      | some rest => lines? fuel d rest
      | none => do
        let (d, rest) ← d.line? cs
        lines? fuel d rest

end Document

/-- The value that a text is; a byte order mark may stand in front. -/
def read? (text : String) : Option Setting :=
  let cs := match text.toList with
    | '\ufeff' :: cs => cs
    | cs => cs
  (Document.empty.lines? (cs.length + 1) cs).map fun d ↦ .group (settings d.entries)

/-- A list may have more items than are asked for, and a choice without content has an empty list or
an empty table as its content. -/
def conventions : Conventions where
  real? := Setting.real?
  allowsSurplus := true
  isEmptyContent
    | .list [] => true
    | .group [] => true
    | _ => false

end GerberMask.Settings.Toml
