import GerberMask.Settings.Json.Number
import GerberMask.Settings.Json.Text

/-!
# Reading JSON

The reader follows the grammar: a value is a word, a number, a text, a list or a group, with blanks
between all parts. It returns a value together with what follows it, and takes fuel for its
recursion: of two calls in a row at least one comes after a character of its own, so two units of
fuel for every character are always enough.
-/

namespace GerberMask.Settings.Json

/-- The blanks of JSON. -/
def isBlank (c : Char) : Bool :=
  c == ' ' || c == '\t' || c == '\n' || c == '\r'

/-- Drops the blanks in front. -/
def skip (cs : List Char) : List Char :=
  cs.dropWhile isBlank

/-- The words that are values. -/
def words : List (List Char × Setting) :=
  [("null".toList, .nothing), ("true".toList, .flag true), ("false".toList, .flag false)]

/-- The word at the beginning of a text. -/
def word? (cs : List Char) : Option (Setting × List Char) :=
  words.findSome? fun (w, v) ↦ if w.isPrefixOf cs then some (v, cs.drop w.length) else none

/-- A group whose names can all be read. -/
def groupOf (entries : List (Option (List Char) × Setting)) : Setting :=
  match entries.mapM fun (key?, v) ↦ key?.map fun key ↦ (String.ofList key, v) with
  | some entries => .group entries
  | none => .unreadable

mutual

/-- The value at the beginning of a text. -/
def value? : Nat → List Char → Option (Setting × List Char)
  | 0, _ => none
  | fuel + 1, cs =>
    match skip cs with
    | '"' :: rest => do
      let (ps, rest) ← pieces? rest
      return (((decode? ps).map fun cs ↦ .text (String.ofList cs)).getD .unreadable, rest)
    | '[' :: rest =>
      match skip rest with
      | ']' :: rest => some (.list [], rest)
      | rest => (items? fuel rest).map fun (vs, rest) ↦ (.list vs, rest)
    | '{' :: rest =>
      match skip rest with
      | '}' :: rest => some (.group [], rest)
      | rest => (entries? fuel rest).map fun (es, rest) ↦ (groupOf es, rest)
    | cs => (word? cs).or ((Numeral.read? cs).map fun (n, rest) ↦ (n.setting, rest))

/-- The values of a list, from one of them to the closing bracket. -/
def items? : Nat → List Char → Option (List Setting × List Char)
  | 0, _ => none
  | fuel + 1, cs => do
    let (v, rest) ← value? fuel cs
    match skip rest with
    | ']' :: rest => return ([v], rest)
    | ',' :: rest =>
      let (vs, rest) ← items? fuel rest
      return (v :: vs, rest)
    | _ => none

/-- The entries of a group, from one of them to the closing brace. -/
def entries? : Nat → List Char → Option (List (Option (List Char) × Setting) × List Char)
  | 0, _ => none
  | fuel + 1, cs =>
    match skip cs with
    | '"' :: rest => do
      let (ps, rest) ← pieces? rest
      match skip rest with
      | ':' :: rest =>
        let (v, rest) ← value? fuel rest
        let entry := (decode? ps, v)
        match skip rest with
        | '}' :: rest => return ([entry], rest)
        | ',' :: rest =>
          let (es, rest) ← entries? fuel rest
          return (entry :: es, rest)
        | _ => none
      | _ => none
    | _ => none

end

/-- The value that a text is. -/
def read? (text : String) : Option Setting :=
  match value? (2 * text.length + 2) text.toList with
  | some (v, rest) => if (skip rest).isEmpty then some v else none
  | none => none

/-- A list has as many items as are asked for, and a choice without content has the content
`null`. -/
def conventions : Conventions where
  real? := Setting.real?
  allowsSurplus := false
  isEmptyContent
    | .nothing => true
    | _ => false

end GerberMask.Settings.Json
