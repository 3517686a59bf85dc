import GerberMask.Number.Decimal

/-!
# Commands

The five commands of the program and how they are written: the name of the command, then its paths
and options in any order. An option with a value is written `--name value`, `--name=value`,
`-n value`, `-n=value` or `-nvalue`; everything behind `--` is a path.
-/

namespace GerberMask.Program

/-- What the program is asked to do. -/
inductive Command where
  /-- Renders a layer into a picture, or into the mask of the layer. -/
  | render (input output : String) (config? drill? : Option String) (corrected mask : Bool)
  /-- Encodes a picture into a preview record at an address. -/
  | encode (input output : String) (address : Nat)
  /-- Decodes the preview record at an address into a picture. -/
  | decode (input output : String) (address : Nat)
  /-- Tells what a layer is and how large it is. -/
  | info (input : String)
  /-- Writes the default configuration. -/
  | config (path : String)
  deriving DecidableEq, Repr

/-- The options and paths of a command. -/
structure Arguments where
  values : List (String × String)
  flags : List String
  paths : List String

/-- An option: its name, the letter that can stand for it, and whether it has a value. -/
structure OptionForm where
  name : String
  letter? : Option Char
  hasValue : Bool

namespace Arguments

/-- The value behind a letter, with or without an equals sign. -/
def valueOf (cs : List Char) : String :=
  match cs with
  | '=' :: cs => String.ofList cs
  | cs => String.ofList cs

/-- The option that a word is, and the value that the word itself contains. -/
def option? (forms : List OptionForm) (word : String) : Option (OptionForm × Option String) :=
  match word.toList with
  | '-' :: '-' :: cs => do
    let name := cs.takeWhile (· != '=')
    let form ← forms.find? (·.name.toList == name)
    return (form, if name.length < cs.length then some (valueOf (cs.drop name.length)) else none)
  | '-' :: letter :: cs => do
    let form ← forms.find? (·.letter? == some letter)
    return (form, if cs.isEmpty then none else some (valueOf cs))
  | _ => none

/-- Sorts words into options and paths; `none` where an option is unknown or lacks its value, has
one that it should not have, or comes twice. -/
def sort? (forms : List OptionForm) : List String → Arguments → Option Arguments
  | [], a => some a
  | "--" :: rest, a => some { a with paths := a.paths ++ rest }
  | word :: rest, a =>
    if word.startsWith "-" && word != "-" then
      match option? forms word with
      | none => none
      | some (form, value?) =>
        let isNew := (a.values.lookup form.name).isNone && !a.flags.contains form.name
        if !isNew then none
        else if form.hasValue then
          match value?, rest with
          | some v, rest => sort? forms rest { a with values := (form.name, v) :: a.values }
          | none, v :: rest =>
            if v.startsWith "-" then none
            else sort? forms rest { a with values := (form.name, v) :: a.values }
          | none, [] => none
        else if value?.isSome then none
        else sort? forms rest { a with flags := form.name :: a.flags }
    else sort? forms rest { a with paths := a.paths ++ [word] }

/-- The only path. -/
def path? (a : Arguments) : Option String :=
  match a.paths with
  | [p] => some p
  | _ => none

/-- A natural number below `2 ^ bits`, zero where it is not given. -/
def number? (a : Arguments) (name : String) (bits : Nat) : Option Nat :=
  match a.values.lookup name with
  | none => some 0
  | some v => readWord? bits v.toList

end Arguments

namespace Command

/-- The path of what a command writes. -/
def outputForm : OptionForm := ⟨"output", some 'o', true⟩

/-- The place of a record in a file. -/
def addressForm : OptionForm := ⟨"address", none, true⟩

/-- The command that words ask for; `none` where they ask for none. -/
def parse? : List String → Option Command
  | "render" :: words => do
    let forms : List OptionForm :=
      [outputForm, ⟨"config", some 'c', true⟩, ⟨"drill", none, true⟩, ⟨"corrected", none, false⟩,
        ⟨"mask", none, false⟩]
    let a ← Arguments.sort? forms words ⟨[], [], []⟩
    return .render (← a.path?) (← a.values.lookup "output") (a.values.lookup "config")
      (a.values.lookup "drill") (a.flags.contains "corrected") (a.flags.contains "mask")
  | "encode" :: words => do
    let a ← Arguments.sort? [outputForm, addressForm] words ⟨[], [], []⟩
    return .encode (← a.path?) (← a.values.lookup "output") (← a.number? "address" 32)
  | "decode" :: words => do
    let a ← Arguments.sort? [outputForm, addressForm] words ⟨[], [], []⟩
    return .decode (← a.path?) (← a.values.lookup "output") (← a.number? "address" 64)
  | "info" :: words => do
    let a ← Arguments.sort? [] words ⟨[], [], []⟩
    return .info (← a.path?)
  | "config" :: words => do
    let a ← Arguments.sort? [] words ⟨[], [], []⟩
    return .config (← a.path?)
  | _ => none

end Command

end GerberMask.Program
