import GerberMask.Gerber.Error
import GerberMask.Gerber.Report
import GerberMask.Text.Blank

/-!
# Aperture macros

A macro is a name and the lines that were declared with it. Expanding it with the arguments of an
aperture makes one primitive per line, in order, and looks at nothing it does not need:

* an empty line, a comment (`0`, or `0` and a blank) and an equation (`$…`) make nothing;
* a line with an unknown code makes nothing either, and its fields are not read;
* every other field is a literal or `$n`, which stands for the argument number `n`, counted from
  one, or for zero where there is no such argument.
-/

namespace GerberMask.Gerber

/-- A declared macro. -/
structure ApertureMacro where
  name : String
  lines : List String
  deriving DecidableEq, Repr

namespace ApertureMacro

/-- Cuts a text at every occurrence of a character. -/
def splitAtEach (sep : Char) (text : List Char) : List (List Char) :=
  text.splitOn sep

/-- Whether a line is empty, a comment or an equation. -/
def isSilent (line : List Char) : Bool :=
  line.isEmpty || line == ['0'] || ['0', ' '].isPrefixOf line || line.head? == some '$'

/-- The value of a field. -/
def fieldValue (args : List Float) (field : List Char) : Report MalformedNumber Float :=
  let malformed : MalformedNumber := ⟨String.ofList field⟩
  match field with
  | '$' :: rest =>
    match readWord? 64 rest with
    | none => .error malformed
    | some n =>
      match (if n = 0 then none else args[n - 1]?) with
      | some v => .ok v
      | none => do
        .warn (.missingMacroArgument n)
        return 0
  | _ =>
    match readFiniteFloat? field with
    | some v => .ok v
    | none => .error malformed

/-- The values of a row of fields, empty ones left out. -/
def fieldValues (args : List Float) : List (List Char) → Report MalformedNumber (List Float)
  | [] => .ok []
  | field :: rest =>
    if field.isEmpty then fieldValues args rest
    else do
      let v ← fieldValue args field
      let vs ← fieldValues args rest
      return v :: vs

/-- The primitive of a line, if it makes one. -/
def expandLine (args : List Float) (line : String) : Report MalformedNumber (Option Primitive) :=
  let line := Text.trim line.toList
  if isSilent line then .ok none
  else
    let fields := (splitAtEach ',' line).map Text.trim
    let codeText := fields.headD []
    match readWord? 32 codeText with
    | none => .error ⟨String.ofList codeText⟩
    | some code =>
      match PrimitiveKind.ofCode? code with
      | none => do
        .warn (.unknownMacroCode code)
        return none
      | some kind => do
        let params ← fieldValues args fields.tail
        return some ⟨kind, params⟩

/-- The primitives of a row of lines. -/
def expandLines (args : List Float) : List String → Report MalformedNumber (List Primitive)
  | [] => .ok []
  | line :: rest => do
    let p? ← expandLine args line
    let ps ← expandLines args rest
    return p?.toList ++ ps

/-- The primitives of a macro with the given arguments. -/
def expand (m : ApertureMacro) (args : List Float) : Report MalformedNumber (List Primitive) :=
  expandLines args m.lines

end ApertureMacro

end GerberMask.Gerber
