import GerberMask.Gerber.State

/-!
# Extended commands

Between two toggles a command is named by its first two letters. Every command touches one part of
the state: the aperture table, the macro table, the coordinate format, the polarity or the unit.
Deprecated and unknown commands give a warning, attributes do not.
-/

namespace GerberMask.Gerber

/-- Commands of an older format, which are ignored with a warning. -/
def deprecatedCommands : List String :=
  ["AS", "IN", "IP", "IR", "LN", "MI", "OF", "SF"]

/-- Attributes, which mean nothing to a drawing. -/
def attributeCommands : List String :=
  ["TF", "TA", "TO", "TD"]

namespace State

variable {α : Type} [Scalar α]

/-- Sets the polarity. -/
def setPolarity (s : State α) (args : List Char) (command : String) :
    Report GerberError (State α) :=
  match args with
  | ['D'] => .ok { s with modes.polarity := .dark }
  | ['C'] => .ok { s with modes.polarity := .clear }
  | _ => do
    .warn (.unknownPolarity command)
    return s

/-- Sets the unit. -/
def setUnit (s : State α) (args : List Char) (command : String) : Report GerberError (State α) :=
  match LengthUnit.parse (String.ofList args) with
  | .ok unit => .ok { s with modes.unit := unit }
  | .error e => do
    .warn (.unknownUnit e command)
    return s

/-- Declares a macro, to which the following commands belong. -/
def openMacro (s : State α) (args : List Char) : State α :=
  let name := String.ofList (Text.trim args)
  { s with registry := s.registry.declare ⟨name, []⟩, openMacro? := some name }

/-- Executes an extended command. -/
def extendedCommand (s : State α) (command : String) (position : Nat) :
    Report GerberError (State α) :=
  let args := command.toList.drop 2
  match String.ofList (command.toList.take 2) with
  | "AD" => do
    let (registry, _) ← s.registry.defineFrom command s.modes.unit position
    return { s with registry }
  | "AM" => .ok (s.openMacro args)
  | "FS" => do
    let format ← .ofExcept ((CoordinateFormat.parse command).mapError (·.at position))
    return { s with modes.format := format }
  | "LP" => s.setPolarity args command
  | "MO" => s.setUnit args command
  | name =>
    if name ∈ deprecatedCommands then do
      .warn (.deprecatedCommand command)
      return s
    else if name ∈ attributeCommands then .ok s
    else do
      .warn (.unknownExtendedCommand command position)
      return s

end State

end GerberMask.Gerber
