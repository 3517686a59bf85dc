import GerberMask.Gerber.ApertureMacro
import GerberMask.Gerber.Table

/-!
# The aperture registry

The apertures and macros that a document has declared so far. A definition is worked out when it is
read: the macro is expanded and lengths are converted with what is in force at that moment, and
the result is what the registry holds. Nothing is ever removed; a new definition of the same code
replaces the old one, with a warning.
-/

namespace GerberMask.Gerber

/-- The declared macros and apertures of a document. -/
structure Registry where
  macros : Table String (List String)
  apertures : Table Nat (List Primitive)

namespace Registry

/-- The registry at the start of a document. -/
def empty : Registry := ⟨.empty, .empty⟩

instance : Inhabited Registry := ⟨empty⟩

/-- The macro of a name. -/
def findMacro? (r : Registry) (name : String) : Option ApertureMacro :=
  (r.macros.get? name).map fun lines ↦ ⟨name, lines⟩

/-- Declares a macro. -/
def declare (r : Registry) (m : ApertureMacro) : Registry :=
  { r with macros := r.macros.insert m.name m.lines }

/-- Adds a line at the end of a macro. -/
def extend (r : Registry) (name line : String) : Registry :=
  { r with macros := r.macros.insert name ((r.macros.get? name).getD [] ++ [line]) }

/-- The primitives of an aperture. -/
def get? (r : Registry) (code : Nat) : Option (List Primitive) :=
  r.apertures.get? code

/-- Whether an aperture is defined. -/
def contains (r : Registry) (code : Nat) : Bool :=
  r.apertures.contains code

/-- The number of apertures. -/
def size (r : Registry) : Nat :=
  r.apertures.size

/-- Defines an aperture. -/
def define {ε : Type} (r : Registry) (code : Nat) (primitives : List Primitive) :
    Report ε Registry := do
  if r.contains code then .warn (.apertureRedefined code)
  return { r with apertures := r.apertures.insert code primitives }

/-! ### Definitions in a document -/

/-- The arguments of a definition: numbers between letters `X`, empty ones left out. -/
def readArguments (text : List Char) : Except MalformedNumber (List Float) :=
  let fields := ((ApertureMacro.splitAtEach 'X' text).map Text.trim).filter (!·.isEmpty)
  fields.mapM fun field ↦
    match readFiniteFloat? field with
    | some v => .ok v
    | none => .error ⟨String.ofList field⟩

/-- The primitives of a definition: a standard letter first, then a declared macro; `none` for a
template of at most one character that is neither. -/
def resolve (r : Registry) (template : String) (args : List Float) (unit : LengthUnit)
    (position : Nat) : Report GerberError (Option (List Primitive)) :=
  match PrimitiveKind.ofTemplate? template, r.findMacro? template with
  | some kind, _ => .ok (some [(Primitive.mk kind args).inInches unit])
  | none, some m => do
    let ps ← (m.expand args).mapError (·.at position)
    return some (ps.map (·.inInches unit))
  | none, none =>
    if template.length ≤ 1 then do
      .warn (.unknownTemplate template)
      return none
    else .error ⟨.unknownMacro template, position⟩

/-- The parts of a definition such as `ADD10C,0.010X0.004`: its code, its template and the text of
its arguments. -/
def splitDefinition (command : String) : Option (Nat × String × List Char) :=
  let body := command.toList
  let body := if ['A', 'D'].isPrefixOf body then body.drop 2 else body
  let body := if ['D'].isPrefixOf body then body.drop 1 else body
  let rest := body.dropWhile Char.isDigit
  (readWord? 32 (body.takeWhile Char.isDigit)).map fun code ↦
    let template := rest.takeWhile (· != ',')
    let args := (rest.dropWhile (· != ',')).drop 1
    (code, Text.trimmed (String.ofList template), args)

/-- Executes a definition. Answers the code that was defined, if one was. -/
def defineFrom (r : Registry) (command : String) (unit : LengthUnit) (position : Nat) :
    Report GerberError (Registry × Option Nat) :=
  match splitDefinition command with
  | none => .error ⟨.malformedNumber command, position⟩
  | some (code, template, argsText) => do
    let args ← .ofExcept ((readArguments argsText).mapError (·.at position))
    match ← r.resolve template args unit position with
    | none => return (r, none)
    | some primitives =>
      let r ← r.define code primitives
      return (r, some code)

end Registry

end GerberMask.Gerber
