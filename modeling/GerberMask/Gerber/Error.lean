/-!
# Errors of a document

Four conditions make the rest of a document meaningless, and a fifth makes a shape too large to
hold. Each is reported with the index of the token that caused it; everything else that is wrong
with a document is a warning.
-/

namespace GerberMask.Gerber

/-- A number that cannot be read, before its place is known. -/
structure MalformedNumber where
  text : String
  deriving DecidableEq, Repr

/-- The message that tells the user. -/
def MalformedNumber.message (e : MalformedNumber) : String :=
  "Malformed number '" ++ e.text ++ "'"

/-- Why a document cannot be interpreted. -/
inductive Fault where
  /-- A D word names an aperture without a definition. -/
  | undefinedAperture (code : Nat)
  /-- A number that is needed cannot be read. -/
  | malformedNumber (text : String)
  /-- An aperture is defined by a macro without a declaration. -/
  | unknownMacro (name : String)
  /-- Something is drawn before an aperture was selected. -/
  | noApertureSelected
  /-- A regular polygon has more vertices than fit into memory. -/
  | tooManyVertices (count : Nat)
  deriving DecidableEq, Repr

/-- The message of a fault, without its place. -/
def Fault.message : Fault → String
  | undefinedAperture code => "Undefined aperture D" ++ toString code
  | malformedNumber text => MalformedNumber.message ⟨text⟩
  | unknownMacro name => "Unknown aperture macro '" ++ name ++ "'"
  | noApertureSelected => "No aperture selected"
  | tooManyVertices count => "Too many vertices (" ++ toString count ++ ")"

/-- A fault and the index of the token that caused it. -/
structure GerberError where
  fault : Fault
  position : Nat
  deriving DecidableEq, Repr

/-- The message that tells the user. -/
def GerberError.message (e : GerberError) : String :=
  e.fault.message ++ " at token " ++ toString e.position

/-- Places a malformed number. -/
def MalformedNumber.at (e : MalformedNumber) (position : Nat) : GerberError :=
  ⟨.malformedNumber e.text, position⟩

end GerberMask.Gerber
