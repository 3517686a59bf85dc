import GerberMask.Gerber.Block
import GerberMask.Gerber.Extended
import GerberMask.Gerber.Token

/-!
# Interpretation

A document is interpreted token by token: `State.step` is the whole meaning of a token, and a run is
the fold of it over the tokens with their indices. A toggle switches between blocks and extended
commands. After a macro declaration, commands are the lines of the macro until the next toggle.
After a stop, tokens mean nothing.
-/

namespace GerberMask.Gerber

namespace State

variable {α : Type} [Scalar α]

/-- Executes a toggle. -/
def toggle (s : State α) : State α :=
  { s with modes.extended := !s.modes.extended, openMacro? := none }

/-- Executes a command. -/
def command (s : State α) (text : String) (position : Nat) : Report GerberError (State α) :=
  match s.openMacro? with
  | some name => .ok { s with registry := s.registry.extend name text }
  | none =>
    if s.modes.extended then s.extendedCommand text position else s.block text position

/-- Executes a token. -/
def step (s : State α) (position : Nat) (t : Token) : Report GerberError (State α) :=
  if s.modes.stoppedAt?.isSome then .ok s
  else
    match t with
    | .toggle => .ok s.toggle
    | .command text => s.command text position

/-- Executes tokens with their indices, one after the other. -/
def runFrom (r : Report GerberError (State α)) (tokens : List (Token × Nat)) :
    Report GerberError (State α) :=
  tokens.foldl (fun r t ↦ r.bind (·.step t.2 t.1)) r

/-- Executes the tokens of a document. -/
def run (s : State α) (tokens : List Token) : Report GerberError (State α) :=
  runFrom (.ok s) tokens.zipIdx

end State

/-- How an interpretation ended. -/
inductive Termination where
  /-- All tokens were executed. -/
  | endOfInput
  /-- The token with this index stopped it. -/
  | stopped (position : Nat)
  deriving DecidableEq, Repr

/-- What a document draws. -/
structure Interpretation where
  items : Array DrawItem
  bounds : Bounds
  termination : Termination
  /-- The number of apertures that were defined. -/
  apertures : Nat

namespace Interpretation

/-- Whether the document stopped before its end. -/
def isStopped (i : Interpretation) : Bool :=
  i.termination != .endOfInput

/-- The number of items that add material. -/
def darkCount (i : Interpretation) : Nat :=
  i.items.countP (·.isDark)

/-- The result of a run. -/
def ofState {α : Type} (s : State α) : Interpretation where
  items := s.drawing.items
  bounds := s.drawing.bounds
  termination := (s.modes.stoppedAt?.map .stopped).getD .endOfInput
  apertures := s.registry.size

/-- The end of a document; a region that is still open is dropped. -/
def finish {α : Type} (s : State α) : Report GerberError Interpretation := do
  if s.modes.region?.isSome then .warn .contourDropped
  return ofState s

end Interpretation

/-- Interprets a document with coordinates in any scalar, within a given extent. -/
def interpretOver (α : Type) [Scalar α] (source : String) (bounds : Bounds) :
    Report GerberError Interpretation := do
  let s ← (State.initial bounds : State α).run (Token.scan source)
  Interpretation.finish s

/-- Interprets a document, growing a given extent. -/
def interpretWithin (source : String) (bounds : Bounds) : Report GerberError Interpretation :=
  interpretOver Float source bounds

/-- Interprets a document. -/
def interpret (source : String) : Report GerberError Interpretation :=
  interpretWithin source .empty

end GerberMask.Gerber
