import GerberMask.Board.Color
import GerberMask.Board.Material
import GerberMask.Settings.Setting

/-!
# Fields

A field ties a part of a record to a name in a settings file: how the part is written and how a
written value becomes the part. A section is a row of fields, so that its reader and its writer come
from one description. A section is read from a group of entries, in which every field may be named
once and unknown names are passed over, or from a list of values in the order of the fields. What
is not mentioned keeps its default.
-/

namespace GerberMask.Settings

/-- How values of a type are written and read. A value that is not set is not written. -/
structure Codec (τ : Type) where
  write? : τ → Option Setting
  read? : Setting → Option τ

namespace Codec

/-- Flags. -/
def flag : Codec Bool := ⟨fun b ↦ some (.flag b), Setting.flag?⟩

/-- Texts. -/
def text : Codec String := ⟨fun s ↦ some (.text s), Setting.text?⟩

/-- Binary numbers. -/
def real (conv : Conventions) : Codec Float := ⟨fun x ↦ some (.real x), conv.real?⟩

/-- Natural numbers of 32 bits. -/
def word32 : Codec UInt32 where
  write? n := some (.integer n.toNat)
  read? v := (v.integerWithin? 0 0xffffffff).map fun n ↦ UInt32.ofNat n.toNat

/-- Integers of 32 bits. -/
def int32 : Codec Int32 where
  write? n := some (.integer n.toInt)
  read? v := (v.integerWithin? (-0x80000000) 0x7fffffff).map Int32.ofInt

/-- Natural numbers of 8 bits. -/
def byte : Codec UInt8 where
  write? n := some (.integer n.toNat)
  read? v := (v.integerWithin? 0 0xff).map fun n ↦ UInt8.ofNat n.toNat

/-- A value that may be left unset. -/
def optional {τ : Type} (c : Codec τ) : Codec (Option τ) where
  write? value? := value?.bind c.write?
  read?
    | .nothing => some none
    | v => (c.read? v).map some

/-- Colours: a list of red, green and blue. -/
def rgb (conv : Conventions) : Codec Rgb where
  write? c := some (.list [.integer c.r.toNat, .integer c.g.toNat, .integer c.b.toNat])
  read?
    | .list (r :: g :: b :: surplus) =>
      if surplus.isEmpty || conv.allowsSurplus then do
        return ⟨← byte.read? r, ← byte.read? g, ← byte.read? b⟩
      else none
    | _ => none

/-- The material with exactly this name. -/
def materialNamed? (name : String) : Option Material :=
  [Material.negative, .positive].find? (·.name == name)

/-- Resist materials: a name, or a group with the name as its only entry and empty content. -/
def material (conv : Conventions) : Codec Material where
  write? m := some (.text m.name)
  read?
    | .text name => materialNamed? name
    | .group [(name, content)] => if conv.isEmptyContent content then materialNamed? name else none
    | _ => none

end Codec

/-- A named part of a record. -/
structure Field (σ : Type) where
  key : String
  /-- What is written for the part of a record. -/
  write? : σ → Option Setting
  /-- The record with its part as a written value says. -/
  read? : σ → Setting → Option σ

namespace Field

variable {σ τ : Type}

/-- The field of a part that is written and read in a given way. -/
def of (key : String) (c : Codec τ) (get : σ → τ) (put : σ → τ → σ) : Field σ where
  key := key
  write? s := c.write? (get s)
  read? s v := (c.read? v).map (put s)

/-- The record after reading this field from a group, which may name it once or not at all. -/
def readFrom? (f : Field σ) (entries : List (String × Setting)) (s : σ) : Option σ :=
  match entries.filter (·.1 == f.key) with
  | [] => some s
  | [(_, v)] => f.read? s v
  | _ => none

end Field

/-- A row of fields with the record that holds before anything is read. -/
structure Schema (σ : Type) where
  fields : List (Field σ)
  default : σ

namespace Schema

variable {σ : Type}

/-- The entries that are written for a record. -/
def entries (s : Schema σ) (value : σ) : List (String × Setting) :=
  s.fields.filterMap fun f ↦ (f.write? value).map (f.key, ·)

/-- The record that a value describes. -/
def read? (s : Schema σ) (conv : Conventions) : Setting → Option σ
  | .group entries => s.fields.foldlM (fun value f ↦ f.readFrom? entries value) s.default
  | .list items =>
    if items.length ≤ s.fields.length || conv.allowsSurplus then
      (s.fields.zip items).foldlM (fun value (f, item) ↦ f.read? value item) s.default
    else none
  | .moment => some s.default
  | _ => none

/-- A record as a value of its own. -/
def codec (s : Schema σ) (conv : Conventions) : Codec σ where
  write? value := some (.group (s.entries value))
  read? := s.read? conv

end Schema

end GerberMask.Settings
