/-!
# Settings as they are written

What a settings file says, whatever its format: flags, numbers, texts, lists and groups of named
entries. A value can also be well formed without denoting anything that a setting could be, such as
a number beyond all binary numbers or half of a surrogate pair; such a value does no harm under a
name that nobody asks for.
-/

namespace GerberMask.Settings

/-- A value in a settings file. -/
inductive Setting where
  /-- No value, written as such. -/
  | nothing
  | flag (value : Bool)
  | integer (value : Int)
  | real (value : Float)
  | text (value : String)
  /-- A date or a time of day. -/
  | moment
  /-- Well formed, but without a meaning. -/
  | unreadable
  | list (items : List Setting)
  /-- Named entries in their order; a name may come twice. -/
  | group (entries : List (String × Setting))
  deriving Inhabited

namespace Setting

/-- The flag that a value is. -/
def flag? : Setting → Option Bool
  | flag b => some b
  | _ => none

/-- The integer that a value is, within limits. -/
def integerWithin? (low high : Int) : Setting → Option Int
  | integer n => if low ≤ n ∧ n ≤ high then some n else none
  | _ => none

/-- The binary number nearest to an integer. -/
def floatOfInt (n : Int) : Float :=
  if n < 0 then -Float.ofNat n.natAbs else Float.ofNat n.natAbs

/-- The number that a value is; an integer counts as one. -/
def real? : Setting → Option Float
  | real x => some x
  | integer n => some (floatOfInt n)
  | _ => none

/-- The text that a value is. -/
def text? : Setting → Option String
  | text s => some s
  | _ => none

end Setting

/-- How the values of a format are read as settings. -/
structure Conventions where
  /-- The number that a value is. -/
  real? : Setting → Option Float
  /-- A list may have more items than are asked for. -/
  allowsSurplus : Bool
  /-- Whether a value can stand behind the name of a choice that has no content. -/
  isEmptyContent : Setting → Bool

end GerberMask.Settings
