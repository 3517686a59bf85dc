/-!
# Unknown names

Units and resist materials are named by words; a word that names none is refused.
-/

namespace GerberMask

/-- A word that should name something and does not. -/
inductive NameError where
  /-- No unit has this name; the word is kept as it was given. -/
  | unknownUnit (word : String)
  /-- No resist material has this name; the word is kept trimmed and in lower case. -/
  | unknownMaterial (word : String)
  deriving DecidableEq, Repr

/-- The message that tells the user. -/
def NameError.message : NameError → String
  | unknownUnit word => "Unknown unit: " ++ word
  | unknownMaterial word => "Unknown material: " ++ word

end GerberMask
