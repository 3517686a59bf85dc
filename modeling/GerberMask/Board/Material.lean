import GerberMask.Board.NameError
import GerberMask.Text.Blank
import GerberMask.Text.LetterCase

/-!
# Photoresist

Negative resist hardens where light falls, so what is to stay is exposed. Positive resist is the
other way round and needs the inverted mask.
-/

namespace GerberMask

/-- The kind of resist on the board. -/
inductive Material where
  | negative
  | positive
  deriving DecidableEq, Repr, Inhabited

namespace Material

/-- Whether the mask is inverted. -/
def inverts : Material → Bool
  | negative => false
  | positive => true

/-- The name that is written. -/
def name : Material → String
  | negative => "negative"
  | positive => "positive"

/-- The material that a word names, in any letter case and with blanks around it. -/
def parse (word : String) : Except NameError Material :=
  let name := Text.lower (Text.trimmed word)
  if name ∈ ["negative", "neg"] then .ok negative
  else if name ∈ ["positive", "pos"] then .ok positive
  else .error (.unknownMaterial name)

end Material

end GerberMask
