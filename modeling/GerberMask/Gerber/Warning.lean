import GerberMask.Board.NameError
import GerberMask.Board.Point
import GerberMask.Gerber.Aperture
import GerberMask.Number.Shortest

/-!
# Warnings

What is wrong with a document and does not end its interpretation.
-/

namespace GerberMask.Gerber

/-- Something in a document that was skipped or ignored. -/
inductive Warning where
  | extentNotFinite (lo hi : Point Float)
  | unknownMacroCode (code : Nat)
  | missingMacroArgument (index : Nat)
  | apertureRedefined (code : Nat)
  | unknownTemplate (template : String)
  | zeroLengthVectorLine
  | shortOutline (declared : Float) (parameters : Nat)
  | primitiveNotRendered (kind : PrimitiveKind)
  | cannotInterpolate (kind : PrimitiveKind)
  | cannotDrawArcs (kind : PrimitiveKind)
  | unknownPolarity (command : String)
  | unknownUnit (error : NameError) (command : String)
  | deprecatedCommand (command : String)
  | unknownExtendedCommand (command : String) (position : Nat)
  | unknownPreparatory (code position : Nat)
  | unknownOperation (code position : Nat)
  | unknownMiscellaneous (code position : Nat)
  | unknownLetter (letter : Char) (block : String) (position : Nat)
  | contourRestarted (position : Nat)
  | noOpenContour
  | contourDropped
  deriving DecidableEq, Repr

namespace Warning

/-- A code with at least two digits. -/
def twoDigits (n : Nat) : String :=
  if n < 10 then "0" ++ toString n else toString n

/-- A point in messages. -/
def pointText (p : Point Float) : String :=
  "Point \x7b x: " ++ PointLayout.diagnostic.text p.x ++ ", y: " ++
    PointLayout.diagnostic.text p.y ++ " \x7d"

/-- The end of a message that says where. -/
def atToken (position : Nat) : String :=
  " at token " ++ toString position

/-- The message that tells the user. -/
def message : Warning → String
  | extentNotFinite lo hi =>
    "ignoring non-finite extent " ++ pointText lo ++ ".." ++ pointText hi
  | unknownMacroCode code => "unknown macro primitive " ++ toString code
  | missingMacroArgument index =>
    "macro argument $" ++ toString index ++ " not supplied, using 0"
  | apertureRedefined code => "aperture D" ++ toString code ++ " redefined"
  | unknownTemplate template => "unknown aperture template '" ++ template ++ "'"
  | zeroLengthVectorLine => "zero-length vector line primitive skipped"
  | shortOutline declared parameters =>
    "outline primitive declares " ++ PointLayout.plain.text declared ++ " points but has " ++
      toString parameters ++ " parameters"
  | primitiveNotRendered kind => "macro primitive " ++ kind.name ++ " is not rendered"
  | cannotInterpolate kind => "cannot interpolate with " ++ kind.name ++ " aperture"
  | cannotDrawArcs kind => "cannot draw arcs with " ++ kind.name ++ " aperture"
  | unknownPolarity command => "unknown polarity '" ++ command ++ "' ignored"
  | unknownUnit error command => error.message ++ " in '" ++ command ++ "'"
  | deprecatedCommand command => "deprecated command '" ++ command ++ "' ignored"
  | unknownExtendedCommand command position =>
    "unknown extended command '" ++ command ++ "'" ++ atToken position
  | unknownPreparatory code position => "unknown G" ++ twoDigits code ++ atToken position
  | unknownOperation code position => "unknown D" ++ twoDigits code ++ atToken position
  | unknownMiscellaneous code position => "unknown M" ++ twoDigits code ++ atToken position
  | unknownLetter letter block position =>
    "unknown command '" ++ letter.toString ++ "' in block '" ++ block ++ "'" ++ atToken position
  | contourRestarted position =>
    "G36 inside a region" ++ atToken position ++ ", restarting contour"
  | noOpenContour => "G37 without G36"
  | contourDropped => "document ended inside a region; the open contour was dropped"

end Warning

end GerberMask.Gerber
