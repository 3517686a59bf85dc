import GerberMask.Board.Color
import GerberMask.Text.FileName
import GerberMask.Text.LetterCase

/-!
# Kinds of layers

Layout programs name their files by well-known extensions. The extension gives a layer its kind,
and the kind its display name and default colour; an unknown extension makes a generic layer.
-/

namespace GerberMask

/-- What a layer of a board is for. -/
inductive LayerKind where
  | topCopper
  | bottomCopper
  /-- An inner copper layer, counted from 1. -/
  | innerCopper (n : Nat)
  | topSolderMask
  | bottomSolderMask
  | topSilkscreen
  | bottomSilkscreen
  | topPaste
  | bottomPaste
  | boardOutline
  | milling
  | drillHoles
  | generic
  deriving DecidableEq, Repr

namespace LayerKind

/-- The extensions that are known, in lower case. -/
def extensions : List (String × LayerKind) :=
  [("gtl", topCopper), ("gbl", bottomCopper), ("g1", innerCopper 1), ("g2", innerCopper 2),
    ("g3", innerCopper 3), ("g4", innerCopper 4), ("gts", topSolderMask),
    ("gbs", bottomSolderMask), ("gto", topSilkscreen), ("gbo", bottomSilkscreen),
    ("gtp", topPaste), ("gbp", bottomPaste), ("gko", boardOutline), ("gm8", boardOutline),
    ("gm9", milling), ("xln", drillHoles), ("txt", drillHoles)]

/-- The kind for an extension, with or without points in front. -/
def ofExtension (ext : String) : LayerKind :=
  let name := Text.lower (String.ofList (ext.toList.dropWhile (· == '.')))
  (extensions.lookup name).getD generic

/-- The kind for a file. -/
def ofPath (path : String) : LayerKind :=
  ((Text.extension? path).map ofExtension).getD generic

/-- The default display colour. -/
def color : LayerKind → Rgb
  | topCopper => ⟨0xff, 0x00, 0x00⟩
  | bottomCopper => ⟨0x00, 0x00, 0xff⟩
  | innerCopper 1 => ⟨0xbc, 0x8e, 0x00⟩
  | innerCopper 2 => ⟨0x70, 0xdb, 0xfa⟩
  | innerCopper _ => ⟨0x00, 0xff, 0xff⟩
  | topSolderMask => ⟨0x80, 0x00, 0x80⟩
  | bottomSolderMask => ⟨0xff, 0x00, 0xff⟩
  | topSilkscreen => ⟨0xff, 0xff, 0x00⟩
  | bottomSilkscreen => ⟨0x80, 0x80, 0x00⟩
  | topPaste => ⟨0x80, 0x80, 0x80⟩
  | bottomPaste => ⟨0x80, 0x00, 0x00⟩
  | boardOutline => ⟨0xff, 0x99, 0x00⟩
  | milling => ⟨0x00, 0x80, 0x00⟩
  | drillHoles => ⟨0xc0, 0xc0, 0xc0⟩
  | generic => ⟨0x00, 0xff, 0xff⟩

/-- The display name. -/
def name : LayerKind → String
  | topCopper => "Copper top"
  | bottomCopper => "Copper bottom"
  | innerCopper n => "Copper inner " ++ toString n
  | topSolderMask => "Soldermask top"
  | bottomSolderMask => "Soldermask bottom"
  | topSilkscreen => "Silkscreen top"
  | bottomSilkscreen => "Silkscreen bottom"
  | topPaste => "Paste top"
  | bottomPaste => "Paste bottom"
  | boardOutline => "Outline"
  | milling => "Milling"
  | drillHoles => "Drills"
  | generic => "layer"

/-- Whether the layer is copper. -/
def isCopper : LayerKind → Bool
  | topCopper | bottomCopper | innerCopper _ => true
  | _ => false

/-- Whether the layer lies on the bottom side, so that it is seen through the board. -/
def isBottom : LayerKind → Bool
  | bottomCopper | bottomSolderMask | bottomSilkscreen | bottomPaste => true
  | _ => false

end LayerKind

end GerberMask
