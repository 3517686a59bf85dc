/-!
# Colours

Colours of eight bits per channel, opaque or with an alpha channel.
-/

namespace GerberMask

/-- An opaque colour. -/
structure Rgb where
  r : UInt8
  g : UInt8
  b : UInt8
  deriving DecidableEq, Repr

namespace Rgb

/-- All channels off. -/
def black : Rgb := ⟨0, 0, 0⟩

/-- All channels full. -/
def white : Rgb := ⟨0xff, 0xff, 0xff⟩

instance : Inhabited Rgb := ⟨black⟩

end Rgb

/-- A colour with an alpha channel: 0 is transparent, 255 opaque. -/
structure Rgba where
  r : UInt8
  g : UInt8
  b : UInt8
  a : UInt8
  deriving DecidableEq, Repr

namespace Rgba

/-- All channels zero. -/
def transparent : Rgba := ⟨0, 0, 0, 0⟩

instance : Inhabited Rgba := ⟨transparent⟩

/-- A colour that hides what is behind it. -/
def opaqueOf (c : Rgb) : Rgba := ⟨c.r, c.g, c.b, 0xff⟩

/-- The colour without its alpha channel. -/
def rgb (c : Rgba) : Rgb := ⟨c.r, c.g, c.b⟩

end Rgba

end GerberMask
