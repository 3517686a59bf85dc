import GerberMask.Board.Affine
import GerberMask.Board.Bounds
import GerberMask.Board.Color
import GerberMask.Board.LengthUnit
import GerberMask.Gerber.Path
import GerberMask.Raster.Error

/-!
# Framing

A board is framed so that the least x of its bounds is column 0 and the greatest y is row 0. A
correction comes before the frame: a rotation about the corner of least x and y, then a shift to
the right and down the image.

The maps are made and composed by a library of transformations (`TransformLibrary`), which is a
parameter, and so are the numbers of a board and those of the maps. The raster makes its maps in
single precision (`affineMaps`).
-/

namespace GerberMask.Raster

/-! ### Options -/

/-- The size, the density and the colour of a raster. -/
structure RenderOptions where
  width : Nat
  height : Nat
  /-- Pixels per inch. -/
  ppiX : Float
  ppiY : Float
  /-- The colour of what adds material. -/
  ink : Rgb
  deriving DecidableEq, Repr

/-- The ink of copper. -/
def defaultInk : Rgb := ⟨0xff, 0x00, 0x00⟩

/-- A density that can be used: finite and above zero. -/
def isUsableDensity (v : Float) : Bool :=
  v.isFinite && 0 < v

/-- Refuses a raster without pixels and a density that cannot be used. -/
def RenderOptions.validate (o : RenderOptions) : Except RasterError Unit :=
  if o.width = 0 ∨ o.height = 0 then .error (.invalidResolution o.width o.height)
  else if isUsableDensity o.ppiX && isUsableDensity o.ppiY then .ok ()
  else .error (.invalidDensity o.ppiX o.ppiY)

/-! ### Corrections -/

/-- The alignment of a panel: shifts in millimetres to the right and down the image, and a
counter-clockwise rotation in degrees. -/
structure Correction (α : Type) where
  offsetX : α
  offsetY : α
  rotation : α
  deriving DecidableEq, Repr

namespace Correction

variable {α : Type} [Scalar α]

/-- The correction that moves nothing. -/
def identity : Correction α := ⟨Scalar.zero, Scalar.zero, Scalar.zero⟩

/-- Whether a correction moves nothing. -/
def isIdentity (c : Correction α) : Bool :=
  Scalar.same c.offsetX Scalar.zero && Scalar.same c.offsetY Scalar.zero &&
    Scalar.same c.rotation Scalar.zero

end Correction

/-! ### Libraries of maps -/

/-- What makes and composes maps of the plane. -/
structure TransformLibrary (β γ : Type) where
  /-- The map that takes `x` and `y` to `x · sx + y · kx + tx` and `x · ky + y · sy + ty`. -/
  fromRow (sx ky kx sy tx ty : β) : γ
  /-- The rotation by an angle in degrees about a point. -/
  rotationAt (degrees : β) (pivot : Point β) : γ
  /-- A map, then a displacement. -/
  postTranslate (m : γ) (dx dy : β) : γ
  /-- A map, then another one. -/
  postConcat (m n : γ) : γ
  /-- Where a map takes a point. -/
  mapPoint (m : γ) (p : Point β) : Point β

/-- Maps by their coefficients, given zero, one, and the cosine and sine of an angle in degrees. -/
def affineMaps {β : Type} [Add β] [Mul β] [Neg β] (zero one : β) (cosine sine : β → β) :
    TransformLibrary β (Affine β) where
  fromRow := Affine.mk
  rotationAt degrees pivot :=
    ((Affine.shift one zero (-pivot.x) (-pivot.y)).andThen
      (.rotation zero (cosine degrees) (sine degrees))).andThen (.shift one zero pivot.x pivot.y)
  postTranslate m dx dy := m.andThen (.shift one zero dx dy)
  postConcat := Affine.andThen
  mapPoint := Affine.apply

/-! ### Maps of a board -/

/-- What a frame depends on: the extent of the board and the density. -/
structure FrameNumbers (α : Type) where
  minX : α
  minY : α
  maxY : α
  ppiX : α
  ppiY : α

section Library

variable {α β γ : Type} [Scalar α] [Mul β] [Neg β] (lib : TransformLibrary β γ) (narrow : α → β)

/-- A correction on the board: a rotation about a point, then a displacement to the right and down
the image, which is towards smaller y. -/
def Correction.transformBy (c : Correction α) (pivot : Point α) : γ :=
  lib.postTranslate (lib.rotationAt (narrow c.rotation) (pivot.map narrow))
    (narrow (LengthUnit.inchesOfMm c.offsetX)) (narrow (-LengthUnit.inchesOfMm c.offsetY))

namespace FrameNumbers

/-- Board to pixels. -/
def frameBy (zero : β) (n : FrameNumbers α) : γ :=
  lib.fromRow (narrow n.ppiX) zero zero (-narrow n.ppiY) (-narrow n.minX * narrow n.ppiX)
    (narrow n.maxY * narrow n.ppiY)

/-- Board to pixels, with a correction if one is given; one that moves nothing is left out. -/
def boardMapBy (zero : β) (n : FrameNumbers α) (c? : Option (Correction α)) : γ :=
  match c?.filter (!·.isIdentity) with
  | none => n.frameBy lib narrow zero
  | some c =>
    lib.postConcat (c.transformBy lib narrow ⟨n.minX, n.minY⟩) (n.frameBy lib narrow zero)

end FrameNumbers

end Library

/-! ### Maps in single precision -/

/-- The maps of the raster. -/
def rasterMaps : TransformLibrary Float32 (Affine Float32) :=
  affineMaps 0 1 (fun degrees ↦ (Gerber.radians32 degrees).cos)
    fun degrees ↦ (Gerber.radians32 degrees).sin

/-- The map of a correction on the board. -/
def Correction.transform (c : Correction Float) (b : Bounds) : Affine Float32 :=
  c.transformBy rasterMaps Float.toFloat32 ⟨b.minX, b.minY⟩

namespace RenderOptions

/-- The numbers of a frame. -/
def numbers (o : RenderOptions) (b : Bounds) : FrameNumbers Float :=
  ⟨b.minX, b.minY, b.maxY, o.ppiX, o.ppiY⟩

/-- Board to pixels without a correction. -/
def frame (o : RenderOptions) (b : Bounds) : Affine Float32 :=
  (o.numbers b).frameBy rasterMaps Float.toFloat32 0

/-- Board to pixels; a correction that moves nothing is left out. -/
def boardTransform (o : RenderOptions) (b : Bounds) (c? : Option (Correction Float)) :
    Affine Float32 :=
  (o.numbers b).boardMapBy rasterMaps Float.toFloat32 0 c?

end RenderOptions

end GerberMask.Raster
