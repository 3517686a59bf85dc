import GerberMask.Proofs.Gerber.FlashFaults
import GerberMask.Raster.Render

/-!
# Documents that can be painted

A raster that can be made is painted with any items that have paths: the area of a shape is found
exactly if its path is (`Area.ofShape?_eq_none_iff`), and painting looks at nothing else. So whether
a document can be interpreted and its drawing painted is a question about the primitives that it
flashes: no polygon may have more vertices than can be held, and no obround a negative side.
-/

namespace GerberMask.Raster

open GerberMask.Gerber (DrawItem Shape Primitive Flashes Interpretation interpretOver)

/-! ### Painting -/

theorem Area.ofShape?_eq_none_iff {height : Nat} {m : Affine Float} {s : Shape} :
    Area.ofShape? height m s = none ↔ s.toPath? = none := by
  rw [Area.ofShape?, Option.map_eq_none_iff]
  cases s with
  | stroke path width cap => exact iff_of_false (by rintro ⟨⟩) (by rintro ⟨⟩)
  | _ => rw [shapeCorners?.eq_def]; exact Option.map_eq_none_iff

namespace RenderOptions

/-- Items can be painted exactly if all of them have paths. The induction is on the items, with the
image as it comes. -/
theorem paintItems_ok_iff (o : RenderOptions) {items : List DrawItem} {m : Affine Float}
    {img : Image Rgba} :
    (∃ img', o.paintItems items m img = .ok img') ↔
      ∀ item ∈ items, item.shape.toPath? ≠ none := by
  induction items generalizing img with
  | nil => exact iff_of_true ⟨img, rfl⟩ (by simp)
  | cons item items ih =>
    rw [paintItems, List.foldlM_cons, List.forall_mem_cons]
    cases harea : Area.ofShape? img.height m item.shape with
    | none =>
      refine iff_of_false ?_ fun h ↦ h.1 (Area.ofShape?_eq_none_iff.1 harea)
      rintro ⟨img', h⟩
      simp only [paintShape, harea] at h
      cases h
    | some a =>
      have hpath : item.shape.toPath? ≠ none := fun h ↦ by
        rw [Area.ofShape?_eq_none_iff.2 h] at harea
        cases harea
      rw [and_iff_right hpath, ← ih]
      simp only [paintShape, harea]
      rfl

theorem render_ok_iff {o : RenderOptions} (hvalid : o.validate = .ok ())
    (hpaintable : checkPaintable o.width o.height = .ok ()) {items : List DrawItem} {b : Bounds}
    {c? : Option (Correction Float)} :
    (∃ img, o.render items b c? = .ok img) ↔ ∀ item ∈ items, item.shape.toPath? ≠ none := by
  rw [← o.paintItems_ok_iff, render, hvalid, hpaintable]
  cases o.paintItems items (widen (o.boardTransform b c?))
    (.solid o.width o.height .transparent) with
  | error e => exact iff_of_false (by rintro ⟨_, ⟨⟩⟩) (by rintro ⟨_, ⟨⟩⟩)
  | ok img => exact iff_of_true ⟨_, rfl⟩ ⟨_, rfl⟩

end RenderOptions

/-! ### Documents -/

variable {α : Type} [Scalar α]

variable (α) in
/-- **What keeps a document from being painted.** An interpretation fails for want of memory exactly
if the document flashes a polygon with more vertices than can be held. If it ends, an item has no
path exactly if the document flashes an obround with a negative side, and the drawing can be painted
on a raster that can be made exactly if it flashes none. -/
theorem paintable_documents (source : String) (bounds : Bounds) :
    ((∃ n position, (interpretOver α source bounds).result =
        .error ⟨.tooManyVertices n, position⟩) ↔
      ∃ p, Flashes α source bounds p ∧ p.excessVertices?.isSome) ∧
    ∀ i, (interpretOver α source bounds).result = .ok i →
      ((∃ item ∈ i.items, item.shape.toPath? = none) ↔
        ∃ p, Flashes α source bounds p ∧ p.IsPathless) ∧
      ∀ (o : RenderOptions) (b : Bounds) (c? : Option (Correction Float)),
        o.validate = .ok () → checkPaintable o.width o.height = .ok () →
        ((∃ img, o.render i.items.toList b c? = .ok img) ↔
          ∀ p, Flashes α source bounds p → ¬ p.IsPathless) := by
  refine ⟨Gerber.tooManyVertices_iff, fun i hi ↦ ⟨Gerber.exists_pathless_iff hi, ?_⟩⟩
  intro o b c? hvalid hpaintable
  have hpathless := not_congr (Gerber.exists_pathless_iff hi)
  simp only [not_exists, not_and] at hpathless
  rw [RenderOptions.render_ok_iff hvalid hpaintable, ← hpathless]
  simp only [Array.mem_toList_iff, ne_eq]

/-- A polygon with `10 ^ 30` vertices, and an obround with a negative width on a small raster. -/
theorem paintable_documents_negative_width :
    (∃ p, Flashes Float "%ADD10P,1X1e30*%D10*D03*" .empty p ∧ p.excessVertices?.isSome) ∧
    ∃ i, (Gerber.interpret "%ADD10O,-1X1*%D10*D03*").result = .ok i ∧
      (∃ p, Flashes Float "%ADD10O,-1X1*%D10*D03*" .empty p ∧ p.IsPathless) ∧
      ¬ ∃ img, RenderOptions.render ⟨4, 4, 4, 4, defaultInk⟩ i.items.toList i.bounds none =
        .ok img := by
  constructor
  · refine (paintable_documents Float "%ADD10P,1X1e30*%D10*D03*" .empty).1.1 ?_
    exact ⟨9223372036854775807, 4, by decide +kernel⟩
  · obtain ⟨i, hi, hitem⟩ : ∃ i, (Gerber.interpret "%ADD10O,-1X1*%D10*D03*").result = .ok i ∧
        ∃ item ∈ i.items, item.shape.toPath? = none := by
      decide +kernel
    obtain ⟨hpathless, hrender⟩ :=
      (paintable_documents Float "%ADD10O,-1X1*%D10*D03*" .empty).2 i hi
    obtain ⟨p, hflash, hp⟩ := hpathless.1 hitem
    refine ⟨i, hi, ⟨p, hflash, hp⟩, fun himg ↦ ?_⟩
    exact (hrender ⟨4, 4, 4, 4, defaultInk⟩ i.bounds none (by decide +kernel) (by decide)).1 himg
      p hflash hp

/-- Interpretation runs out of memory for the first document, and the second one is interpreted
without an error, but its only item, whose numbers are all finite, has no path. -/
theorem huge_polygon_and_negative_obround :
    (Gerber.interpret "%ADD10P,1X1e30*%D10*D03*").result =
      .error ⟨.tooManyVertices 9223372036854775807, 4⟩ ∧
    ∃ i, (Gerber.interpret "%ADD10O,-1X1*%D10*D03*").result = .ok i ∧
      i.items = #[⟨.rounded ⟨0, 0⟩ (-1) 1 (-0.5), .dark⟩] ∧
      (Shape.rounded ⟨0, 0⟩ (-1) 1 (-0.5)).toPath? = none := by
  decide +kernel

end GerberMask.Raster
