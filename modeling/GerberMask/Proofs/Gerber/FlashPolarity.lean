import GerberMask.Proofs.Gerber.DrawnItems

/-!
# Colours of drawn primitives

What an operation draws is decided by the primitive and the place; the polarity decides colours
only. A flash of a standard primitive has its colour from the polarity and a hole from nothing,
since a hole is clear whatever is drawn (`Primitive.flash_of_standard`). A macro primitive has no
hole, and its exposure can turn its colour around (`Primitive.flash_of_macro`). So the shapes of a
flash are the same under all polarities (`Primitive.map_shape_flash`).

Strokes know neither holes nor exposure: all their items have the colour of the polarity, and none
of them is an ellipse.
-/

namespace GerberMask.Gerber

/-- The index of the hole among the parameters, for the kinds that have one. -/
def PrimitiveKind.holeIndex? : PrimitiveKind → Option Nat
  | circle => some 1
  | rectangle | obround => some 2
  | polygon => some 3
  | _ => none

namespace Primitive

/-- The diameter of the hole: its parameter, if it is there and positive. -/
def hole? (p : Primitive) : Option Float :=
  (p.kind.holeIndex?.bind (p.params[·]?)).filter (0 < ·)

/-- Whether a macro primitive is exposed: its first parameter is there and is not zero. -/
def IsExposed (p : Primitive) : Prop :=
  ∃ v ∈ p.params[0]?, (v == 0) = false

/-- Only polygons can have too many vertices. -/
theorem excessVertices?_eq_none_iff {p : Primitive} :
    p.excessVertices? = none ↔
      ¬ ((p.kind = .polygon ∨ p.kind = .macroPolygon) ∧ maxVertices < sideCount (p.param 1)) := by
  unfold excessVertices?
  cases hkind : p.kind <;> simp

theorem exposed_of_isExposed {p : Primitive} (h : p.IsExposed) (polarity : Polarity) :
    p.exposed polarity = polarity := by
  obtain ⟨v, hv, hnonzero⟩ := h
  rw [exposed, param, Option.mem_def.1 hv]
  exact if_neg (by simp [hnonzero])

theorem exposed_of_not_isExposed {p : Primitive} (h : ¬ p.IsExposed) (polarity : Polarity) :
    p.exposed polarity = polarity.inverse := by
  have hzero : (p.param 0 == 0) = true := by
    rw [param]
    cases hv : p.params[0]? with
    | none => decide
    | some v =>
      by_contra hnonzero
      exact h ⟨v, hv, by simpa using hnonzero⟩
  rw [exposed, if_pos hzero]

/-- Exactly the standard kinds have a standard shape, and with it the index of their hole. -/
theorem standardShape?_cases (p : Primitive) (place : Point Float) :
    (p.kind.isMacro = false ∧ ∃ shape i, p.standardShape? place = some (shape, i) ∧
      p.kind.holeIndex? = some i) ∨
    p.kind.isMacro = true ∧ p.standardShape? place = none ∧ p.kind.holeIndex? = none := by
  unfold standardShape?
  cases p.kind with
  | circle | rectangle | obround | polygon => exact .inl ⟨rfl, _, _, rfl, rfl⟩
  | _ => exact .inr ⟨rfl, rfl, rfl⟩

/-- A standard primitive has a shape everywhere; a flash draws it, and the hole. -/
theorem flash_of_standard {p : Primitive} (h : p.kind.isMacro = false) (place : Point Float) :
    ∃ shape, p.shape? place = some shape ∧ ∀ polarity, (p.flash place polarity).items =
      ⟨shape, polarity⟩ :: p.hole?.toList.map fun d ↦ ⟨.circle place d, .clear⟩ := by
  obtain ⟨-, shape, i, hshape, hindex⟩ | ⟨hcomposed, -, -⟩ := p.standardShape?_cases place
  · refine ⟨shape, by rw [shape?, hshape], fun polarity ↦ ?_⟩
    rw [flash, hshape, hole?, hindex, Option.bind_some]
    dsimp only
    cases p.params[i]? with
    | none => rfl
    | some d => by_cases hd : 0 < d <;> simp [Drawn.ofItems, Option.filter, hd]
  · rw [h] at hcomposed
    cases hcomposed

/-- A macro primitive has no hole; a flash draws it as it is exposed, or nothing if it has no
shape. -/
theorem flash_of_macro {p : Primitive} (h : p.kind.isMacro = true) (place : Point Float) :
    p.hole? = none ∧ ∀ polarity, (p.flash place polarity).items =
      (p.shape? place).toList.map fun shape ↦ ⟨shape, p.exposed polarity⟩ := by
  obtain ⟨hstandard, -⟩ | ⟨-, hshape, hindex⟩ := p.standardShape?_cases place
  · rw [h] at hstandard
    cases hstandard
  · refine ⟨by rw [hole?, hindex]; rfl, fun polarity ↦ ?_⟩
    rw [flash, shape?, hshape]
    dsimp only
    cases p.macroShape place <;> rfl

/-- The shapes of a flash are a matter of the primitive and the place. -/
theorem map_shape_flash (p : Primitive) (place : Point Float) (polarity : Polarity) :
    (p.flash place polarity).items.map (·.shape) =
      (p.shape? place).toList ++ p.hole?.toList.map (.circle place) := by
  cases hkind : p.kind.isMacro with
  | false =>
    obtain ⟨shape, hshape, hitems⟩ := flash_of_standard hkind place
    rw [hitems, hshape]
    simp
  | true =>
    obtain ⟨hhole, hitems⟩ := flash_of_macro hkind place
    rw [hitems, hhole]
    simp [Function.comp_def]

/-- What a stroke draws is never the disc of a hole. -/
theorem not_isEllipse_of_mem_strokeAlong {p : Primitive} {start target : Point Float}
    {arc? : Option Arc} {polarity : Polarity} {item : DrawItem}
    (h : item ∈ (p.strokeAlong start target arc? polarity).items) :
    item.shape.isEllipse = false := by
  obtain ⟨-, ⟨path, width, cap, hshape⟩ | ⟨center, width, height, hshape⟩⟩ := of_mem_strokeAlong h
  · rw [hshape]
    rfl
  · rw [hshape]
    rfl

end Primitive

/-! ### Flashes and strokes -/

open State (flashOne)

theorem exists_flashOne_iff {p : Primitive} {place : Point Float} {polarity : Polarity}
    {position : Nat} :
    (∃ drawn, flashOne place polarity position p = .ok drawn) ↔ p.excessVertices? = none := by
  unfold flashOne
  cases p.excessVertices? <;> simp

/-- **Polarity decides colours, and a hole has its own.** Only a polygon with too many vertices
cannot be flashed, and it cannot under any polarity. The flashes of a primitive at a place have the
same shapes in the same order. A standard primitive is drawn with the polarity, and its hole, if it
has one, is clear. A macro primitive with a shape is drawn alone, with the polarity or, if it is not
exposed, with its inverse. What a stroke draws has the polarity and no hole. -/
theorem flash_polarity (p : Primitive) (place : Point Float) (position : Nat) :
    (∀ polarity, (∃ drawn, flashOne place polarity position p = .ok drawn) ↔
      ¬ ((p.kind = .polygon ∨ p.kind = .macroPolygon) ∧ maxVertices < sideCount (p.param 1))) ∧
    (∀ polarity polarity' drawn drawn', flashOne place polarity position p = .ok drawn →
      flashOne place polarity' position p = .ok drawn' →
      drawn.items.map (·.shape) = drawn'.items.map (·.shape)) ∧
    (∀ polarity drawn, flashOne place polarity position p = .ok drawn →
      (p.kind.isMacro = false → ∃ shape, p.shape? place = some shape ∧
        drawn.items = ⟨shape, polarity⟩ :: p.hole?.toList.map fun d ↦ ⟨.circle place d, .clear⟩) ∧
      (p.kind.isMacro = true → ∀ shape, p.shape? place = some shape →
        (p.IsExposed → drawn.items = [⟨shape, polarity⟩]) ∧
        (¬ p.IsExposed → drawn.items = [⟨shape, polarity.inverse⟩]))) ∧
    ∀ polarity start target arc, ∀ item ∈
      (p.interpolate start target polarity).items ++ (p.strokeArc arc polarity).items,
      item.polarity = polarity ∧ item.shape.isEllipse = false := by
  refine ⟨fun polarity ↦ ?_, fun polarity polarity' drawn drawn' hdrawn hdrawn' ↦ ?_,
    fun polarity drawn hdrawn ↦ ⟨fun hkind ↦ ?_, fun hkind shape hshape ↦ ?_⟩,
    fun polarity start target arc item hitem ↦ ?_⟩
  · rw [exists_flashOne_iff, Primitive.excessVertices?_eq_none_iff]
  · rw [State.flashOne_eq_ok hdrawn, State.flashOne_eq_ok hdrawn', Primitive.map_shape_flash,
      Primitive.map_shape_flash]
  · rw [State.flashOne_eq_ok hdrawn]
    obtain ⟨shape, hshape, hitems⟩ := Primitive.flash_of_standard hkind place
    exact ⟨shape, hshape, hitems polarity⟩
  · have hitems : drawn.items = [⟨shape, p.exposed polarity⟩] := by
      rw [State.flashOne_eq_ok hdrawn, (Primitive.flash_of_macro hkind place).2, hshape]
      rfl
    rw [hitems]
    constructor
    · intro h
      rw [Primitive.exposed_of_isExposed h]
    · intro h
      rw [Primitive.exposed_of_not_isExposed h]
  · have hstroke : ∃ arc?, item ∈ (p.strokeAlong start target arc? polarity).items := by
      obtain hline | harc := List.mem_append.1 hitem
      · exact ⟨none, hline⟩
      · exact ⟨some arc, harc⟩
    obtain ⟨arc?, hmem⟩ := hstroke
    exact ⟨(Primitive.of_mem_strokeAlong hmem).1,
      Primitive.not_isEllipse_of_mem_strokeAlong hmem⟩

/-- Under the clear polarity, a circle and its hole are both clear, and a circle of a macro that is
not exposed is dark. -/
theorem flash_polarity_clear :
    (∃ drawn, flashOne ⟨0, 0⟩ .clear 4 ⟨.circle, [2, 1]⟩ = .ok drawn ∧
      drawn.items = [⟨.circle ⟨0, 0⟩ 2, .clear⟩, ⟨.circle ⟨0, 0⟩ 1, .clear⟩]) ∧
    ∃ drawn, flashOne ⟨0, 0⟩ .clear 4 ⟨.macroCircle, [0, 2]⟩ = .ok drawn ∧
      drawn.items = [⟨.circle ⟨0, 0⟩ 2, .dark⟩] := by
  constructor
  · obtain ⟨hflashed, -, hitems, -⟩ := flash_polarity ⟨.circle, [2, 1]⟩ ⟨0, 0⟩ 4
    obtain ⟨drawn, hdrawn⟩ := (hflashed .clear).2 (by decide)
    obtain ⟨shape, hshape, hhole⟩ := (hitems _ _ hdrawn).1 rfl
    obtain rfl : Shape.circle ⟨0, 0⟩ 2 = shape := Option.some.inj hshape
    exact ⟨drawn, hdrawn, hhole.trans (by decide)⟩
  · obtain ⟨hflashed, -, hitems, -⟩ := flash_polarity ⟨.macroCircle, [0, 2]⟩ ⟨0, 0⟩ 4
    obtain ⟨drawn, hdrawn⟩ := (hflashed .clear).2 (by decide)
    refine ⟨drawn, hdrawn, ((hitems _ _ hdrawn).2 rfl _ (by decide)).2 ?_⟩
    rintro ⟨v, hv, hnonzero⟩
    cases hv
    revert hnonzero
    decide

/-- A polygon of `1e30` vertices has no flash, standard or as a primitive of a macro. -/
theorem huge_polygon_has_no_flash :
    flashOne ⟨0, 0⟩ .dark 4 ⟨.polygon, [1, 1e30]⟩ =
      .error ⟨.tooManyVertices 9223372036854775807, 4⟩ ∧
    flashOne ⟨0, 0⟩ .clear 4 ⟨.macroPolygon, [1, 1e30, 0, 0, 1]⟩ =
      .error ⟨.tooManyVertices 9223372036854775807, 4⟩ ∧
    (interpret "%AMHUGE*5,1,1e30,0,0,1,0*%%ADD10HUGE*%D10*D03*").result =
      .error ⟨.tooManyVertices 9223372036854775807, 8⟩ := by
  have hstandard : Primitive.excessVertices? ⟨.polygon, [1, 1e30]⟩ = some 9223372036854775807 := by
    decide +kernel
  have hprimitive : Primitive.excessVertices? ⟨.macroPolygon, [1, 1e30, 0, 0, 1]⟩ =
      some 9223372036854775807 := by
    decide +kernel
  refine ⟨?_, ?_, by decide +kernel⟩
  · rw [flashOne, hstandard]
  · rw [flashOne, hprimitive]

end GerberMask.Gerber
