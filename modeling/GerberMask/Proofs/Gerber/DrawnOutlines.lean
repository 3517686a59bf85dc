import GerberMask.Proofs.Gerber.DrawnItems
import GerberMask.Proofs.Number.RoundedResults

/-!
# Outlines that draw nothing

An outline is drawn if its path has a start point and at least one segment. Contours of regions are
(`RegionContour.isDrawn_of_build`), and so is every polygon with three corners or more, which takes
care of all polygons but one kind: the outline primitive of a macro has as many corners as it
declares, and it can declare one or two (`Primitive.IsShortOutline`). Its path is empty then, and
the box of an empty path is the origin of the board.
-/

namespace GerberMask.Gerber

/-! ### Drawn paths -/

namespace Path

/-- A start point and at least one segment. -/
def IsDrawn (p : Path) : Prop :=
  ∃ c, p.contour? = some c ∧ c.segments ≠ []

theorem not_isDrawn_empty : ¬ empty.IsDrawn := by
  rintro ⟨c, ⟨⟩, -⟩

theorem isDrawn_transform {m : Affine Float32} {p : Path} (h : p.IsDrawn) :
    (p.transform m).IsDrawn := by
  obtain ⟨c, hc, hsegments⟩ := h
  exact ⟨_, by rw [transform, hc]; rfl, by simpa using hsegments⟩

/-- Three corners make a polygon, fewer make nothing. -/
theorem polygon_cases (corners : List (Point Float)) :
    3 ≤ corners.length ∧ (polygon corners).IsDrawn ∨
      corners.length < 3 ∧ polygon corners = empty := by
  match corners with
  | [] | [_] | [_, _] => exact .inr ⟨by simp, rfl⟩
  | _ :: _ :: _ :: _ => exact .inl ⟨by simp, _, rfl, by simp⟩

end Path

/-- A contour draws at least one edge, and an edge at least one segment. -/
theorem RegionContour.isDrawn_of_build {c : RegionContour} {path : Path}
    (h : c.build = some path) : path.IsDrawn := by
  unfold build at h
  split at h
  · cases h
  next start es =>
    split at h
    · cases h
    next hedges =>
      cases h
      obtain ⟨e, he⟩ := List.exists_mem_of_ne_nil es.toList (by simpa using hedges)
      refine ⟨_, rfl, fun hnone ↦ ?_⟩
      have hedge : e.segments = [] := List.flatMap_eq_nil_iff.1 hnone e he
      cases e <;> cases hedge

/-! ### The corners of primitives -/

theorem three_le_sideCount (v : Float) : 3 ≤ sideCount v :=
  Nat.le_max_left _ _

@[simp] theorem length_regularPolygon (center : Point Float) (radius : Float) (sides : Nat)
    (degrees : Float) : (regularPolygon center radius sides degrees).length = sides := by
  simp [regularPolygon]

namespace Primitive

theorem length_pointsFrom (params : List Float) (n : Nat) :
    (pointsFrom params n).length = min n (params.length / 2) := by
  induction n generalizing params with
  | zero => simp [pointsFrom]
  | succ n ih =>
    match params with
    | [] | [_] => simp [pointsFrom]
    | x :: y :: rest =>
      rw [pointsFrom, List.length_cons, ih, List.length_cons, List.length_cons]
      omega

/-- An outline of a macro with fewer than three points. -/
def IsShortOutline (p : Primitive) : Prop :=
  p.kind = .macroOutline ∧ ∃ n, p.outlinePoints? = some n ∧ n < 3

/-- **The points that an outline declares are there**, and behind them the rotation. -/
theorem outlinePoints?_fits {p : Primitive} {n : Nat} (h : p.outlinePoints? = some n) :
    1 ≤ n ∧ 2 + 2 * n < p.params.length := by
  have hnonneg : ∀ k, floorInt? (if 0 < p.param 1 then p.param 1 else 0) = some k → 0 ≤ k := by
    intro k hk
    split at hk
    · next hpos => exact floorInt?_nonneg hpos hk
    · exact (Option.some.inj (hk.symm.trans (show floorInt? 0 = some 0 from rfl))).ge
  rw [outlinePoints?] at h
  generalize (if 0 < p.param 1 then p.param 1 else 0) = declared at h hnonneg
  split at h
  · next hdeclared =>
    obtain ⟨k, hk, rfl⟩ := Option.map_eq_some_iff.1 h
    have hlt := floorInt?_lt hdeclared hk
    have hle := hnonneg k hk
    omega
  · cases h

/-- The outlines of primitives are polygons, and only those of short outlines have fewer than three
corners. -/
theorem outline_of_shape? {p : Primitive} {place : Point Float} {path : Path}
    (h : p.shape? place = some (.outline path)) :
    ∃ corners m, path = (Path.polygon corners).transform m ∧
      (corners.length < 3 ↔ p.IsShortOutline) := by
  have hlong : p.kind ≠ .macroOutline → ∀ {corners : List (Point Float)}, 3 ≤ corners.length →
      (corners.length < 3 ↔ p.IsShortOutline) :=
    fun hkind corners hcorners ↦ iff_of_false (by omega) fun hshort ↦ hkind hshort.1
  cases hkind : p.kind with
  | polygon =>
    simp only [shape?, standardShape?, hkind, Option.some.injEq, Shape.outline.injEq] at h
    refine ⟨_, _, h.symm, hlong (by simp [hkind]) ?_⟩
    rw [length_regularPolygon]
    exact three_le_sideCount _
  | macroVectorLine =>
    simp only [shape?, standardShape?, macroShape, hkind] at h
    split at h
    · cases h
    · cases h
      exact ⟨_, _, rfl, hlong (by simp [hkind]) (by simp [vectorLineCorners])⟩
  | macroCenterLine =>
    simp only [shape?, standardShape?, macroShape, hkind] at h
    cases h
    exact ⟨_, _, rfl, hlong (by simp [hkind]) (by simp [Shape.rectangleCorners])⟩
  | macroOutline =>
    cases hpoints : p.outlinePoints? with
    | none =>
      simp only [shape?, standardShape?, macroShape, hkind, hpoints] at h
      cases h
    | some n =>
      simp only [shape?, standardShape?, macroShape, hkind, hpoints] at h
      cases h
      refine ⟨_, _, rfl, ?_⟩
      have hroom := outlinePoints?_fits hpoints
      simp only [length_pointsFrom, List.length_drop, IsShortOutline, hkind, hpoints,
        Option.some.injEq, exists_eq_left', true_and]
      omega
  | macroPolygon =>
    simp only [shape?, standardShape?, macroShape, hkind] at h
    cases h
    refine ⟨_, _, rfl, hlong (by simp [hkind]) ?_⟩
    rw [length_regularPolygon]
    exact three_le_sideCount _
  | _ =>
    simp [shape?, standardShape?, macroShape, hkind, Shape.circle, Except.toOption] at h

/-- Whether the path of an outline is empty, and if not that it is drawn. -/
theorem empty_or_isDrawn {p : Primitive} {place : Point Float} {path : Path}
    (h : p.shape? place = some (.outline path)) :
    p.IsShortOutline ∧ path = .empty ∨ ¬ p.IsShortOutline ∧ path.IsDrawn := by
  obtain ⟨corners, m, rfl, hshort⟩ := outline_of_shape? h
  obtain ⟨hcorners, hdrawn⟩ | ⟨hcorners, hempty⟩ := Path.polygon_cases corners
  · exact .inr ⟨fun hp ↦ absurd (hshort.2 hp) (by omega), Path.isDrawn_transform hdrawn⟩
  · exact .inl ⟨hshort.1 hcorners, by rw [hempty]; rfl⟩

theorem shape?_of_isShortOutline {p : Primitive} (h : p.IsShortOutline) (place : Point Float) :
    ∃ path, p.shape? place = some (.outline path) := by
  obtain ⟨hkind, n, hpoints, -⟩ := h
  exact ⟨_, by simp [shape?, standardShape?, macroShape, hkind, hpoints, Except.toOption]; rfl⟩

end Primitive

variable {α : Type} [Scalar α] {source : String} {bounds : Bounds} {i : Interpretation}

/-! ### Documents -/

theorem exists_undrawn_iff (h : (interpretOver α source bounds).result = .ok i) :
    (∃ item ∈ i.items, ∃ path, item.shape = .outline path ∧ ¬ path.IsDrawn) ↔
      ∃ p, Flashes α source bounds p ∧ p.IsShortOutline := by
  refine exists_flawed_iff (fun shape ↦ ∃ path, shape = .outline path ∧ ¬ path.IsDrawn)
    Primitive.IsShortOutline ?_ ?_ ?_ ?_ (fun p place ↦ ⟨?_, fun hshort ↦ ?_⟩) h
  · rintro center width height ⟨_, ⟨⟩, -⟩
  · rintro center width height ⟨_, ⟨⟩, -⟩
  · rintro path width cap ⟨_, ⟨⟩, -⟩
  · rintro contour path hbuild ⟨_, ⟨⟩, hundrawn⟩
    exact hundrawn (RegionContour.isDrawn_of_build hbuild)
  · rintro ⟨_, hshape, path, rfl, hundrawn⟩
    obtain ⟨hshort, -⟩ | ⟨-, hdrawn⟩ := Primitive.empty_or_isDrawn hshape
    · exact hshort
    · exact absurd hdrawn hundrawn
  · obtain ⟨path, hshape⟩ := Primitive.shape?_of_isShortOutline hshort place
    obtain ⟨-, rfl⟩ | ⟨hlong, -⟩ := Primitive.empty_or_isDrawn hshape
    · exact ⟨_, hshape, _, rfl, Path.not_isDrawn_empty⟩
    · exact absurd hshort hlong

/-- An outline that draws nothing has no point at all. -/
theorem eq_empty_of_undrawn (h : (interpretOver α source bounds).result = .ok i) {item : DrawItem}
    (hitem : item ∈ i.items) {path : Path} (hshape : item.shape = .outline path)
    (hundrawn : ¬ path.IsDrawn) : path = .empty := by
  by_contra hpath
  have hnone := (exists_flawed_iff
    (fun shape ↦ ∃ path, shape = .outline path ∧ ¬ path.IsDrawn ∧ path ≠ .empty) (fun _ ↦ False)
    (fun _ _ _ ↦ by rintro ⟨_, ⟨⟩, -⟩) (fun _ _ _ ↦ by rintro ⟨_, ⟨⟩, -⟩)
    (fun _ _ _ ↦ by rintro ⟨_, ⟨⟩, -⟩) ?_ (fun p place ↦ iff_of_false ?_ id) h).1
    ⟨item, hitem, path, hshape, hundrawn, hpath⟩
  · obtain ⟨p, -, ⟨⟩⟩ := hnone
  · rintro contour path hbuild ⟨_, ⟨⟩, hundrawn, -⟩
    exact hundrawn (RegionContour.isDrawn_of_build hbuild)
  · rintro ⟨_, hshape, path, rfl, hundrawn, hpath⟩
    obtain ⟨-, hempty⟩ | ⟨-, hdrawn⟩ := Primitive.empty_or_isDrawn hshape
    · exact hpath hempty
    · exact hundrawn hdrawn

/-- **The outlines that draw nothing are the short outlines of macros.** If the document flashes one
of them, there is an outline item without a point, and its box is the origin of the board. All other
outline items have a start point and at least one segment. -/
theorem drawn_outlines (h : (interpretOver α source bounds).result = .ok i) :
    ((∀ item ∈ i.items, ∀ path, item.shape = .outline path → path.IsDrawn) ↔
      ∀ p, Flashes α source bounds p → ¬ p.IsShortOutline) ∧
    ∀ item ∈ i.items, ∀ path, item.shape = .outline path → ¬ path.IsDrawn →
      path = .empty ∧ item.shape.corners = (⟨0, 0⟩, ⟨0, 0⟩) := by
  constructor
  · have hundrawn := not_congr (exists_undrawn_iff h)
    simpa only [not_exists, not_and, not_not] using hundrawn
  · intro item hitem path hshape hundrawn
    obtain rfl := eq_empty_of_undrawn h hitem hshape hundrawn
    rw [hshape]
    exact ⟨rfl, rfl⟩

/-- An outline that declares one point after the first, flashed away from the origin. -/
theorem drawn_outlines_two_points :
    ∃ i, (interpret "%AMV*4,1,1,5,5,6,6,0*%%ADD10V*%D10*X5000Y5000D03*").result = .ok i ∧
      (∃ p, Flashes Float "%AMV*4,1,1,5,5,6,6,0*%%ADD10V*%D10*X5000Y5000D03*" .empty p ∧
        p.IsShortOutline) ∧
      ∃ item ∈ i.items, item.shape.corners = (⟨0, 0⟩, ⟨0, 0⟩) := by
  obtain ⟨i, hi, item, hitem, hshape⟩ : ∃ i,
      (interpret "%AMV*4,1,1,5,5,6,6,0*%%ADD10V*%D10*X5000Y5000D03*").result = .ok i ∧
      ∃ item ∈ i.items, item.shape = .outline .empty := by
    decide +kernel
  obtain ⟨hdrawn, hempty⟩ := drawn_outlines hi
  refine ⟨i, hi, ?_, item, hitem, (hempty item hitem _ hshape Path.not_isDrawn_empty).2⟩
  by_contra hnone
  refine Path.not_isDrawn_empty (hdrawn.2 (fun p hflash hshort ↦ ?_) item hitem _ hshape)
  exact hnone ⟨p, hflash, hshort⟩

/-- The only item of this document draws nothing, and the extent is the origin. -/
theorem undrawn_outline_at_origin :
    ¬ Path.empty.IsDrawn ∧
    ∃ i, (interpret "%AMV*4,1,1,5,5,6,6,0*%%ADD10V*%D10*X5000Y5000D03*").result = .ok i ∧
      i.items = #[⟨.outline .empty, .dark⟩] ∧ i.bounds = ⟨some ⟨⟨0, 0⟩, ⟨0, 0⟩⟩⟩ :=
  ⟨Path.not_isDrawn_empty, by decide +kernel⟩

end GerberMask.Gerber
