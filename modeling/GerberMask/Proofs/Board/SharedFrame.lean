import GerberMask.Proofs.Board.Hull
import GerberMask.Proofs.Gerber.StartingExtent

/-!
# One frame for several layers

An extent is threaded through the layers of a board: each layer goes on with the extent that the one
before it has reached. In the end it frames what all of them included (`frames_thread`), so the
layers can come in any order. A document is such a layer: within an extent it includes the
rectangles of its items and does nothing else with the extent (`growth_onto`).
-/

namespace GerberMask

/-! ### Layers -/

/-- Points that are framed by different calls are the same if the rectangles that count are. -/
theorem corners_congr {rs rs' : List (Point Float × Point Float)}
    (h : ∀ r : Point Float × Point Float, Bounds.admits r.1 r.2 = true → (r ∈ rs ↔ r ∈ rs')) :
    corners rs = corners rs' := by
  ext p
  constructor
  · rintro ⟨r, hr, hadmits, hp⟩
    exact ⟨r, (h r hadmits).1 hr, hadmits, hp⟩
  · rintro ⟨r, hr, hadmits, hp⟩
    exact ⟨r, (h r hadmits).2 hr, hadmits, hp⟩

/-- The extent that is reached through layers, one after the other. -/
def thread (layers : List Growth) (b : Bounds) : Bounds :=
  layers.foldl Growth.onto b

@[simp] theorem thread_nil (b : Bounds) : thread [] b = b := rfl

@[simp] theorem thread_cons (layer : Growth) (layers : List Growth) (b : Bounds) :
    thread (layer :: layers) b = thread layers (layer.onto b) := rfl

/-- An extent that has gone through layers frames all of them. -/
theorem frames_thread (layers : List Growth) {b : Bounds} {ps : Set (Point Float)}
    (h : b.Frames ps) :
    (thread layers b).Frames
      (ps ∪ { p | ∃ layer ∈ layers, p ∈ corners layer.rects }) := by
  induction layers generalizing b ps with
  | nil => simpa using h
  | cons layer layers ih =>
    have hunion : ps ∪ { p | ∃ l ∈ layer :: layers, p ∈ corners l.rects } =
        ps ∪ corners layer.rects ∪ { p | ∃ l ∈ layers, p ∈ corners l.rects } := by
      ext p
      simp [or_assoc]
    rw [thread_cons, hunion]
    exact ih (layer.frames_onto h)

/-- The order of layers does not matter. -/
theorem exact_thread {layers layers' : List Growth} (h : layers.Perm layers') :
    (thread layers .empty).exact =
      (thread layers' .empty).exact := by
  have hframes := frames_thread layers Bounds.frames_empty
  have hframes' := frames_thread layers' Bounds.frames_empty
  simp only [h.mem_iff] at hframes
  exact hframes.exact_eq hframes'

namespace Gerber

/-! ### Documents -/

/-- Interprets documents one after the other, each within the extent that the one before it has
reached. -/
def interpretAll (sources : List String) (bounds : Bounds) : Report GerberError Bounds :=
  sources.foldlM (fun b source ↦ (·.bounds) <$> interpretWithin source b) bounds

/-- The calls by which items grow an extent. -/
def growth (items : List DrawItem) : Growth :=
  items.foldl (fun g item ↦ g.rect item.shape.corners.1 item.shape.corners.2) .start

theorem growth_onto (items : List DrawItem) (b : Bounds) :
    (growth items).onto b = items.foldl DrawItem.extend b := by
  have honto : ∀ g : Growth,
      (items.foldl (fun g item ↦ g.rect item.shape.corners.1 item.shape.corners.2) g).onto b =
        items.foldl DrawItem.extend (g.onto b) := by
    induction items with
    | nil => exact fun g ↦ rfl
    | cons item items ih => exact fun g ↦ ih _
  exact honto .start

/-- The layer that a document is; a document that fails includes nothing. -/
def layerOf (source : String) : Growth :=
  match (interpret source).result with
  | .ok i => growth i.items.toList
  | .error _ => .start

theorem interpretWithin_bounds_eq_ok {source : String} {b b' : Bounds} :
    ((·.bounds) <$> interpretWithin source b).result = .ok b' ↔
      (∃ i, (interpret source).result = .ok i) ∧ (layerOf source).onto b = b' := by
  have hmap : interpretWithin source b = (·.regrown b) <$> interpret source :=
    interpretOver_eq_map source b
  rw [hmap, Report.result_map, Report.result_map, layerOf]
  rcases (interpret source).result with e | i
  · exact iff_of_false (by rintro ⟨⟩) (by rintro ⟨⟨i, ⟨⟩⟩, -⟩)
  · simp [Except.map, Interpretation.regrown, growth_onto]

/-- Documents can be threaded if each can be interpreted alone, and then they are layers. -/
theorem interpretAll_eq_ok {sources : List String} {b b' : Bounds} :
    (interpretAll sources b).result = .ok b' ↔
      (∀ source ∈ sources, ∃ i, (interpret source).result = .ok i) ∧
        thread (sources.map layerOf) b = b' := by
  induction sources generalizing b with
  | nil => simp [interpretAll]
  | cons source sources ih =>
    rw [interpretAll, List.foldlM_cons, Report.result_bind_eq_ok, List.forall_mem_cons,
      List.map_cons, thread_cons]
    constructor
    · rintro ⟨b₁, hfirst, hrest⟩
      obtain ⟨hsource, rfl⟩ := interpretWithin_bounds_eq_ok.1 hfirst
      obtain ⟨hsources, hb'⟩ := ih.1 hrest
      exact ⟨⟨hsource, hsources⟩, hb'⟩
    · rintro ⟨⟨hsource, hsources⟩, hb'⟩
      exact ⟨_, interpretWithin_bounds_eq_ok.2 ⟨hsource, rfl⟩, ih.2 ⟨hsources, hb'⟩⟩

end Gerber

open Gerber

/-- **An extent is the exact hull of what was included.** It is empty if nothing that counts was,
and otherwise its corners have the least and the greatest coordinates of the rectangles that count.
So it depends only on which these are, it contains what it was and what was included, and layers
that share it are framed alike in any order, be they calls or documents. -/
theorem shared_frame :
    (∀ g : Growth,
      (g.bounds.isEmpty = true ↔ ∀ r ∈ g.rects, Bounds.admits r.1 r.2 = false) ∧
      ∀ box, g.bounds.extent = some box →
        box.IsHull (corners g.rects) ∧ box.lo.x ≤ box.hi.x ∧ box.lo.y ≤ box.hi.y) ∧
    (∀ g g' : Growth,
      (∀ r : Point Float × Point Float, Bounds.admits r.1 r.2 = true →
        (r ∈ g.rects ↔ r ∈ g'.rects)) → g.bounds.exact = g'.bounds.exact) ∧
    (∀ (g other : Growth) (p q : Point Float),
      (g.point p).bounds.contains g.bounds = true ∧
      (g.point p).bounds.contains (Growth.start.point p).bounds = true ∧
      (g.rect p q).bounds.contains g.bounds = true ∧
      (g.rect p q).bounds.contains (Growth.start.rect p q).bounds = true ∧
      (g.union other).bounds.contains g.bounds = true ∧
      (g.union other).bounds.contains other.bounds = true) ∧
    (∀ layers layers' : List Growth, layers.Perm layers' →
      (thread layers .empty).exact =
        (thread layers' .empty).exact) ∧
    ∀ sources sources' : List String, sources.Perm sources' → ∀ b,
      (interpretAll sources .empty).result = .ok b →
        ∃ b', (interpretAll sources' .empty).result = .ok b' ∧ b'.exact = b.exact := by
  refine ⟨fun g ↦ ⟨?_, fun box hbox ↦ ?_⟩, fun g g' h ↦ ?_, fun g other p q ↦ ?_,
    fun _ _ h ↦ exact_thread h, fun sources sources' h b hb ↦ ?_⟩
  · rw [g.frames_bounds.isEmpty_iff, Set.eq_empty_iff_forall_notMem]
    constructor
    · exact fun hnone r hr ↦ Bool.eq_false_iff.2 fun hadmits ↦ hnone r.1 ⟨r, hr, hadmits, .inl rfl⟩
    · rintro hnone p ⟨r, hr, hadmits, -⟩
      rw [hnone r hr] at hadmits
      cases hadmits
  · have hhull := g.frames_bounds
    rw [Bounds.Frames, hbox] at hhull
    exact ⟨hhull, hhull.ordered⟩
  · have hframes := g.frames_bounds
    rw [corners_congr h] at hframes
    exact hframes.exact_eq g'.frames_bounds
  · -- what is contained frames some of the points
    have hcontains : ∀ g g' : Growth, g'.rects ⊆ g.rects → g.bounds.contains g'.bounds = true := by
      intro g g' hsubset
      refine g.frames_bounds.contains g'.frames_bounds ?_
      rintro p ⟨r, hr, hp⟩
      exact ⟨r, hsubset hr, hp⟩
    refine ⟨?_, ?_, ?_, ?_, ?_, ?_⟩ <;> apply hcontains <;> simp [Growth.rects]
  · obtain ⟨hsources, rfl⟩ := interpretAll_eq_ok.1 hb
    refine ⟨_, interpretAll_eq_ok.2 ⟨fun source hsource ↦ ?_, rfl⟩, ?_⟩
    · exact hsources source (h.mem_iff.2 hsource)
    · exact exact_thread (h.symm.map layerOf)

/-- A rectangle by its other corners and one that does not count, in two groupings; and two
documents in both orders. -/
theorem shared_frame_two_layers :
    (∃ box,
      ((Growth.start.rect ⟨2, 0⟩ ⟨0, 1⟩).rect ⟨0, 0⟩ ⟨1.0 / 0.0, 3⟩).bounds.extent = some box ∧
        box.IsHull (corners [(⟨2, 0⟩, ⟨0, 1⟩), (⟨0, 0⟩, ⟨1.0 / 0.0, 3⟩)]) ∧ box.lo.x ≤ box.hi.x) ∧
    ((∀ r : Point Float × Point Float, Bounds.admits r.1 r.2 = true →
        (r ∈ ((Growth.start.rect ⟨2, 0⟩ ⟨0, 1⟩).rect ⟨0, 0⟩ ⟨1.0 / 0.0, 3⟩).rects ↔
          r ∈ (Growth.start.union (Growth.start.rect ⟨2, 0⟩ ⟨0, 1⟩)).rects)) ∧
      ((Growth.start.rect ⟨2, 0⟩ ⟨0, 1⟩).rect ⟨0, 0⟩ ⟨1.0 / 0.0, 3⟩).bounds.exact =
        (Growth.start.union (Growth.start.rect ⟨2, 0⟩ ⟨0, 1⟩)).bounds.exact) ∧
    ([Growth.start.point ⟨2, 0⟩, Growth.start.point ⟨0, 1⟩].Perm
        [Growth.start.point ⟨0, 1⟩, Growth.start.point ⟨2, 0⟩] ∧
      (thread [Growth.start.point ⟨2, 0⟩, Growth.start.point ⟨0, 1⟩] .empty).exact =
        (thread [Growth.start.point ⟨0, 1⟩, Growth.start.point ⟨2, 0⟩] .empty).exact) ∧
    ["%ADD10R,2X1*%D10*D03*", "%ADD10C,1*%D10*D03*"].Perm
      ["%ADD10C,1*%D10*D03*", "%ADD10R,2X1*%D10*D03*"] ∧
    ∃ b b',
      (interpretAll ["%ADD10R,2X1*%D10*D03*", "%ADD10C,1*%D10*D03*"] .empty).result = .ok b ∧
      b.extent = some ⟨⟨-1, -0.5⟩, ⟨1, 0.5⟩⟩ ∧
      (interpretAll ["%ADD10C,1*%D10*D03*", "%ADD10R,2X1*%D10*D03*"] .empty).result = .ok b' ∧
      b'.exact = b.exact := by
  obtain ⟨hhull, hrects, -, hlayers, hdocuments⟩ := shared_frame
  refine ⟨?_, ?_, ⟨.swap _ _ [], hlayers _ _ (.swap _ _ [])⟩, .swap _ _ [], ?_⟩
  · have hextent : ((Growth.start.rect ⟨2, 0⟩ ⟨0, 1⟩).rect ⟨0, 0⟩ ⟨1.0 / 0.0, 3⟩).bounds.extent =
        some ⟨⟨0, 0⟩, ⟨2, 1⟩⟩ := by
      decide +kernel
    obtain ⟨hbox, hx, -⟩ := (hhull _).2 _ hextent
    exact ⟨_, hextent, hbox, hx⟩
  · have hsame : ∀ r : Point Float × Point Float, Bounds.admits r.1 r.2 = true →
        (r ∈ ((Growth.start.rect ⟨2, 0⟩ ⟨0, 1⟩).rect ⟨0, 0⟩ ⟨1.0 / 0.0, 3⟩).rects ↔
          r ∈ (Growth.start.union (Growth.start.rect ⟨2, 0⟩ ⟨0, 1⟩)).rects) := by
      have hinfinite : Bounds.admits ⟨0, 0⟩ ⟨1.0 / 0.0, 3⟩ = false := by decide +kernel
      intro r hadmits
      have hne : r ≠ (⟨0, 0⟩, ⟨1.0 / 0.0, 3⟩) := by
        rintro rfl
        rw [hinfinite] at hadmits
        cases hadmits
      simp [Growth.rects, hne]
    exact ⟨hsame, hrects _ _ hsame⟩
  · obtain ⟨b, hb, hextent⟩ : ∃ b,
        (interpretAll ["%ADD10R,2X1*%D10*D03*", "%ADD10C,1*%D10*D03*"] .empty).result = .ok b ∧
          b.extent = some ⟨⟨-1, -0.5⟩, ⟨1, 0.5⟩⟩ := by
      decide +kernel
    obtain ⟨b', hb', hexact⟩ := hdocuments _ _ (.swap _ _ []) b hb
    exact ⟨b, b', hb, hextent, hb', hexact⟩

end GerberMask
