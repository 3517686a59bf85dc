import GerberMask.Proofs.Number.ExactValues

/-!
# Extents as hulls

An extent is empty, or it is the box with the least and the greatest coordinates of the points that
were included (`Bounds.Frames`). Coordinates are compared as exact numbers, and the corners of a box
are determined by that up to the sign of zero (`Bounds.Frames.exact_eq`).

Everything about an extent is read off the set of points that it frames. A call that grows it adds
points to the set (`Frames.includeRect`, `Frames.union`), so neither the order of calls nor their
number can matter; and one extent contains another if it frames all its points
(`Frames.contains`), so that a call never loses what was there.

A rectangle counts with all its coordinates or not at all: the points of one that is not finite are
not among those that are framed (`corners`).
-/

namespace GerberMask

/-! ### Boxes -/

namespace Box

/-- The corners of a box as exact numbers. -/
def exact (box : Box) : Point ℚ × Point ℚ :=
  (box.lo.map exactValue, box.hi.map exactValue)

/-- A box has the least and the greatest coordinates of some points. -/
structure IsHull (box : Box) (ps : Set (Point Float)) : Prop where
  isFinite_lo : box.lo.isFinite = true
  isFinite_hi : box.hi.isFinite = true
  left : IsLeast ((fun p : Point Float ↦ exactValue p.x) '' ps) (exactValue box.lo.x)
  bottom : IsLeast ((fun p : Point Float ↦ exactValue p.y) '' ps) (exactValue box.lo.y)
  right : IsGreatest ((fun p : Point Float ↦ exactValue p.x) '' ps) (exactValue box.hi.x)
  top : IsGreatest ((fun p : Point Float ↦ exactValue p.y) '' ps) (exactValue box.hi.y)

theorem isFinite_iff {p : Point Float} :
    p.isFinite = true ↔ p.x.isFinite = true ∧ p.y.isFinite = true := by
  rw [Point.isFinite, Bool.and_eq_true]

theorem isHull_spanned {p q : Point Float} (hp : p.isFinite = true) (hq : q.isFinite = true) :
    (spanned p q).IsHull {p, q} := by
  obtain ⟨hpx, hpy⟩ := isFinite_iff.1 hp
  obtain ⟨hqx, hqy⟩ := isFinite_iff.1 hq
  constructor
  · exact isFinite_iff.2 ⟨isFinite_lesser hpx hqx, isFinite_lesser hpy hqy⟩
  · exact isFinite_iff.2 ⟨isFinite_greater hpx hqx, isFinite_greater hpy hqy⟩
  · rw [Set.image_pair, spanned, exactValue_lesser hpx hqx]
    exact isLeast_pair
  · rw [Set.image_pair, spanned, exactValue_lesser hpy hqy]
    exact isLeast_pair
  · rw [Set.image_pair, spanned, exactValue_greater hpx hqx]
    exact isGreatest_pair
  · rw [Set.image_pair, spanned, exactValue_greater hpy hqy]
    exact isGreatest_pair

namespace IsHull

variable {a b box : Box} {ps qs : Set (Point Float)}

theorem nonempty (h : box.IsHull ps) : ps.Nonempty :=
  Set.image_nonempty.1 ⟨_, h.left.1⟩

/-- The corners of a hull are in order. -/
theorem ordered (h : box.IsHull ps) : box.lo.x ≤ box.hi.x ∧ box.lo.y ≤ box.hi.y := by
  obtain ⟨hlx, hly⟩ := isFinite_iff.1 h.isFinite_lo
  obtain ⟨hhx, hhy⟩ := isFinite_iff.1 h.isFinite_hi
  exact ⟨(le_iff_exactValue_le hlx hhx).2 (h.right.2 h.left.1),
    (le_iff_exactValue_le hly hhy).2 (h.top.2 h.bottom.1)⟩

theorem exact_eq (ha : a.IsHull ps) (hb : b.IsHull ps) : a.exact = b.exact := by
  simp only [exact, Point.map, ha.left.unique hb.left, ha.bottom.unique hb.bottom,
    ha.right.unique hb.right, ha.top.unique hb.top]

/-- The rectangle between the corners of a hull is the same hull. -/
theorem spanned (h : box.IsHull ps) : (spanned box.lo box.hi).IsHull ps := by
  obtain ⟨hlx, hly⟩ := isFinite_iff.1 h.isFinite_lo
  obtain ⟨hhx, hhy⟩ := isFinite_iff.1 h.isFinite_hi
  have hx := h.right.2 h.left.1
  have hy := h.top.2 h.bottom.1
  constructor
  · exact isFinite_iff.2 ⟨isFinite_lesser hlx hhx, isFinite_lesser hly hhy⟩
  · exact isFinite_iff.2 ⟨isFinite_greater hlx hhx, isFinite_greater hly hhy⟩
  · rw [Box.spanned, exactValue_lesser hlx hhx, min_eq_left hx]
    exact h.left
  · rw [Box.spanned, exactValue_lesser hly hhy, min_eq_left hy]
    exact h.bottom
  · rw [Box.spanned, exactValue_greater hlx hhx, max_eq_right hx]
    exact h.right
  · rw [Box.spanned, exactValue_greater hly hhy, max_eq_right hy]
    exact h.top

/-- **The joined box is the hull of both sets of points.** -/
theorem join (ha : a.IsHull ps) (hb : b.IsHull qs) : (a.join b).IsHull (ps ∪ qs) := by
  obtain ⟨halx, haly⟩ := isFinite_iff.1 ha.isFinite_lo
  obtain ⟨hahx, hahy⟩ := isFinite_iff.1 ha.isFinite_hi
  obtain ⟨hblx, hbly⟩ := isFinite_iff.1 hb.isFinite_lo
  obtain ⟨hbhx, hbhy⟩ := isFinite_iff.1 hb.isFinite_hi
  constructor
  · exact isFinite_iff.2 ⟨isFinite_lesser halx hblx, isFinite_lesser haly hbly⟩
  · exact isFinite_iff.2 ⟨isFinite_greater hahx hbhx, isFinite_greater hahy hbhy⟩
  · rw [Set.image_union, Box.join, exactValue_lesser halx hblx]
    exact ha.left.union hb.left
  · rw [Set.image_union, Box.join, exactValue_lesser haly hbly]
    exact ha.bottom.union hb.bottom
  · rw [Set.image_union, Box.join, exactValue_greater hahx hbhx]
    exact ha.right.union hb.right
  · rw [Set.image_union, Box.join, exactValue_greater hahy hbhy]
    exact ha.top.union hb.top

theorem encloses (ha : a.IsHull ps) (hb : b.IsHull qs) (h : qs ⊆ ps) : a.encloses b = true := by
  obtain ⟨halx, haly⟩ := isFinite_iff.1 ha.isFinite_lo
  obtain ⟨hahx, hahy⟩ := isFinite_iff.1 ha.isFinite_hi
  obtain ⟨hblx, hbly⟩ := isFinite_iff.1 hb.isFinite_lo
  obtain ⟨hbhx, hbhy⟩ := isFinite_iff.1 hb.isFinite_hi
  have hleft : a.lo.x ≤ b.lo.x :=
    (le_iff_exactValue_le halx hblx).2 (hb.left.mono ha.left (Set.image_mono h))
  have hbottom : a.lo.y ≤ b.lo.y :=
    (le_iff_exactValue_le haly hbly).2 (hb.bottom.mono ha.bottom (Set.image_mono h))
  have hright : b.hi.x ≤ a.hi.x :=
    (le_iff_exactValue_le hbhx hahx).2 (hb.right.mono ha.right (Set.image_mono h))
  have htop : b.hi.y ≤ a.hi.y :=
    (le_iff_exactValue_le hbhy hahy).2 (hb.top.mono ha.top (Set.image_mono h))
  simp [Box.encloses, hleft, hbottom, hright, htop]

end IsHull

end Box

/-! ### Extents -/

/-- The corners of the rectangles that count, each given by two opposite ones. -/
def corners (rects : List (Point Float × Point Float)) : Set (Point Float) :=
  { p | ∃ r ∈ rects, Bounds.admits r.1 r.2 = true ∧ (p = r.1 ∨ p = r.2) }

namespace Bounds

/-- The corners of an extent as exact numbers. -/
def exact (b : Bounds) : Option (Point ℚ × Point ℚ) :=
  b.extent.map Box.exact

/-- An extent is the hull of some points, or empty where there are none. -/
def Frames (b : Bounds) (ps : Set (Point Float)) : Prop :=
  match b.extent with
  | none => ps = ∅
  | some box => box.IsHull ps

variable {b b' : Bounds} {ps qs : Set (Point Float)}

theorem frames_empty : Frames empty ∅ := rfl

namespace Frames

theorem isEmpty_iff (h : b.Frames ps) : b.isEmpty = true ↔ ps = ∅ := by
  obtain ⟨_ | box⟩ := b
  · exact iff_of_true rfl h
  · exact iff_of_false (by simp [isEmpty]) h.nonempty.ne_empty

theorem exact_eq (h : b.Frames ps) (h' : b'.Frames ps) : b.exact = b'.exact := by
  obtain ⟨_ | box⟩ := b <;> obtain ⟨_ | box'⟩ := b'
  · rfl
  · exact absurd h h'.nonempty.ne_empty
  · exact absurd h' h.nonempty.ne_empty
  · exact congrArg some (Box.IsHull.exact_eq h h')

theorem contains (h : b.Frames ps) (h' : b'.Frames qs) (hsubset : qs ⊆ ps) :
    b.contains b' = true := by
  obtain ⟨_ | box⟩ := b <;> obtain ⟨_ | box'⟩ := b'
  · rfl
  · obtain rfl : ps = ∅ := h
    exact absurd (Set.subset_empty_iff.1 hsubset) h'.nonempty.ne_empty
  · rfl
  · exact Box.IsHull.encloses h h' hsubset

theorem includeBox (h : b.Frames ps) {box : Box} (hbox : box.IsHull qs) :
    (b.includeBox box).Frames (ps ∪ qs) := by
  obtain ⟨_ | old⟩ := b
  · obtain rfl : ps = ∅ := h
    rw [Set.empty_union]
    exact hbox
  · exact Box.IsHull.join h hbox

/-- Including a rectangle adds its corners, if it counts. -/
theorem includeRect (h : b.Frames ps) (p q : Point Float) :
    (b.includeRect p q).Frames (ps ∪ corners [(p, q)]) := by
  cases hadmits : admits p q with
  | true =>
    have hcorners : corners [(p, q)] = {p, q} := by
      ext r
      simp [corners, hadmits]
    obtain ⟨hp, hq⟩ := Bool.and_eq_true_iff.1 hadmits
    rw [Bounds.includeRect, if_pos hadmits, hcorners]
    exact h.includeBox (Box.isHull_spanned hp hq)
  | false =>
    have hcorners : corners [(p, q)] = ∅ := by
      ext r
      simp [corners, hadmits]
    rw [includeRect_of_not_admits hadmits, hcorners, Set.union_empty]
    exact h

/-- Uniting with an extent adds what that one frames. -/
theorem union (h : b.Frames ps) (h' : b'.Frames qs) : (b.union b').Frames (ps ∪ qs) := by
  obtain ⟨_ | box⟩ := b'
  · obtain rfl : qs = ∅ := h'
    rw [Set.union_empty]
    exact h
  · have hhull : box.IsHull qs := h'
    have hadmits : admits box.lo box.hi = true := by
      rw [admits, hhull.isFinite_lo, hhull.isFinite_hi, Bool.and_self]
    show (b.includeRect box.lo box.hi).Frames (ps ∪ qs)
    rw [Bounds.includeRect, if_pos hadmits]
    exact h.includeBox hhull.spanned

end Frames

end Bounds

/-! ### Calls -/

/-- The calls by which an extent grows, the last one outermost. What is united with it has grown by
calls as well. -/
inductive Growth where
  | start
  | point (before : Growth) (p : Point Float)
  | rect (before : Growth) (p q : Point Float)
  | union (before other : Growth)

namespace Growth

/-- What the calls make of an extent. -/
def onto (b : Bounds) : Growth → Bounds
  | start => b
  | point g p => (g.onto b).includePoint p
  | rect g p q => (g.onto b).includeRect p q
  | union g other => (g.onto b).union (other.onto .empty)

/-- The extent that the calls make of the empty one. -/
def bounds (g : Growth) : Bounds :=
  g.onto .empty

/-- The rectangles that were included, also those of the extents that were united. -/
def rects : Growth → List (Point Float × Point Float)
  | start => []
  | point g p => g.rects ++ [(p, p)]
  | rect g p q => g.rects ++ [(p, q)]
  | union g other => g.rects ++ other.rects

theorem corners_append (rs rs' : List (Point Float × Point Float)) :
    corners (rs ++ rs') = corners rs ∪ corners rs' := by
  ext p
  simp only [corners, List.mem_append, Set.mem_ofPred_eq, Set.mem_union, or_and_right, exists_or]

@[simp] theorem corners_nil : corners [] = ∅ := by
  ext p
  simp [corners]

/-- **Calls frame what was included**, in addition to what was framed before. -/
theorem frames_onto (g : Growth) {b : Bounds} {ps : Set (Point Float)} (h : b.Frames ps) :
    (g.onto b).Frames (ps ∪ corners g.rects) := by
  induction g generalizing b ps with
  | start => simpa [onto, rects] using h
  | point g p ih =>
    rw [rects, corners_append, ← Set.union_assoc]
    exact (ih h).includeRect p p
  | rect g p q ih =>
    rw [rects, corners_append, ← Set.union_assoc]
    exact (ih h).includeRect p q
  | union g other ih ihother =>
    have hother := ihother Bounds.frames_empty
    rw [Set.empty_union] at hother
    rw [rects, corners_append, ← Set.union_assoc]
    exact (ih h).union hother

theorem frames_bounds (g : Growth) : g.bounds.Frames (corners g.rects) := by
  have hframes := g.frames_onto Bounds.frames_empty
  rwa [Set.empty_union] at hframes

end Growth

end GerberMask
