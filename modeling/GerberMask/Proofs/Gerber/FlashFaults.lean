import GerberMask.Proofs.Gerber.ErrorPlaces

/-!
# What flashes cannot draw

Two flashes ask for something that cannot be had. A regular polygon can have more vertices than can
be held; then the flash fails, and nothing else fails for that reason
(`tooManyVertices_iff`). An obround can have a negative side; then it is drawn, as a shape without
a path, and every other item has one (`exists_pathless_iff`).

Both are read off the primitives that a document flashes, and definitions ask nothing of them.
-/

namespace GerberMask.Gerber

variable {α : Type}

/-! ### Too many vertices -/

namespace State

/-- If one of the primitives has too many vertices, drawing fails at the first one that has. -/
theorem drawEach_flashOne_error (s : State α) (place : Point Float) (polarity : Polarity)
    (position : Nat) {ps : List Primitive} {p : Primitive} (hp : p ∈ ps)
    (hexcess : p.excessVertices?.isSome) :
    ∃ n, (s.drawEach (flashOne place polarity position) ps).result =
      .error ⟨.tooManyVertices n, position⟩ := by
  induction ps generalizing s with
  | nil => cases hp
  | cons q ps ih =>
    rw [drawEach]
    cases hq : q.excessVertices? with
    | some n =>
      have hfails : flashOne place polarity position q = .error ⟨.tooManyVertices n, position⟩ := by
        simp [flashOne, hq]
      exact ⟨n, by rw [hfails]; rfl⟩
    | none =>
      have hdraws : flashOne place polarity position q = .ok (q.flash place polarity) := by
        simp [flashOne, hq]
      have hlater : p ∈ ps := by
        obtain rfl | hlater := List.mem_cons.1 hp
        · rw [hq] at hexcess
          cases hexcess
        · exact hlater
      obtain ⟨n, hn⟩ := ih { s with
        drawing := (q.flash place polarity).items.foldl Drawing.add s.drawing } hlater
      refine ⟨n, ?_⟩
      rw [hdraws, Report.bind_eq_of_ok rfl, Report.bind_eq_of_ok (addDrawn_result _ _)]
      exact hn

end State

variable [Scalar α]

theorem State.flashAt_error {s : State α} {p : Primitive} (hp : p ∈ s.tool)
    (hexcess : p.excessVertices?.isSome) (target : Point α) (position : Nat) :
    ∃ n, (s.flashAt target position).result = .error ⟨.tooManyVertices n, position⟩ := by
  obtain ⟨n, hn⟩ := s.drawEach_flashOne_error (target.map Scalar.toFloat) s.modes.polarity position
    hp hexcess
  refine ⟨n, ?_⟩
  rw [flashAt, selected_of_mem_tool hp, Report.bind_eq_of_ok rfl]
  exact hn

namespace Moment

/-- A move fails at its token, and for its vertices only if it flashes a primitive with too many. -/
theorem next?_error {m : Moment α} {e : GerberError} (h : m.next? = some (.error e)) :
    e.position = m.position ∧ ∀ n, e.fault = .tooManyVertices n →
      m.actions = [.flash] ∧ ∃ p ∈ m.state.tool, p.excessVertices?.isSome := by
  cases next?_eq_error_iff.1 h with
  | step running other failed =>
    refine (State.step_failsAt _ _ _).mono (fun hblock ↦ ?_) e failed
    exact absurd other hblock
  | word failed => exact Block.word_failsAt _ _ _ _ e failed
  | finish failed => exact Block.finish_failsAt _ _ e failed

/-- A flash of a primitive with too many vertices fails. -/
theorem next?_of_excess {m : Moment α} (hflash : m.actions = [.flash]) {p : Primitive}
    (hp : p ∈ m.state.tool) (hexcess : p.excessVertices?.isSome) :
    ∃ n, m.next? = some (.error ⟨.tooManyVertices n, m.position⟩) := by
  obtain ⟨b, number, words, text, position, rest, rfl, hcode⟩ := actions_eq_flash_iff.1 hflash
  obtain ⟨n, hn⟩ := State.flashAt_error
    (s := { b.state with modes.toolOn := false }) hp hexcess b.target position
  refine ⟨n, next?_eq_error_iff.2 (.word ?_)⟩
  rw [Block.word_result_operation b hcode, Report.map_eq_error]
  exact hn

end Moment

/-- **An interpretation fails for its vertices exactly if it flashes a primitive with too many.** -/
theorem tooManyVertices_iff {source : String} {bounds : Bounds} :
    (∃ n position, (interpretOver α source bounds).result =
      .error ⟨.tooManyVertices n, position⟩) ↔
    ∃ p, Flashes α source bounds p ∧ p.excessVertices?.isSome := by
  constructor
  · rintro ⟨n, position, h⟩
    obtain ⟨as, m, hlead, hfails⟩ := interpretOver_eq_error_iff.1 h
    obtain ⟨hactions, p, hp, hexcess⟩ := (Moment.next?_error hfails).2 n rfl
    exact ⟨p, ⟨as, m, hlead, hactions, hp⟩, hexcess⟩
  · rintro ⟨p, ⟨as, m, hlead, hactions, hp⟩, hexcess⟩
    obtain ⟨n, hn⟩ := Moment.next?_of_excess hactions hp hexcess
    exact ⟨n, m.position, interpretOver_eq_error_iff.2 ⟨as, m, hlead, hn⟩⟩

/-! ### Shapes without a path -/

theorem Shape.toPath?_eq_none_iff {s : Shape} :
    s.toPath? = none ↔ ∃ center width height radius, s = .rounded center width height radius ∧
      ¬ 0 ≤ Box.lesser width height / 2 := by
  cases s with
  | rounded center width height radius =>
    rw [toPath?, Option.map_eq_none_iff, cornerRadius?]
    constructor
    · intro h
      refine ⟨center, width, height, radius, rfl, fun hlimit ↦ ?_⟩
      rw [if_pos hlimit] at h
      cases h
    · rintro ⟨_, _, _, _, ⟨⟩, hlimit⟩
      exact if_neg hlimit
  | _ => exact iff_of_false (by rintro ⟨⟩) (by rintro ⟨_, _, _, _, ⟨⟩, -⟩)

namespace Primitive

/-- An obround with a negative side: no radius fits its corners. -/
def IsPathless (p : Primitive) : Prop :=
  p.kind = .obround ∧ ¬ 0 ≤ Box.lesser (p.param 0) (p.param 1) / 2

/-- A macro makes ellipses and outlines. -/
theorem toPath?_of_macroShape {p : Primitive} {place : Point Float} {shape : Shape}
    (h : p.macroShape place = .ok shape) : shape.toPath? ≠ none := by
  intro hpath
  obtain ⟨center, width, height, radius, rfl, -⟩ := Shape.toPath?_eq_none_iff.1 hpath
  unfold macroShape at h
  dsimp only at h
  split at h
  -- a vector line without length and an outline without its points make nothing
  case h_2 | h_4 => split at h <;> cases h
  all_goals cases h

theorem pathless_shape_iff (p : Primitive) (place : Point Float) :
    (∃ shape, p.shape? place = some shape ∧ shape.toPath? = none) ↔ p.IsPathless := by
  cases hkind : p.kind with
  | obround =>
    simp only [shape?, standardShape?, hkind, Option.some.injEq, exists_eq_left',
      Shape.toPath?_eq_none_iff, Shape.rounded.injEq, IsPathless, true_and]
    constructor
    · rintro ⟨_, _, _, _, ⟨-, rfl, rfl, -⟩, hlimit⟩
      exact hlimit
    · exact fun hlimit ↦ ⟨_, _, _, _, ⟨rfl, rfl, rfl, rfl⟩, hlimit⟩
  | circle | rectangle | polygon =>
    refine iff_of_false ?_ fun h ↦ by simp [IsPathless, hkind] at h
    simp [shape?, standardShape?, hkind, Shape.toPath?, Shape.circle]
  | _ =>
    refine iff_of_false ?_ fun h ↦ by simp [IsPathless, hkind] at h
    rintro ⟨shape, hshape, hpath⟩
    simp only [shape?, standardShape?, hkind] at hshape
    cases hmade : p.macroShape place with
    | error w => simp [hmade, Except.toOption] at hshape
    | ok shape' =>
      obtain rfl : shape' = shape := by simpa [hmade, Except.toOption] using hshape
      exact toPath?_of_macroShape hmade hpath

end Primitive

/-- **The items without a path are the obrounds with a negative side.** -/
theorem exists_pathless_iff {source : String} {bounds : Bounds} {i : Interpretation}
    (h : (interpretOver α source bounds).result = .ok i) :
    (∃ item ∈ i.items, item.shape.toPath? = none) ↔
      ∃ p, Flashes α source bounds p ∧ p.IsPathless := by
  refine exists_flawed_iff _ _ ?_ ?_ ?_ ?_ (fun p place ↦ p.pathless_shape_iff place) h
  all_goals
    intros
    rintro ⟨⟩

end GerberMask.Gerber
