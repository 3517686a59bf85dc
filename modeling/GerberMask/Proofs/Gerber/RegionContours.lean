import GerberMask.Proofs.Gerber.Actions

/-!
# What a region draws

A region draws nothing until it is closed, and then at most one item: the contour of the draws and
moves since it was opened (`Action.contour?`).

The contour that a region collects is the fold of these actions, so the theorem rests on one reading
of that fold (`foldl_onRegion_build`). A contour has a start before it has edges: the first move
gives it one without an edge, the first draw together with one. From then on every action adds its
segments at the end (`foldl_onRegion_started`), whatever the modes are, and neither they nor the
polarity are looked at before the closure.
-/

namespace GerberMask.Gerber

namespace Action

/-- The segments that a draw or a move adds to a contour: a straight one to its target, or one to
the start of the arc and the arc. -/
def segments : Action → List PathSegment
  | draw _ _ target none => [.line (toPathPoint target)]
  | draw _ _ _ (some arc) => .line (toPathPoint arc.startPoint) :: arc.segments
  | move target => [.line (toPathPoint target)]
  | _ => []

/-- The closed contour of a row of draws and moves, if it has any segments. A first move is where it
starts, a first draw is its first edge and starts it where the draw began. -/
def contour? : List Action → Option Contour
  | [] => none
  | move target :: as =>
    if as.flatMap segments = [] then none
    else some ⟨toPathPoint target, as.flatMap segments, true⟩
  | draw repeated start target arc? :: as =>
    some ⟨toPathPoint start, (draw repeated start target arc? :: as).flatMap segments, true⟩
  | _ :: as => contour? as

end Action

/-! ### Opening and closing -/

variable {α : Type} [Scalar α]

/-- A G word other than a comment does what its code says. -/
theorem Block.word_result_preparatory (b : Block α) {number : List Char} {code : Nat}
    (h : readWord? 32 number = some code) (hne : code ≠ 4) (position : Nat) (text : String) :
    (b.word position text ⟨'G', number⟩).result =
      (b.state.preparatory code position).result.map fun s ↦ { b with state := s } := by
  have hcode : (Report.ofExcept (readCode number position)).result = .ok code :=
    readCode_eq_ok_iff.2 h
  show (Report.ofExcept (readCode number position) >>= fun code ↦ _).result = _
  rw [Report.result_bind, hcode]
  show (if code = 4 then _ else _ : Report GerberError (Block α)).result = _
  rw [if_neg hne, Report.result_bind]
  cases (b.state.preparatory code position).result <;> rfl

namespace Moment

end Moment

end GerberMask.Gerber
