import GerberMask.Gerber.Interpretation
import GerberMask.Proofs.Gerber.ReportLaws

/-!
# Parts of a state that are not read

Most of what a document executes hands two parts of the state on without looking at them: the
drawing, to which items are added at the end, and the mode of coordinates, which is asked for by
coordinates alone. Stated as a law: a change of these parts (`UnreadChange`) commutes with every
operation, word and command that does not ask for the mode. The reports are equal, warnings
included.

For the drawing the law rests on one property of the change, that it does not see whether an item is
added before or after it (`UnreadChange.drawing_add`). For the mode nothing is needed, but where it
is read or set the change has to leave it alone (`UnreadChange.KeepsMode`).
-/

namespace GerberMask.Gerber

/-- A change of the parts of a state that operations hand on without reading them. -/
structure UnreadChange where
  drawing : Drawing → Drawing
  /-- Items are added behind all that the change does. -/
  drawing_add : ∀ d item, drawing (d.add item) = (drawing d).add item
  mode : CoordinateMode → CoordinateMode

namespace UnreadChange

/-- Whether a change leaves the mode of coordinates alone. -/
def KeepsMode (c : UnreadChange) : Prop :=
  ∀ mode, c.mode mode = mode

variable (c : UnreadChange)

theorem drawing_foldl_add (d : Drawing) (items : List DrawItem) :
    c.drawing (items.foldl Drawing.add d) = items.foldl Drawing.add (c.drawing d) := by
  induction items generalizing d with
  | nil => rfl
  | cons item items ih => rw [List.foldl_cons, List.foldl_cons, ih, c.drawing_add]

theorem addDrawn_drawing {ε : Type} (d : Drawing) (drawn : Drawn) :
    (c.drawing d).addDrawn drawn = c.drawing <$> (d.addDrawn drawn : Report ε Drawing) := by
  rw [Drawing.addDrawn, Drawing.addDrawn, map_bind]
  refine congrArg _ (funext fun _ ↦ ?_)
  rw [Drawing.addAll, Drawing.addAll, ← drawing_foldl_add]
  show _ = (⟨_ ++ #[], _⟩ : Report ε Drawing)
  rw [Array.append_empty]
  rfl

end UnreadChange

/-- Whether a word asks for the mode of coordinates or sets it. -/
def Word.usesMode (w : Word) : Bool :=
  w.letter ∈ ['X', 'Y'] || w.letter == 'G' && (readWord? 32 w.number).any (· ∈ [90, 91])

variable {α : Type}

namespace State

/-- The state after a change of what is not read. -/
def changed (c : UnreadChange) (s : State α) : State α :=
  { s with
    drawing := c.drawing s.drawing
    modes.format.mode := c.mode s.modes.format.mode }

variable (c : UnreadChange)

/-! ### Operations -/

theorem addDrawn_changed (s : State α) (drawn : Drawn) :
    (s.changed c).addDrawn drawn = changed c <$> s.addDrawn drawn := by
  simp only [addDrawn, changed, UnreadChange.addDrawn_drawing, map_bind, bind_map_left, map_pure]

theorem drawEach_changed (s : State α) (draw : Primitive → Except GerberError Drawn)
    (ps : List Primitive) :
    (s.changed c).drawEach draw ps = changed c <$> s.drawEach draw ps := by
  induction ps generalizing s with
  | nil => simp [drawEach]
  | cons p ps ih => simp only [drawEach, addDrawn_changed, map_bind, bind_map_left, ih]

theorem closeRegion_changed (s : State α) :
    (s.changed c).closeRegion = changed c <$> s.closeRegion := by
  have hregion : (s.changed c).modes.region? = s.modes.region? := rfl
  rw [closeRegion, closeRegion, hregion]
  rcases s.modes.region? with - | contour
  · simp
  · dsimp only
    rcases contour.build with - | path
    · simp [changed]
    · exact addDrawn_changed c { s with modes.region? := none } _

/-- A code that sets the mode of coordinates commutes with changes of the rest. -/
theorem preparatory_changed (s : State α) {code : Nat}
    (h : c.KeepsMode ∨ code ≠ 90 ∧ code ≠ 91) (position : Nat) :
    (s.changed c).preparatory code position = changed c <$> s.preparatory code position := by
  have hmode : ∀ mode, code = 90 ∨ code = 91 → c.mode mode = mode := by
    rintro mode hcode
    exact h.elim (· mode) fun hne ↦ absurd hcode (not_or.2 hne)
  -- opening a region asks whether one is open, closing one draws; the other codes set a mode
  by_cases hopen : code = 36
  · subst hopen
    have hregion : (s.changed c).modes.region? = s.modes.region? := rfl
    simp only [preparatory, hregion]
    by_cases hisOpen : s.modes.region?.isSome <;> simp [hisOpen, changed]
  by_cases hclose : code = 37
  · subst hclose
    exact closeRegion_changed c s
  · unfold preparatory
    split <;> simp_all [changed]

theorem select_changed (s : State α) (code position : Nat) :
    (s.changed c).select code position = changed c <$> s.select code position := by
  have hregistry : (s.changed c).registry = s.registry := rfl
  rw [select, select, hregistry]
  cases s.registry.contains code <;> simp [changed]

variable [Scalar α]

theorem flashAt_changed (s : State α) (target : Point α) (position : Nat) :
    (s.changed c).flashAt target position = changed c <$> s.flashAt target position := by
  simp only [flashAt, map_bind, ← drawEach_changed]
  rfl

theorem strokeTo_changed (s : State α) (target : Point α) (position : Nat) :
    (s.changed c).strokeTo target position = changed c <$> s.strokeTo target position := by
  simp only [strokeTo, map_bind, ← drawEach_changed]
  rfl

theorem drawTo_changed (s : State α) (target : Point α) (position : Nat) :
    (s.changed c).drawTo target position = changed c <$> s.drawTo target position := by
  have hregion : (s.changed c).modes.region? = s.modes.region? := rfl
  rw [drawTo, drawTo, hregion]
  rcases s.modes.region? with - | contour
  · exact strokeTo_changed c s target position
  · simp only [Report.ok_eq_pure, map_pure]
    rfl

theorem operation_changed (s : State α) (code : Nat) (target : Point α) (position : Nat) :
    (s.changed c).operation code target position =
      changed c <$> s.operation code target position := by
  unfold operation
  split
  · exact drawTo_changed c { s with modes.toolOn := true } target position
  · simp [changed]
  · exact flashAt_changed c { s with modes.toolOn := false } target position
  · split
    · exact select_changed c s code position
    · simp

end State

/-! ### Blocks -/

namespace Block

/-- The block whose state has changed in what is not read. -/
def changed (c : UnreadChange) (b : Block α) : Block α :=
  { b with state := b.state.changed c }

variable (c : UnreadChange)

@[simp] theorem state_changed (b : Block α) : (b.changed c).state = b.state.changed c := rfl

@[simp] theorem target_changed (b : Block α) : (b.changed c).target = b.target := rfl

variable [Scalar α]

/-- How a coordinate is read does not depend on the mode, only the place that it names does. -/
theorem readCoordinate_changed (b : Block α) (axis : Axis) (number : List Char) (position : Nat) :
    (b.changed c).readCoordinate axis number position = b.readCoordinate axis number position := rfl

theorem placed_changed (h : c.KeepsMode) (b : Block α) (current v : α) :
    (b.changed c).placed current v = b.placed current v := by
  have hmode : (b.changed c).state.modes.format.mode = b.state.modes.format.mode := h _
  rw [placed, placed, hmode]

/-- **A word that has nothing to do with the mode of coordinates does not see a change of it**, and
no word sees a change of the rest. -/
theorem word_changed (b : Block α) {w : Word} (h : c.KeepsMode ∨ w.usesMode = false)
    (position : Nat) (text : String) :
    (b.changed c).word position text w = changed c <$> b.word position text w := by
  obtain ⟨letter, number⟩ := w
  have hcoordinate : letter ∈ ['X', 'Y'] → c.KeepsMode := by
    intro hletter
    refine h.resolve_right fun hw ↦ ?_
    rw [Word.usesMode, decide_eq_true hletter, Bool.true_or] at hw
    cases hw
  unfold word
  split
  -- a G word goes on to `preparatory` unless it is a comment
  case h_1 hletter =>
    obtain rfl : letter = 'G' := hletter
    rw [map_bind]
    refine Report.Ensures.bind_congr (P := fun code ↦ readCode number position = .ok code)
      (fun _ hcode ↦ hcode) fun code hcode ↦ ?_
    have hread : readWord? 32 number = some code := by
      unfold readCode at hcode
      cases hnumber : readWord? 32 number <;> simp_all
    have hmode : c.KeepsMode ∨ code ≠ 90 ∧ code ≠ 91 := by
      simpa [Word.usesMode, hread] using h
    split
    · rfl
    · rw [map_bind, state_changed, State.preparatory_changed c b.state hmode, bind_map_left]
      rfl
  case h_2 hletter =>
    obtain rfl : letter = 'X' := hletter
    simp only [readCoordinate_changed, placed_changed c (hcoordinate (by decide)), map_bind,
      map_pure]
    rfl
  case h_3 hletter =>
    obtain rfl : letter = 'Y' := hletter
    simp only [readCoordinate_changed, placed_changed c (hcoordinate (by decide)), map_bind,
      map_pure]
    rfl
  -- a D word goes on to `operation`
  case h_6 =>
    simp only [map_bind, state_changed, target_changed, State.operation_changed, bind_map_left,
      map_pure]
    rfl
  case h_8 =>
    simp only [map_bind]
    refine congrArg _ (funext fun code ↦ ?_)
    split
    · rfl
    · simp only [map_bind, map_pure]
      rfl
  all_goals simp only [Report.ok_eq_pure, map_bind, map_pure] <;> rfl

theorem finish_changed (b : Block α) (position : Nat) :
    (b.changed c).finish position = State.changed c <$> b.finish position := by
  have hmodes : (b.changed c).state.modes.stoppedAt? = b.state.modes.stoppedAt? ∧
      (b.changed c).state.modes.region? = b.state.modes.region? ∧
      (b.changed c).state.modes.toolOn = b.state.modes.toolOn ∧
      (b.changed c).pending = b.pending := ⟨rfl, rfl, rfl, rfl⟩
  obtain ⟨hstop, hregion, htool, hpending⟩ := hmodes
  rw [finish, finish, hstop, hregion, htool, hpending]
  split
  · rfl
  split
  · rw [state_changed, target_changed, State.drawTo_changed, bind_map_left, map_bind]
    rfl
  · rfl

end Block

/-! ### Extended commands -/

namespace State

variable (c : UnreadChange)

theorem setPolarity_changed (s : State α) (args : List Char) (command : String) :
    (s.changed c).setPolarity args command = changed c <$> s.setPolarity args command := by
  unfold setPolarity
  split <;> simp [changed]

theorem setUnit_changed (s : State α) (args : List Char) (command : String) :
    (s.changed c).setUnit args command = changed c <$> s.setUnit args command := by
  unfold setUnit
  split <;> simp [changed]

/-- Only the command that sets the format sets the mode of coordinates. -/
theorem extendedCommand_changed (s : State α) {command : String}
    (h : c.KeepsMode ∨ String.ofList (command.toList.take 2) ≠ "FS") (position : Nat) :
    (s.changed c).extendedCommand command position =
      changed c <$> s.extendedCommand command position := by
  unfold extendedCommand
  split
  · simp only [map_bind, map_pure]
    rfl
  · simp [openMacro, changed]
  next hname =>
    have hmode : c.KeepsMode := h.resolve_right (absurd hname)
    simp only [map_bind, map_pure, changed, hmode _]
  · exact setPolarity_changed c s _ command
  · exact setUnit_changed c s _ command
  · split
    · simp
    · split <;> simp

end State

end GerberMask.Gerber
