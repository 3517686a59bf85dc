import GerberMask.Proofs.Gerber.UnreadParts

/-!
# The drawing is write-only

A document adds items to its drawing and never reads it. Stated as a law: putting another drawing
in front of a state's own (`State.onto`) commutes with everything that a document can execute, so
with every operation, word, block, command and step, and in the end with a whole run (`run_onto`).
The reports are equal, warnings included.

The law rests on `append_add` alone: adding an item at the end does not see what stands at the
front. With it a drawing in front is a change of what is not read (`UnreadChange.inFront`), and
operations, words and commands do not see such a change.

Two readings are used later. In front of a state that has drawn nothing, a drawing is a history, and
the law separates what a document draws from what was there before. And a drawing without items is a
starting extent, which the law shows to have no influence.
-/

namespace GerberMask.Gerber

/-! ### One drawing after another -/

namespace Drawing

/-- A drawing continued by the items of another: these grow its extent one after the other, and the
extent of the other plays no part. -/
def append (d e : Drawing) : Drawing :=
  ⟨d.items ++ e.items, e.items.foldl DrawItem.extend d.bounds⟩

theorem append_add (d e : Drawing) (item : DrawItem) :
    d.append (e.add item) = (d.append e).add item := by
  simp [append, add]

end Drawing

variable {α : Type}

/-- The state with another drawing in front of its own. -/
def State.onto (d : Drawing) (s : State α) : State α :=
  { s with drawing := d.append s.drawing }

namespace State

variable (d : Drawing) (s : State α)

@[simp] theorem modes_onto : (s.onto d).modes = s.modes := rfl

@[simp] theorem registry_onto : (s.onto d).registry = s.registry := rfl

@[simp] theorem drawing_onto : (s.onto d).drawing = d.append s.drawing := rfl

@[simp] theorem openMacro?_onto : (s.onto d).openMacro? = s.openMacro? := rfl

/-- Every state is one that has drawn nothing, with its drawing in front. -/
theorem onto_within (bounds : Bounds) :
    ({ s with drawing := .within bounds } : State α).onto s.drawing = s := by
  simp [onto, Drawing.append, Drawing.within]

end State

/-- A drawing in front, as a change of what is not read. -/
def UnreadChange.inFront (d : Drawing) : UnreadChange :=
  ⟨d.append, d.append_add, id⟩

theorem UnreadChange.keepsMode_inFront (d : Drawing) : (inFront d).KeepsMode := fun _ ↦ rfl

/-! ### Blocks -/

namespace Block

/-- The block whose state has another drawing in front of its own. -/
def onto (d : Drawing) (b : Block α) : Block α :=
  { b with state := b.state.onto d }

variable (d : Drawing) [Scalar α]

theorem word_onto (position : Nat) (text : String) (b : Block α) (w : Word) :
    (b.onto d).word position text w = onto d <$> b.word position text w :=
  word_changed (.inFront d) b (.inl (UnreadChange.keepsMode_inFront d)) position text

theorem words_onto (position : Nat) (text : String) (b : Block α) (ws : List Word) :
    (b.onto d).words position text ws = onto d <$> b.words position text ws := by
  induction ws generalizing b with
  | nil => simp [words]
  | cons w ws ih =>
    have hended : ∀ b' : Block α, (b'.onto d).ended = b'.ended := fun _ ↦ rfl
    simp only [words, word_onto, bind_map_left, map_bind, hended, ih]
    refine congrArg _ (funext fun b' ↦ ?_)
    cases b'.ended <;> simp

end Block

/-! ### Commands, steps and runs -/

namespace State

variable (d : Drawing) [Scalar α]

theorem block_onto (s : State α) (text : String) (position : Nat) :
    (s.onto d).block text position = onto d <$> s.block text position := by
  have hstart : Block.start (s.onto d) = (Block.start s).onto d := rfl
  have hfinish : ∀ b : Block α, (b.onto d).finish position = onto d <$> b.finish position :=
    fun b ↦ Block.finish_changed (.inFront d) b position
  simp only [block, hstart, Block.words_onto, bind_map_left, hfinish, map_bind]

theorem command_onto (s : State α) (text : String) (position : Nat) :
    (s.onto d).command text position = onto d <$> s.command text position := by
  rw [command, command, openMacro?_onto, modes_onto]
  rcases s.openMacro? with - | name
  · dsimp only
    split
    · exact extendedCommand_changed (.inFront d) s (.inl (UnreadChange.keepsMode_inFront d))
        position
    · exact block_onto d s text position
  · simp [onto]

theorem step_onto (s : State α) (position : Nat) (t : Token) :
    (s.onto d).step position t = onto d <$> s.step position t := by
  by_cases hstop : s.modes.stoppedAt?.isSome
  · simp [step, hstop]
  · cases t with
    | toggle => simp [step, hstop, toggle, onto]
    | command text => simp [step, hstop, command_onto]

theorem runFrom_onto (r : Report GerberError (State α)) (tokens : List (Token × Nat)) :
    runFrom (onto d <$> r) tokens = onto d <$> runFrom r tokens := by
  induction tokens generalizing r with
  | nil => rfl
  | cons t tokens ih =>
    have hstep : (onto d <$> r).bind (·.step t.2 t.1) = onto d <$> r.bind (·.step t.2 t.1) := by
      show (onto d <$> r) >>= _ = onto d <$> (r >>= _)
      simp only [bind_map_left, step_onto, map_bind]
    rw [runFrom, List.foldl_cons, hstep]
    exact ih _

/-- **Runs do not see what was drawn before them.** -/
theorem run_onto (s : State α) (tokens : List Token) :
    (s.onto d).run tokens = onto d <$> s.run tokens := by
  rw [run, run, ← runFrom_onto]
  simp

/-- **Runs only add.** What was drawn before stays where it is, and the extent grows by the items
that are added. -/
theorem runFrom_drawing (s : State α) (tokens : List (Token × Nat)) :
    (runFrom (.ok s) tokens).Ensures fun s' ↦ ∃ e, s'.drawing = s.drawing.append e := by
  have hsplit := runFrom_onto s.drawing
    (.ok ({ s with drawing := .within .empty } : State α)) tokens
  rw [Report.ok_eq_pure, map_pure, onto_within] at hsplit
  rw [Report.ok_eq_pure, hsplit]
  exact Report.Ensures.map fun s₀ _ ↦ ⟨s₀.drawing, rfl⟩

end State

end GerberMask.Gerber
