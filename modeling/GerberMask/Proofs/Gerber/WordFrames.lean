import GerberMask.Proofs.Gerber.BlockSpellings

/-!
# What a word leaves alone

A word of a block leaves alone where the block began, and unless it is a coordinate also where the
block goes. How coordinates are read, which is a question of the unit and the format, is changed by
four G codes and by nothing else in a block. Whether the block ends with a word can be told from the
word (`Word.ends`). All this is one frame (`Word.Frame`), which every word has
(`Block.word_leaves`).

So a block without coordinates goes nowhere (`State.block_unmoved`).
-/

namespace GerberMask.Gerber

namespace Word

/-- Whether the rest of a block behind a word is not executed. -/
def ends (w : Word) : Bool :=
  match w.letter with
  | 'G' => readWord? 32 w.number == some 4
  | 'X' | 'Y' | 'I' | 'J' | 'D' | 'N' => false
  | _ => true

/-- Whether a word changes how coordinates are read: the codes of the units and of the modes. -/
def setsReading (w : Word) : Bool :=
  w.letter == 'G' && (readWord? 32 w.number).any (· ∈ [70, 71, 90, 91])

variable {α : Type}

/-- What a word of a block leaves alone. -/
structure Frame (w : Word) (b b' : Block α) : Prop where
  position : b'.state.modes.position = b.state.modes.position
  target : w.letter ∉ ['X', 'Y'] → b'.target = b.target
  reading : w.setsReading = false →
    b'.state.modes.unit = b.state.modes.unit ∧ b'.state.modes.format = b.state.modes.format
  ended : b'.ended = (b.ended || w.ends)

end Word

variable {α : Type}

namespace State

/-- A G code changes how coordinates are read only if that is what it stands for. -/
theorem preparatory_reading (s : State α) {code : Nat} (hcode : code ∉ [70, 71, 90, 91])
    (position : Nat) :
    (s.preparatory code position).Ensures fun s' ↦
      s'.modes.unit = s.modes.unit ∧ s'.modes.format = s.modes.format := by
  unfold preparatory
  split
  -- opening a region may give a warning first
  case h_7 =>
    split
    · exact Report.ensures_bind fun _ ↦ Report.ensures_pure ⟨rfl, rfl⟩
    · exact Report.ensures_pure ⟨rfl, rfl⟩
  case h_8 =>
    intro s' hs'
    rw [closeRegion_result] at hs'
    cases hs'
    exact ⟨rfl, rfl⟩
  -- an unknown code
  case h_17 => exact Report.ensures_bind fun _ ↦ Report.ensures_pure ⟨rfl, rfl⟩
  all_goals first
    | exact Report.ensures_pure ⟨rfl, rfl⟩
    | exact absurd (by decide) hcode

variable [Scalar α]

theorem drawTo_unmoved (s : State α) (target : Point α) (position : Nat) :
    (s.drawTo target position).Ensures fun s' ↦ s'.modes.position = s.modes.position ∧
      s'.modes.unit = s.modes.unit ∧ s'.modes.format = s.modes.format := by
  rw [drawTo]
  split
  · exact Report.ensures_pure ⟨rfl, rfl, rfl⟩
  · refine Report.ensures_bind fun primitives ↦ (drawEach_only s _ primitives).mono ?_
    rintro _ ⟨d, rfl⟩
    exact ⟨rfl, rfl, rfl⟩

/-- No operation moves the position: that is done when the block is complete. -/
theorem operation_unmoved (s : State α) (code : Nat) (target : Point α) (position : Nat) :
    (s.operation code target position).Ensures fun s' ↦ s'.modes.position = s.modes.position ∧
      s'.modes.unit = s.modes.unit ∧ s'.modes.format = s.modes.format := by
  unfold operation
  split
  · exact drawTo_unmoved { s with modes.toolOn := true } target position
  · exact Report.ensures_pure ⟨rfl, rfl, rfl⟩
  · refine Report.ensures_bind fun primitives ↦ (drawEach_only _ _ primitives).mono ?_
    rintro _ ⟨d, rfl⟩
    exact ⟨rfl, rfl, rfl⟩
  · split
    · rw [select]
      split
      · exact Report.ensures_pure ⟨rfl, rfl, rfl⟩
      · exact Report.ensures_error _
    · exact Report.ensures_bind fun _ ↦ Report.ensures_pure ⟨rfl, rfl, rfl⟩

end State

namespace Block

variable [Scalar α]

/-- **Every word has its frame.** -/
theorem word_leaves (position : Nat) (text : String) (b : Block α) (w : Word) :
    (b.word position text w).Ensures (w.Frame b) := by
  obtain ⟨letter, number⟩ := w
  unfold word
  split
  case h_1 hletter =>
    obtain rfl : letter = 'G' := hletter
    refine ensures_readCode_bind fun code hcode ↦ ?_
    split
    next hcomment =>
      exact Report.ensures_pure ⟨rfl, fun _ ↦ rfl, fun _ ↦ ⟨rfl, rfl⟩, by
        simp [Word.ends, hcode, hcomment]⟩
    next hcomment =>
      have hgoes : b.ended = (b.ended || Word.ends ⟨'G', number⟩) := by
        simp [Word.ends, hcode, hcomment]
      intro b' hb'
      obtain ⟨s', hs', hdone⟩ := Report.result_bind_eq_ok.1 hb'
      cases hdone
      refine ⟨(State.preparatory_unmoved _ _ _ s' hs').1, fun _ ↦ rfl, fun hreading ↦ ?_, hgoes⟩
      have hcode' : code ∉ [70, 71, 90, 91] := by
        simpa [Word.setsReading, hcode] using hreading
      exact State.preparatory_reading _ hcode' _ s' hs'
  case h_6 hletter =>
    obtain rfl : letter = 'D' := hletter
    refine Report.ensures_bind fun code ↦ ?_
    refine (State.operation_unmoved b.state code b.target position).bind fun s hs ↦ ?_
    exact Report.ensures_pure ⟨hs.1, fun _ ↦ rfl, fun _ ↦ hs.2, (Bool.or_false _).symm⟩
  case h_7 hletter =>
    obtain rfl : letter = 'N' := hletter
    exact Report.ensures_pure ⟨rfl, fun _ ↦ rfl, fun _ ↦ ⟨rfl, rfl⟩, (Bool.or_false _).symm⟩
  case h_8 hletter =>
    obtain rfl : letter = 'M' := hletter
    refine Report.ensures_bind fun code ↦ ?_
    split
    · exact Report.ensures_pure ⟨rfl, fun _ ↦ rfl, fun _ ↦ ⟨rfl, rfl⟩, (Bool.or_true _).symm⟩
    · exact Report.ensures_bind fun _ ↦
        Report.ensures_pure ⟨rfl, fun _ ↦ rfl, fun _ ↦ ⟨rfl, rfl⟩, (Bool.or_true _).symm⟩
  -- an unknown letter ends the block
  case h_9 =>
    refine Report.ensures_bind fun _ ↦
      Report.ensures_pure ⟨rfl, fun _ ↦ rfl, fun _ ↦ ⟨rfl, rfl⟩, ?_⟩
    unfold Word.ends
    split <;> simp_all
  -- coordinates and offsets
  all_goals
    rename_i hletter
    subst hletter
    refine Report.ensures_bind fun v ↦ ?_
    exact Report.ensures_pure ⟨rfl, by simp, fun _ ↦ ⟨rfl, rfl⟩, (Bool.or_false _).symm⟩

/-- What the end of a block leaves alone, and where it leads: to the target, unless the document has
stopped. -/
structure Ends (b : Block α) (s : State α) : Prop where
  unit : s.modes.unit = b.state.modes.unit
  format : s.modes.format = b.state.modes.format
  stoppedAt? : s.modes.stoppedAt? = b.state.modes.stoppedAt?
  position : s.modes.position =
    if b.state.modes.stoppedAt?.isSome then b.state.modes.position else b.target

theorem finish_ends (b : Block α) (position : Nat) : (b.finish position).Ensures b.Ends := by
  rw [finish]
  split
  next hstop => exact Report.ensures_pure ⟨rfl, rfl, rfl, (if_pos hstop).symm⟩
  next hrunning =>
    split
    · intro s' hs'
      obtain ⟨s, hs, hdone⟩ := Report.result_bind_eq_ok.1 hs'
      cases hdone
      obtain ⟨-, hunit, hformat⟩ := State.drawTo_unmoved b.state b.target position s hs
      exact ⟨hunit, hformat, State.drawTo_stoppedAt? b.state b.target position s hs,
        (if_neg hrunning).symm⟩
    · exact Report.ensures_pure ⟨rfl, rfl, rfl, (if_neg hrunning).symm⟩

theorem words_unmoved (position : Nat) (text : String) {b : Block α} {ws : List Word}
    (hws : ∀ w ∈ ws, w.letter ∉ ['X', 'Y']) (hb : b.target = b.state.modes.position) :
    (b.words position text ws).Ensures fun b' ↦
      b'.target = b.target ∧ b'.state.modes.position = b.target := by
  induction ws generalizing b with
  | nil => exact Report.ensures_pure ⟨rfl, hb.symm⟩
  | cons w ws ih =>
    obtain ⟨hw, hws⟩ := List.forall_mem_cons.1 hws
    refine (word_leaves position text b w).bind fun b' hb' ↦ ?_
    have htarget : b'.target = b.target := hb'.target hw
    have hposition : b'.state.modes.position = b.target := hb'.position.trans hb.symm
    split
    · exact Report.ensures_pure ⟨htarget, hposition⟩
    · exact htarget ▸ ih hws (htarget.trans hposition.symm)

end Block

/-- A block without coordinates goes nowhere. -/
theorem State.block_unmoved [Scalar α] (s : State α) {text : String} (position : Nat)
    (h : ∀ w ∈ Word.split text.toList, w.letter ∉ ['X', 'Y']) :
    (s.block text position).Ensures (·.modes.position = s.modes.position) := by
  refine (Block.words_unmoved (b := Block.start s) position text h rfl).bind fun b hb ↦ ?_
  refine (Block.finish_ends b position).mono fun s' hs' ↦ ?_
  rw [hs'.position, hb.1, hb.2, ite_self]
  rfl

end GerberMask.Gerber
