import GerberMask.Proofs.Gerber.ApertureFaults
import GerberMask.Proofs.Gerber.InertCommands

/-!
# Coordinates without an operation

A block may say where to go and not what to do there. It then ends as if the operation stood behind
its coordinates: `D01` while the tool is on (`Block.finish_eq_draw`), `D02` while it is off
(`Block.finish_eq_move`). Inside a region it ends in `D01` also while the tool is off, but the tool
is not switched on by it (`Block.finish_eq_draw_inside`).

Coordinates and offsets change nothing that this depends on, so it is decided before the block
begins. Whether the tool is on is decided by the last operation that was executed
(`Moment.Leads.toolOn_iff`).
-/

namespace GerberMask.Gerber

/-- A text of coordinates and offsets, with one coordinate at least. -/
structure CoordinateText (text : String) : Prop where
  letters : ∀ w ∈ Word.split text.toList, w.letter ∈ ['X', 'Y', 'I', 'J']
  coordinate : ∃ w ∈ Word.split text.toList, w.letter ∈ ['X', 'Y']

/-! ### Operations of a history -/

/-- The code by which an action was asked for, if it is an operation or a selection. No code asks
for a repeated draw. -/
def Action.operation? : Action → Option Nat
  | draw false .. => some 1
  | move _ => some 2
  | flash => some 3
  | select code => some code
  | _ => none

/-- The code of a D word that asks for an operation or a selection. -/
def Word.operation? (w : Word) : Option Nat :=
  if w.letter = 'D' then
    (readWord? 32 w.number).filter fun code ↦ code ∈ [1, 2, 3] ∨ 10 ≤ code
  else none

/-- The code of the operation or selection that is executed next. -/
def Moment.operation? {α : Type} : Moment α → Option Nat
  | inside _ (w :: _) _ _ _ => w.operation?
  | _ => none

/-- The last operation switches the tool, as long as selections have other codes than draws. -/
theorem Action.foldl_onTool {as : List Action} (h : .select 1 ∉ as) (toolOn : Bool) :
    as.foldl onTool toolOn = ((as.filterMap operation?).getLast?.map (· == 1)).getD toolOn := by
  induction as using List.reverseRecOn with
  | nil => rfl
  | append_singleton as a ih =>
    have has : .select 1 ∉ as := fun hmem ↦ h (List.mem_append_left _ hmem)
    rw [List.foldl_append, List.foldl_cons, List.foldl_nil, List.filterMap_append, ih has]
    cases a with
    | draw repeated start target arc? =>
      cases repeated <;> simp [onTool, operation?]
    | select code =>
      have hcode : code ≠ 1 := by
        rintro rfl
        exact h (by simp)
      simp [onTool, operation?, hcode]
    | _ => simp [onTool, operation?]

variable {α : Type} [Scalar α]

theorem State.filterMap_operationActions (s : State α) (code : Nat) (target : Point α) :
    (s.operationActions code target).filterMap Action.operation? =
      ((some code).filter fun code ↦ code ∈ [1, 2, 3] ∨ 10 ≤ code).toList := by
  unfold operationActions
  split
  · rfl
  · rfl
  · rfl
  next hdraw hmove hflash =>
    have hcode : code ∉ [1, 2, 3] := by simpa using ⟨hdraw, hmove, hflash⟩
    split
    next hleast =>
      rw [Option.filter_some_pos (by simp [hleast])]
      rfl
    next hless =>
      rw [Option.filter_some_neg (by simp [hcode, hless])]
      rfl

/-- A D word asks for what its code says, and no other word asks for an operation. -/
theorem Block.filterMap_wordActions (b : Block α) (w : Word) :
    (b.wordActions w).filterMap Action.operation? = w.operation?.toList := by
  obtain ⟨letter, number⟩ := w
  rw [Word.operation?]
  unfold wordActions
  split
  next code hletter _ =>
    obtain rfl : letter = 'G' := hletter
    unfold preparatoryActions
    split <;> rfl
  next code hletter hcode =>
    rw [if_pos hletter, hcode]
    exact b.state.filterMap_operationActions code b.target
  next hnone =>
    by_cases hletter : letter = 'D'
    · have hcode : readWord? 32 number = none :=
        Option.eq_none_iff_forall_ne_some.2 fun code hcode ↦ hnone code hletter hcode
      simp [hcode]
    · simp [hletter]

namespace Moment

theorem filterMap_actions (m : Moment α) :
    m.actions.filterMap Action.operation? = m.operation?.toList := by
  match m with
  | between s position [] => rfl
  | between s position (t :: rest) =>
    rw [actions]
    cases s.definition? position t <;> rfl
  | inside b [] text position rest =>
    rw [actions, Block.lastActions]
    split <;> rfl
  | inside b (w :: words) text position rest => exact b.filterMap_wordActions w

/-- **The tool is on exactly if the last operation or selection was a draw.** -/
theorem Leads.toolOn_iff {source : String} {bounds : Bounds} {as : List Action} {m : Moment α}
    (h : (start source bounds).Leads as m) :
    m.state.modes.toolOn = true ↔ (as.filterMap Action.operation?).getLast? = some 1 := by
  have hselect : Action.select 1 ∉ as := fun hmem ↦ by
    obtain ⟨as₁, as₂, rfl⟩ := List.append_of_mem hmem
    obtain ⟨m₀, m₁, -, hactions, -⟩ := h.exists_move
    obtain ⟨-, -, -, -, -, -, -, -, -, hleast⟩ := actions_eq_select_iff.1 hactions
    omega
  rw [h.follows.toolOn, Action.foldl_onTool hselect]
  show ((as.filterMap Action.operation?).getLast?.map (· == 1)).getD false = true ↔ _
  cases (as.filterMap Action.operation?).getLast? <;> simp

end Moment

/-! ### Where a block goes -/

/-- The letters of the words that a block can have. -/
def Word.knownLetters : List Char :=
  ['G', 'X', 'Y', 'I', 'J', 'D', 'N', 'M']

namespace Block

/-- What coordinates and offsets leave alone. -/
structure Aims (b b' : Block α) : Prop where
  toolOn : b'.state.modes.toolOn = b.state.modes.toolOn := by rfl
  region? : b'.state.modes.region? = b.state.modes.region? := by rfl
  stoppedAt? : b'.state.modes.stoppedAt? = b.state.modes.stoppedAt? := by rfl
  drawing : b'.state.drawing = b.state.drawing := by rfl
  ended : b'.ended = b.ended := by rfl

omit [Scalar α] in
theorem Aims.trans {b b' b'' : Block α} (h : Aims b b') (h' : Aims b' b'') : Aims b b'' where
  toolOn := h'.toolOn.trans h.toolOn
  region? := h'.region?.trans h.region?
  stoppedAt? := h'.stoppedAt?.trans h.stoppedAt?
  drawing := h'.drawing.trans h.drawing
  ended := h'.ended.trans h.ended

/-- A coordinate or an offset says where the block goes, and a coordinate is waiting then. -/
theorem word_aims {w : Word} (hw : w.letter ∈ ['X', 'Y', 'I', 'J']) (position : Nat)
    (text : String) (b : Block α) :
    (b.word position text w).Ensures fun b' ↦
      Aims b b' ∧ b'.pending = (b.pending || w.letter ∈ ['X', 'Y']) := by
  obtain ⟨letter, number⟩ := w
  simp only [List.mem_cons, List.not_mem_nil, or_false] at hw
  obtain rfl | rfl | rfl | rfl := hw
  · exact Report.ensures_bind fun v ↦ Report.ensures_pure ⟨{}, by simp⟩
  · exact Report.ensures_bind fun v ↦ Report.ensures_pure ⟨{}, by simp⟩
  · exact Report.ensures_bind fun v ↦ Report.ensures_pure ⟨{}, by simp⟩
  · exact Report.ensures_bind fun v ↦ Report.ensures_pure ⟨{}, by simp⟩

/-- Only the warning about an unknown letter quotes the text of a block. -/
theorem word_text {w : Word} (hw : w.letter ∈ Word.knownLetters) (position : Nat)
    (text text' : String) (b : Block α) : b.word position text w = b.word position text' w := by
  obtain ⟨letter, number⟩ := w
  simp only [Word.knownLetters, List.mem_cons, List.not_mem_nil, or_false] at hw
  obtain rfl | rfl | rfl | rfl | rfl | rfl | rfl | rfl := hw <;> rfl

theorem words_aims {ws : List Word} (hws : ∀ w ∈ ws, w.letter ∈ ['X', 'Y', 'I', 'J'])
    (position : Nat) (text : String) {b : Block α} (hb : b.ended = false) :
    (b.words position text ws).Ensures fun b' ↦
      Aims b b' ∧ b'.pending = (b.pending || ws.any (·.letter ∈ ['X', 'Y'])) := by
  induction ws generalizing b with
  | nil => exact Report.ensures_pure ⟨{}, by simp⟩
  | cons w ws ih =>
    obtain ⟨hw, hws⟩ := List.forall_mem_cons.1 hws
    refine (word_aims hw position text b).bind fun b' ⟨haims, hpending⟩ ↦ ?_
    rw [if_neg (by simp [haims.ended, hb])]
    refine (ih hws (haims.ended.trans hb)).mono fun b'' ⟨haims', hpending'⟩ ↦ ?_
    refine ⟨haims.trans haims', ?_⟩
    rw [hpending', hpending, List.any_cons, Bool.or_assoc]

theorem words_text {ws : List Word} (hws : ∀ w ∈ ws, w.letter ∈ ['X', 'Y', 'I', 'J'])
    (position : Nat) (text text' : String) (b : Block α) :
    b.words position text ws = b.words position text' ws := by
  induction ws generalizing b with
  | nil => rfl
  | cons w ws ih =>
    obtain ⟨hw, hws⟩ := List.forall_mem_cons.1 hws
    have hknown : ['X', 'Y', 'I', 'J'] ⊆ Word.knownLetters := by decide
    rw [words, words, word_text (hknown hw) position text text']
    simp only [ih hws]

/-- Words are executed one row after the other, unless the first row ends the block. -/
theorem words_append (position : Nat) (text : String) (ws ws' : List Word) {b : Block α}
    (hb : b.ended = false) :
    b.words position text (ws ++ ws') = b.words position text ws >>= fun b' ↦
      if b'.ended then pure b' else b'.words position text ws' := by
  induction ws generalizing b with
  | nil =>
    show b.words position text ws' = pure b >>= _
    rw [pure_bind, if_neg (by simp [hb])]
  | cons w ws ih =>
    rw [List.cons_append, words, words, bind_assoc]
    refine bind_congr fun b' ↦ ?_
    split
    next hended => rw [pure_bind, if_pos hended]
    next hgoing => exact ih (by simpa using hgoing)

end Block

/-- Behind such a text a coordinate is waiting. -/
theorem CoordinateText.aims {text : String} (h : CoordinateText text) (s : State α)
    (position : Nat) :
    ((Block.start s).words position text (Word.split text.toList)).Ensures fun b ↦
      Block.Aims (Block.start s) b ∧ b.pending = true := by
  have hany : (Word.split text.toList).any (·.letter ∈ ['X', 'Y']) = true := by
    simpa using h.coordinate
  refine (Block.words_aims h.letters position text rfl).mono fun b ⟨haims, hpending⟩ ↦ ?_
  exact ⟨haims, by rw [hpending, hany, Bool.or_true]⟩

/-! ### How a block ends -/

namespace Block

section

variable {b : Block α} {position : Nat}

theorem finish_of_pending (running : b.state.modes.stoppedAt? = none) (pending : b.pending = true) :
    b.finish position =
      (if b.state.modes.region?.isSome || b.state.modes.toolOn then
        b.state.drawTo b.target position
      else pure b.state) >>= fun s ↦ pure { s with modes.position := b.target } := by
  rw [finish, running, pending, Bool.true_and]
  cases b.state.modes.region?.isSome || b.state.modes.toolOn <;> rfl

/-- While the tool is on, waiting coordinates draw. -/
theorem finish_eq_draw (running : b.state.modes.stoppedAt? = none) (pending : b.pending = true)
    (on : b.state.modes.toolOn = true) (text : String) :
    b.finish position = b.word position text ⟨'D', ['0', '1']⟩ >>= (·.finish position) := by
  have hsame : { b.state with modes.toolOn := true } = b.state := by rw [← on]
  rw [word_operation_finish running rfl (.inr (by decide)), finish_of_pending running pending,
    if_pos (by simp [on])]
  show _ = State.drawTo { b.state with modes.toolOn := true } b.target position >>= _
  rw [hsame]

/-- While the tool is off, they move. -/
theorem finish_eq_move (running : b.state.modes.stoppedAt? = none) (pending : b.pending = true)
    (off : b.state.modes.toolOn = false) (outside : b.state.modes.region? = none)
    (text : String) :
    b.finish position = b.word position text ⟨'D', ['0', '2']⟩ >>= (·.finish position) := by
  have hsame : { b.state with modes.toolOn := false, modes.region? := none } = b.state := by
    rw [← off, ← outside]
  rw [word_operation_finish running rfl (.inr (by decide)), finish_of_pending running pending,
    if_neg (by simp [off, outside])]
  show _ = (pure { b.state with
    modes.toolOn := false
    modes.region? :=
      b.state.modes.region?.map (RegionContour.moveTo · (b.target.map Scalar.toFloat)) } :
    Report GerberError (State α)) >>= _
  rw [outside, Option.map_none, hsame]

/-- Inside a region they draw all the same, but the tool stays off. -/
theorem finish_eq_draw_inside (running : b.state.modes.stoppedAt? = none)
    (pending : b.pending = true) (off : b.state.modes.toolOn = false)
    (inside : b.state.modes.region?.isSome) (text : String) :
    b.finish position = (fun s ↦ { s with modes.toolOn := false }) <$>
      (b.word position text ⟨'D', ['0', '1']⟩ >>= (·.finish position)) := by
  obtain ⟨contour, hregion⟩ := Option.isSome_iff_exists.1 inside
  rw [word_operation_finish running rfl (.inr (by decide)), finish_of_pending running pending,
    if_pos (by simp [inside])]
  have hdraw : ∀ on : Bool, State.drawTo { b.state with modes.toolOn := on } b.target position =
      pure { b.state.drawEdge contour b.target with modes.toolOn := on } := by
    intro on
    rw [State.drawTo, hregion]
    rfl
  have hsame : { b.state with modes.toolOn := false } = b.state := by rw [← off]
  show _ = _ <$> (State.drawTo { b.state with modes.toolOn := true } b.target position >>= _)
  rw [hdraw true, ← hsame, hdraw false]
  rfl

end

end Block

namespace State

/-- A block of coordinates with an operation put behind them. -/
theorem block_append_operation {text operation : String} {number : List Char} (s : State α)
    (h : CoordinateText text) (hoperation : operation.toList = 'D' :: number)
    (hnumber : ∀ c ∈ number, Word.isNumberChar c) (position : Nat) :
    s.block (text ++ operation) position =
      (Block.start s).words position text (Word.split text.toList) >>= fun b ↦
        b.word position (text ++ operation) ⟨'D', number⟩ >>= (·.finish position) := by
  have hsplit : Word.split (text ++ operation).toList =
      Word.split text.toList ++ [⟨'D', number⟩] := by
    rw [String.toList_append, hoperation, Word.split_append (by rintro _ ⟨⟩; rfl),
      Word.split_word (by decide) hnumber]
  rw [block, hsplit, Block.words_append position _ _ _ rfl, bind_assoc,
    Block.words_text h.letters position (text ++ operation) text]
  refine (Block.words_aims h.letters position text rfl).bind_congr fun b hb ↦ ?_
  have hgoing : b.ended = false := hb.1.ended
  rw [if_neg (by simp [hgoing]), Block.words_singleton]

variable {text : String} {s : State α}

/-- While the tool is on, coordinates draw. -/
theorem block_eq_draw (h : CoordinateText text) (running : s.modes.stoppedAt? = none)
    (on : s.modes.toolOn = true) (position : Nat) :
    s.block text position = s.block (text ++ "D01") position := by
  rw [s.block_append_operation h (show "D01".toList = ['D', '0', '1'] from rfl)
    (List.all_eq_true.1 (by decide))]
  refine (h.aims s position).bind_congr fun b ⟨haims, hpending⟩ ↦ ?_
  exact Block.finish_eq_draw (haims.stoppedAt?.trans running) hpending (haims.toolOn.trans on) _

/-- While it is off, they move. -/
theorem block_eq_move (h : CoordinateText text) (running : s.modes.stoppedAt? = none)
    (off : s.modes.toolOn = false) (outside : s.modes.region? = none) (position : Nat) :
    s.block text position = s.block (text ++ "D02") position := by
  rw [s.block_append_operation h (show "D02".toList = ['D', '0', '2'] from rfl)
    (List.all_eq_true.1 (by decide))]
  refine (h.aims s position).bind_congr fun b ⟨haims, hpending⟩ ↦ ?_
  exact Block.finish_eq_move (haims.stoppedAt?.trans running) hpending (haims.toolOn.trans off)
    (haims.region?.trans outside) _

/-- Inside a region they draw, but do not switch the tool on. -/
theorem block_eq_draw_inside (h : CoordinateText text) (running : s.modes.stoppedAt? = none)
    (off : s.modes.toolOn = false) (inside : s.modes.region?.isSome) (position : Nat) :
    s.block text position =
      (fun s' ↦ { s' with modes.toolOn := false }) <$> s.block (text ++ "D01") position := by
  rw [s.block_append_operation h (show "D01".toList = ['D', '0', '1'] from rfl)
    (List.all_eq_true.1 (by decide)), map_bind]
  refine (h.aims s position).bind_congr fun b ⟨haims, hpending⟩ ↦ ?_
  exact Block.finish_eq_draw_inside (haims.stoppedAt?.trans running) hpending
    (haims.toolOn.trans off) (haims.region? ▸ inside) _

theorem block_drawing (h : CoordinateText text) (off : s.modes.toolOn = false)
    (outside : s.modes.region? = none) (position : Nat) :
    (s.block text position).Ensures (·.drawing = s.drawing) := by
  refine (h.aims s position).bind fun b ⟨haims, _⟩ ↦ ?_
  have hquiet : b.lastActions = [] := by
    rw [Block.lastActions, haims.toolOn.trans off, haims.region?.trans outside]
    exact if_neg (by simp)
  refine (b.finish_follows position).mono fun s' hs' ↦ ?_
  rw [hquiet] at hs'
  exact (hs'.drawing rfl).trans haims.drawing

end State

variable (α) in
/-- **Coordinates repeat the last operation.** A block that only says where to go ends, with the
same state and drawing or the same error, as if `D01` stood behind it while the tool is on, and as
if `D02` stood there while it is off, so that nothing is drawn. In a region that is open while the
tool is off it does all that `D01` would do but switch the tool on. A document that has stopped
executes neither. And the tool is on exactly if a draw was the last that was executed of draws,
moves, flashes and selections. -/
theorem repeated_operations (source : String) (bounds : Bounds) :
    (∀ (s : State α) text position, CoordinateText text → s.modes.stoppedAt? = none →
      (s.modes.toolOn = true → s.block text position = s.block (text ++ "D01") position) ∧
      (s.modes.toolOn = false → s.modes.region? = none →
        s.block text position = s.block (text ++ "D02") position ∧
        ∀ s', (s.block text position).result = .ok s' → s'.drawing = s.drawing) ∧
      (s.modes.toolOn = false → s.modes.region?.isSome →
        s.block text position =
          (fun s' ↦ { s' with modes.toolOn := false }) <$> s.block (text ++ "D01") position)) ∧
    (∀ (s : State α) position t, s.modes.stoppedAt?.isSome → s.step position t = .ok s) ∧
    ∀ as (m : Moment α), (Moment.start source bounds).Leads as m →
      (m.state.modes.toolOn = true ↔ (as.filterMap Action.operation?).getLast? = some 1) ∧
      m.actions.filterMap Action.operation? = m.operation?.toList := by
  refine ⟨fun s text position h running ↦ ⟨fun on ↦ ?_, fun off outside ↦ ⟨?_, ?_⟩,
    fun off inside ↦ ?_⟩, fun s position t hstop ↦ State.step_of_stopped hstop position t,
    fun as m h ↦ ⟨h.toolOn_iff, m.filterMap_actions⟩⟩
  · exact State.block_eq_draw h running on position
  · exact State.block_eq_move h running off outside position
  · exact State.block_drawing h off outside position
  · exact State.block_eq_draw_inside h running off inside position

/-- Behind a draw, behind a flash and behind the beginning of a region. -/
theorem repeated_operations_around_region :
    CoordinateText "X2 Y1I-1" ∧
    (∃ as m, (Moment.start "%ADD10C,1*%D10*G02X1D01*" .empty : Moment Float).Leads as m ∧
      as.filterMap Action.operation? = [10, 1] ∧ m.state.modes.stoppedAt? = none ∧
      m.state.modes.toolOn = true ∧
      m.state.block "X2 Y1I-1" 5 = m.state.block ("X2 Y1I-1" ++ "D01") 5) ∧
    (∃ as m, (Moment.start "%ADD10C,1*%D10*D03*" .empty : Moment Float).Leads as m ∧
      as.filterMap Action.operation? = [10, 3] ∧ m.state.modes.stoppedAt? = none ∧
      m.state.modes.toolOn = false ∧ m.state.modes.region? = none ∧
      m.state.block "X2 Y1I-1" 5 = m.state.block ("X2 Y1I-1" ++ "D02") 5 ∧
      ∃ s', (m.state.block "X2 Y1I-1" 5).result = .ok s' ∧ s'.drawing = m.state.drawing) ∧
    (∃ as m, (Moment.start "G36*" .empty : Moment Float).Leads as m ∧
      as.filterMap Action.operation? = [] ∧ m.state.modes.stoppedAt? = none ∧
      m.state.modes.toolOn = false ∧ m.state.modes.region?.isSome ∧
      m.state.block "X2 Y1I-1" 1 =
        (fun s' ↦ { s' with modes.toolOn := false }) <$>
          m.state.block ("X2 Y1I-1" ++ "D01") 1) ∧
    ∃ as m, (Moment.start "M02*" .empty : Moment Float).Leads as m ∧
      m.state.modes.stoppedAt?.isSome ∧
      m.state.step 1 (.command "X2 Y1I-1") = .ok m.state := by
  have htext : CoordinateText "X2 Y1I-1" := ⟨by decide +kernel, by decide +kernel⟩
  refine ⟨htext, ?_, ?_, ?_, ?_⟩
  · obtain ⟨hblocks, -, hhistory⟩ := repeated_operations Float "%ADD10C,1*%D10*G02X1D01*" .empty
    have hlead := Moment.leads_run 11
      (Moment.start "%ADD10C,1*%D10*G02X1D01*" .empty : Moment Float)
    have hon := (hhistory _ _ hlead).1.2 (by decide +kernel)
    refine ⟨_, _, hlead, by decide +kernel, by decide +kernel, hon, ?_⟩
    exact (hblocks _ _ _ htext (by decide +kernel)).1 hon
  · obtain ⟨hblocks, -, -⟩ := repeated_operations Float "%ADD10C,1*%D10*D03*" .empty
    refine ⟨_, _, Moment.leads_run 9 _, by decide +kernel, by decide +kernel, by decide +kernel,
      by decide +kernel, ?_, ?_⟩
    · exact ((hblocks _ _ _ htext (by decide +kernel)).2.1 (by decide +kernel)
        (by decide +kernel)).1
    · obtain ⟨s', hs', -⟩ : ∃ s', (((Moment.start "%ADD10C,1*%D10*D03*" .empty :
          Moment Float).run 9).2.state.block "X2 Y1I-1" 5).result = .ok s' ∧
            s'.modes.toolOn = false := by
        decide +kernel
      exact ⟨s', hs', ((hblocks _ _ 5 htext (by decide +kernel)).2.1 (by decide +kernel)
        (by decide +kernel)).2 s' hs'⟩
  · obtain ⟨hblocks, -, -⟩ := repeated_operations Float "G36*" .empty
    refine ⟨_, _, Moment.leads_run 3 _, by decide +kernel, by decide +kernel, by decide +kernel,
      by decide +kernel, ?_⟩
    exact (hblocks _ _ _ htext (by decide +kernel)).2.2 (by decide +kernel) (by decide +kernel)
  · obtain ⟨-, hstopped, -⟩ := repeated_operations Float "M02*" .empty
    exact ⟨_, _, Moment.leads_run 3 _, by decide +kernel, hstopped _ _ _ (by decide +kernel)⟩

end GerberMask.Gerber
