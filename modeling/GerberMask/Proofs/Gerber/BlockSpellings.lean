import Mathlib.Data.List.Nodup
import GerberMask.Proofs.Gerber.CommentBlocks
import GerberMask.Proofs.Gerber.RegionContours
import GerberMask.Proofs.Gerber.RepeatedOperations

/-!
# Two spellings of a block

A document can set its modes in blocks of their own or at the beginning of the block that needs
them, and it can name the coordinates of a block in any order. Both spellings do the same.

A G word at the beginning of a block can be a block of its own because it goes nowhere and leaves
the offsets alone: where it ends, the next block would begin (`Block.start_of_preparatory`).

Coordinates and offsets can be exchanged because each has a place of its own and none changes how
the others are read. A row of them puts one value after the other into its place
(`Block.words_eq_foldl`), and values in different places commute (`Block.aim_comm`).
-/

namespace GerberMask.Gerber

/-! ### Numbers of coordinates -/

/-- Whether a coordinate can be decoded is a question of its text alone. -/
theorem CoordinateFormat.exists_decode {α : Type} [Scalar α] {f f' : CoordinateFormat}
    {axis axis' : Axis} {unit unit' : LengthUnit} {text : List Char}
    (h : ∃ v : α, f.decode axis unit text = .ok v) :
    ∃ v : α, f'.decode axis' unit' text = .ok v := by
  unfold decode at h ⊢
  rw [Report.exists_map_eq_ok] at h ⊢
  unfold decodeRaw at h ⊢
  dsimp only at h ⊢
  split
  next hpoint =>
    rw [if_pos hpoint] at h
    exact h
  next hpoint =>
    rw [if_neg hpoint] at h
    split
    next hdigits =>
      rw [if_pos hdigits] at h
      exact h
    · exact ⟨_, rfl⟩

/-- The axis on which a coordinate or an offset is read. -/
def Word.axis (w : Word) : Axis :=
  if w.letter ∈ ['X', 'I'] then .x else .y

variable {α : Type} [Scalar α]

/-! ### Texts of blocks -/

namespace Block

/-- The text of a block is for its warnings. -/
theorem word_result_text (position : Nat) (text text' : String) (b : Block α) (w : Word) :
    (b.word position text w).result = (b.word position text' w).result := by
  unfold word
  split <;> rfl

theorem words_result_text (position : Nat) (text text' : String) (b : Block α) (ws : List Word) :
    (b.words position text ws).result = (b.words position text' ws).result := by
  induction ws generalizing b with
  | nil => rfl
  | cons w ws ih =>
    rw [words, words, Report.result_bind, Report.result_bind, word_result_text position text text']
    refine bind_congr fun b' ↦ ?_
    split
    · rfl
    · exact ih b'

end Block

/-- What a block does is decided by its words. -/
theorem State.block_result (s : State α) (text text' : String) (position : Nat) :
    (s.block text position).result =
      ((Block.start s).words position text' (Word.split text.toList)).result >>= fun b ↦
        (b.finish position).result := by
  rw [block, Report.result_bind, Block.words_result_text position text text']

/-! ### Leading G words -/

omit [Scalar α] in
/-- A G code goes nowhere. -/
theorem State.preparatory_unmoved (s : State α) (code position : Nat) :
    (s.preparatory code position).Ensures fun s' ↦
      s'.modes.position = s.modes.position ∧ s'.modes.arcOffset = s.modes.arcOffset := by
  unfold preparatory
  split
  -- opening a region may give a warning first
  case h_7 =>
    split
    · exact Report.ensures_bind fun _ ↦ Report.ensures_pure ⟨rfl, rfl⟩
    · exact Report.ensures_pure ⟨rfl, rfl⟩
  case h_8 =>
    intro s' hs'
    rw [closeRegion_result] at hs'
    cases hs'
    exact ⟨rfl, rfl⟩
  -- an unknown code
  case h_17 => exact Report.ensures_bind fun _ ↦ Report.ensures_pure ⟨rfl, rfl⟩
  all_goals exact Report.ensures_pure ⟨rfl, rfl⟩

/-- Behind a leading G word a block stands where the next block would begin. -/
theorem Block.start_of_preparatory {s s' : State α} {code position : Nat}
    (h : ((start s).state.preparatory code position).result = .ok s') :
    start s' = { start s with state := s' } := by
  obtain ⟨hposition, hoffset⟩ := State.preparatory_unmoved _ code position s' h
  have hrested : { s' with modes.arcOffset := ⟨Scalar.zero, Scalar.zero⟩ } = s' := by
    rw [show (⟨Scalar.zero, Scalar.zero⟩ : Point α) = s'.modes.arcOffset from hoffset.symm]
  show (⟨_, s'.modes.position, false, false⟩ : Block α) = ⟨s', s.modes.position, false, false⟩
  rw [hrested, show s'.modes.position = s.modes.position from hposition]

theorem Word.split_leading {number rest : String} (hnumber : ∀ c ∈ number.toList, isNumberChar c)
    (hrest : ∀ c ∈ rest.toList.head?, isNumberChar c = false) :
    split ("G" ++ number ++ rest).toList = ⟨'G', number.toList⟩ :: split rest.toList := by
  have htext : ("G" ++ number ++ rest).toList = 'G' :: number.toList ++ rest.toList := by
    rw [String.toList_append, String.toList_append]
    rfl
  rw [htext, split_append hrest, split_word (by decide) hnumber, List.singleton_append]

namespace State

variable {number rest : String}

/-- A leading G word can be a block of its own. -/
theorem block_leading (s : State α) (hnumber : ∀ c ∈ number.toList, Word.isNumberChar c)
    (hcode : readWord? 32 number.toList ≠ some 4)
    (hrest : ∀ c ∈ rest.toList.head?, Word.isNumberChar c = false) (position : Nat) :
    (s.block ("G" ++ number ++ rest) position).result =
      (s.block ("G" ++ number) position).result >>= fun s' ↦ (s'.block rest position).result := by
  have hlone : Word.split ("G" ++ number).toList = [⟨'G', number.toList⟩] := by
    rw [← String.append_empty (s := "G" ++ number), Word.split_leading hnumber (by rintro _ ⟨⟩),
      show "".toList = [] from rfl, Word.split_nil]
  rw [block_result s _ "" position, block_result s _ "" position, Word.split_leading hnumber hrest,
    hlone, Block.words_singleton, Block.words, Report.result_bind]
  cases hread : readWord? 32 number.toList with
  | none =>
    rw [Block.word_of_unread _ hread]
    rfl
  | some code =>
    obtain ⟨s', hs'⟩ := (Block.start s).state.preparatory_ok code position
    rw [Block.word_result_preparatory _ hread (by rintro rfl; exact hcode hread), hs']
    have hstart := Block.start_of_preparatory hs'
    have hfinish : ({ Block.start s with state := s' } : Block α).finish position = pure s' :=
      Block.finish_unmoved rfl (congrArg Block.target hstart).symm position
    show (({ Block.start s with state := s' } : Block α).words position "" _).result >>= _ =
      (({ Block.start s with state := s' } : Block α).finish position).result >>= _
    rw [hfinish, ← hstart]
    exact (block_result s' rest "" position).symm

end State

/-! ### Coordinates in any order -/

namespace Block

/-- The value of a coordinate or an offset, if its number can be decoded. -/
def value? (b : Block α) (w : Word) : Option α :=
  (b.state.modes.format.decode w.axis b.state.modes.unit w.number).toOption

/-- The block with a value in the place that a letter names. -/
def put (b : Block α) (letter : Char) (v : α) : Block α :=
  match letter with
  | 'X' => { b with target.x := b.placed b.state.modes.position.x v, pending := true }
  | 'Y' => { b with target.y := b.placed b.state.modes.position.y v, pending := true }
  | 'I' => { b with state.modes.arcOffset.x := v }
  | 'J' => { b with state.modes.arcOffset.y := v }
  | _ => b

/-- The block after a coordinate or an offset; one that cannot be decoded is passed over. -/
def aim (b : Block α) (w : Word) : Block α :=
  (b.value? w).elim b (b.put w.letter)

theorem value?_put (b : Block α) (letter : Char) (v : α) (w : Word) :
    (b.put letter v).value? w = b.value? w := by
  unfold put
  split <;> rfl

/-- Different letters name different places. -/
theorem put_comm (b : Block α) {letter letter' : Char} (h : letter ≠ letter') (v v' : α) :
    (b.put letter v).put letter' v' = (b.put letter' v').put letter v := by
  unfold put
  split <;> split <;> first | rfl | contradiction

theorem ended_put (b : Block α) (letter : Char) (v : α) : (b.put letter v).ended = b.ended := by
  unfold put
  split <;> rfl

theorem ended_aim (b : Block α) (w : Word) : (b.aim w).ended = b.ended := by
  unfold aim
  cases b.value? w with
  | none => rfl
  | some v => exact ended_put b w.letter v

theorem value?_aim (b : Block α) (w w' : Word) : (b.aim w).value? w' = b.value? w' := by
  unfold aim
  cases b.value? w with
  | none => rfl
  | some v => exact value?_put b w.letter v w'

theorem aim_comm (b : Block α) {w w' : Word} (h : w.letter ≠ w'.letter) :
    (b.aim w).aim w' = (b.aim w').aim w := by
  show ((b.aim w).value? w').elim _ _ = ((b.aim w').value? w).elim _ _
  rw [value?_aim, value?_aim]
  unfold aim
  cases b.value? w with
  | none => cases b.value? w' <;> rfl
  | some v =>
    cases b.value? w' with
    | none => rfl
    | some v' => exact b.put_comm h v v'

/-- A coordinate or an offset that can be decoded is put into its place. -/
theorem word_eq_put {w : Word} (hw : w.letter ∈ ['X', 'Y', 'I', 'J']) {b : Block α} {position : Nat}
    {v : α} (hv : b.readCoordinate w.axis w.number position = .ok v) (text : String) :
    b.word position text w = pure (b.put w.letter v) := by
  obtain ⟨letter, number⟩ := w
  simp only [List.mem_cons, List.not_mem_nil, or_false] at hw
  obtain rfl | rfl | rfl | rfl := hw
  all_goals
    exact congrArg (Report.ofExcept · >>= _) hv

theorem word_eq_aim {w : Word} (hw : w.letter ∈ ['X', 'Y', 'I', 'J']) {b : Block α}
    (hvalue : (b.value? w).isSome) (position : Nat) (text : String) :
    b.word position text w = pure (b.aim w) := by
  obtain ⟨v, hv⟩ := Option.isSome_iff_exists.1 hvalue
  have hread : b.readCoordinate w.axis w.number position = .ok v := by
    rw [readCoordinate]
    rw [value?] at hv
    cases hdecode : (b.state.modes.format.decode w.axis b.state.modes.unit w.number :
        Except MalformedNumber α) with
    | error e => simp [hdecode, Except.toOption] at hv
    | ok v' =>
      obtain rfl : v' = v := by simpa [hdecode, Except.toOption] using hv
      rfl
  rw [word_eq_put hw hread, aim, hv]
  rfl

/-- A row of coordinates and offsets is a fold. -/
theorem words_eq_foldl {ws : List Word} (hws : ∀ w ∈ ws, w.letter ∈ ['X', 'Y', 'I', 'J'])
    {b : Block α} (hb : b.ended = false) (hvalues : ∀ w ∈ ws, (b.value? w).isSome)
    (position : Nat) (text : String) :
    b.words position text ws = pure (ws.foldl aim b) := by
  induction ws generalizing b with
  | nil => rfl
  | cons w ws ih =>
    obtain ⟨hw, hws⟩ := List.forall_mem_cons.1 hws
    obtain ⟨hvalue, hvalues⟩ := List.forall_mem_cons.1 hvalues
    have hgoing : (b.aim w).ended = false := (b.ended_aim w).trans hb
    rw [words, word_eq_aim hw hvalue, pure_bind, if_neg (by simp [hgoing]), List.foldl_cons]
    exact ih hws hgoing fun w' hw' ↦ (b.value?_aim w w').symm ▸ hvalues w' hw'

/-- **A row of coordinates and offsets can be read in any order.** -/
theorem words_perm {ws ws' : List Word} (hperm : ws.Perm ws')
    (hdistinct : (ws.map (·.letter)).Nodup) (hws : ∀ w ∈ ws, w.letter ∈ ['X', 'Y', 'I', 'J'])
    {b : Block α} (hb : b.ended = false) (hvalues : ∀ w ∈ ws, (b.value? w).isSome)
    (position : Nat) (text : String) :
    b.words position text ws = b.words position text ws' := by
  rw [words_eq_foldl hws hb hvalues,
    words_eq_foldl (fun w hw ↦ hws w (hperm.mem_iff.2 hw)) hb
      fun w hw ↦ hvalues w (hperm.mem_iff.2 hw)]
  refine congrArg pure (hperm.foldl_eq' (fun w hw w' hw' b' ↦ ?_) b)
  by_cases hsame : w.letter = w'.letter
  · rw [List.inj_on_of_nodup_map hdistinct hw hw' hsame]
  · exact aim_comm b' hsame

/-- The same inside a block. -/
theorem words_perm_between {ws ws' : List Word} (hperm : ws.Perm ws')
    (hdistinct : (ws.map (·.letter)).Nodup) (hws : ∀ w ∈ ws, w.letter ∈ ['X', 'Y', 'I', 'J'])
    (hvalues : ∀ (b : Block α), ∀ w ∈ ws, (b.value? w).isSome) (front back : List Word)
    {b : Block α} (hb : b.ended = false) (position : Nat) (text : String) :
    b.words position text (front ++ ws ++ back) = b.words position text (front ++ ws' ++ back) := by
  rw [List.append_assoc, List.append_assoc, words_append position text front _ hb,
    words_append position text front _ hb]
  refine bind_congr fun b' ↦ ?_
  split
  · rfl
  next hgoing =>
    have hb' : b'.ended = false := by simpa using hgoing
    rw [words_append position text ws back hb', words_append position text ws' back hb',
      words_perm hperm hdistinct hws hb' (hvalues b')]

end Block

/-- **Leading G words and coordinates can be spelled in two ways.** A G word other than a comment in
front of a block can be a block of its own, and a group of neighbouring coordinates and offsets of a
block, with different letters and numbers that can be decoded, can be put in any order. From every
state the result is the same, be it a state or an error. -/
theorem block_spellings (s : State α) (position : Nat) :
    (∀ number rest : String, (∀ c ∈ number.toList, Word.isNumberChar c) →
      readWord? 32 number.toList ≠ some 4 →
      (∀ c ∈ rest.toList.head?, Word.isNumberChar c = false) →
      (s.block ("G" ++ number ++ rest) position).result =
        (s.block ("G" ++ number) position).result >>= fun s' ↦
          (s'.block rest position).result) ∧
    ∀ (text text' : String) (front group group' back : List Word),
      Word.split text.toList = front ++ group ++ back →
      Word.split text'.toList = front ++ group' ++ back → group.Perm group' →
      (group.map (·.letter)).Nodup → (∀ w ∈ group, w.letter ∈ ['X', 'Y', 'I', 'J']) →
      (∀ w ∈ group, ∃ (format : CoordinateFormat) (axis : Axis) (unit : LengthUnit) (v : α),
        format.decode axis unit w.number = .ok v) →
      (s.block text position).result = (s.block text' position).result := by
  refine ⟨fun number rest hnumber hcode hrest ↦ s.block_leading hnumber hcode hrest position, ?_⟩
  intro text text' front group group' back htext htext' hperm hdistinct hletters hdecode
  have hvalues : ∀ (b : Block α), ∀ w ∈ group, (b.value? w).isSome := by
    intro b w hw
    obtain ⟨format, axis, unit, hv⟩ := hdecode w hw
    obtain ⟨v, hv⟩ := CoordinateFormat.exists_decode hv
    rw [Block.value?, hv]
    rfl
  rw [s.block_result text "" position, s.block_result text' "" position, htext, htext',
    Block.words_perm_between hperm hdistinct hletters hvalues front back rfl]

/-- Behind an edge of a region: the end of the region in front of a relative move, and an arc whose
coordinates come last. -/
theorem block_spellings_inside_region :
    ∃ as m, (Moment.start "%ADD10C,1*%D10*G36*X1D01*" .empty : Moment Float).Leads as m ∧
      m.state.modes.region?.isSome ∧
      (m.state.block ("G" ++ "37" ++ "G91X1Y2D02") 6).result =
        ((m.state.block ("G" ++ "37") 6).result >>= fun s' ↦ (s'.block "G91X1Y2D02" 6).result) ∧
      (m.state.block "G02 X1Y2I3J4D01" 6).result =
        (m.state.block "G02J4 I3X1 Y2D01" 6).result := by
  refine ⟨_, _, Moment.leads_run 13 _, by decide +kernel, ?_, ?_⟩
  · refine (block_spellings _ 6).1 "37" "G91X1Y2D02" (List.all_eq_true.1 rfl) (by decide) ?_
    rintro _ ⟨⟩
    rfl
  · refine (block_spellings _ 6).2 _ _ [⟨'G', ['0', '2']⟩]
      [⟨'X', ['1']⟩, ⟨'Y', ['2']⟩, ⟨'I', ['3']⟩, ⟨'J', ['4']⟩]
      [⟨'J', ['4']⟩, ⟨'I', ['3']⟩, ⟨'X', ['1']⟩, ⟨'Y', ['2']⟩] [⟨'D', ['0', '1']⟩]
      (by decide +kernel) (by decide +kernel) (by decide) (by decide) (by decide) fun w hw ↦ ?_
    simp only [List.mem_cons, List.not_mem_nil, or_false] at hw
    obtain rfl | rfl | rfl | rfl := hw
    all_goals exact ⟨default, .x, .inch, _, rfl⟩

end GerberMask.Gerber
