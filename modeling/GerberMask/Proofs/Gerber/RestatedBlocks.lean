import GerberMask.Proofs.Gerber.RestatedTokens

/-!
# Blocks with displacements

What integer subtraction does to the text of a coordinate, exact arithmetic undoes: the position
that the integers of a document have reached (`State.At`) plus the displacement is the place that
was meant (`Block.placed_restated`).

So a block and its restatement do the same, with the mode of coordinates being the only difference
between the states that they begin and end in (`State.block_restated`). Words that are no
coordinates do not ask for the mode. The offsets of arcs are among them: they are displacements in
either mode.
-/

namespace GerberMask.Gerber

theorem Word.usesMode_eq_false {w : Word} (hcoordinate : w.letter ∉ ['X', 'Y'])
    (hreading : w.setsReading = false) : w.usesMode = false := by
  unfold setsReading at hreading
  unfold usesMode
  cases hread : readWord? 32 w.number <;> simp_all

/-! ### Places -/

section

open ExactScalar

/-- The length of an integer in units of the last digit of an axis, in inches. -/
noncomputable def CoordinateFormat.inches (f : CoordinateFormat) (axis : Axis) (unit : LengthUnit)
    (n : ℤ) : ℝ :=
  n / 10 ^ (f.layout axis).places / unit.perInch

theorem CoordinateFormat.inches_sub (f : CoordinateFormat) (axis : Axis) (unit : LengthUnit)
    (m n : ℤ) : f.inches axis unit (m - n) = f.inches axis unit m - f.inches axis unit n := by
  unfold inches
  push_cast
  ring

theorem CoordinateFormat.inches_zero (f : CoordinateFormat) (axis : Axis) (unit : LengthUnit) :
    f.inches axis unit 0 = 0 := by
  simp [inches]

variable {α : Type} [Scalar α] [ExactScalar α]

theorem CoordinateFormat.exists_decode_of_integer? {f : CoordinateFormat}
    (hzeros : f.zeros = .leading) (axis : Axis) (unit : LengthUnit) {w : Word} {n : ℤ}
    (h : w.integer? = some n) :
    ∃ v : α, f.decode axis unit w.number = .ok v ∧ value v = f.inches axis unit n := by
  obtain ⟨sign, digits, htext, hdigits, hne, rfl⟩ := Word.exists_of_integer? h
  obtain ⟨v, hv, hvalue⟩ := decodeRaw_signed (α := α) hzeros sign hdigits hne
  refine ⟨unit.toInches v, by rw [decode, htext, hv]; rfl, ?_⟩
  rw [LengthUnit.value_toInches, hvalue, inches]

/-- A state that is at the place of two integers, in units of the last digits. -/
structure State.At (p : Point ℤ) (s : State α) : Prop where
  mode : s.modes.format.mode = .absolute
  zeros : s.modes.format.zeros = .leading
  x : value s.modes.position.x = s.modes.format.inches .x s.modes.unit p.x
  y : value s.modes.position.y = s.modes.format.inches .y s.modes.unit p.y

/-- A block that began at the place of two integers and goes to that of two others. -/
structure Block.Heads (last p : Point ℤ) (b : Block α) : Prop where
  start : b.state.At last
  x : value b.target.x = b.state.modes.format.inches .x b.state.modes.unit p.x
  y : value b.target.y = b.state.modes.format.inches .y b.state.modes.unit p.y

theorem State.At.of_eq {p : Point ℤ} {s s' : State α} (h : s.At p)
    (hposition : s'.modes.position = s.modes.position) (hunit : s'.modes.unit = s.modes.unit)
    (hformat : s'.modes.format = s.modes.format) : s'.At p where
  mode := by rw [hformat, h.mode]
  zeros := by rw [hformat, h.zeros]
  x := by rw [hposition, hunit, hformat, h.x]
  y := by rw [hposition, hunit, hformat, h.y]

/-- A word that changes nothing about the reading and is no coordinate goes on to the same place. -/
theorem Block.Heads.of_frame {last p : Point ℤ} {b b' : Block α} {w : Word} (h : b.Heads last p)
    (hw : w.Frame b b') (hcoordinate : w.letter ∉ ['X', 'Y']) (hreading : w.setsReading = false) :
    b'.Heads last p where
  start := h.start.of_eq hw.position (hw.reading hreading).1 (hw.reading hreading).2
  x := by rw [hw.target hcoordinate, (hw.reading hreading).1, (hw.reading hreading).2, h.x]
  y := by rw [hw.target hcoordinate, (hw.reading hreading).1, (hw.reading hreading).2, h.y]

/-! ### Coordinates -/

/-- The change to incremental coordinates. -/
def UnreadChange.toIncremental : UnreadChange :=
  ⟨id, fun _ _ ↦ rfl, fun _ ↦ .incremental⟩

namespace Block

/-- **Adding the displacement leads to the place.** Two coordinates, the second one the displacement
of the first from where the block began, name one place, each in its mode. -/
theorem placed_restated {b : Block α} (hmode : b.state.modes.format.mode = .absolute)
    (hzeros : b.state.modes.format.zeros = .leading) (axis : Axis) {w w' : Word} {last n : ℤ}
    (hw : w.integer? = some n) (hw' : w'.integer? = some (n - last)) {current : α}
    (hcurrent : value current = b.state.modes.format.inches axis b.state.modes.unit last)
    (position : Nat) :
    ∃ v v' : α, b.readCoordinate axis w.number position = .ok v ∧
      (b.changed .toIncremental).readCoordinate axis w'.number position = .ok v' ∧
      (b.changed .toIncremental).placed current v' = b.placed current v ∧
      value (b.placed current v) = b.state.modes.format.inches axis b.state.modes.unit n := by
  obtain ⟨v, hv, hvalue⟩ := CoordinateFormat.exists_decode_of_integer? (α := α) hzeros axis
    b.state.modes.unit hw
  obtain ⟨v', hv', hvalue'⟩ := CoordinateFormat.exists_decode_of_integer? (α := α) hzeros axis
    b.state.modes.unit hw'
  have hplaced : b.placed current v = v := by rw [placed, hmode]
  have hsum : (b.changed .toIncremental).placed current v' = current + v' := rfl
  refine ⟨v, v', by rw [readCoordinate, hv]; rfl, ?_, ?_, by rw [hplaced, hvalue]⟩
  · rw [readCoordinate_changed, readCoordinate, hv']
    rfl
  · refine value_injective ?_
    rw [hsum, hplaced, value_add, hcurrent, hvalue', hvalue, CoordinateFormat.inches_sub]
    ring

/-! ### Words and blocks in both modes -/

variable {last p : Point ℤ} {b : Block α}

/-- **A word and its restatement do the same**, and the block then goes where the word leads. -/
theorem word_restated (hb : b.Heads last p) {w w' : Word} (hplain : w.isPlain)
    (h : Word.restates last w w') (position : Nat) (text text' : String) :
    (b.changed .toIncremental).word position text' w' =
        changed .toIncremental <$> b.word position text w ∧
      (b.word position text w).Ensures (Heads last (w.reach p)) := by
  obtain ⟨letter, number⟩ := w
  obtain ⟨letter', number'⟩ := w'
  unfold Word.restates at h
  split at h
  next hletter =>
    obtain rfl : letter = 'X' := hletter
    rw [Bool.and_eq_true, beq_iff_eq, beq_iff_eq] at h
    obtain ⟨rfl : letter' = 'X', hn'⟩ := h
    obtain ⟨n, hn⟩ := Option.isSome_iff_exists.1 hplain
    rw [hn] at hn'
    obtain ⟨v, v', hv, hv', hplaced, hvalue⟩ :=
      placed_restated hb.start.mode hb.start.zeros .x hn hn' hb.start.x position
    rw [word_eq_put (by simp) hv, word_eq_put (by simp) hv', map_pure]
    refine ⟨congrArg pure ?_, Report.ensures_pure ⟨hb.start, ?_, hb.y⟩⟩
    · exact congrArg (fun x ↦ ({ b.changed .toIncremental with
        target.x := x, pending := true } : Block α)) hplaced
    · rw [Word.reach, hn]
      exact hvalue
  next hletter =>
    obtain rfl : letter = 'Y' := hletter
    rw [Bool.and_eq_true, beq_iff_eq, beq_iff_eq] at h
    obtain ⟨rfl : letter' = 'Y', hn'⟩ := h
    obtain ⟨n, hn⟩ := Option.isSome_iff_exists.1 hplain
    rw [hn] at hn'
    obtain ⟨v, v', hv, hv', hplaced, hvalue⟩ :=
      placed_restated hb.start.mode hb.start.zeros .y hn hn' hb.start.y position
    rw [word_eq_put (by simp) hv, word_eq_put (by simp) hv', map_pure]
    refine ⟨congrArg pure ?_, Report.ensures_pure ⟨hb.start, hb.x, ?_⟩⟩
    · exact congrArg (fun y ↦ ({ b.changed .toIncremental with
        target.y := y, pending := true } : Block α)) hplaced
    · rw [Word.reach, hn]
      exact hvalue
  next hx hy =>
    rw [beq_iff_eq.1 h]
    have hcoordinate : letter ∉ ['X', 'Y'] := by simp_all
    rw [Word.isPlain, if_neg hcoordinate, Bool.and_eq_true, decide_eq_true_eq,
      Bool.not_eq_true'] at hplain
    obtain ⟨hknown, hreading⟩ := hplain
    have hmode := Word.usesMode_eq_false (w := ⟨letter, number⟩) hcoordinate hreading
    refine ⟨?_, (word_leaves position text b _).mono fun b' hb' ↦ ?_⟩
    · rw [word_text hknown position text' text]
      exact word_changed .toIncremental b (.inr hmode) position text
    · have hreach : Word.reach p ⟨letter, number⟩ = p := by
        unfold Word.reach
        split <;> simp_all
      rw [hreach]
      exact hb.of_frame hb' hcoordinate hreading

/-- **Rows of words**, as far as they are executed. -/
theorem words_restated (hb : b.Heads last p) (hgoing : b.ended = false) {ws ws' : List Word}
    (hplain : Word.plainRow ws) (h : Word.restatedRow last ws ws') (position : Nat)
    (text text' : String) :
    (b.changed .toIncremental).words position text' ws' =
        changed .toIncremental <$> b.words position text ws ∧
      (b.words position text ws).Ensures (Heads last (Word.reached p ws)) := by
  induction ws generalizing b p ws' with
  | nil =>
    cases ws' with
    | nil => exact ⟨rfl, Report.ensures_pure hb⟩
    | cons w' ws' => cases h
  | cons w ws ih =>
    cases ws' with
    | nil => cases h
    | cons w' ws' =>
      rw [Word.plainRow, Bool.and_eq_true, Bool.or_eq_true] at hplain
      rw [Word.restatedRow, Bool.and_eq_true, Bool.or_eq_true] at h
      obtain ⟨hsame, hheads⟩ := word_restated hb hplain.1 h.1 position text text'
      have hnext : (b.word position text w).Ensures fun b' ↦
          b'.Heads last (w.reach p) ∧ b'.ended = w.ends := by
        intro b' hb'
        refine ⟨hheads b' hb', ?_⟩
        rw [(word_leaves position text b w b' hb').ended, hgoing, Bool.false_or]
      rw [words, words, hsame, bind_map_left, map_bind, Word.reached]
      cases hends : w.ends with
      | true =>
        refine ⟨hnext.bind_congr fun b' hb' ↦ ?_, hnext.bind fun b' hb' ↦ ?_⟩
        · have hended : (b'.changed .toIncremental).ended = true := hb'.2.trans hends
          rw [if_pos hended, if_pos (hb'.2.trans hends), map_pure]
        · rw [if_pos (hb'.2.trans hends), if_pos rfl]
          exact Report.ensures_pure hb'.1
      | false =>
        have hrest := hplain.2.resolve_left (by simp [hends])
        have hrow := h.2.resolve_left (by simp [hends])
        refine ⟨hnext.bind_congr fun b' hb' ↦ ?_, hnext.bind fun b' hb' ↦ ?_⟩
        · have hended : (b'.changed .toIncremental).ended = b'.ended := rfl
          have hgoing' : b'.ended = false := hb'.2.trans hends
          rw [hended, if_neg (by simp [hgoing']), if_neg (by simp [hgoing'])]
          exact (ih hb'.1 hgoing' hrest hrow).1
        · have hgoing' : b'.ended = false := hb'.2.trans hends
          rw [if_neg (by simp [hgoing']), if_neg (by simp)]
          exact (ih hb'.1 hgoing' hrest hrow).2

end Block

/-- **A block and its restatement do the same.** Where the document goes on, it goes on from the
place that the coordinates of the block reached. -/
theorem State.block_restated {last : Point ℤ} {s : State α} (hs : s.At last) {text text' : String}
    (hplain : Word.plainRow (Word.split text.toList))
    (h : Word.restatedRow last (Word.split text.toList) (Word.split text'.toList))
    (position : Nat) :
    (s.changed .toIncremental).block text' position =
        changed .toIncremental <$> s.block text position ∧
      (s.block text position).Ensures fun s' ↦ s'.modes.stoppedAt? = none →
        s'.At (Word.reached last (Word.split text.toList)) := by
  have hstart : Block.start (s.changed .toIncremental) =
      (Block.start s).changed .toIncremental := rfl
  obtain ⟨hsame, hheads⟩ := Block.words_restated (b := Block.start s)
    ⟨hs.of_eq rfl rfl rfl, hs.x, hs.y⟩ rfl hplain h position text text'
  constructor
  · rw [block, block, hstart, hsame, bind_map_left, map_bind]
    exact bind_congr fun b ↦ Block.finish_changed .toIncremental b position
  · refine hheads.bind fun b hb ↦ (Block.finish_ends b position).mono fun s' hs' hrunning ↦ ?_
    have htarget : s'.modes.position = b.target := by
      rw [hs'.position, ← hs'.stoppedAt?, hrunning]
      rfl
    exact {
      mode := by rw [hs'.format, hb.start.mode]
      zeros := by rw [hs'.format, hb.start.zeros]
      x := by rw [htarget, hs'.unit, hs'.format, hb.x]
      y := by rw [htarget, hs'.unit, hs'.format, hb.y] }

end

end GerberMask.Gerber
