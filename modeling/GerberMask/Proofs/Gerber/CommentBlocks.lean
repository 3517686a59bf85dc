import GerberMask.Proofs.Gerber.InertCommands

/-!
# Comments

A comment is a block that begins with the code `G04`, and its text is never executed. But where the
number of the code ends is decided by the text: a number is taken as far as digits, signs and points
go. A text that begins with none of these leaves the code alone, and then the block does nothing
(`State.block_comment`), not even give a warning. A text that begins with a sign or a point is taken
into the number, which cannot be read then, so that the comment ends the document
(`State.block_comment_of_sign`).
-/

namespace GerberMask.Gerber

/-! ### Codes of comments -/

theorem Word.isNumberChar_iff {c : Char} (h : c.isDigit = false) :
    isNumberChar c = true ↔ c ∈ ['+', '-', '.'] := by
  simp [isNumberChar, h, or_assoc]

theorem Word.isNumberChar_of_sign {c : Char} (h : c ∈ ['+', '-', '.']) :
    isNumberChar c = true ∧ c.isDigit = false := by
  simp only [List.mem_cons, List.not_mem_nil, or_false] at h
  obtain rfl | rfl | rfl := h
  all_goals exact ⟨rfl, rfl⟩

/-- Behind its first digits a code has no sign and no point. -/
theorem readWord?_comment_of_sign {c : Char} (h : c ∈ ['+', '-', '.']) (rest : List Char) :
    readWord? 32 ('0' :: '4' :: c :: rest) = none := by
  simp [readWord?, readNat?, (Word.isNumberChar_of_sign h).2]

variable {α : Type} [Scalar α]

/-! ### Blocks of comments -/

/-- A block that went nowhere leaves the position where it was. -/
theorem Block.finish_unmoved {b : Block α} (used : b.pending = false)
    (unmoved : b.target = b.state.modes.position) (position : Nat) :
    b.finish position = pure b.state := by
  cases running : b.state.modes.stoppedAt? with
  | none => rw [finish_of_used running used, unmoved]
  | some place =>
    rw [finish, running]
    rfl

/-- A G word whose code cannot be read fails. -/
theorem Block.word_of_unread (b : Block α) {number : List Char}
    (unread : readWord? 32 number = none) (position : Nat) (text : String) :
    b.word position text ⟨'G', number⟩ =
      .error ⟨.malformedNumber (String.ofList number), position⟩ := by
  show Report.ofExcept (readCode number position) >>= _ = _
  rw [readCode, unread]
  rfl

namespace State

variable {text : String}

theorem toList_comment (text : String) :
    ("G04" ++ text).toList = 'G' :: '0' :: '4' :: text.toList :=
  String.toList_append

/-- A text that leaves the code alone is not looked at. -/
theorem block_comment (s : State α) (apart : ∀ c ∈ text.toList.head?, Word.isNumberChar c = false)
    (position : Nat) : s.block ("G04" ++ text) position = pure s.rested := by
  have hword : (Block.start s).word position ("G04" ++ text) ⟨'G', ['0', '4']⟩ =
      pure { Block.start s with ended := true } := rfl
  rw [block, toList_comment, Word.split_comment apart, Block.words, hword, pure_bind, if_pos rfl,
    pure_bind]
  exact Block.finish_unmoved (b := { Block.start s with ended := true }) rfl rfl position

/-- A text that goes on with the number of the code spoils it. -/
theorem block_comment_of_sign (s : State α) {c : Char} (hc : c ∈ text.toList.head?)
    (hsign : c ∈ ['+', '-', '.']) (position : Nat) :
    s.block ("G04" ++ text) position =
      .error ⟨.malformedNumber (String.ofList
        ('0' :: '4' :: text.toList.takeWhile Word.isNumberChar)), position⟩ := by
  have hnumber : readWord? 32 ('0' :: '4' :: text.toList.takeWhile Word.isNumberChar) = none := by
    obtain ⟨rest, htext⟩ := List.head?_eq_some_iff.1 hc
    rw [htext, List.takeWhile_cons_of_pos (Word.isNumberChar_of_sign hsign).1]
    exact readWord?_comment_of_sign hsign _
  have hsplit : Word.split ("G04" ++ text).toList =
      ⟨'G', '0' :: '4' :: text.toList.takeWhile Word.isNumberChar⟩ ::
        Word.split (text.toList.dropWhile Word.isNumberChar) := by
    rw [toList_comment, Word.split_cons (by decide)]
    rfl
  rw [block, hsplit, Block.words, Block.word_of_unread _ hnumber]
  rfl

end State

/-- **A comment is inert unless its text begins with a sign or a point.** In every state the block
of a comment whose text does not begin with a digit, a sign or a point succeeds without a warning
and changes nothing but the offsets of the current block, which every block begins by forgetting.
If the text begins with a sign or a point, the block fails with the number that the code and the
beginning of the text make together. -/
theorem comment_blocks (s : State α) (text : String) (position : Nat)
    (h : ∀ c ∈ text.toList.head?, c.isDigit = false) :
    ((∀ c ∈ text.toList.head?, c ∉ ['+', '-', '.']) →
      s.block ("G04" ++ text) position =
        pure { s with modes.arcOffset := ⟨Scalar.zero, Scalar.zero⟩ }) ∧
    ∀ c ∈ text.toList.head?, c ∈ ['+', '-', '.'] →
      s.block ("G04" ++ text) position =
        .error ⟨.malformedNumber (String.ofList
          ('0' :: '4' :: text.toList.takeWhile Word.isNumberChar)), position⟩ := by
  refine ⟨fun hsign ↦ s.block_comment (fun c hc ↦ ?_) position,
    fun c hc hsign ↦ s.block_comment_of_sign hc hsign position⟩
  rw [Bool.eq_false_iff, ne_eq, Word.isNumberChar_iff (h c hc)]
  exact hsign c hc

/-- A comment behind a draw inside a region, and one that begins with a minus sign. -/
theorem comment_blocks_inside_region :
    ∃ as m, (Moment.start "%ADD10C,1*%D10*G36*G02X1J1D01*" .empty : Moment Float).Leads as m ∧
      m.state.modes.region?.isSome ∧ m.state.modes.toolOn = true ∧
      m.state.block ("G04" ++ " D03 to X-1") 7 =
        pure { m.state with modes.arcOffset := ⟨Scalar.zero, Scalar.zero⟩ } ∧
      m.state.block ("G04" ++ "-5V") 7 = .error ⟨.malformedNumber "04-5", 7⟩ := by
  refine ⟨_, _, Moment.leads_run 15 _, by decide +kernel, by decide +kernel, ?_, ?_⟩
  · refine (comment_blocks _ " D03 to X-1" 7 ?_).1 ?_
    · rintro _ ⟨⟩
      rfl
    · rintro _ ⟨⟩
      decide
  · refine (comment_blocks _ "-5V" 7 ?_).2 '-' rfl (by decide)
    rintro _ ⟨⟩
    rfl

/-- The text of this comment begins with a sign, and the document fails at it. -/
theorem comment_with_sign_fails :
    (∀ c ∈ "-5V".toList.head?, c.isDigit = false) ∧
    (interpret "G04-5V*").result = .error ⟨.malformedNumber "04-5", 0⟩ := by
  constructor
  · rintro _ ⟨⟩
    rfl
  · decide +kernel

end GerberMask.Gerber
