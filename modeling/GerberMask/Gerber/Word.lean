import GerberMask.Number.Decimal
import GerberMask.Text.Blank

/-!
# Words

A block is a row of words: a letter, directly followed by digits, signs and points. Blanks between
words mean nothing. A word of another kind still takes part as a letter, so every block has words
(`Word.split`), and nothing of a block but blanks is lost (`flatMap_text_split`).
-/

namespace GerberMask.Gerber

/-- A letter and the number that follows it. -/
structure Word where
  letter : Char
  number : List Char
  deriving DecidableEq, Repr

namespace Word

/-- The characters of a number. -/
def isNumberChar (c : Char) : Bool :=
  c.isDigit || c == '+' || c == '-' || c == '.'

/-- The text of a word. -/
def text (w : Word) : List Char :=
  w.letter :: w.number

private theorem length_dropWhile_le (p : Char → Bool) (cs : List Char) :
    (cs.dropWhile p).length ≤ cs.length :=
  (List.dropWhile_sublist p).length_le

/-- The words of a block. -/
def split : List Char → List Word
  | [] => []
  | c :: rest =>
    if Text.isAsciiBlank c then split rest
    else ⟨c, rest.takeWhile isNumberChar⟩ :: split (rest.dropWhile isNumberChar)
termination_by cs => cs.length
decreasing_by
  · simp
  · have := length_dropWhile_le isNumberChar rest
    simp only [List.length_cons]
    omega

/-- The letter as messages show it: the first byte of its encoding, read as a character. -/
def shownLetter (w : Word) : Char :=
  let n := w.letter.toNat
  if n < 0x80 then w.letter
  else if n < 0x800 then Char.ofNat (0xc0 + n / 0x40)
  else if n < 0x10000 then Char.ofNat (0xe0 + n / 0x1000)
  else Char.ofNat (0xf0 + n / 0x40000)

/-! ### Nothing is lost -/

theorem split_nil : split [] = [] := by
  rw [split]

theorem split_blank {c : Char} (h : Text.isAsciiBlank c = true) (rest : List Char) :
    split (c :: rest) = split rest := by
  rw [split, if_pos h]

theorem split_cons {c : Char} (h : Text.isAsciiBlank c = false) (rest : List Char) :
    split (c :: rest) =
      ⟨c, rest.takeWhile isNumberChar⟩ :: split (rest.dropWhile isNumberChar) := by
  rw [split, if_neg (by simp [h])]

theorem isNumberChar_of_isAsciiBlank {c : Char} (h : Text.isAsciiBlank c = true) :
    isNumberChar c = false := by
  simp only [Text.isAsciiBlank, Bool.or_eq_true, beq_iff_eq] at h
  rcases h with (((rfl | rfl) | rfl) | rfl) | rfl <;> decide

private theorem filter_takeWhile_isNumberChar (cs : List Char) :
    (cs.takeWhile isNumberChar).filter (!Text.isAsciiBlank ·) = cs.takeWhile isNumberChar := by
  refine List.filter_eq_self.2 fun c hc ↦ ?_
  have h := List.all_eq_true.1 List.all_takeWhile c hc
  cases hb : Text.isAsciiBlank c with
  | false => rfl
  | true => rw [isNumberChar_of_isAsciiBlank hb] at h; cases h

theorem flatMap_text_split (cs : List Char) :
    (split cs).flatMap text = cs.filter (!Text.isAsciiBlank ·) := by
  fun_induction split cs with
  | case1 => rfl
  | case2 c rest h ih => simp [h, ih]
  | case3 c rest h ih =>
    have hc : Text.isAsciiBlank c = false := by simpa using h
    rw [List.flatMap_cons, ih, text]
    simp only [List.filter_cons, hc, Bool.not_false, if_true, List.cons_append]
    rw [← filter_takeWhile_isNumberChar rest, ← List.filter_append,
      List.takeWhile_append_dropWhile]

end Word

end GerberMask.Gerber
