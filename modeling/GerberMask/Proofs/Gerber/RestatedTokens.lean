import GerberMask.Proofs.Gerber.OwnedParts
import GerberMask.Proofs.Gerber.WordFrames
import GerberMask.Proofs.Gerber.WrittenCoordinates

/-!
# Documents with displacements

A place can be stated by its coordinates or by its displacement from the place reached before. While
coordinates are integers in units of the last digit, the second statement is made from the first by
integer subtraction. Here this is done to texts, and nothing is executed: a document is plain if its
coordinates are integers and nothing else in it changes how they are read (`Token.plain`), and its
restatement has the displacements in their place, in any spelling (`Token.restated`).

Every plain document has a restatement (`Token.exists_restated`): its words are written with their
integers displaced, one directly behind the other, and are read back as they were written because a
number ends where the next letter begins (`Word.split_flatMap_text`).
-/

namespace GerberMask.Gerber

/-! ### Words -/

namespace Word

/-- The integer that the number of a word spells with an optional sign and digits. -/
def integer? (w : Word) : Option ℤ :=
  let (negative, digits) := takeSign w.number
  if digits.isEmpty || !digits.all Char.isDigit then none
  else some (if negative then -digitsValue digits else digitsValue digits)

theorem exists_of_integer? {w : Word} {n : ℤ} (h : w.integer? = some n) :
    ∃ (sign : WrittenSign) (digits : List Char), w.number = sign.text ++ digits ∧
      (∀ c ∈ digits, c.isDigit = true) ∧ digits ≠ [] ∧
      sign.apply (digitsValue digits : ℤ) = n := by
  obtain ⟨sign, htext, hnegates⟩ := exists_takeSign w.number
  obtain ⟨haccept, hvalue⟩ := Option.ite_none_left_eq_some.1 h
  rw [Bool.or_eq_true, Bool.not_eq_true', not_or, List.isEmpty_iff, Bool.not_eq_false,
    List.all_eq_true] at haccept
  refine ⟨sign, _, htext, haccept.2, haccept.1, ?_⟩
  rw [WrittenSign.apply, hnegates]
  exact Option.some.inj hvalue

/-- Whether a word is one that a document in either notation can have: a coordinate that spells an
integer, or a word of another kind that leaves alone how coordinates are read. -/
def isPlain (w : Word) : Bool :=
  if w.letter ∈ ['X', 'Y'] then w.integer?.isSome else w.letter ∈ knownLetters && !w.setsReading

/-- Whether a row of words is plain, as far as it is executed. -/
def plainRow : List Word → Bool
  | [] => true
  | w :: ws => w.isPlain && (w.ends || plainRow ws)

/-- Where a block goes behind a word, in units of the last digit. -/
def reach (p : Point ℤ) (w : Word) : Point ℤ :=
  match w.letter with
  | 'X' => { p with x := w.integer?.getD p.x }
  | 'Y' => { p with y := w.integer?.getD p.y }
  | _ => p

/-- Where a row of words goes that begins at a place. -/
def reached (p : Point ℤ) : List Word → Point ℤ
  | [] => p
  | w :: ws => if w.ends then w.reach p else reached (w.reach p) ws

/-- Whether a word says with displacements from a place what another one says. The integer of a
coordinate is displaced, and other words are the same. -/
def restates (last : Point ℤ) (w w' : Word) : Bool :=
  match w.letter with
  | 'X' => w'.letter == 'X' && w'.integer? == w.integer?.map (· - last.x)
  | 'Y' => w'.letter == 'Y' && w'.integer? == w.integer?.map (· - last.y)
  | _ => w' == w

/-- Whether a row of words says with displacements what another one says, as far as it is executed.
All coordinates of the row are displaced from the place where it begins. -/
def restatedRow (last : Point ℤ) : List Word → List Word → Bool
  | [], [] => true
  | w :: ws, w' :: ws' => restates last w w' && (w.ends || restatedRow last ws ws')
  | _, _ => false

/-! ### Words with their integers displaced -/

/-- The words of a row that are executed. -/
def executed : List Word → List Word
  | [] => []
  | w :: ws => if w.ends then [w] else w :: executed ws

/-- A word with the integer that it spells, if it spells one, displaced. -/
def displaceBy (last : ℤ) (w : Word) : Word :=
  { w with number := w.integer?.elim w.number fun n ↦ (toString (n - last)).toList }

/-- A word with the displacement from a place in the place of a coordinate. -/
def displace (last : Point ℤ) (w : Word) : Word :=
  match w.letter with
  | 'X' => w.displaceBy last.x
  | 'Y' => w.displaceBy last.y
  | _ => w

theorem integer?_toString (letter : Char) (n : ℤ) :
    integer? ⟨letter, (toString n).toList⟩ = some n := by
  obtain ⟨sign, digits, htext, hdigits, hne, hn⟩ := exists_toString_eq n
  have hsign : takeSign (toString n).toList = (sign.negates, digits) := by
    rw [htext]
    exact takeSign_text_append sign fun c hc ↦
      ne_sign_of_isDigit (hdigits c (List.mem_of_mem_head? hc))
  have haccept : (digits.isEmpty || !digits.all Char.isDigit) = false := by
    simpa [hne] using hdigits
  rw [integer?, hsign]
  dsimp only
  rw [haccept, if_neg (by simp)]
  exact congrArg some hn

theorem integer?_displaceBy (last : ℤ) (w : Word) :
    (w.displaceBy last).integer? = w.integer?.map (· - last) := by
  unfold displaceBy
  cases hn : w.integer? with
  | none => exact hn
  | some n => exact integer?_toString w.letter (n - last)

theorem letter_displace (last : Point ℤ) (w : Word) : (w.displace last).letter = w.letter := by
  unfold displace
  split <;> rfl

theorem restates_displace (last : Point ℤ) (w : Word) : restates last w (w.displace last) := by
  unfold restates
  split
  next hletter =>
    have hplaced : w.displace last = w.displaceBy last.x := by simp only [displace, hletter]
    rw [hplaced, integer?_displaceBy, Bool.and_eq_true]
    exact ⟨beq_iff_eq.2 hletter, beq_self_eq_true _⟩
  next hletter =>
    have hplaced : w.displace last = w.displaceBy last.y := by simp only [displace, hletter]
    rw [hplaced, integer?_displaceBy, Bool.and_eq_true]
    exact ⟨beq_iff_eq.2 hletter, beq_self_eq_true _⟩
  next hx hy =>
    have hsame : w.displace last = w := by
      unfold displace
      split <;> first | rfl | contradiction
    rw [hsame]
    exact beq_self_eq_true w

theorem restatedRow_displace (last : Point ℤ) (ws : List Word) :
    restatedRow last ws ((executed ws).map (displace last)) := by
  induction ws with
  | nil => rfl
  | cons w ws ih =>
    rw [executed]
    split
    next hends => simp [restatedRow, restates_displace, hends]
    next hgoes => simp [restatedRow, restates_displace, ih]

/-! ### Words read back -/

/-- What is computed for each letter holds for all of them. The list is searched, not the type of
all characters. -/
theorem of_mem_knownLetters (P : Char → Prop) [DecidablePred P]
    (hall : knownLetters.all fun c ↦ decide (P c)) {c : Char} (h : c ∈ knownLetters) : P c :=
  of_decide_eq_true (List.all_eq_true.1 hall c h)

theorem isNumberChar_of_mem_knownLetters {c : Char} (h : c ∈ knownLetters) :
    isNumberChar c = false :=
  of_mem_knownLetters (isNumberChar · = false) (by decide) h

/-- Words that begin with a letter are read back from what they are written as. -/
theorem split_flatMap_text {ws : List Word}
    (h : ∀ w ∈ ws, w.letter ∈ knownLetters ∧ ∀ c ∈ w.number, isNumberChar c) :
    split (ws.flatMap text) = ws := by
  induction ws with
  | nil => exact split_nil
  | cons w ws ih =>
    obtain ⟨⟨hletter, hnumber⟩, hws⟩ := List.forall_mem_cons.1 h
    -- behind the word is nothing or the letter of the next one
    have hapart : ∀ c ∈ (ws.flatMap text).head?, isNumberChar c = false := by
      cases ws with
      | nil =>
        rintro _ ⟨⟩
      | cons w' ws' =>
        rintro _ ⟨⟩
        exact isNumberChar_of_mem_knownLetters (hws w' List.mem_cons_self).1
    have hblank : Text.isAsciiBlank w.letter = false :=
      of_mem_knownLetters (Text.isAsciiBlank · = false) (by decide) hletter
    rw [List.flatMap_cons, split_append hapart, ih hws, text, split_word hblank hnumber]
    rfl

theorem isNumberChar_of_mem_split {cs : List Char} {w : Word} (h : w ∈ split cs) :
    ∀ c ∈ w.number, isNumberChar c := by
  fun_induction split cs with
  | case1 => cases h
  | case2 c rest hblank ih => exact ih h
  | case3 c rest hletter ih =>
    obtain rfl | h := List.mem_cons.1 h
    · exact fun c hc ↦ List.mem_takeWhile_imp hc
    · exact ih h

theorem isNumberChar_of_mem_toString {n : ℤ} {c : Char} (h : c ∈ (toString n).toList) :
    isNumberChar c = true := by
  obtain ⟨sign, digits, htext, hdigits, -, -⟩ := exists_toString_eq n
  rw [htext, List.mem_append] at h
  obtain h | h := h
  · exact isNumberChar_of_mem_sign h
  · exact isNumberChar_of_isDigit (hdigits c h)

theorem isNumberChar_of_mem_displace (last : Point ℤ) {w : Word}
    (h : ∀ c ∈ w.number, isNumberChar c) : ∀ c ∈ (w.displace last).number, isNumberChar c := by
  have hdisplaced : ∀ last : ℤ, ∀ c ∈ (w.displaceBy last).number, isNumberChar c := by
    intro last
    unfold displaceBy
    cases w.integer? with
    | none => exact h
    | some n => exact fun c ↦ isNumberChar_of_mem_toString
  unfold displace
  split
  · exact hdisplaced last.x
  · exact hdisplaced last.y
  · exact h

theorem mem_knownLetters_of_mem_executed {ws : List Word} (h : plainRow ws) {w : Word}
    (hw : w ∈ executed ws) : w ∈ ws ∧ w.letter ∈ knownLetters := by
  induction ws with
  | nil => cases hw
  | cons v ws ih =>
    rw [plainRow, Bool.and_eq_true, Bool.or_eq_true] at h
    have hfirst : v.letter ∈ knownLetters := by
      have hv := h.1
      unfold isPlain at hv
      split at hv
      next hcoordinate => exact (by decide : ['X', 'Y'] ⊆ knownLetters) hcoordinate
      next =>
        rw [Bool.and_eq_true, decide_eq_true_eq] at hv
        exact hv.1
    rw [executed] at hw
    split at hw
    · obtain rfl := List.mem_singleton.1 hw
      exact ⟨List.mem_cons_self, hfirst⟩
    next hgoes =>
      obtain rfl | hw := List.mem_cons.1 hw
      · exact ⟨List.mem_cons_self, hfirst⟩
      · obtain ⟨hmem, hletter⟩ := ih (h.2.resolve_left (by simpa using hgoes)) hw
        exact ⟨List.mem_cons_of_mem v hmem, hletter⟩

end Word

/-! ### Restated documents -/

namespace Token

/-- Whether an extended command leaves the digits of a place that has been reached alone. -/
def keepsDigits (last : Point ℤ) (text : String) : Bool :=
  commandName text != "FS" && (commandName text != "MO" || last == ⟨0, 0⟩)

/-- Whether a token, read in a given way, is one that a document in either notation can have. -/
def isPlain (r : Reading) (last : Point ℤ) : Token → Bool
  | toggle => true
  | command text =>
    match r with
    | .block => Word.plainRow (Word.split text.toList)
    | .extended => keepsDigits last text
    | .line => true

/-- Whether a token, read in a given way, says with displacements what another one says. -/
def restates (r : Reading) (last : Point ℤ) : Token → Token → Bool
  | command text, command text' =>
    if r = .block then
      Word.restatedRow last (Word.split text.toList) (Word.split text'.toList)
    else text' == text
  | t, t' => t' == t

/-- The place that has been reached behind a token. -/
def reach (r : Reading) (last : Point ℤ) : Token → Point ℤ
  | toggle => last
  | command text => if r = .block then Word.reached last (Word.split text.toList) else last

/-- Whether a row of tokens, read in a given way and begun at a place that has been reached, is one
that a document in either notation can have. -/
def plain (r : Reading) (last : Point ℤ) : List Token → Bool
  | [] => true
  | t :: ts => t.isPlain r last && plain (r.next t) (t.reach r last) ts

/-- Whether a row of tokens says with displacements what another one says. -/
def restated (r : Reading) (last : Point ℤ) : List Token → List Token → Bool
  | [], [] => true
  | t :: ts, t' :: ts' => restates r last t t' && restated (r.next t) (t.reach r last) ts ts'
  | _, _ => false

/-! ### Every plain document has a restatement -/

/-- The words of a block with displacements. -/
def displacedWords (last : Point ℤ) (text : String) : List Word :=
  (Word.executed (Word.split text.toList)).map (Word.displace last)

/-- A token with displacements. -/
def displaced (r : Reading) (last : Point ℤ) : Token → Token
  | toggle => toggle
  | command text =>
    if r = .block then command (String.ofList ((displacedWords last text).flatMap Word.text))
    else command text

theorem displacedWords_chars {last : Point ℤ} {text : String}
    (h : Word.plainRow (Word.split text.toList)) :
    ∀ w ∈ displacedWords last text,
      w.letter ∈ Word.knownLetters ∧ ∀ c ∈ w.number, Word.isNumberChar c := by
  intro w hw
  obtain ⟨v, hv, rfl⟩ := List.mem_map.1 hw
  obtain ⟨hmem, hletter⟩ := Word.mem_knownLetters_of_mem_executed h hv
  rw [Word.letter_displace]
  exact ⟨hletter, Word.isNumberChar_of_mem_displace last (Word.isNumberChar_of_mem_split hmem)⟩

theorem restates_displaced {r : Reading} {last : Point ℤ} {t : Token} (h : t.isPlain r last) :
    t.restates r last (t.displaced r last) := by
  cases t with
  | toggle => rfl
  | command text =>
    rw [displaced]
    by_cases hblock : r = .block
    · subst hblock
      rw [if_pos rfl, restates, if_pos rfl, String.toList_ofList,
        Word.split_flatMap_text (displacedWords_chars h)]
      exact Word.restatedRow_displace last _
    · rw [if_neg hblock, restates, if_neg hblock]
      exact beq_self_eq_true text

/-- The signs of words can stand anywhere in a command. -/
theorem normal_of_words {c : Char} (h : c ∈ Word.knownLetters ∨ Word.isNumberChar c) :
    Text.isBlank c = false ∧ c ≠ '*' ∧ c ≠ '%' ∧ c ≠ '\r' ∧ c ≠ '\n' := by
  obtain h | h := h
  · exact Word.of_mem_knownLetters (fun c ↦ Text.isBlank c = false ∧ c ≠ '*' ∧ c ≠ '%' ∧
      c ≠ '\r' ∧ c ≠ '\n') (by decide) h
  · refine ⟨Word.isBlank_of_isNumberChar h, ?_, ?_, ?_, ?_⟩
    all_goals
      rintro rfl
      exact absurd h (by decide)

theorem displacedWords_ne_nil {last : Point ℤ} {text : String} (h : (command text).Normal) :
    displacedWords last text ≠ [] := by
  obtain ⟨hne, hhead, -⟩ := normal_command_iff.1 h
  obtain ⟨c, cs, htext⟩ := List.exists_cons_of_ne_nil (mt String.toList_eq_nil_iff.1 hne)
  have hblank : Text.isAsciiBlank c = false := by
    rw [Bool.eq_false_iff]
    intro hc
    have hc' := hhead c (by rw [htext]; rfl)
    rw [Text.isBlank_of_isAsciiBlank hc] at hc'
    cases hc'
  rw [displacedWords, htext, Word.split_cons hblank, Word.executed]
  split <;> simp

theorem normal_displaced {r : Reading} {last : Point ℤ} {t : Token} (h : t.isPlain r last)
    (ht : t.Normal) : (t.displaced r last).Normal := by
  cases t with
  | toggle => trivial
  | command text =>
    rw [displaced]
    split
    next hblock =>
      subst hblock
      have hchars : ∀ c ∈ (displacedWords last text).flatMap Word.text,
          Text.isBlank c = false ∧ c ≠ '*' ∧ c ≠ '%' ∧ c ≠ '\r' ∧ c ≠ '\n' := by
        intro c hc
        obtain ⟨w, hw, hc⟩ := List.mem_flatMap.1 hc
        obtain ⟨hletter, hnumber⟩ := displacedWords_chars h w hw
        obtain rfl | hc := List.mem_cons.1 hc
        · exact normal_of_words (.inl hletter)
        · exact normal_of_words (.inr (hnumber c hc))
      have hne : String.ofList ((displacedWords last text).flatMap Word.text) ≠ "" := by
        obtain ⟨w, ws, hwords⟩ := List.exists_cons_of_ne_nil (displacedWords_ne_nil ht)
        rw [hwords]
        simp [Word.text]
      rw [normal_command_iff, String.toList_ofList]
      exact ⟨hne, fun c hc ↦ (hchars c (List.mem_of_mem_head? hc)).1,
        fun c hc ↦ (hchars c (List.mem_of_getLast? hc)).1, fun c hc ↦ (hchars c hc).2⟩
    · exact ht

theorem exists_restated {r : Reading} {last : Point ℤ} {ts : List Token} (h : plain r last ts)
    (hnormal : ∀ t ∈ ts, t.Normal) :
    ∃ ts', restated r last ts ts' ∧ ∀ t' ∈ ts', t'.Normal := by
  induction ts generalizing r last with
  | nil => exact ⟨[], rfl, fun _ ht ↦ absurd ht List.not_mem_nil⟩
  | cons t ts ih =>
    rw [plain, Bool.and_eq_true] at h
    obtain ⟨ht, hts⟩ := List.forall_mem_cons.1 hnormal
    obtain ⟨ts', hrestated, hts'⟩ := ih h.2 hts
    refine ⟨t.displaced r last :: ts', ?_, ?_⟩
    · rw [restated, Bool.and_eq_true]
      exact ⟨restates_displaced h.1, hrestated⟩
    · exact List.forall_mem_cons.2 ⟨normal_displaced h.1 ht, hts'⟩

end Token

end GerberMask.Gerber
