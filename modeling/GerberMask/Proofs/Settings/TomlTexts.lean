import GerberMask.Settings.Toml.Text

/-!
# Texts in TOML are read back

A text is written in one of four forms: between quotes or apostrophes, on one line or in several
lines. Whichever form the writer takes, the reader returns the text (`text?_writeText`), provided
that no further mark follows.

Between quotes a character is written in one of three ways (`writeChar_cases`), each of which both
readers of such texts undo. In several lines marks stand for themselves as long as no three of them
come in a row; the marks in front of the three closing ones belong to the text, and there the reader
looks ahead. Both inductions therefore go along the text that is written with the last marks as a
case of their own (`basicLines?_writeLines`, `literalLines?_append`).
-/

namespace GerberMask.Settings.Toml

open GerberMask.Text (hexDigit)

/-! ### Characters between quotes -/

theorem prepend_some (c : Char) (cs rest : List Char) :
    prepend (some c) (some (cs, rest)) = some (c :: cs, rest) := rfl

theorem hexChar?_control : ∀ n < 0x80,
    hexChar? ['0', '0', (hexDigit (n / 16)).toUpper, (hexDigit n).toUpper] =
      some (Char.ofNat n) := by decide

theorem filter_isPlain {c : Char} (h : isPlain c = true) :
    (some c).filter isPlain = some c := by
  rw [Option.filter_some, if_pos h]

theorem not_lineBreak_of_isPlain {c : Char} (h : isPlain c = true) : c ≠ '\n' ∧ c ≠ '\r' := by
  constructor
  · rintro rfl
    exact absurd h (by decide)
  · rintro rfl
    exact absurd h (by decide)

/-- The three ways to write a character between quotes. -/
theorem writeChar_cases (c : Char) :
    (∃ e, writeChar c = ['\\', e] ∧ (e ≠ 'u' ∧ e ≠ 'U' ∧ ∀ rest, endsLine (e :: rest) = false) ∧
      escaped? e = some c) ∨
    (∃ a b, writeChar c = ['\\', 'u', '0', '0', a, b] ∧ hexChar? ['0', '0', a, b] = some c) ∨
    (writeChar c = [c] ∧ isPlain c = true ∧ c ≠ '"' ∧ c ≠ '\\') := by
  unfold writeChar
  split
  · exact .inl ⟨'b', rfl, ⟨by decide, by decide, fun _ ↦ rfl⟩, rfl⟩
  · exact .inl ⟨'t', rfl, ⟨by decide, by decide, fun _ ↦ rfl⟩, rfl⟩
  · exact .inl ⟨'n', rfl, ⟨by decide, by decide, fun _ ↦ rfl⟩, rfl⟩
  · exact .inl ⟨'f', rfl, ⟨by decide, by decide, fun _ ↦ rfl⟩, rfl⟩
  · exact .inl ⟨'r', rfl, ⟨by decide, by decide, fun _ ↦ rfl⟩, rfl⟩
  · exact .inl ⟨'"', rfl, ⟨by decide, by decide, fun _ ↦ rfl⟩, rfl⟩
  · exact .inl ⟨'\\', rfl, ⟨by decide, by decide, fun _ ↦ rfl⟩, rfl⟩
  · next _ _ _ _ _ hquote hbackslash =>
    by_cases hplain : isPlain c = true
    · rw [if_pos hplain]
      exact .inr (.inr ⟨rfl, hplain, hquote, hbackslash⟩)
    · have hsmall : c.toNat < 0x80 := by
        simp only [isPlain, Bool.or_eq_true, Bool.and_eq_true, decide_eq_true_eq, bne_iff_ne,
          not_or, not_and] at hplain
        omega
      rw [if_neg hplain]
      refine .inr (.inl ⟨_, _, rfl, ?_⟩)
      rw [hexChar?_control c.toNat hsmall, Char.ofNat_toNat]

theorem basic?_plain {c : Char} (hplain : isPlain c = true) (hquote : c ≠ '"')
    (hbackslash : c ≠ '\\') (rest : List Char) :
    basic? (c :: rest) = prepend (some c) (basic? rest) := by
  rw [basic?.eq_6 _ _ hquote (fun _ _ _ _ _ h _ ↦ hbackslash h)
    (fun _ _ _ _ _ _ _ _ _ h _ ↦ hbackslash h) fun _ _ h _ ↦ hbackslash h, filter_isPlain hplain]

theorem basic?_writeChar (c : Char) (rest : List Char) :
    basic? (writeChar c ++ rest) = prepend (some c) (basic? rest) := by
  obtain ⟨e, hwrite, ⟨hu, hU, -⟩, hescape⟩ | ⟨a, b, hwrite, hhex⟩ |
    ⟨hwrite, hplain, hquote, hbackslash⟩ := writeChar_cases c
  · rw [hwrite, List.cons_append, List.cons_append, List.nil_append,
      basic?.eq_5 _ _ (fun _ _ _ _ _ h _ ↦ hu h) fun _ _ _ _ _ _ _ _ _ h _ ↦ hU h, hescape]
  · rw [hwrite]
    simp only [List.cons_append, List.nil_append, basic?, hhex]
  · rw [hwrite, List.cons_append, List.nil_append, basic?_plain hplain hquote hbackslash]

/-- A text between quotes is read back. -/
theorem basic?_write (cs rest : List Char) :
    basic? (cs.flatMap writeChar ++ '"' :: rest) = some (cs, rest) := by
  induction cs with
  | nil => rfl
  | cons c cs ih =>
    rw [List.flatMap_cons, List.append_assoc, basic?_writeChar, ih]
    rfl

theorem basicLines?_plain {c : Char} (hplain : isPlain c = true) (hbackslash : c ≠ '\\')
    {rest : List Char} (hquote : ∀ rest', c = '"' → rest ≠ '"' :: '"' :: rest') :
    basicLines? false (c :: rest) = prepend (some c) (basicLines? false rest) := by
  have hbreak : c ≠ '\n' ∧ c ≠ '\r' := not_lineBreak_of_isPlain hplain
  rw [basicLines?.eq_12 false _ _ hquote hbreak.1 (fun _ h _ ↦ hbreak.2 h)
    (fun _ _ _ _ _ h _ ↦ hbackslash h) (fun _ _ _ _ _ _ _ _ _ h _ ↦ hbackslash h)
    (fun _ _ h _ ↦ hbackslash h) nofun nofun nofun nofun, filter_isPlain hplain]

theorem basicLines?_writeChar (c : Char) (rest : List Char) :
    basicLines? false (writeChar c ++ rest) = prepend (some c) (basicLines? false rest) := by
  obtain ⟨e, hwrite, ⟨hu, hU, hend⟩, hescape⟩ | ⟨a, b, hwrite, hhex⟩ |
    ⟨hwrite, hplain, hquote, hbackslash⟩ := writeChar_cases c
  · rw [hwrite, List.cons_append, List.cons_append, List.nil_append,
      basicLines?.eq_11 _ _ _ (fun _ _ _ _ _ h _ ↦ hu h) fun _ _ _ _ _ _ _ _ _ h _ ↦ hU h,
      hend, if_neg Bool.false_ne_true, hescape]
  · rw [hwrite]
    simp only [List.cons_append, List.nil_append, basicLines?, hhex]
  · rw [hwrite, List.cons_append, List.nil_append,
      basicLines?_plain hplain hbackslash fun _ h ↦ absurd h hquote]

/-- No character is written with a quote or a line break at the beginning. -/
theorem exists_writeChar_eq_cons (c : Char) :
    ∃ d ds, writeChar c = d :: ds ∧ d ≠ '"' ∧ d ≠ '\n' ∧ d ≠ '\r' := by
  obtain ⟨e, hwrite, -⟩ | ⟨a, b, hwrite, -⟩ | ⟨hwrite, hplain, hquote, -⟩ := writeChar_cases c
  · exact ⟨_, _, hwrite, by decide⟩
  · exact ⟨_, _, hwrite, by decide⟩
  · exact ⟨_, _, hwrite, hquote, not_lineBreak_of_isPlain hplain⟩

/-! ### Closing marks -/

section
variable {mark : Char} {rest : List Char}

theorem closing_of_head (h : rest.head? ≠ some mark) : closing mark rest = ([], rest) := by
  rcases rest with - | ⟨c, - | ⟨d, rest⟩⟩
  · rfl
  · have hc : c ≠ mark := fun heq ↦ h (by rw [heq]; rfl)
    rw [closing, if_neg hc]
  · have hc : c ≠ mark := fun heq ↦ h (by rw [heq]; rfl)
    rw [closing, if_neg fun hcd ↦ hc hcd.1, if_neg hc]

theorem closing_one (h : rest.head? ≠ some mark) :
    closing mark (mark :: rest) = ([mark], rest) := by
  rcases rest with - | ⟨d, rest⟩
  · rw [closing, if_pos rfl]
  · have hd : d ≠ mark := fun heq ↦ h (by rw [heq]; rfl)
    rw [closing, if_neg fun hcd ↦ hd hcd.2, if_pos rfl]

theorem closing_two (rest : List Char) :
    closing mark (mark :: mark :: rest) = ([mark, mark], rest) := by
  rw [closing, if_pos ⟨rfl, rfl⟩]

end

/-! ### Several lines -/

/-- Quotes in a row are written one after the other only twice. -/
theorem exists_writeLines_eq_cons {quotes : Nat} {c : Char} (cs : List Char)
    (h : 2 ≤ quotes ∨ c ≠ '"') : ∃ d ds, writeLines quotes (c :: cs) = d :: ds ∧ d ≠ '"' := by
  rw [writeLines]
  split
  · next hc =>
    have hquotes : ¬ quotes < 2 := by
      rcases h with h | h
      · omega
      · exact absurd hc h
    rw [if_neg hquotes]
    exact ⟨_, _, rfl, by decide⟩
  · split
    · exact ⟨_, _, rfl, by decide⟩
    · obtain ⟨d, ds, hwrite, hd, -⟩ := exists_writeChar_eq_cons c
      exact ⟨d, ds ++ writeLines 0 cs, by rw [hwrite]; rfl, hd⟩

theorem basicLines?_quote {rest : List Char} (h : ∀ rest', rest ≠ '"' :: '"' :: rest') :
    basicLines? false ('"' :: rest) = prepend (some '"') (basicLines? false rest) :=
  basicLines?_plain rfl (by decide) fun rest' _ ↦ h rest'

/-- Behind a quote the reader meets two more only at the end, where the closing ones follow. -/
theorem writeLines_lookahead {quotes : Nat} (hquotes : 1 ≤ quotes) {cs rest more : List Char}
    (h : writeLines quotes cs ++ '"' :: '"' :: '"' :: rest = '"' :: '"' :: more) :
    (cs = [] ∧ more = '"' :: rest) ∨ (cs = ['"'] ∧ more = '"' :: '"' :: rest) := by
  rcases cs with - | ⟨c, cs⟩
  · rw [writeLines] at h
    exact .inl ⟨rfl, (List.cons.inj (List.cons.inj h).2).2.symm⟩
  by_cases hhead : 2 ≤ quotes ∨ c ≠ '"'
  · obtain ⟨d, ds, hd, hne⟩ := exists_writeLines_eq_cons cs hhead
    rw [hd] at h
    exact absurd (List.cons.inj h).1 hne
  obtain ⟨hone, hc⟩ := not_or.1 hhead
  obtain rfl : c = '"' := Classical.not_not.1 hc
  obtain rfl : quotes = 1 := by omega
  rw [writeLines, if_pos rfl, if_pos (by decide)] at h
  rcases cs with - | ⟨c, cs⟩
  · exact .inr ⟨rfl, (List.cons.inj (List.cons.inj h).2).2.symm⟩
  · have htwo : 2 ≤ 2 ∨ c ≠ '"' := .inl (Nat.le_refl 2)
    obtain ⟨d, ds, hd, hne⟩ := exists_writeLines_eq_cons cs htwo
    rw [hd] at h
    exact absurd (List.cons.inj (List.cons.inj h).2).1 hne

/-- **A text of several lines between quotes is read back.** -/
theorem basicLines?_writeLines {rest : List Char} (hrest : rest.head? ≠ some '"')
    (quotes : Nat) (cs : List Char) :
    basicLines? false (writeLines quotes cs ++ '"' :: '"' :: '"' :: rest) = some (cs, rest) := by
  have hclose : ∀ rest,
      basicLines? false ('"' :: '"' :: '"' :: rest) = some (closing '"' rest) := by
    intro rest
    simp only [basicLines?]
  induction cs generalizing quotes with
  | nil => rw [writeLines, List.nil_append, hclose, closing_of_head hrest]
  | cons c cs ih =>
    rw [writeLines]
    split
    · next hc =>
      subst hc
      split
      · by_cases hahead : ∃ more,
          writeLines (quotes + 1) cs ++ '"' :: '"' :: '"' :: rest = '"' :: '"' :: more
        · obtain ⟨more, hmore⟩ := hahead
          rw [List.cons_append, hmore, hclose]
          obtain ⟨rfl, rfl⟩ | ⟨rfl, rfl⟩ := writeLines_lookahead (Nat.le_add_left 1 quotes) hmore
          · rw [closing_one hrest]
          · rw [closing_two]
        · rw [List.cons_append, basicLines?_quote fun more hmore ↦ hahead ⟨more, hmore⟩, ih,
            prepend_some]
      · show basicLines? false (writeChar '"' ++ (writeLines 0 cs ++ _)) = _
        rw [basicLines?_writeChar, ih, prepend_some]
    · split
      · next hfeed =>
        rw [hfeed, List.cons_append, basicLines?.eq_7 _ _ Bool.false_ne_true, ih, prepend_some]
      · rw [List.append_assoc, basicLines?_writeChar, ih, prepend_some]

theorem le_longestRun (mark : Char) (run : Nat) (cs : List Char) :
    run ≤ longestRun mark run cs := by
  induction cs generalizing run with
  | nil => exact Nat.le_refl run
  | cons c cs ih =>
    rw [longestRun]
    split
    · exact Nat.le_of_succ_le (ih (run + 1))
    · exact Nat.le_max_left _ _

theorem one_le_longestRun {mark : Char} (run : Nat) {cs : List Char} (h : mark ∈ cs) :
    1 ≤ longestRun mark run cs := by
  induction cs generalizing run with
  | nil => exact absurd h List.not_mem_nil
  | cons c cs ih =>
    rw [longestRun]
    split
    · exact Nat.le_trans (Nat.le_add_left 1 run) (le_longestRun mark (run + 1) cs)
    · next hc =>
      have hmem : mark ∈ cs := (List.mem_cons.1 h).resolve_left (Ne.symm hc)
      exact Nat.le_trans (ih 0 hmem) (Nat.le_max_right _ _)

theorem literalLines?_plain {c : Char} (hplain : isPlain c = true) {rest : List Char}
    (hmark : ∀ rest', c = '\'' → rest ≠ '\'' :: '\'' :: rest') :
    literalLines? (c :: rest) = prepend (some c) (literalLines? rest) := by
  have hbreak : c ≠ '\n' ∧ c ≠ '\r' := not_lineBreak_of_isPlain hplain
  rw [literalLines?.eq_5 _ _ hmark hbreak.1 (fun _ h _ ↦ hbreak.2 h), filter_isPlain hplain]

/-- Behind an apostrophe, too, the reader meets two more of them only at the end. -/
theorem append_lookahead {run : Nat} {cs rest more : List Char}
    (hrun : longestRun '\'' (run + 1) cs ≤ 2)
    (h : cs ++ '\'' :: '\'' :: '\'' :: rest = '\'' :: '\'' :: more) :
    (cs = [] ∧ more = '\'' :: rest) ∨ (cs = ['\''] ∧ more = '\'' :: '\'' :: rest) := by
  rcases cs with - | ⟨c, - | ⟨d, cs⟩⟩
  · exact .inl ⟨rfl, (List.cons.inj (List.cons.inj h).2).2.symm⟩
  · obtain ⟨rfl, htail⟩ := List.cons.inj h
    exact .inr ⟨rfl, (List.cons.inj htail).2.symm⟩
  · obtain ⟨rfl, htail⟩ := List.cons.inj h
    obtain ⟨rfl, -⟩ := List.cons.inj htail
    rw [longestRun, if_pos rfl, longestRun, if_pos rfl] at hrun
    have hlong := le_longestRun '\'' (run + 1 + 1 + 1) cs
    omega

/-- **A text of several lines between apostrophes is read back**, if it has no three of them in a
row. -/
theorem literalLines?_append {rest : List Char} (hrest : rest.head? ≠ some '\'') {run : Nat}
    {cs : List Char} (hcs : ∀ c ∈ cs, isPlain c = true ∨ c = '\n')
    (hrun : longestRun '\'' run cs ≤ 2) :
    literalLines? (cs ++ '\'' :: '\'' :: '\'' :: rest) = some (cs, rest) := by
  have hclose : ∀ rest, literalLines? ('\'' :: '\'' :: '\'' :: rest) =
      some (closing '\'' rest) := by
    intro rest
    simp only [literalLines?]
  induction cs generalizing run with
  | nil => rw [List.nil_append, hclose, closing_of_head hrest]
  | cons c cs ih =>
    obtain ⟨hc, hall⟩ := List.forall_mem_cons.1 hcs
    rw [longestRun] at hrun
    split at hrun
    · next hmark =>
      subst hmark
      by_cases hahead : ∃ more, cs ++ '\'' :: '\'' :: '\'' :: rest = '\'' :: '\'' :: more
      · obtain ⟨more, hmore⟩ := hahead
        rw [List.cons_append, hmore, hclose]
        obtain ⟨rfl, rfl⟩ | ⟨rfl, rfl⟩ := append_lookahead hrun hmore
        · rw [closing_one hrest]
        · rw [closing_two]
      · rw [List.cons_append,
          literalLines?_plain (by decide) fun more _ hmore ↦ hahead ⟨more, hmore⟩, ih hall hrun,
          prepend_some]
    · next hmark =>
      have hread := ih hall (Nat.le_trans (Nat.le_max_right _ _) hrun)
      obtain hplain | rfl := hc
      · rw [List.cons_append, literalLines?_plain hplain fun _ heq ↦ absurd heq hmark, hread,
          prepend_some]
      · rw [List.cons_append, literalLines?, hread, prepend_some]

/-- A text between apostrophes is read back. -/
theorem literal?_append {cs : List Char} (hcs : ∀ c ∈ cs, isPlain c = true ∧ c ≠ '\'')
    (rest : List Char) : literal? (cs ++ '\'' :: rest) = some (cs, rest) := by
  induction cs with
  | nil => rfl
  | cons c cs ih =>
    obtain ⟨⟨hplain, hmark⟩, hcs⟩ := List.forall_mem_cons.1 hcs
    rw [List.cons_append, literal?.eq_3 _ _ hmark, filter_isPlain hplain, ih hcs, prepend_some]

/-! ### Texts in any form -/

section
variable {cs rest : List Char}

theorem text?_basic (hrest : rest.head? ≠ some '"') :
    text? ('"' :: cs.flatMap writeChar ++ ['"'] ++ rest) = some (cs, rest) := by
  have htext : '"' :: cs.flatMap writeChar ++ ['"'] ++ rest =
      '"' :: (cs.flatMap writeChar ++ '"' :: rest) := by simp
  have hthree : ∀ more, cs.flatMap writeChar ++ '"' :: rest ≠ '"' :: '"' :: more := by
    intro more heq
    rcases cs with - | ⟨c, cs⟩
    · exact hrest (by rw [(List.cons.inj heq).2]; rfl)
    · obtain ⟨d, ds, hd, hne, -⟩ := exists_writeChar_eq_cons c
      rw [List.flatMap_cons, hd] at heq
      exact hne (List.cons.inj heq).1
  rw [htext, text?.eq_3 _ (fun more heq ↦ hthree more (List.cons.inj heq).2)
    (fun _ heq ↦ absurd (List.cons.inj heq).1 (by decide)), quoted?, basic?_write]

theorem text?_literal (hcs : ∀ c ∈ cs, isPlain c = true ∧ c ≠ '\'')
    (hrest : rest.head? ≠ some '\'') : text? ('\'' :: cs ++ ['\''] ++ rest) = some (cs, rest) := by
  have htext : '\'' :: cs ++ ['\''] ++ rest = '\'' :: (cs ++ '\'' :: rest) := by simp
  have hthree : ∀ more, cs ++ '\'' :: rest ≠ '\'' :: '\'' :: more := by
    intro more heq
    rcases cs with - | ⟨c, cs⟩
    · exact hrest (by rw [(List.cons.inj heq).2]; rfl)
    · exact (hcs c List.mem_cons_self).2 (List.cons.inj heq).1
  rw [htext, text?.eq_3 _ (fun _ heq ↦ absurd (List.cons.inj heq).1 (by decide))
    (fun more heq ↦ hthree more (List.cons.inj heq).2), quoted?, literal?_append hcs]

/-- What stands between the opening marks of several lines and the text. -/
def opening (cs : List Char) : List Char := if cs.contains '\n' then ['\n'] else []

theorem lineBreak?_cons {c : Char} (h : c ≠ '\n' ∧ c ≠ '\r') : lineBreak? (c :: cs) = none :=
  lineBreak?.eq_3 _ (fun _ heq ↦ h.1 (List.cons.inj heq).1)
    fun _ heq ↦ h.2 (List.cons.inj heq).1

/-- A line break in front of the text is there exactly if the text has others. -/
theorem dropLineBreak_opening {body : List Char}
    (h : '\n' ∉ cs → lineBreak? body = none) : dropLineBreak (opening cs ++ body) = body := by
  rw [opening]
  split
  · rfl
  · next hfeed =>
    rw [List.nil_append, dropLineBreak, h (by simpa using hfeed)]
    rfl

theorem text?_basicLines (hrest : rest.head? ≠ some '"') :
    text? ("\"\"\"".toList ++ opening cs ++ writeLines 0 cs ++ "\"\"\"".toList ++ rest) =
      some (cs, rest) := by
  have htext : "\"\"\"".toList ++ opening cs ++ writeLines 0 cs ++ "\"\"\"".toList ++ rest =
      '"' :: '"' :: '"' :: (opening cs ++ (writeLines 0 cs ++ '"' :: '"' :: '"' :: rest)) := by
    simp
  have hbody : '\n' ∉ cs → lineBreak? (writeLines 0 cs ++ '"' :: '"' :: '"' :: rest) = none := by
    intro hfeed
    rcases cs with - | ⟨c, cs⟩
    · rfl
    rw [writeLines]
    split
    · rfl
    · obtain ⟨d, ds, hd, -, hbreak⟩ := exists_writeChar_eq_cons c
      rw [if_neg (Ne.symm (List.ne_of_not_mem_cons hfeed)), hd]
      exact lineBreak?_cons hbreak
  rw [htext, text?, dropLineBreak_opening hbody, basicLines?_writeLines hrest]

theorem text?_literalLines (hcs : ∀ c ∈ cs, isPlain c = true ∨ c = '\n')
    (hrun : longestRun '\'' 0 cs ≤ 2) (hrest : rest.head? ≠ some '\'') :
    text? ("\'\'\'".toList ++ opening cs ++ cs ++ "\'\'\'".toList ++ rest) =
      some (cs, rest) := by
  have htext : "\'\'\'".toList ++ opening cs ++ cs ++ "\'\'\'".toList ++ rest =
      '\'' :: '\'' :: '\'' :: (opening cs ++ (cs ++ '\'' :: '\'' :: '\'' :: rest)) := by
    simp
  have hbody : '\n' ∉ cs → lineBreak? (cs ++ '\'' :: '\'' :: '\'' :: rest) = none := by
    intro hfeed
    rcases cs with - | ⟨c, cs⟩
    · rfl
    · have hplain := (hcs c List.mem_cons_self).resolve_right
        (Ne.symm (List.ne_of_not_mem_cons hfeed))
      exact lineBreak?_cons (not_lineBreak_of_isPlain hplain)
  rw [htext, text?, dropLineBreak_opening hbody, literalLines?_append hrest hcs hrun]

/-- A text without characters that need a backslash has line breaks and plain characters only. -/
theorem isPlain_of_not_needsEscape (h : cs.any needsEscape = false) :
    ∀ c ∈ cs, isPlain c = true ∨ c = '\n' := by
  intro c hc
  have hescape := List.any_eq_false.1 h c hc
  simp only [needsEscape, Bool.and_eq_true, Bool.not_eq_true', bne_iff_ne, not_and] at hescape
  by_cases hplain : isPlain c = true
  · exact .inl hplain
  · exact .inr (Classical.not_not.1 (hescape (by simpa using hplain)))

/-- **A text is read back**, whatever its form. -/
theorem text?_writeText (cs : List Char) (hquote : rest.head? ≠ some '"')
    (hapostrophe : rest.head? ≠ some '\'') : text? (writeText cs ++ rest) = some (cs, rest) := by
  unfold writeText
  dsimp only
  split
  · exact text?_basic hquote
  split
  · next h =>
    simp only [Bool.and_eq_true, Bool.not_eq_true', beq_iff_eq] at h
    obtain ⟨⟨hescape, hrun⟩, hlines⟩ := h
    refine text?_literal (fun c hc ↦ ⟨?_, ?_⟩) hapostrophe
    · refine (isPlain_of_not_needsEscape hescape c hc).resolve_right ?_
      rintro rfl
      simp [hc] at hlines
    · rintro rfl
      have hone := one_le_longestRun 0 hc
      omega
  split
  · exact text?_basicLines hquote
  split
  · next h =>
    simp only [Bool.and_eq_true, Bool.not_eq_true', decide_eq_true_eq] at h
    exact text?_literalLines (isPlain_of_not_needsEscape h.1) h.2 hapostrophe
  split
  · next hlines =>
    have htext := @text?_basicLines cs rest hquote
    rw [opening, if_pos hlines] at htext
    exact htext
  · exact text?_basic hquote

end

end GerberMask.Settings.Toml
