import GerberMask.Gerber.ApertureMacro
import GerberMask.Proofs.Gerber.WrittenTokens

/-!
# The fields of a line

A line of a macro is trimmed, then cut at its commas, then every piece is trimmed. The first step
could be left out (`ApertureMacro.map_trim_splitAtEach_trim`): what trimming the line takes away are
blanks at the outer ends of the first and the last piece. Whether a line is read at all depends on
its first piece and on whether there is another (`ApertureMacro.isSilent_congr`).
-/

namespace GerberMask.Text

/-! ### Trimming around a sign that stays -/

theorem dropWhile_append_cons {c : Char} (hc : isBlank c = false) (front back : List Char) :
    (front ++ c :: back).dropWhile isBlank = front.dropWhile isBlank ++ c :: back := by
  rw [List.dropWhile_append]
  split
  next h => simp [hc, List.isEmpty_iff.1 h]
  · rfl

theorem trimEnd_append_cons {c : Char} (hc : isBlank c = false) (front back : List Char) :
    trimEnd (front ++ c :: back) = front ++ c :: trimEnd back := by
  induction front with
  | nil => exact trimEnd_cons hc back
  | cons d front ih =>
    have hne : trimEnd (front ++ c :: back) ≠ [] := by simp [ih]
    rw [List.cons_append, trimEnd, List.reverse_cons, List.dropWhile_append]
    split
    next h => exact absurd (by simpa [trimEnd] using h) hne
    · rw [List.reverse_append, ← trimEnd, ih]
      rfl

/-- A sign that is no blank separates the two ends of a text. -/
theorem trim_append_cons {c : Char} (hc : isBlank c = false) (front back : List Char) :
    trim (front ++ c :: back) = front.dropWhile isBlank ++ c :: trimEnd back := by
  rw [trim, dropWhile_append_cons hc, trimEnd_append_cons hc]

theorem mem_of_mem_trimEnd {c : Char} {cs : List Char} (h : c ∈ trimEnd cs) : c ∈ cs :=
  (isPrefix_trimEnd cs).subset h

@[simp] theorem trim_dropWhile (cs : List Char) : trim (cs.dropWhile isBlank) = trim cs := by
  rw [trim, List.dropWhile_idempotent, trim]

@[simp] theorem trim_trimEnd (cs : List Char) : trim (trimEnd cs) = trim cs := by
  by_cases h : ∃ c ∈ cs, isBlank c = false
  · obtain ⟨c, hmem, hc⟩ := h
    obtain ⟨front, back, rfl⟩ := List.append_of_mem hmem
    have hidem : trimEnd (trimEnd back) = trimEnd back := List.rdropWhile_idempotent isBlank back
    rw [trimEnd_append_cons hc, trim_append_cons hc, trim_append_cons hc, hidem]
  · -- a text of blanks only
    have hblank : ∀ c ∈ cs, isBlank c = true := by simpa using h
    have hend : trimEnd cs = [] := List.rdropWhile_eq_nil_iff.2 hblank
    have hfront : cs.dropWhile isBlank = [] := List.dropWhile_eq_nil_iff.2 hblank
    rw [hend, trim.eq_1 cs, hfront]
    rfl

end GerberMask.Text

namespace GerberMask.Gerber.ApertureMacro

/-! ### Cutting at a sign -/

variable {sep : Char}

theorem splitAtEach_of_not_mem {text : List Char} (h : sep ∉ text) :
    splitAtEach sep text = [text] :=
  List.splitOn_eq_singleton h

theorem splitAtEach_append_cons {front : List Char} (h : sep ∉ front) (back : List Char) :
    splitAtEach sep (front ++ sep :: back) = front :: splitAtEach sep back :=
  List.splitOn_append_cons_self_of_not_mem h back

/-- The pieces with the sign between them are the text. -/
theorem intercalate_splitAtEach (sep : Char) (text : List Char) :
    [sep].intercalate (splitAtEach sep text) = text :=
  List.intercalate_splitOn sep

theorem splitAtEach_intercalate {pieces : List (List Char)} (h : ∀ p ∈ pieces, sep ∉ p)
    (hne : pieces ≠ []) : splitAtEach sep ([sep].intercalate pieces) = pieces :=
  List.splitOn_intercalate sep h hne

/-- A text has no such sign, or its first one stands between a piece and a shorter text. -/
@[elab_as_elim]
theorem cut_induction (sep : Char) {motive : List Char → Prop}
    (whole : ∀ text, sep ∉ text → motive text)
    (cut : ∀ front back, sep ∉ front → motive back → motive (front ++ sep :: back))
    (text : List Char) : motive text := by
  by_cases h : sep ∈ text
  · obtain ⟨front, back, htext, hfront⟩ := List.eq_append_cons_of_mem h
    rw [htext]
    exact cut front back hfront (cut_induction sep whole cut back)
  · exact whole text h
termination_by text.length
decreasing_by
  rw [htext, List.length_append, List.length_cons]
  omega

/-- No piece has the sign. -/
theorem not_mem_of_mem_splitAtEach (text : List Char) :
    ∀ piece ∈ splitAtEach sep text, sep ∉ piece := by
  induction text using cut_induction sep with
  | whole text h =>
    rw [splitAtEach_of_not_mem h]
    exact List.forall_mem_singleton.2 h
  | cut front back hfront ih =>
    rw [splitAtEach_append_cons hfront]
    exact List.forall_mem_cons.2 ⟨hfront, ih⟩

/-! ### Trimming before cutting -/

theorem map_trim_splitAtEach_trimEnd (hsep : Text.isBlank sep = false) (text : List Char) :
    (splitAtEach sep (Text.trimEnd text)).map Text.trim = (splitAtEach sep text).map Text.trim := by
  induction text using cut_induction sep with
  | whole text h =>
    rw [splitAtEach_of_not_mem h, splitAtEach_of_not_mem (mt Text.mem_of_mem_trimEnd h),
      List.map_singleton, Text.trim_trimEnd, List.map_singleton]
  | cut front back hfront ih =>
    rw [Text.trimEnd_append_cons hsep, splitAtEach_append_cons hfront,
      splitAtEach_append_cons hfront, List.map_cons, ih, List.map_cons]

theorem map_trim_splitAtEach_dropWhile (hsep : Text.isBlank sep = false) (text : List Char) :
    (splitAtEach sep (text.dropWhile Text.isBlank)).map Text.trim =
      (splitAtEach sep text).map Text.trim := by
  have hdrop : ∀ {cs : List Char}, sep ∉ cs → sep ∉ cs.dropWhile Text.isBlank :=
    fun h hmem ↦ h ((List.dropWhile_sublist _).subset hmem)
  induction text using cut_induction sep with
  | whole text h =>
    rw [splitAtEach_of_not_mem h, splitAtEach_of_not_mem (hdrop h), List.map_singleton,
      Text.trim_dropWhile, List.map_singleton]
  | cut front back hfront _ =>
    rw [Text.dropWhile_append_cons hsep, splitAtEach_append_cons (hdrop hfront),
      splitAtEach_append_cons hfront, List.map_cons, Text.trim_dropWhile, List.map_cons]

/-- **Trimming a line before it is cut does not change its trimmed pieces.** -/
theorem map_trim_splitAtEach_trim (hsep : Text.isBlank sep = false) (text : List Char) :
    (splitAtEach sep (Text.trim text)).map Text.trim = (splitAtEach sep text).map Text.trim := by
  rw [Text.trim, map_trim_splitAtEach_trimEnd hsep, map_trim_splitAtEach_dropWhile hsep]

/-! ### Which lines are read -/

/-- In front of a comma only the text before it matters. -/
theorem isSilent_append_comma (front back back' : List Char) :
    isSilent (front ++ ',' :: back) = isSilent (front ++ ',' :: back') := by
  rcases front with _ | ⟨c, _ | ⟨d, front⟩⟩ <;> simp [isSilent, List.isPrefixOf]

/-- **Whether a line is read depends on its first piece** and on whether there is another. -/
theorem isSilent_congr {text text' code : List Char} {rest rest' : List (List Char)}
    (h : splitAtEach ',' text = code :: rest) (h' : splitAtEach ',' text' = code :: rest')
    (hrest : rest = [] ↔ rest' = []) :
    isSilent (Text.trim text) = isSilent (Text.trim text') := by
  rw [← intercalate_splitAtEach ',' text, ← intercalate_splitAtEach ',' text', h, h']
  rcases rest with _ | ⟨r, rest⟩
  · rw [hrest.1 rfl]
  · obtain ⟨r', rest', rfl⟩ := List.exists_cons_of_ne_nil (mt hrest.2 (List.cons_ne_nil r rest))
    have hcomma : Text.isBlank ',' = false := rfl
    simp only [List.intercalate_cons_cons, List.append_assoc, List.singleton_append,
      Text.trim_append_cons hcomma]
    exact isSilent_append_comma _ _ _

end GerberMask.Gerber.ApertureMacro
