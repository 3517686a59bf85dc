import GerberMask.Gerber.Token

/-!
# Cutting a document

A sign that cuts ends the pending fragment, so nothing before it is seen after it: the tokens of a
text with a cut in it are the tokens before, the token of the cut, and the tokens after
(`scanFrom_append_cut`). A document that ends at a cut can therefore be continued by any other,
token list after token list (`scan_append`).

A line break is dropped before anything is cut or trimmed, so the tokens of a text are those of its
other characters (`scanFrom_filter`), wherever its lines end.
-/

namespace GerberMask.Gerber

namespace Token

/-- What a sign that cuts leaves behind: `%` a toggle, `*` nothing. -/
def ofCut (c : Char) : List Token :=
  if c = '%' then [toggle] else []

/-- At a cut the pending fragment is complete. -/
theorem scanFrom_cut {cut : Char} (h : cut = '*' ∨ cut = '%') (fragment rest : List Char) :
    scanFrom fragment (cut :: rest) =
      ofFragment fragment.reverse ++ (ofCut cut ++ scanFrom [] rest) := by
  rcases h with rfl | rfl <;> simp [scanFrom, ofCut, isLineBreak]

/-- **A cut separates.** The induction is on the text before it, with the pending fragment as it
comes. -/
theorem scanFrom_append_cut {cut : Char} (h : cut = '*' ∨ cut = '%')
    (fragment front rest : List Char) :
    scanFrom fragment (front ++ cut :: rest) =
      scanFrom fragment front ++ (ofCut cut ++ scanFrom [] rest) := by
  induction front generalizing fragment with
  | nil => rw [List.nil_append, scanFrom_cut h, scanFrom]
  | cons c front ih =>
    rw [List.cons_append, scanFrom, scanFrom]
    -- a line break is dropped, a cut ends the fragment, any other sign joins it
    split
    · exact ih fragment
    split
    · rw [ih, List.append_assoc]
    split
    · rw [ih, List.append_assoc, List.cons_append]
    · exact ih (c :: fragment)

theorem scan_append_cut {sign : String} {cut : Char} (hsign : sign.toList = [cut])
    (h : cut = '*' ∨ cut = '%') (front rest : String) :
    scan (front ++ sign ++ rest) = scan front ++ (ofCut cut ++ scan rest) := by
  have htext : (front ++ sign ++ rest).toList = front.toList ++ cut :: rest.toList := by
    rw [String.toList_append, String.toList_append, hsign, List.append_assoc]
    rfl
  rw [scan, htext, scanFrom_append_cut h]
  rfl

@[simp] theorem scan_empty : scan "" = [] := rfl

/-- A document that is empty or ends with a sign that cuts. -/
def EndsAtCut (source : String) : Prop :=
  source = "" ∨ ∃ front, source = front ++ "*" ∨ source = front ++ "%"

/-- **A document that ends at a cut can be continued** without touching its tokens. -/
theorem scan_append {a : String} (ha : EndsAtCut a) (b : String) :
    scan (a ++ b) = scan a ++ scan b := by
  have hcut : ∀ {sign : String} {cut : Char} (front : String), sign.toList = [cut] →
      (cut = '*' ∨ cut = '%') → scan (front ++ sign ++ b) = scan (front ++ sign) ++ scan b := by
    intro sign cut front hsign h
    have hend := scan_append_cut hsign h front ""
    rw [String.append_empty, scan_empty, List.append_nil] at hend
    rw [scan_append_cut hsign h, hend, List.append_assoc]
  rcases ha with rfl | ⟨front, rfl | rfl⟩
  · rw [String.empty_append, scan_empty, List.nil_append]
  · exact hcut front rfl (.inl rfl)
  · exact hcut front rfl (.inr rfl)

/-! ### Line breaks -/

/-- **Line breaks leave no trace**, not even in the fragment that is pending at them. -/
theorem scanFrom_filter (fragment text : List Char) :
    scanFrom fragment (text.filter (!isLineBreak ·)) = scanFrom fragment text := by
  induction text generalizing fragment with
  | nil => rfl
  | cons c text ih =>
    cases hc : isLineBreak c with
    | true =>
      rw [List.filter_cons_of_neg (by simp [hc]), scanFrom, if_pos hc]
      exact ih fragment
    | false =>
      rw [List.filter_cons_of_pos (by simp [hc])]
      simp only [scanFrom, hc, ih]

/-- Documents that differ in their line breaks only have the same tokens. -/
theorem scan_congr {source source' : String}
    (h : source.toList.filter (!isLineBreak ·) = source'.toList.filter (!isLineBreak ·)) :
    scan source = scan source' := by
  rw [scan, scan, ← scanFrom_filter, h, scanFrom_filter]

/-- **Scanning is a homomorphism that ignores line breaks.** Around a `*` the tokens are those
before it and those after it, around a `%` with a toggle in between, and line breaks can be put in
or left out anywhere. -/
theorem scan_homomorphism (a b : String) :
    scan (a ++ "*" ++ b) = scan a ++ scan b ∧
    scan (a ++ "%" ++ b) = scan a ++ [toggle] ++ scan b ∧
    ∀ source source' : String,
      source.toList.filter (!isLineBreak ·) = source'.toList.filter (!isLineBreak ·) →
        scan source = scan source' := by
  refine ⟨?_, ?_, fun source source' h ↦ scan_congr h⟩
  · rw [scan_append_cut rfl (.inl rfl)]
    rfl
  · rw [scan_append_cut rfl (.inr rfl), List.append_assoc]
    rfl

/-- A line break inside a number, one next to a blank that is trimmed, and one at the end. -/
theorem scan_homomorphism_broken_number :
    "X1\r\n0D02 \n*Y5".toList.filter (!isLineBreak ·) =
      "X10D02 *Y5\r".toList.filter (!isLineBreak ·) ∧
    scan "X1\r\n0D02 \n*Y5" = scan "X10D02 *Y5\r" ∧
    scan "X10D02 *Y5\r" = [command "X10D02", command "Y5"] := by
  have hsame : "X1\r\n0D02 \n*Y5".toList.filter (!isLineBreak ·) =
      "X10D02 *Y5\r".toList.filter (!isLineBreak ·) := by
    decide
  obtain ⟨hcut, -, hbreaks⟩ := scan_homomorphism "X10D02 " "Y5\r"
  refine ⟨hsame, hbreaks _ _ hsame, hcut.trans ?_⟩
  decide

end Token

end GerberMask.Gerber
