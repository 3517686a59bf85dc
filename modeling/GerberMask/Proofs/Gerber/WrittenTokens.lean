import Mathlib.Data.List.DropRight
import GerberMask.Proofs.Gerber.InertCommands

/-!
# Writing tokens back

The tokens of a document are in normal form (`Token.normal_of_mem_scanFrom`): line breaks are
dropped before a fragment is trimmed and a fragment is trimmed before it is dropped as empty, so
what remains of it begins and ends with a sign that is no blank. In the other direction every list
of tokens in normal form is read back from the document that `Token.writeAll` makes of it
(`Token.scanFrom_writeAll`), because trimming changes nothing in a text that has no blank at either
end (`Text.trim_eq_self_iff`).

Scanning, writing and scanning again is therefore scanning.
-/

namespace GerberMask.Text

/-! ### Trimmed texts -/

theorem isBlank_of_mem_head?_trim {cs : List Char} {c : Char} (hc : c ∈ (trim cs).head?) :
    isBlank c = false := by
  have hdropped : (cs.dropWhile isBlank).head? = some c :=
    Gerber.mem_head?_of_isPrefix (isPrefix_trimEnd _) hc
  have hhead := List.head?_dropWhile_not isBlank cs
  rwa [hdropped] at hhead

theorem isBlank_of_mem_getLast?_trim {cs : List Char} {c : Char} (hc : c ∈ (trim cs).getLast?) :
    isBlank c = false := by
  rw [trim, trimEnd, List.getLast?_reverse] at hc
  have hhead := List.head?_dropWhile_not isBlank (cs.dropWhile isBlank).reverse
  rwa [hc] at hhead

/-- **Trimming leaves exactly the texts alone that have no blank at either end.** -/
theorem trim_eq_self_iff {cs : List Char} :
    trim cs = cs ↔
      (∀ c ∈ cs.head?, isBlank c = false) ∧ ∀ c ∈ cs.getLast?, isBlank c = false := by
  constructor
  · intro h
    rw [← h]
    exact ⟨fun c ↦ isBlank_of_mem_head?_trim, fun c ↦ isBlank_of_mem_getLast?_trim⟩
  · rintro ⟨hhead, hlast⟩
    have hfront : cs.dropWhile isBlank = cs := by
      cases cs with
      | nil => rfl
      | cons c cs => exact List.dropWhile_cons_of_neg (by simp [hhead c rfl])
    have hback : cs.rdropWhile isBlank = cs := by
      refine List.rdropWhile_eq_self_iff.2 fun hne ↦ ?_
      simp [hlast _ (List.getLast?_eq_some_getLast hne)]
    rw [trim, hfront]
    exact hback

theorem trim_trim (cs : List Char) : trim (trim cs) = trim cs :=
  trim_eq_self_iff.2 ⟨fun _ ↦ isBlank_of_mem_head?_trim, fun _ ↦ isBlank_of_mem_getLast?_trim⟩

end GerberMask.Text

namespace GerberMask.Gerber.Token

/-! ### Normal forms -/

/-- What it takes for a command to be in normal form, sign by sign. -/
theorem normal_command_iff {text : String} :
    (command text).Normal ↔ text ≠ "" ∧ (∀ c ∈ text.toList.head?, Text.isBlank c = false) ∧
      (∀ c ∈ text.toList.getLast?, Text.isBlank c = false) ∧
      ∀ c ∈ text.toList, c ≠ '*' ∧ c ≠ '%' ∧ c ≠ '\r' ∧ c ≠ '\n' := by
  have hempty : text.toList ≠ [] ↔ text ≠ "" := not_congr String.toList_eq_nil_iff
  have hsign : ∀ c, (¬ isLineBreak c ∧ c ≠ '*' ∧ c ≠ '%') ↔
      c ≠ '*' ∧ c ≠ '%' ∧ c ≠ '\r' ∧ c ≠ '\n' := by
    intro c
    simp only [isLineBreak, Bool.or_eq_true, beq_iff_eq, not_or]
    tauto
  simp only [Normal, hempty, Text.trim_eq_self_iff, hsign, and_assoc]

theorem Normal.uncut {text : String} (h : (command text).Normal) : Uncut text.toList := by
  intro c hc
  obtain ⟨hbreak, hstar, hpercent⟩ := h.2.2 c hc
  exact ⟨hstar, hpercent, by simpa using hbreak⟩

/-- The token of a fragment is in normal form. -/
theorem normal_of_mem_ofFragment {fragment : List Char} (hfragment : Uncut fragment) {t : Token}
    (h : t ∈ ofFragment fragment) : t.Normal := by
  unfold ofFragment at h
  split at h
  · cases h
  next hne =>
    rw [List.mem_singleton.1 h, Normal, String.toList_ofList]
    refine ⟨hne, Text.trim_trim fragment, fun c hc ↦ ?_⟩
    obtain ⟨hstar, hpercent, hbreak⟩ := hfragment c (Text.mem_of_mem_trim hc)
    exact ⟨by simp [hbreak], hstar, hpercent⟩

theorem Uncut.reverse {fragment : List Char} (h : Uncut fragment) : Uncut fragment.reverse :=
  fun c hc ↦ h c (List.mem_reverse.1 hc)

/-- **The tokens of a document are in normal form.** The induction is on the text, with any fragment
before it that has been collected without a cut. -/
theorem normal_of_mem_scanFrom {fragment : List Char} (hfragment : Uncut fragment)
    (text : List Char) : ∀ t ∈ scanFrom fragment text, t.Normal := by
  have hempty : Uncut [] := fun _ hc ↦ absurd hc List.not_mem_nil
  have hcomplete : ∀ {fragment}, Uncut fragment → ∀ t ∈ ofFragment fragment.reverse, t.Normal :=
    fun h t ↦ normal_of_mem_ofFragment h.reverse
  induction text generalizing fragment with
  | nil => exact hcomplete hfragment
  | cons c text ih =>
    rw [scanFrom]
    split
    · exact ih hfragment
    next hbreak =>
      split
      · exact List.forall_mem_append.2 ⟨hcomplete hfragment, ih hempty⟩
      next hstar =>
        split
        · refine List.forall_mem_append.2 ⟨hcomplete hfragment, ?_⟩
          exact List.forall_mem_cons.2 ⟨trivial, ih hempty⟩
        next hpercent =>
          -- the sign joins the fragment
          refine ih fun d hd ↦ ?_
          obtain rfl | hd := List.mem_cons.1 hd
          · exact ⟨hstar, hpercent, by simpa using hbreak⟩
          · exact hfragment d hd

/-! ### Reading back -/

/-- A command in normal form is a fragment from which nothing is trimmed. -/
theorem ofFragment_of_normal {text : String} (h : (command text).Normal) :
    ofFragment text.toList = [command text] := by
  obtain ⟨hne, htrim, -⟩ := h
  unfold ofFragment
  rw [htrim]
  split
  · contradiction
  · rw [String.ofList_toList]

/-- A token in normal form is read back from the front of a document. -/
theorem scanFrom_write {t : Token} (h : t.Normal) (rest : List Char) :
    scanFrom [] (t.write ++ rest) = t :: scanFrom [] rest := by
  cases t with
  | toggle => exact scanFrom_cut (.inr rfl) [] rest
  | command text =>
    rw [write, List.append_assoc]
    calc scanFrom [] (text.toList ++ '*' :: rest)
        = scanFrom [] text.toList ++ (ofCut '*' ++ scanFrom [] rest) :=
          scanFrom_append_cut (.inl rfl) [] text.toList rest
      _ = ofFragment text.toList ++ scanFrom [] rest := by
          rw [scanFrom_of_uncut h.uncut]
          rfl
      _ = command text :: scanFrom [] rest := by
          rw [ofFragment_of_normal h]
          rfl

/-- **Tokens in normal form are read back from what they are written as.** -/
theorem scanFrom_writeAll {tokens : List Token} (h : ∀ t ∈ tokens, t.Normal) :
    scanFrom [] (writeAll tokens) = tokens := by
  induction tokens with
  | nil => rfl
  | cons t tokens ih =>
    obtain ⟨ht, htokens⟩ := List.forall_mem_cons.1 h
    rw [writeAll, List.flatMap_cons, scanFrom_write ht]
    exact congrArg (t :: ·) (ih htokens)

theorem normal_of_mem_scan {source : String} {t : Token} (h : t ∈ scan source) : t.Normal :=
  normal_of_mem_scanFrom (fun _ hc ↦ absurd hc List.not_mem_nil) source.toList t h

theorem scan_writeAll {tokens : List Token} (h : ∀ t ∈ tokens, t.Normal) :
    scan (String.ofList (writeAll tokens)) = tokens := by
  rw [scan, String.toList_ofList]
  exact scanFrom_writeAll h

/-- **Tokens have a normal form and can be written back.** A document has commands that are not
empty, have no blank at either end and hold no sign that cuts and no line break, and as many toggles
as signs `%`. Tokens of that form, each command written with a `*` and each toggle as `%`, are read
back, so writing the tokens of a document gives a document with the same tokens. -/
theorem written_back :
    (∀ text, (command text).Normal ↔ text ≠ "" ∧
      (∀ c ∈ text.toList.head?, Text.isBlank c = false) ∧
      (∀ c ∈ text.toList.getLast?, Text.isBlank c = false) ∧
      ∀ c ∈ text.toList, c ≠ '*' ∧ c ≠ '%' ∧ c ≠ '\r' ∧ c ≠ '\n') ∧
    (∀ source, (∀ t ∈ scan source, t.Normal) ∧
      (scan source).count toggle = source.toList.count '%') ∧
    (∀ tokens, (∀ t ∈ tokens, t.Normal) → scan (String.ofList (writeAll tokens)) = tokens) ∧
    ∀ source, scan (String.ofList (writeAll (scan source))) = scan source :=
  ⟨fun _ ↦ normal_command_iff,
    fun source ↦ ⟨fun _ ↦ normal_of_mem_scan, count_toggle_scan source⟩,
    fun _ ↦ scan_writeAll, fun _ ↦ scan_writeAll fun _ ↦ normal_of_mem_scan⟩

/-- Blanks at a line break, a fragment of blanks only and a command that nothing ends: they leave
three tokens, which are written in another way and read back. -/
theorem written_back_blank_fragments :
    let tokens := [command "X1 Y2", toggle, command "M02"]
    (∀ t ∈ tokens, t.Normal) ∧ scan " X1 \r\nY2 * \n *%M02" = tokens ∧
      scan "X1 Y2*%M02*" = tokens := by
  intro tokens
  obtain ⟨-, hscan, hwritten, -⟩ := written_back
  have htokens : scan " X1 \r\nY2 * \n *%M02" = tokens := by decide
  have hnormal : ∀ t ∈ tokens, t.Normal := htokens ▸ (hscan " X1 \r\nY2 * \n *%M02").1
  have hback := hwritten tokens hnormal
  exact ⟨hnormal, htokens, hback⟩

end GerberMask.Gerber.Token
