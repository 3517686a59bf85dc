import Mathlib.Data.List.Infix
import Mathlib.Data.List.TakeWhile
import GerberMask.Proofs.Gerber.SideBySide
import GerberMask.Proofs.Gerber.TokenReadings
import GerberMask.Proofs.Number.Digits

/-!
# Inert commands

Comments, line numbers, the historic codes G54 and G55, attributes, deprecated and unknown commands
mean nothing, wherever they stand between two blocks. All that such a command can leave behind are
the offsets of an arc, and every block forgets them before it begins. So two states are compared as
the next block finds them (`State.rested`), and that is all that the rest of a run depends on
(`runFrom_rested`).

A command that is put in between then changes nothing but the places of what follows it
(`inert_commands`). That places are no part of the meaning is the law of two runs side by side, here
one over the document and one over the document with the command put in.
-/

namespace GerberMask.Gerber

/-! ### Inert commands and their tokens -/

namespace Token

/-- A text without line breaks and without the signs that cut. -/
def Uncut (text : List Char) : Prop :=
  ∀ c ∈ text, c ≠ '*' ∧ c ≠ '%' ∧ isLineBreak c = false

theorem scanFrom_of_uncut {text : List Char} (h : Uncut text) (fragment : List Char) :
    scanFrom fragment text = ofFragment (fragment.reverse ++ text) := by
  induction text generalizing fragment with
  | nil => rw [scanFrom, List.append_nil]
  | cons c text ih =>
    obtain ⟨hstar, hpercent, hbreak⟩ := h c List.mem_cons_self
    rw [scanFrom, if_neg (by simp [hbreak]), if_neg hstar, if_neg hpercent,
      ih fun d hd ↦ h d (List.mem_cons_of_mem _ hd), List.reverse_cons, List.append_assoc]
    rfl

/-- A text that is ended by `*` is a command of its own. -/
theorem scan_of_uncut {text : String} (h : Uncut text.toList) :
    scan (text ++ "*") = ofFragment text.toList := by
  have hcut := scan_append_cut (show "*".toList = ['*'] from rfl) (.inl rfl) text ""
  rw [String.append_empty, scan_empty, List.append_nil] at hcut
  rw [hcut, scan, scanFrom_of_uncut h]
  exact List.append_nil _

theorem ofFragment_cons {c : Char} (hc : Text.isBlank c = false) (cs : List Char) :
    ofFragment (c :: cs) = [command (String.ofList (c :: Text.trimEnd cs))] := by
  rw [ofFragment, Text.trim_cons hc]

end Token

/-- The names of the extended commands that are executed. All others are deprecated, attributes or
unknown. -/
def executedCommands : List String :=
  ["AD", "AM", "FS", "LP", "MO"]

/-- A command that means nothing, with the signs that end it. -/
inductive Inert : String → Prop
  /-- A comment whose text does not go on with the number of its code. -/
  | comment {text : String} (uncut : Token.Uncut text.toList)
      (apart : ∀ c ∈ text.toList.head?, Word.isNumberChar c = false) :
      Inert ("G04" ++ text ++ "*")
  | lineNumber {number : String} (number_chars : ∀ c ∈ number.toList, Word.isNumberChar c) :
      Inert ("N" ++ number ++ "*")
  | selectAperture : Inert "G54*"
  | prepareFlash : Inert "G55*"
  | emptyPair : Inert "%%"
  /-- A deprecated command, an attribute or a command with an unknown name. -/
  | extended {text : String} (uncut : Token.Uncut text.toList)
      (start : ∀ c ∈ text.toList.head?, Text.isBlank c = false)
      (ignored : String.ofList (text.toList.take 2) ∉ executedCommands) :
      Inert ("%" ++ text ++ "*%")

/-! ### Words of inert blocks -/

namespace Word

/-- What is put behind a text adds its words, unless it goes on with a number. -/
theorem split_append {back : List Char} (apart : ∀ c ∈ back.head?, isNumberChar c = false)
    (front : List Char) : split (front ++ back) = split front ++ split back := by
  fun_induction split front with
  | case1 => rfl
  | case2 c rest hblank ih => rw [List.cons_append, split_blank hblank, ih]
  | case3 c rest hletter ih =>
    have hletter : Text.isAsciiBlank c = false := by simpa using hletter
    rw [List.cons_append, split_cons hletter, takeWhile_append_of_head rest apart,
      dropWhile_append_of_head rest apart, ih, List.cons_append]

theorem split_word {letter : Char} (hletter : Text.isAsciiBlank letter = false)
    {number : List Char} (hnumber : ∀ c ∈ number, isNumberChar c) :
    split (letter :: number) = [⟨letter, number⟩] := by
  rw [split_cons hletter, List.dropWhile_eq_nil_iff.2 hnumber, split_nil,
    List.takeWhile_eq_self_iff.2 hnumber]

theorem split_comment {text : List Char} (apart : ∀ c ∈ text.head?, isNumberChar c = false) :
    split ('G' :: '0' :: '4' :: text) = ⟨'G', ['0', '4']⟩ :: split text := by
  have hcode : split ['G', '0', '4'] = [⟨'G', ['0', '4']⟩] :=
    split_word (by decide) (List.all_eq_true.1 (by decide))
  have hsplit := split_append apart ['G', '0', '4']
  rw [hcode] at hsplit
  exact hsplit

end Word

variable {α : Type} [Scalar α]

namespace State

/-! ### What the next block finds -/

/-- A state as the next block finds it, with the offsets of the last arc forgotten. -/
def rested (s : State α) : State α :=
  (Block.start s).state

theorem setPolarity_rested (s : State α) (args : List Char) (command : String) :
    s.rested.setPolarity args command = rested <$> s.setPolarity args command := by
  unfold setPolarity
  split <;> rfl

theorem setUnit_rested (s : State α) (args : List Char) (command : String) :
    s.rested.setUnit args command = rested <$> s.setUnit args command := by
  unfold setUnit
  split <;> rfl

theorem extendedCommand_rested (s : State α) (command : String) (position : Nat) :
    s.rested.extendedCommand command position = rested <$> s.extendedCommand command position := by
  unfold extendedCommand
  split
  · simp only [map_bind, map_pure]
    rfl
  · rfl
  · simp only [map_bind, map_pure]
    rfl
  · exact setPolarity_rested s _ command
  · exact setUnit_rested s _ command
  · split
    · rfl
    · split <;> rfl

/-- A step depends on nothing but what a block would find. -/
theorem step_rested (s : State α) (position : Nat) (t : Token) :
    rested <$> s.rested.step position t = rested <$> s.step position t := by
  have hmodes : s.rested.modes.stoppedAt? = s.modes.stoppedAt? ∧
      s.rested.openMacro? = s.openMacro? ∧ s.rested.modes.extended = s.modes.extended :=
    ⟨rfl, rfl, rfl⟩
  obtain ⟨hstop, hopen, hextended⟩ := hmodes
  unfold step
  rw [hstop]
  split
  · rfl
  · cases t with
    | toggle => rfl
    | command text =>
      dsimp only
      unfold command
      rw [hopen, hextended]
      split
      · rfl
      · split
        · rw [extendedCommand_rested, Functor.map_map]
          rfl
        · rfl

theorem runFrom_rested (s : State α) (tokens : List Token) (position : Nat) :
    rested <$> runFrom (.ok s.rested) (tokens.zipIdx position) =
      rested <$> runFrom (.ok s) (tokens.zipIdx position) := by
  induction tokens generalizing s position with
  | nil => rfl
  | cons t tokens ih =>
    -- the hypothesis is used forwards and backwards, with the state after the step as a block
    -- finds it
    calc rested <$> runFrom (.ok s.rested) ((t :: tokens).zipIdx position)
        = rested <$> s.rested.step position t >>= fun s' ↦
            rested <$> runFrom (.ok s') (tokens.zipIdx (position + 1)) := by
          rw [runFrom_cons, map_bind, bind_map_left]
          simp only [ih]
      _ = s.step position t >>= fun s' ↦
            rested <$> runFrom (.ok s') (tokens.zipIdx (position + 1)) := by
          rw [step_rested, bind_map_left]
          simp only [ih]
      _ = rested <$> runFrom (.ok s) ((t :: tokens).zipIdx position) := by
          rw [runFrom_cons, map_bind]

/-! ### Runs over inert commands -/

variable {s : State α}

omit [Scalar α] in
theorem toggle_toggle (h : s.Reads .block) : s.toggle.toggle = s := by
  obtain ⟨⟨⟩, ⟨⟩, ⟨⟩, openMacro?⟩ := s
  obtain ⟨hextended, hopen⟩ := h
  dsimp only at hextended hopen
  subst hextended hopen
  rfl

/-- What a block leaves behind whose first word does nothing and is its last that is executed. -/
theorem runFrom_block {text : String} {w : Word} {rest : List Word} {ended : Bool}
    (h : s.Reads .block) (running : s.modes.stoppedAt? = none) (position : Nat)
    (hsplit : Word.split text.toList = w :: rest)
    (hword : (Block.start s).word position text w = pure { Block.start s with ended })
    (hended : ended = true ∨ rest = []) :
    runFrom (.ok s) ([Token.command text].zipIdx position) = pure s.rested := by
  have hwords : (Block.start s).words position text (w :: rest) =
      pure { Block.start s with ended } := by
    rw [Block.words, hword, pure_bind]
    obtain rfl | rfl := hended
    · rfl
    · cases ended <;> rfl
  have hrunning : s.rested.modes.stoppedAt? = none := running
  rw [runFrom_cons, step, if_neg (by simp [running])]
  show s.command text position >>= pure = _
  rw [bind_pure, command, h.2, h.1]
  show s.block text position = _
  rw [block, hsplit, hwords, pure_bind]
  exact Block.finish_of_used hrunning rfl

omit [Scalar α] in
theorem extendedCommand_ignored {text : String}
    (h : String.ofList (text.toList.take 2) ∉ executedCommands) (position : Nat) :
    (s.extendedCommand text position).result = .ok s := by
  simp only [executedCommands, List.mem_cons, List.not_mem_nil, or_false, not_or] at h
  obtain ⟨had, ham, hfs, hlp, hmo⟩ := h
  unfold extendedCommand
  split
  · contradiction
  · contradiction
  · contradiction
  · contradiction
  · contradiction
  · split
    · rfl
    · split <;> rfl

end State

/-! ### Tokens of inert commands -/

theorem Token.uncut_append {text text' : List Char} (h : Uncut text) (h' : Uncut text') :
    Uncut (text ++ text') := by
  intro c hc
  obtain hc | hc := List.mem_append.1 hc
  · exact h c hc
  · exact h' c hc

theorem Token.uncut_of_isNumberChar {number : List Char}
    (hnumber : ∀ c ∈ number, Word.isNumberChar c) : Uncut number := by
  intro c hc
  have hsign : ∀ d, Word.isNumberChar d = false → c ≠ d := by
    rintro d hd rfl
    exact absurd (hnumber c hc) (by simp [hd])
  refine ⟨hsign '*' (by decide), hsign '%' (by decide), ?_⟩
  simp [isLineBreak, hsign '\r' (by decide), hsign '\n' (by decide)]

namespace Inert

variable {x : String}

theorem endsAtCut (hx : Inert x) : Token.EndsAtCut x := by
  cases hx with
  | @comment text => exact .inr ⟨"G04" ++ text, .inl rfl⟩
  | @lineNumber number => exact .inr ⟨"N" ++ number, .inl rfl⟩
  | selectAperture => exact .inr ⟨"G54", .inl rfl⟩
  | prepareFlash => exact .inr ⟨"G55", .inl rfl⟩
  | emptyPair => exact .inr ⟨"%", .inr rfl⟩
  | @extended text =>
    refine .inr ⟨"%" ++ text ++ "*", .inr ?_⟩
    simp only [String.append_assoc]
    rfl

theorem scan_comment {text : String} (uncut : Token.Uncut text.toList) :
    Token.scan ("G04" ++ text ++ "*") =
      [.command (String.ofList ('G' :: '0' :: '4' :: Text.trimEnd text.toList))] := by
  have htext : ("G04" ++ text).toList = ['G', '0', '4'] ++ text.toList := String.toList_append
  have hcode : Token.Uncut ['G', '0', '4'] := by
    simp [Token.Uncut, Token.isLineBreak]
  rw [Token.scan_of_uncut (htext ▸ Token.uncut_append hcode uncut), htext, List.cons_append,
    Token.ofFragment_cons (by decide), List.cons_append, Text.trimEnd_cons (by decide),
    List.cons_append, Text.trimEnd_cons (by decide), List.nil_append]

theorem scan_lineNumber {number : String}
    (hnumber : ∀ c ∈ number.toList, Word.isNumberChar c) :
    Token.scan ("N" ++ number ++ "*") =
      [.command (String.ofList ('N' :: Text.trimEnd number.toList))] := by
  have htext : ("N" ++ number).toList = ['N'] ++ number.toList := String.toList_append
  have hcode : Token.Uncut ['N'] := by
    simp [Token.Uncut, Token.isLineBreak]
  rw [Token.scan_of_uncut (htext ▸ Token.uncut_append hcode (Token.uncut_of_isNumberChar hnumber)),
    htext, List.cons_append, Token.ofFragment_cons (by decide), List.nil_append]

theorem scan_extended {text : String} (uncut : Token.Uncut text.toList) :
    Token.scan ("%" ++ text ++ "*%") =
      .toggle :: (Token.ofFragment text.toList ++ [.toggle]) := by
  have hopen : Token.EndsAtCut "%" := .inr ⟨"", .inr rfl⟩
  have hclose : Token.scan (text ++ "*" ++ "%") = Token.ofFragment text.toList ++ [.toggle] := by
    rw [Token.scan_append (.inr ⟨text, .inl rfl⟩), Token.scan_of_uncut uncut]
    rfl
  have hparts : "%" ++ text ++ "*%" = "%" ++ (text ++ "*" ++ "%") := by
    simp only [String.append_assoc]
    rfl
  rw [hparts, Token.scan_append hopen, hclose]
  rfl

end Inert

/-! ### Runs over inert commands -/

theorem mem_head?_of_isPrefix {front text : List Char} (h : front <+: text) {c : Char}
    (hc : c ∈ front.head?) : c ∈ text.head? := by
  obtain ⟨rest, rfl⟩ := h
  cases front with
  | nil => cases hc
  | cons _ _ => exact hc

/-- The beginning of a command that is not executed is not executed either. -/
theorem name_not_executed {text front : List Char} (h : front <+: text)
    (ignored : String.ofList (text.take 2) ∉ executedCommands) :
    String.ofList (front.take 2) ∉ executedCommands := by
  intro hname
  have hlength : ∀ name ∈ executedCommands, name.toList.length = 2 := by decide
  have htwo := hlength _ hname
  rw [String.toList_ofList] at htwo
  have hsame : front.take 2 = text.take 2 := by
    refine (h.take 2).eq_of_length_le ?_
    rw [htwo]
    exact List.length_take_le 2 text
  exact ignored (hsame ▸ hname)

variable {α : Type}

namespace State

variable [Scalar α] {s : State α}

/-- A toggle, commands that are ignored, and a toggle. -/
theorem runFrom_ignored (tokens : List Token) (h : s.Reads .block)
    (running : s.modes.stoppedAt? = none) (position : Nat)
    (hignored : ∀ t ∈ tokens, ∃ text : String,
      t = .command text ∧ String.ofList (text.toList.take 2) ∉ executedCommands) :
    (runFrom (.ok s) ((.toggle :: (tokens ++ [.toggle])).zipIdx position)).result = .ok s := by
  have hcommands : ∀ p, (runFrom (.ok s.toggle) (tokens.zipIdx p)).result = .ok s.toggle := by
    induction tokens with
    | nil => exact fun p ↦ rfl
    | cons t tokens ih =>
      intro p
      obtain ⟨text, rfl, hname⟩ := hignored t List.mem_cons_self
      have hstep : s.toggle.step p (.command text) = s.toggle.extendedCommand text p := by
        have hreads : s.toggle.Reads .extended := toggle_reads h
        have hrunning : s.toggle.modes.stoppedAt? = none := running
        simp [step, command, hreads.1, hreads.2, hrunning]
      rw [runFrom_cons, hstep, Report.result_bind, extendedCommand_ignored hname]
      exact ih (fun u hu ↦ hignored u (List.mem_cons_of_mem _ hu)) (p + 1)
  have hopen : s.step position .toggle = .ok s.toggle := by
    simp [step, running]
  have hclose : ∀ p, (runFrom (.ok s.toggle) ([Token.toggle].zipIdx p)).result = .ok s := by
    intro p
    have hstep : s.toggle.step p .toggle = .ok s := by
      have hrunning : s.toggle.modes.stoppedAt? = none := running
      rw [step, hrunning]
      exact congrArg Report.ok (toggle_toggle h)
    rw [runFrom_cons, hstep]
    rfl
  rw [runFrom_cons, hopen, Report.result_bind]
  show (runFrom (.ok s.toggle) ((tokens ++ [Token.toggle]).zipIdx (position + 1))).result = _
  rw [runFrom_append, Report.result_bind, hcommands]
  exact hclose _

/-- **An inert command leaves the state as the next block would find it.** -/
theorem runFrom_inert {x : String} (hx : Inert x) (h : s.Reads .block)
    (running : s.modes.stoppedAt? = none) (position : Nat) :
    ∃ s', (runFrom (.ok s) ((Token.scan x).zipIdx position)).result = .ok s' ∧
      s'.rested = s.rested := by
  -- a block does nothing in its first word, and that word is the last that is executed
  have hblock : ∀ (text : List Char) {w : Word} {rest : List Word} (ended : Bool),
      Word.split text = w :: rest →
      (Block.start s).word position (String.ofList text) w = pure { Block.start s with ended } →
      (ended = true ∨ rest = []) →
      ∃ s', (runFrom (.ok s) ([Token.command (String.ofList text)].zipIdx position)).result =
        .ok s' ∧ s'.rested = s.rested := by
    intro text w rest ended hsplit hword hended
    refine ⟨s.rested, ?_, rfl⟩
    rw [runFrom_block h running position (by rwa [String.toList_ofList]) hword hended]
    rfl
  cases hx with
  | @comment text uncut apart =>
    rw [Inert.scan_comment uncut]
    refine hblock _ true (Word.split_comment fun c hc ↦ ?_) rfl (.inl rfl)
    exact apart c (mem_head?_of_isPrefix (Text.isPrefix_trimEnd _) hc)
  | @lineNumber number number_chars =>
    rw [Inert.scan_lineNumber number_chars]
    refine hblock _ false (Word.split_word (by decide) fun c hc ↦ ?_) rfl (.inr rfl)
    exact number_chars c ((Text.isPrefix_trimEnd _).subset hc)
  | selectAperture =>
    have hdigits : ∀ c ∈ ['5', '4'], Word.isNumberChar c = true := List.all_eq_true.1 rfl
    exact hblock ['G', '5', '4'] false (Word.split_word rfl hdigits) rfl (.inr rfl)
  | prepareFlash =>
    have hdigits : ∀ c ∈ ['5', '5'], Word.isNumberChar c = true := List.all_eq_true.1 rfl
    exact hblock ['G', '5', '5'] false (Word.split_word rfl hdigits) rfl (.inr rfl)
  | emptyPair => exact ⟨s, runFrom_ignored [] h running position (by simp), rfl⟩
  | @extended text uncut start ignored =>
    refine ⟨s, ?_, rfl⟩
    rw [Inert.scan_extended uncut]
    refine runFrom_ignored _ h running position ?_
    cases htext : text.toList with
    | nil => simp [Token.ofFragment]
    | cons c cs =>
      rw [htext] at start ignored
      rw [Token.ofFragment_cons (start c rfl)]
      intro t ht
      refine ⟨_, List.mem_singleton.1 ht, ?_⟩
      have hfront : c :: Text.trimEnd cs <+: c :: cs :=
        (List.prefix_cons_inj c).2 (Text.isPrefix_trimEnd cs)
      rw [String.toList_ofList]
      exact name_not_executed hfront ignored

end State

/-! ### Commands put in between -/

/-- Where a token stands after others were put in behind the first ones. -/
def placeAfter (front inserted place : Nat) : Nat :=
  if place < front then place else place + inserted

/-- The same error at the place where its token stands now. -/
def GerberError.moved (front inserted : Nat) (e : GerberError) : GerberError :=
  { e with position := placeAfter front inserted e.position }

/-- The same termination, a stop at the place where its token stands now. -/
def Termination.moved (front inserted : Nat) : Termination → Termination
  | endOfInput => endOfInput
  | stopped position => stopped (placeAfter front inserted position)

/-- The same interpretation but for the place of its stop. -/
def Interpretation.moved (front inserted : Nat) (i : Interpretation) : Interpretation :=
  { i with termination := i.termination.moved front inserted }

/-- Polarities are the same, and positions have moved. -/
def Variation.moved (front inserted : Nat) : Variation where
  places p q := q = placeAfter front inserted p
  polarities := Eq
  refl _ := rfl
  inverse h := congrArg Polarity.inverse h

theorem Variation.Drawings.eq {front inserted : Nat} {d e : Drawing}
    (h : (moved front inserted).Drawings d e) : d = e := by
  obtain ⟨hitems, hbounds⟩ := h
  have hitem : ∀ i j, (moved front inserted).Items i j → i = j := by
    rintro ⟨shape, polarity⟩ ⟨_, _⟩ ⟨rfl, rfl⟩
    rfl
  have hlists : List.Forall₂ Eq d.items.toList e.items.toList := hitems.imp hitem
  rw [List.forall₂_eq_eq_eq, Array.toList_inj] at hlists
  obtain ⟨items, bounds⟩ := d
  obtain ⟨items', bounds'⟩ := e
  subst hlists hbounds
  rfl

theorem Variation.States.moved_stop {front inserted : Nat} {s s' : State α}
    (h : (moved front inserted).States s s') :
    s'.modes.stoppedAt? = s.modes.stoppedAt?.map (placeAfter front inserted) := by
  obtain ⟨-, hstops, -⟩ := h
  dsimp only
  generalize s.modes.stoppedAt? = stop? at hstops ⊢
  cases hstops with
  | some place => exact congrArg some place
  | none => rfl

theorem Variation.States.ofState_eq {front inserted : Nat} {s s' : State α}
    (h : (moved front inserted).States s s') :
    Interpretation.ofState s' = (Interpretation.ofState s).moved front inserted := by
  have hstop := h.moved_stop
  obtain ⟨-, -, hdrawing⟩ := h
  obtain rfl := hdrawing.eq
  dsimp only at hstop
  rw [hstop]
  unfold Interpretation.ofState Interpretation.moved
  dsimp only
  cases s.modes.stoppedAt? <;> rfl

theorem result_map_ofState_of_sideBySide {front inserted : Nat}
    {r r' : Except GerberError (State α)}
    (h : (Variation.moved front inserted).Results (Variation.moved front inserted).States r r') :
    r'.map Interpretation.ofState =
      ((r.map Interpretation.ofState).map (Interpretation.moved front inserted)).mapError
        (GerberError.moved front inserted) := by
  cases h with
  | error places =>
    obtain rfl := places
    rfl
  | ok related => exact congrArg Except.ok related.ofState_eq

variable [Scalar α]

theorem interpretOver_result_append {a : String} (ha : Token.EndsAtCut a) (b : String)
    (bounds : Bounds) :
    (interpretOver α (a ++ b) bounds).result =
      ((State.initial bounds : State α).run (Token.scan a)).result >>= fun s ↦
        (State.runFrom (.ok s) ((Token.scan b).zipIdx (Token.scan a).length)).result.map
          Interpretation.ofState := by
  rw [interpretOver_append ha, Report.result_bind]
  simp only [Report.result_bind, Interpretation.result_finish]
  rfl

/-- What a document draws does not depend on what the next block forgets. -/
theorem result_map_ofState_of_rested {s s' : State α} (h : s'.rested = s.rested)
    (tokens : List Token) (position : Nat) :
    (State.runFrom (.ok s') (tokens.zipIdx position)).result.map Interpretation.ofState =
      (State.runFrom (.ok s) (tokens.zipIdx position)).result.map Interpretation.ofState := by
  have hrun : State.rested <$> State.runFrom (.ok s') (tokens.zipIdx position) =
      State.rested <$> State.runFrom (.ok s) (tokens.zipIdx position) := by
    rw [← State.runFrom_rested s', h, State.runFrom_rested]
  have hforget : ∀ r : Except GerberError (State α),
      (r.map State.rested).map Interpretation.ofState = r.map Interpretation.ofState := by
    rintro (_ | _) <;> rfl
  have hresult := congrArg (·.result.map Interpretation.ofState) hrun
  simpa only [Report.result_map, hforget] using hresult

variable (α) in
/-- **Inert commands are inert wherever they stand.** Put in at a cut that blocks follow, such a
command changes neither what a document draws and defines nor the fault it fails with, and errors
and stops behind it move by as many places as it has tokens. -/
theorem inert_commands {a x : String} (b : String) (bounds : Bounds) (ha : Token.EndsAtCut a)
    (hblocks : a.toList.count '%' % 2 = 0) (hx : Inert x) :
    (interpretOver α (a ++ x ++ b) bounds).result =
      ((interpretOver α (a ++ b) bounds).result.map
        (Interpretation.moved (Token.scan a).length (Token.scan x).length)).mapError
          (GerberError.moved (Token.scan a).length (Token.scan x).length) := by
  generalize hinserted : (Token.scan x).length = inserted
  let v := Variation.moved (Token.scan a).length inserted
  have hinitial : v.States (State.initial bounds : State α) (.initial bounds) :=
    ⟨rfl, .none, ⟨.nil, rfl⟩⟩
  -- beside itself, the run over the front shows that its places stay as they are
  have hself : v.Reports v.States ((State.initial bounds : State α).run (Token.scan a))
      ((State.initial bounds).run (Token.scan a)) :=
    State.runFrom_sideBySide hinitial (Token.scan a) fun i hi ↦ (if_pos (by omega)).symm
  have hblock : Reading.block.after (Token.scan a) = .block := by
    rw [Reading.after_eq_block_iff, Token.count_toggle_scan]
    simp [hblocks]
  have hreads : ∀ s, ((State.initial bounds : State α).run (Token.scan a)).result = .ok s →
      s.modes.stoppedAt? = none → s.Reads .block :=
    hblock ▸ State.runFrom_reads (State.initial_reads bounds) (Token.scan a) 0
  rw [String.append_assoc, interpretOver_result_append ha, interpretOver_result_append ha,
    Token.scan_append hx.endsAtCut]
  unfold Variation.Reports at hself
  generalize ((State.initial bounds : State α).run (Token.scan a)).result = r at hself hreads ⊢
  cases r with
  | error e =>
    -- the front fails, in both documents at the same place
    cases hself with
    | error places => exact congrArg (fun p ↦ Except.error (⟨_, p⟩ : GerberError)) places
  | ok s =>
    cases hself with
    | ok related =>
      show (State.runFrom (.ok s) _).result.map _ =
        (((State.runFrom (.ok s) _).result.map _).map _).mapError _
      cases running : s.modes.stoppedAt? with
      | some place =>
        have hstop : s.modes.stoppedAt?.isSome := by simp [running]
        rw [State.runFrom_of_stopped hstop, State.runFrom_of_stopped hstop]
        exact congrArg Except.ok related.ofState_eq
      | none =>
        obtain ⟨s', hrun, hrested⟩ :=
          State.runFrom_inert hx (hreads s rfl running) running (Token.scan a).length
        have hrest : v.Reports v.States
            (State.runFrom (.ok s) ((Token.scan b).zipIdx (Token.scan a).length))
            (State.runFrom (.ok s) ((Token.scan b).zipIdx ((Token.scan a).length + inserted))) :=
          State.runFrom_sideBySide related (Token.scan b) fun i hi ↦ by
            show _ = placeAfter _ _ _
            rw [placeAfter, if_neg (by omega)]
            omega
        rw [State.runFrom_append, Report.result_bind, hrun, hinserted]
        exact (result_map_ofState_of_rested hrested _ _).trans
          (result_map_ofState_of_sideBySide hrest)

/-- A deprecated command inside an open region, between two edges that one operation draws. -/
theorem inert_commands_inside_region :
    Token.EndsAtCut "G91*G36*X1000D01*" ∧ "G91*G36*X1000D01*".toList.count '%' % 2 = 0 ∧
    Inert "%ASAXBY*%" ∧
    ∃ i j,
      (interpret ("G91*G36*X1000D01*" ++ "%ASAXBY*%" ++ "Y1000*X1000*G37*M02*")).result = .ok i ∧
      (interpret ("G91*G36*X1000D01*" ++ "Y1000*X1000*G37*M02*")).result = .ok j ∧
      i = j.moved 3 3 ∧ j.items.size = 1 ∧ j.termination = .stopped 6 ∧
      i.termination = .stopped 9 := by
  have hcut : Token.EndsAtCut "G91*G36*X1000D01*" := .inr ⟨"G91*G36*X1000D01", .inl rfl⟩
  have hblocks : "G91*G36*X1000D01*".toList.count '%' % 2 = 0 := by decide
  have hinert : Inert "%ASAXBY*%" := by
    have hstart : ∀ c ∈ "ASAXBY".toList.head?, Text.isBlank c = false := by
      rintro _ ⟨⟩
      rfl
    refine @Inert.extended "ASAXBY" ?_ hstart (by decide)
    simp [Token.Uncut, Token.isLineBreak]
  obtain ⟨j, hj, hitems, hstop⟩ : ∃ j,
      (interpret ("G91*G36*X1000D01*" ++ "Y1000*X1000*G37*M02*")).result = .ok j ∧
        j.items.size = 1 ∧ j.termination = .stopped 6 := by
    decide +kernel
  have hsame := inert_commands Float "Y1000*X1000*G37*M02*" .empty hcut hblocks hinert
  change (interpret _).result = ((interpret _).result.map _).mapError _ at hsame
  rw [hj] at hsame
  have hplaces : (Token.scan "G91*G36*X1000D01*").length = 3 ∧
      (Token.scan "%ASAXBY*%").length = 3 := by
    decide
  rw [hplaces.1, hplaces.2] at hsame
  refine ⟨hcut, hblocks, hinert, _, j, hsame, hj, rfl, hitems, hstop, ?_⟩
  rw [Interpretation.moved, hstop]
  rfl

end GerberMask.Gerber
