import GerberMask.Proofs.Gerber.DrawnItems

/-!
# Where a document fails

A computation is told the index of the token that it belongs to, and it fails at that index if it
fails at all (`Report.FailsAt`): every error of an interpretation is made by such a computation. So
the error of a run says which token was executed when it was made, and the run of the tokens before
that one is without error (`State.run_eq_error_iff`). A macro is expanded by the definition that
uses it; its lines are only stored, and the tokens that hold them never fail.

The same lemmas say when a list of vertices is too long to be held: only a flash makes one, of a
primitive of the selected aperture.
-/

namespace GerberMask.Gerber

variable {α β : Type}

/-! ### Computations that fail at a given index -/

namespace Report

/-- A computation fails at the given index if it fails, and has too many vertices only under the
given condition. -/
def FailsAt (r : Report GerberError β) (position : Nat) (overflows : Prop) : Prop :=
  ∀ e, r.result = .error e → e.position = position ∧ ∀ n, e.fault = .tooManyVertices n → overflows

variable {γ : Type} {r : Report GerberError β} {position : Nat} {overflows : Prop}

theorem failsAt_of_ok {b : β} (h : r.result = .ok b) : r.FailsAt position overflows := by
  intro e he
  rw [h] at he
  cases he

theorem failsAt_of_error {e : GerberError} (h : r.result = .error e) (hplace : e.position = position)
    (hfault : ∀ n, e.fault ≠ .tooManyVertices n) : r.FailsAt position overflows := by
  intro e' he'
  obtain rfl : e = e' := Except.error.inj (h.symm.trans he')
  exact ⟨hplace, fun n hn ↦ absurd hn (hfault n)⟩

/-- A malformed number is placed at the index. -/
theorem failsAt_of_malformed {x : Except MalformedNumber β}
    (h : r.result = x.mapError (·.at position)) : r.FailsAt position overflows := by
  cases x with
  | error e => exact failsAt_of_error h rfl fun n ↦ by rintro ⟨⟩
  | ok b => exact failsAt_of_ok h

theorem FailsAt.bind {g : β → Report GerberError γ} (hr : r.FailsAt position overflows)
    (hg : ∀ b, r.result = .ok b → (g b).FailsAt position overflows) :
    (r >>= g).FailsAt position overflows := by
  intro e he
  rw [result_bind] at he
  cases hresult : r.result with
  | error e' =>
    rw [hresult] at he
    cases he
    exact hr e hresult
  | ok b =>
    rw [hresult] at he
    exact hg b hresult e he

theorem FailsAt.mono {overflows' : Prop} (hr : r.FailsAt position overflows)
    (h : overflows → overflows') : r.FailsAt position overflows' :=
  fun e he ↦ ⟨(hr e he).1, fun n hn ↦ h ((hr e he).2 n hn)⟩

end Report

/-! ### Operations -/

namespace State

variable {overflows : Prop}

theorem selected_failsAt (s : State α) (position : Nat) :
    (Report.ofExcept (s.selected position)).FailsAt position overflows := by
  unfold selected
  split
  · exact Report.failsAt_of_error rfl rfl fun n ↦ by rintro ⟨⟩
  · split
    · exact Report.failsAt_of_error rfl rfl fun n ↦ by rintro ⟨⟩
    · exact Report.failsAt_of_ok rfl

theorem drawEach_failsAt (s : State α) {draw : Primitive → Except GerberError Drawn}
    {position : Nat} {ps : List Primitive}
    (hdraw : ∀ p ∈ ps, (Report.ofExcept (draw p)).FailsAt position overflows) :
    (s.drawEach draw ps).FailsAt position overflows := by
  induction ps generalizing s with
  | nil => exact Report.failsAt_of_ok rfl
  | cons p ps ih =>
    refine (hdraw p List.mem_cons_self).bind fun drawn _ ↦ ?_
    refine (Report.failsAt_of_ok (addDrawn_result s drawn)).bind fun s' _ ↦ ?_
    exact ih s' fun p' hp' ↦ hdraw p' (List.mem_cons_of_mem p hp')

theorem flashOne_failsAt (place : Point Float) (polarity : Polarity) (position : Nat)
    (p : Primitive) :
    (Report.ofExcept (flashOne place polarity position p)).FailsAt position
      (p.excessVertices?.isSome) := by
  unfold flashOne
  split
  next n hexcess =>
    rintro e ⟨⟩
    exact ⟨rfl, fun _ _ ↦ by simp [hexcess]⟩
  · exact Report.failsAt_of_ok rfl

variable [Scalar α]

theorem flashAt_failsAt (s : State α) (target : Point α) (position : Nat) :
    (s.flashAt target position).FailsAt position (∃ p ∈ s.tool, p.excessVertices?.isSome) := by
  refine (selected_failsAt s position).bind fun ps hps ↦ drawEach_failsAt s fun p hp ↦ ?_
  refine (flashOne_failsAt _ _ position p).mono fun hexcess ↦ ⟨p, ?_, hexcess⟩
  rwa [tool_of_selected hps]

theorem drawTo_failsAt (s : State α) (target : Point α) (position : Nat) :
    (s.drawTo target position).FailsAt position overflows := by
  rw [drawTo]
  split
  · exact Report.failsAt_of_ok rfl
  · exact (selected_failsAt s position).bind fun ps _ ↦
      drawEach_failsAt s fun p _ ↦ Report.failsAt_of_ok rfl

theorem operation_failsAt (s : State α) (code : Nat) (target : Point α) (position : Nat) :
    (s.operation code target position).FailsAt position
      (s.operationActions code target = [.flash] ∧ ∃ p ∈ s.tool, p.excessVertices?.isSome) := by
  unfold operation
  split
  · exact drawTo_failsAt _ target position
  · exact Report.failsAt_of_ok rfl
  · exact (flashAt_failsAt _ target position).mono fun hexcess ↦ ⟨rfl, hexcess⟩
  · split
    · rw [select]
      split
      · exact Report.failsAt_of_ok rfl
      · exact Report.failsAt_of_error rfl rfl fun n ↦ by rintro ⟨⟩
    · exact Report.failsAt_of_ok rfl

end State

/-! ### Blocks -/

namespace Block

variable {overflows : Prop}

theorem readCode_failsAt (number : List Char) (position : Nat) :
    (Report.ofExcept (readCode number position)).FailsAt position overflows := by
  unfold readCode
  split
  · exact Report.failsAt_of_ok rfl
  · exact Report.failsAt_of_error rfl rfl fun n ↦ by rintro ⟨⟩

variable [Scalar α]

theorem word_failsAt (position : Nat) (text : String) (b : Block α) (w : Word) :
    (b.word position text w).FailsAt position
      (b.wordActions w = [.flash] ∧ ∃ p ∈ b.state.tool, p.excessVertices?.isSome) := by
  obtain ⟨letter, number⟩ := w
  unfold word
  split
  case h_1 =>
    refine (readCode_failsAt number position).bind fun code _ ↦ ?_
    split
    · exact Report.failsAt_of_ok rfl
    · obtain ⟨s, hs⟩ := State.preparatory_ok b.state code position
      exact (Report.failsAt_of_ok hs).bind fun _ _ ↦ Report.failsAt_of_ok rfl
  case h_6 hletter =>
    obtain rfl : letter = 'D' := hletter
    refine (readCode_failsAt number position).bind fun code hcode ↦ ?_
    rw [wordActions_operation b (readCode_eq_ok_iff.1 hcode)]
    exact (State.operation_failsAt b.state code b.target position).bind fun _ _ ↦
      Report.failsAt_of_ok rfl
  case h_7 => exact Report.failsAt_of_ok rfl
  case h_8 =>
    refine (readCode_failsAt number position).bind fun code _ ↦ ?_
    split <;> exact Report.failsAt_of_ok rfl
  case h_9 => exact Report.failsAt_of_ok rfl
  -- coordinates and offsets
  all_goals
    exact (Report.failsAt_of_malformed rfl).bind fun v _ ↦ Report.failsAt_of_ok rfl

theorem words_failsAt (position : Nat) (text : String) (b : Block α) (ws : List Word) :
    (b.words position text ws).FailsAt position True := by
  induction ws generalizing b with
  | nil => exact Report.failsAt_of_ok rfl
  | cons w ws ih =>
    refine ((word_failsAt position text b w).mono fun _ ↦ trivial).bind fun b' _ ↦ ?_
    split
    · exact Report.failsAt_of_ok rfl
    · exact ih b'

theorem finish_failsAt (b : Block α) (position : Nat) :
    (b.finish position).FailsAt position overflows := by
  rw [finish]
  split
  · exact Report.failsAt_of_ok rfl
  · split
    · exact (State.drawTo_failsAt b.state b.target position).bind fun s _ ↦
        Report.failsAt_of_ok rfl
    · exact Report.failsAt_of_ok rfl

end Block

/-! ### Extended commands -/

theorem Registry.defineFrom_failsAt (r : Registry) (command : String) (unit : LengthUnit)
    (position : Nat) {overflows : Prop} :
    (r.defineFrom command unit position).FailsAt position overflows := by
  unfold defineFrom
  split
  · exact Report.failsAt_of_error rfl rfl fun n ↦ by rintro ⟨⟩
  · refine (Report.failsAt_of_malformed rfl).bind fun args _ ↦ ?_
    refine Report.FailsAt.bind ?_ fun primitives? _ ↦ ?_
    · unfold resolve
      split
      · exact Report.failsAt_of_ok rfl
      · exact (Report.failsAt_of_malformed rfl).bind fun ps _ ↦ Report.failsAt_of_ok rfl
      · split
        · exact Report.failsAt_of_ok rfl
        · exact Report.failsAt_of_error rfl rfl fun n ↦ by rintro ⟨⟩
    · cases primitives? with
      | none => exact Report.failsAt_of_ok rfl
      | some primitives =>
        exact (Report.failsAt_of_ok (define_result _ _ _)).bind fun _ _ ↦ Report.failsAt_of_ok rfl

namespace State

theorem extendedCommand_failsAt (s : State α) (command : String) (position : Nat)
    {overflows : Prop} : (s.extendedCommand command position).FailsAt position overflows := by
  unfold extendedCommand
  split
  · exact (Registry.defineFrom_failsAt _ _ _ _).bind fun d _ ↦ Report.failsAt_of_ok rfl
  · exact Report.failsAt_of_ok rfl
  · exact (Report.failsAt_of_malformed rfl).bind fun format _ ↦ Report.failsAt_of_ok rfl
  · unfold setPolarity
    dsimp only
    split <;> exact Report.failsAt_of_ok rfl
  · unfold setUnit
    dsimp only
    split <;> exact Report.failsAt_of_ok rfl
  · split
    · exact Report.failsAt_of_ok rfl
    · split <;> exact Report.failsAt_of_ok rfl

/-! ### Tokens -/

variable [Scalar α]

theorem block_failsAt (s : State α) (text : String) (position : Nat) :
    (s.block text position).FailsAt position True :=
  (Block.words_failsAt position text _ _).bind fun b _ ↦ b.finish_failsAt position

theorem step_failsAt (s : State α) (position : Nat) (t : Token) :
    (s.step position t).FailsAt position (s.blockText? t ≠ none) := by
  unfold step
  split
  · exact Report.failsAt_of_ok rfl
  · cases t with
    | toggle => exact Report.failsAt_of_ok rfl
    | command text =>
      dsimp only
      rw [command]
      split
      · exact Report.failsAt_of_ok rfl
      next hopen =>
        split
        · exact extendedCommand_failsAt s text position
        next hextended =>
          exact (block_failsAt s text position).mono fun _ ↦ by simp [blockText?, hopen, hextended]

/-- Only a command fails, before a stop, and not as the line of a macro. -/
theorem command_of_step_error {s : State α} {position : Nat} {t : Token} {e : GerberError}
    (h : (s.step position t).result = .error e) :
    ∃ text, t = .command text ∧ s.modes.stoppedAt? = none ∧ s.openMacro? = none := by
  unfold step at h
  split at h
  · cases h
  next hrunning =>
    cases t with
    | toggle => cases h
    | command text =>
      dsimp only at h
      rw [command] at h
      split at h
      · cases h
      next hopen => exact ⟨text, rfl, by simpa using hrunning, hopen⟩

/-! ### Runs -/

/-- A run fails where one of its steps fails after a run without error. The induction is on the
tokens, with the state and the index as they come. -/
theorem runFrom_eq_error_iff {s : State α} {tokens : List Token} {position : Nat}
    {e : GerberError} :
    (runFrom (.ok s) (tokens.zipIdx position)).result = .error e ↔
      ∃ front t rest s', tokens = front ++ t :: rest ∧
        (runFrom (.ok s) (front.zipIdx position)).result = .ok s' ∧
        (s'.step (position + front.length) t).result = .error e := by
  constructor
  · intro h
    induction tokens generalizing s position with
    | nil => cases h
    | cons t tokens ih =>
      cases hstep : (s.step position t).result with
      | error e' =>
        rw [runFrom_cons, Report.bind_eq_of_error hstep] at h
        cases h
        exact ⟨[], t, tokens, s, rfl, rfl, hstep⟩
      | ok s₁ =>
        rw [runFrom_cons, Report.bind_eq_of_ok hstep] at h
        obtain ⟨front, t', rest, s', rfl, hfront, hfails⟩ := ih h
        refine ⟨t :: front, t', rest, s', rfl, ?_, ?_⟩
        · rw [runFrom_cons, Report.bind_eq_of_ok hstep]
          exact hfront
        · rwa [List.length_cons, Nat.add_comm front.length 1, ← Nat.add_assoc]
  · rintro ⟨front, t, rest, s', rfl, hfront, hfails⟩
    rw [runFrom_append, Report.bind_eq_of_ok hfront, runFrom_cons, Report.bind_eq_of_error hfails]

/-- The run over one more token is the run before it, then its step. -/
theorem run_take_succ {s s' : State α} {tokens : List Token} {position : Nat} {t : Token}
    (ht : tokens[position]? = some t) (h : (s.run (tokens.take position)).result = .ok s') :
    (s.run (tokens.take (position + 1))).result = (s'.step position t).result := by
  obtain ⟨hlt, rfl⟩ := List.getElem?_eq_some_iff.1 ht
  rw [List.take_add_one, ht, Option.toList_some, run_append, Report.bind_eq_of_ok h,
    List.length_take, Nat.min_eq_left (Nat.le_of_lt hlt), runFrom_cons]
  cases hstep : (s'.step position tokens[position]).result with
  | error e => rw [Report.bind_eq_of_error hstep]
  | ok s'' =>
    rw [Report.bind_eq_of_ok hstep]
    rfl

/-- **The error of a run is that of the token it names.** -/
theorem run_eq_error_iff {s : State α} {tokens : List Token} {e : GerberError} :
    (s.run tokens).result = .error e ↔
      ∃ t s', tokens[e.position]? = some t ∧
        (s.run (tokens.take e.position)).result = .ok s' ∧
        (s'.step e.position t).result = .error e := by
  rw [run, runFrom_eq_error_iff]
  constructor
  · rintro ⟨front, t, rest, s', rfl, hfront, hfails⟩
    rw [Nat.zero_add] at hfails
    have hplace : e.position = front.length := (step_failsAt s' _ t e hfails).1
    rw [hplace]
    exact ⟨t, s', by simp, by rwa [List.take_left], hfails⟩
  · rintro ⟨t, s', ht, hfront, hfails⟩
    obtain ⟨hlt, rfl⟩ := List.getElem?_eq_some_iff.1 ht
    refine ⟨tokens.take e.position, tokens[e.position], tokens.drop (e.position + 1), s', ?_,
      hfront, ?_⟩
    · rw [← List.drop_eq_getElem_cons hlt, List.take_append_drop]
    · rwa [List.length_take, Nat.min_eq_left (Nat.le_of_lt hlt), Nat.zero_add]

end State

/-! ### Macros -/

namespace Registry

/-- A definition uses a macro that cannot be expanded with its arguments. -/
def ExpansionFails (r : Registry) (command : String) (e : MalformedNumber) : Prop :=
  ∃ code template argsText args m,
    splitDefinition command = some (code, template, argsText) ∧
    readArguments argsText = .ok args ∧ PrimitiveKind.ofTemplate? template = none ∧
    r.findMacro? template = some m ∧ (m.expand args).result = .error e

/-- What goes wrong in a macro is the error of the definition. -/
theorem ExpansionFails.defineFrom {r : Registry} {command : String} {e : MalformedNumber}
    (h : r.ExpansionFails command e) (unit : LengthUnit) (position : Nat) :
    (r.defineFrom command unit position).result = .error (e.at position) := by
  obtain ⟨code, template, argsText, args, m, hsplit, hargs, htemplate, hfound, hexpand⟩ := h
  have hresolve : (r.resolve template args unit position).result = .error (e.at position) := by
    simp only [resolve, htemplate, hfound, Report.result_bind, Report.mapError, hexpand,
      Except.mapError]
    rfl
  have hread : (Report.ofExcept ((readArguments argsText).mapError (·.at position)) :
      Report GerberError (List Float)).result = .ok args := by
    rw [hargs]
    rfl
  unfold Registry.defineFrom
  simp only [hsplit]
  rw [Report.bind_eq_of_ok hread, Report.bind_eq_of_error hresolve]

end Registry

variable [Scalar α]

theorem State.step_of_expansionFails {s : State α} {text : String} {e : MalformedNumber}
    (running : s.modes.stoppedAt? = none) (defines : s.defines text)
    (h : s.registry.ExpansionFails text e) (position : Nat) :
    (s.step position (.command text)).result = .error (e.at position) := by
  obtain ⟨hopen, hextended, hname⟩ := State.defines_iff.1 defines
  simp only [step.eq_def, running, Option.isSome_none, Bool.false_eq_true, if_false, command,
    hopen, hextended, if_true, extendedCommand, hname, Report.result_bind,
    h.defineFrom s.modes.unit position]
  rfl

variable (α) in
/-- **Errors are localised.** An interpretation fails with an error exactly if the token at the
index of the error is a command, the tokens before it are executed without error, stop or open
macro, and the run that includes it ends in that error. What goes wrong when a macro is expanded is
reported at the definition that uses it. -/
theorem error_places (source : String) (bounds : Bounds) :
    (∀ e, (interpretOver α source bounds).result = .error e ↔
      ∃ text s, (Token.scan source)[e.position]? = some (.command text) ∧
        ((State.initial bounds : State α).run ((Token.scan source).take e.position)).result =
          .ok s ∧
        s.modes.stoppedAt? = none ∧ s.openMacro? = none ∧
        ((State.initial bounds : State α).run ((Token.scan source).take (e.position + 1))).result =
          .error e) ∧
    ∀ position text s e, (Token.scan source)[position]? = some (.command text) →
      ((State.initial bounds : State α).run ((Token.scan source).take position)).result = .ok s →
      s.modes.stoppedAt? = none → s.defines text → s.registry.ExpansionFails text e →
      (interpretOver α source bounds).result = .error (e.at position) := by
  have herror : ∀ e, (interpretOver α source bounds).result = .error e ↔
      ((State.initial bounds : State α).run (Token.scan source)).result = .error e := by
    refine fun e ↦ ⟨interpretOver_result_eq_error, fun h ↦ ?_⟩
    rw [interpretOver, Report.bind_eq_of_error h]
  refine ⟨fun e ↦ ?_, fun position text s e ht hrun hrunning hdefines hfails ↦ ?_⟩
  · rw [herror, State.run_eq_error_iff]
    constructor
    · rintro ⟨t, s, ht, hrun, hfails⟩
      obtain ⟨text, rfl, hrunning, hopen⟩ := State.command_of_step_error hfails
      exact ⟨text, s, ht, hrun, hrunning, hopen, (State.run_take_succ ht hrun).trans hfails⟩
    · rintro ⟨text, s, ht, hrun, -, -, hfails⟩
      exact ⟨_, s, ht, hrun, (State.run_take_succ ht hrun).symm.trans hfails⟩
  · rw [herror, State.run_eq_error_iff]
    exact ⟨_, s, ht, hrun, State.step_of_expansionFails hrunning hdefines hfails position⟩

/-- A macro with a field that is no number: the definition that uses it is the sixth token. -/
theorem error_places_macro_field :
    ∃ text s, (Token.scan "%AMBAD*1,1,x*%%ADD10BAD*%D10*")[5]? = some (.command text) ∧
      ((State.initial .empty : State Float).run
        ((Token.scan "%AMBAD*1,1,x*%%ADD10BAD*%D10*").take 5)).result = .ok s ∧
      s.modes.stoppedAt? = none ∧ s.openMacro? = none ∧
      ((State.initial .empty : State Float).run
        ((Token.scan "%AMBAD*1,1,x*%%ADD10BAD*%D10*").take 6)).result =
          .error ⟨.malformedNumber "x", 5⟩ := by
  obtain ⟨hplaces, hexpansions⟩ := error_places Float "%AMBAD*1,1,x*%%ADD10BAD*%D10*" .empty
  obtain ⟨s, hrun, hrunning, hdefines, hfound⟩ : ∃ s,
      ((State.initial .empty : State Float).run
        ((Token.scan "%AMBAD*1,1,x*%%ADD10BAD*%D10*").take 5)).result = .ok s ∧
      s.modes.stoppedAt? = none ∧ s.defines "ADD10BAD" ∧
      s.registry.findMacro? "BAD" = some ⟨"BAD", ["1,1,x"]⟩ := by
    decide +kernel
  refine (hplaces ⟨.malformedNumber "x", 5⟩).1 ?_
  refine hexpansions 5 "ADD10BAD" s ⟨"x"⟩ (by decide) hrun hrunning hdefines ?_
  exact ⟨10, "BAD", [], [], _, by decide, rfl, by decide, hfound, by decide +kernel⟩

end GerberMask.Gerber
