import GerberMask.Proofs.Gerber.OnlineFold

/-!
# An execution, move by move

A run goes from token to token, and what happens inside a block is a single step of it. Here an
execution goes from moment to moment (`Moment.next?`): a block is begun, its words are executed one
after the other, and it is completed. Every move is one of the functions that a run is made of;
only the bookkeeping of what is left to do is new.

* What a move does to regions and apertures is told by its *actions* (`Moment.actions`), read off
  the letter and the code of a word and off nothing that the move computes. The actions on the way
  to a moment are its history (`Leads`).
* Executions end as runs do (`interpretOver_eq_error_iff`, `interpretOver_eq_ok_iff`). This rests
  on one quantity that no move changes, the outcome of the run from a moment on (`Moment.outcome`),
  and on the fact that every execution ends (`exists_end`).
-/

namespace GerberMask.Gerber

/-! ### Actions -/

/-- Something that a document does to its regions or its apertures. -/
inductive Action where
  | openRegion
  | closeRegion
  /-- A draw from one place to another, straight unless there is an arc. It is repeated if
  coordinates without an operation asked for it. -/
  | draw (repeated : Bool) (start target : Point Float) (arc? : Option Arc)
  | move (target : Point Float)
  | flash
  | select (code : Nat)
  | define (code : Nat) (primitives : List Primitive)
  deriving DecidableEq, Repr

/-- What a definition defines, worked out with the macros of a registry and a unit; `none` where the
definition fails or its template is skipped. -/
def Registry.definition? (r : Registry) (command : String) (unit : LengthUnit) (position : Nat) :
    Option (Nat × List Primitive) := do
  let (code, template, argsText) ← splitDefinition command
  let args ← (readArguments argsText).toOption
  let primitives? ← (r.resolve template args unit position).result.toOption
  return (code, ← primitives?)

variable {α : Type}

/-- Whether a command is executed as a definition. -/
def State.defines (s : State α) (text : String) : Bool :=
  s.openMacro?.isNone && s.modes.extended && String.ofList (text.toList.take 2) == "AD"

/-- What a token defines. -/
def State.definition? (s : State α) (position : Nat) : Token → Option (Nat × List Primitive)
  | .toggle => none
  | .command text =>
    if s.defines text then s.registry.definition? text s.modes.unit position else none

/-- The actions of a G code. -/
def preparatoryActions (code : Nat) : List Action :=
  match code with
  | 36 => [.openRegion]
  | 37 => [.closeRegion]
  | _ => []

section

variable [Scalar α]

/-- The draw from the current position to a target. -/
def State.drawAction (s : State α) (repeated : Bool) (target : Point α) : Action :=
  .draw repeated (s.modes.position.map Scalar.toFloat) (target.map Scalar.toFloat)
    (s.modes.arcTo? target)

/-- The actions of a D code. -/
def State.operationActions (s : State α) (code : Nat) (target : Point α) : List Action :=
  match code with
  | 1 => [s.drawAction false target]
  | 2 => [.move (target.map Scalar.toFloat)]
  | 3 => [.flash]
  | _ => if 10 ≤ code then [.select code] else []

/-- The actions of a word. -/
def Block.wordActions (b : Block α) (w : Word) : List Action :=
  match w.letter, readWord? 32 w.number with
  | 'G', some code => preparatoryActions code
  | 'D', some code => b.state.operationActions code b.target
  | _, _ => []

/-- What a word can do, with the codes that it needs for it. -/
inductive Block.Does (b : Block α) : Word → List Action → Prop
  | openRegion {number : List Char} (code : readWord? 32 number = some 36) :
      b.Does ⟨'G', number⟩ [.openRegion]
  | closeRegion {number : List Char} (code : readWord? 32 number = some 37) :
      b.Does ⟨'G', number⟩ [.closeRegion]
  | draw {number : List Char} (code : readWord? 32 number = some 1) :
      b.Does ⟨'D', number⟩ [b.state.drawAction false b.target]
  | move {number : List Char} (code : readWord? 32 number = some 2) :
      b.Does ⟨'D', number⟩ [.move (b.target.map Scalar.toFloat)]
  | flash {number : List Char} (code : readWord? 32 number = some 3) :
      b.Does ⟨'D', number⟩ [.flash]
  | select {number : List Char} {n : Nat} (code : readWord? 32 number = some n) (least : 10 ≤ n) :
      b.Does ⟨'D', number⟩ [.select n]
  | nothing {w : Word} : b.Does w []

theorem Block.does_wordActions (b : Block α) (w : Word) : b.Does w (b.wordActions w) := by
  obtain ⟨letter, number⟩ := w
  unfold wordActions
  split
  next code hletter hcode =>
    obtain rfl : letter = 'G' := hletter
    unfold preparatoryActions
    split
    · exact .openRegion hcode
    · exact .closeRegion hcode
    · exact .nothing
  next code hletter hcode =>
    obtain rfl : letter = 'D' := hletter
    unfold State.operationActions
    split
    · exact .draw hcode
    · exact .move hcode
    · exact .flash hcode
    · split
      next hleast => exact .select hcode hleast
      · exact .nothing
  · exact .nothing

/-- The actions that complete a block: coordinates that no operation has used draw, in a region
always and outside if the tool is on. -/
def Block.lastActions (b : Block α) : List Action :=
  if b.state.modes.stoppedAt?.isNone && b.pending &&
      (b.state.modes.region?.isSome || b.state.modes.toolOn) then
    [b.state.drawAction true b.target]
  else []

end

/-! ### Moments -/

/-- A moment of an execution: between two tokens, or inside a block of which some words are still to
be executed. It knows the index of the token that is next or in execution, and the tokens behind. -/
inductive Moment (α : Type) where
  | between (s : State α) (position : Nat) (rest : List Token)
  | inside (b : Block α) (words : List Word) (text : String) (position : Nat) (rest : List Token)

/-- The block that a token begins; the other tokens are executed at once. -/
def State.blockText? (s : State α) : Token → Option String
  | .toggle => none
  | .command text => if s.openMacro?.isNone && !s.modes.extended then some text else none

theorem State.blockText?_eq_some_iff {s : State α} {t : Token} {text : String} :
    s.blockText? t = some text ↔
      t = .command text ∧ s.openMacro? = none ∧ s.modes.extended = false := by
  cases t with
  | toggle => simp [blockText?]
  | command c =>
    simp only [blockText?, Option.ite_none_right_eq_some, Option.some.injEq, Token.command.injEq,
      Bool.and_eq_true, Option.isNone_iff_eq_none, Bool.not_eq_eq_eq_not, Bool.not_true]
    exact and_comm

namespace Moment

/-- The state at a moment. -/
def state : Moment α → State α
  | between s _ _ => s
  | inside b _ _ _ _ => b.state

/-- The index of the token that is next or in execution. -/
def position : Moment α → Nat
  | between _ position _ => position
  | inside _ _ _ position _ => position

variable [Scalar α]

/-- The first moment of a document. -/
def start (source : String) (bounds : Bounds) : Moment α :=
  between (.initial bounds) 0 (Token.scan source)

/-- What the next move does to regions and apertures. -/
def actions : Moment α → List Action
  | between _ _ [] => []
  | between s position (t :: _) => (s.definition? position t).toList.map fun d ↦ .define d.1 d.2
  | inside b [] _ _ _ => b.lastActions
  | inside b (w :: _) _ _ _ => b.wordActions w

/-- The moment after the next move, or the error in which it ends; `none` where nothing is left to
do. -/
def next? : Moment α → Option (Except GerberError (Moment α))
  | between _ _ [] => none
  | between s position (t :: rest) =>
    if s.modes.stoppedAt?.isSome then none
    else
      match s.blockText? t with
      | some text => some (.ok (inside (.start s) (Word.split text.toList) text position rest))
      | none => some ((s.step position t).result.map (between · (position + 1) rest))
  | inside b [] _ position rest =>
    some ((b.finish position).result.map (between · (position + 1) rest))
  | inside b (w :: words) text position rest =>
    some ((b.word position text w).result.map fun b' ↦
      inside b' (if b'.ended then [] else words) text position rest)

/-! ### Moves -/

/-- The moves, one for each kind of moment. -/
inductive Move : Moment α → Moment α → Prop
  /-- A block is begun. -/
  | begin {s : State α} {position : Nat} {t : Token} {rest : List Token} {text : String}
      (running : s.modes.stoppedAt? = none) (block : s.blockText? t = some text) :
      Move (between s position (t :: rest))
        (inside (.start s) (Word.split text.toList) text position rest)
  /-- Another token is executed. -/
  | step {s s' : State α} {position : Nat} {t : Token} {rest : List Token}
      (running : s.modes.stoppedAt? = none) (other : s.blockText? t = none)
      (done : (s.step position t).result = .ok s') :
      Move (between s position (t :: rest)) (between s' (position + 1) rest)
  | word {b b' : Block α} {w : Word} {words : List Word} {text : String} {position : Nat}
      {rest : List Token} (done : (b.word position text w).result = .ok b') :
      Move (inside b (w :: words) text position rest)
        (inside b' (if b'.ended then [] else words) text position rest)
  | finish {b : Block α} {s : State α} {text : String} {position : Nat} {rest : List Token}
      (done : (b.finish position).result = .ok s) :
      Move (inside b [] text position rest) (between s (position + 1) rest)

/-- The moves that fail. -/
inductive Fails : Moment α → GerberError → Prop
  | step {s : State α} {position : Nat} {t : Token} {rest : List Token} {e : GerberError}
      (running : s.modes.stoppedAt? = none) (other : s.blockText? t = none)
      (failed : (s.step position t).result = .error e) : Fails (between s position (t :: rest)) e
  | word {b : Block α} {w : Word} {words : List Word} {text : String} {position : Nat}
      {rest : List Token} {e : GerberError} (failed : (b.word position text w).result = .error e) :
      Fails (inside b (w :: words) text position rest) e
  | finish {b : Block α} {text : String} {position : Nat} {rest : List Token} {e : GerberError}
      (failed : (b.finish position).result = .error e) : Fails (inside b [] text position rest) e

/-- Every move is one of these. -/
theorem next?_eq_ok_iff {m m' : Moment α} : m.next? = some (.ok m') ↔ m.Move m' := by
  constructor
  · intro h
    match m with
    | between s position [] => cases h
    | between s position (t :: rest) =>
      rw [next?] at h
      split at h
      · cases h
      next hrunning =>
        have hrunning : s.modes.stoppedAt? = none := by simpa using hrunning
        split at h
        next text hblock =>
          cases h
          exact .begin hrunning hblock
        next hother =>
          obtain ⟨s', hdone, rfl⟩ := Report.map_eq_ok.1 (Option.some.inj h)
          exact .step hrunning hother hdone
    | inside b [] text position rest =>
      obtain ⟨s, hdone, rfl⟩ := Report.map_eq_ok.1 (Option.some.inj h)
      exact .finish hdone
    | inside b (w :: words) text position rest =>
      obtain ⟨b', hdone, rfl⟩ := Report.map_eq_ok.1 (Option.some.inj h)
      exact .word hdone
  · intro h
    cases h with
    | begin hrunning hblock => simp [next?, hrunning, hblock]
    | step hrunning hother hdone => simp [next?, hrunning, hother, hdone, Except.map]
    | word hdone => simp [next?, hdone, Except.map]
    | finish hdone => simp [next?, hdone, Except.map]

/-- Every failure is one of these. -/
theorem next?_eq_error_iff {m : Moment α} {e : GerberError} :
    m.next? = some (.error e) ↔ m.Fails e := by
  constructor
  · intro h
    match m with
    | between s position [] => cases h
    | between s position (t :: rest) =>
      rw [next?] at h
      split at h
      · cases h
      next hrunning =>
        split at h
        · cases h
        next hother =>
          exact .step (by simpa using hrunning) hother (Report.map_eq_error.1 (Option.some.inj h))
    | inside b [] text position rest => exact .finish (Report.map_eq_error.1 (Option.some.inj h))
    | inside b (w :: words) text position rest =>
      exact .word (Report.map_eq_error.1 (Option.some.inj h))
  · intro h
    cases h with
    | step hrunning hother hfailed => simp [next?, hrunning, hother, hfailed, Except.map]
    | word hfailed => simp [next?, hfailed, Except.map]
    | finish hfailed => simp [next?, hfailed, Except.map]

/-- Nothing is left to do after the last token, and after a stop. -/
theorem next?_eq_none_iff {m : Moment α} :
    m.next? = none ↔ ∃ s position rest, m = between s position rest ∧
      (rest = [] ∨ s.modes.stoppedAt?.isSome) := by
  match m with
  | between s position [] => simp [next?]
  | between s position (t :: rest) =>
    cases hstop : s.modes.stoppedAt? with
    | none =>
      cases hblock : s.blockText? t <;> simp [next?, hstop, hblock]
    | some _ => simp [next?, hstop]
  | inside b [] text position rest => simp [next?]
  | inside b (w :: words) text position rest => simp [next?]

/-! ### Histories -/

/-- One moment leads to another by moves with the given actions. -/
inductive Leads : Moment α → List Action → Moment α → Prop
  | refl (m : Moment α) : Leads m [] m
  | cons {m m' m'' : Moment α} {as : List Action} (move : m.next? = some (.ok m'))
      (rest : Leads m' as m'') : Leads m (m.actions ++ as) m''

namespace Leads

theorem single {m m' : Moment α} (h : m.next? = some (.ok m')) : Leads m m.actions m' := by
  have hlead := Leads.cons h (.refl m')
  rwa [List.append_nil] at hlead

theorem trans {m m' m'' : Moment α} {as bs : List Action} (h : Leads m as m')
    (h' : Leads m' bs m'') : Leads m (as ++ bs) m'' := by
  induction h with
  | refl m => exact h'
  | cons move _ ih =>
    rw [List.append_assoc]
    exact .cons move (ih h')

end Leads

/-- The first moves of an execution, as many as are given or can be made: their actions and the
moment that they lead to. -/
def run : Nat → Moment α → List Action × Moment α
  | 0, m => ([], m)
  | n + 1, m =>
    match m.next? with
    | some (.ok m') => (m.actions ++ (run n m').1, (run n m').2)
    | _ => ([], m)

theorem leads_run (n : Nat) (m : Moment α) : m.Leads (m.run n).1 (m.run n).2 := by
  induction n generalizing m with
  | zero => exact .refl m
  | succ n ih =>
    rw [run]
    split
    next m' hmove => exact .cons hmove (ih m')
    · exact .refl m

/-- What a move can do: at most one action. -/
inductive Does : Moment α → List Action → Prop
  | define {s : State α} {position : Nat} {text : String} {rest : List Token} {code : Nat}
      {primitives : List Primitive} (defines : s.defines text)
      (definition :
        s.registry.definition? text s.modes.unit position = some (code, primitives)) :
      Does (between s position (.command text :: rest)) [.define code primitives]
  | word {b : Block α} {w : Word} {words : List Word} {text : String} {position : Nat}
      {rest : List Token} {as : List Action} (does : b.Does w as) :
      Does (inside b (w :: words) text position rest) as
  | repeated {b : Block α} {text : String} {position : Nat} {rest : List Token} :
      Does (inside b [] text position rest) [b.state.drawAction true b.target]
  | nothing {m : Moment α} : Does m []

theorem does_actions (m : Moment α) : m.Does m.actions := by
  match m with
  | between s position [] => exact .nothing
  | between s position (.toggle :: rest) => exact .nothing
  | between s position (.command text :: rest) =>
    rw [actions, State.definition?]
    split
    next hdefines =>
      cases hdef : s.registry.definition? text s.modes.unit position with
      | none => exact .nothing
      | some d => exact .define hdefines hdef
    · exact .nothing
  | inside b [] text position rest =>
    rw [actions, Block.lastActions]
    split
    · exact .repeated
    · exact .nothing
  | inside b (w :: words) text position rest => exact .word (b.does_wordActions w)

theorem actions_eq (m : Moment α) : m.actions = [] ∨ ∃ a, m.actions = [a] := by
  have hdoes := m.does_actions
  generalize m.actions = as at hdoes
  cases hdoes with
  | word hword => cases hword <;> simp
  | _ => simp

/-- Every action of a history is the whole of one move. -/
theorem Leads.exists_move {m m' : Moment α} {as₁ as₂ : List Action} {a : Action}
    (h : Leads m (as₁ ++ a :: as₂) m') :
    ∃ m₀ m₁, Leads m as₁ m₀ ∧ m₀.actions = [a] ∧ m₀.next? = some (.ok m₁) ∧ Leads m₁ as₂ m' := by
  generalize has : as₁ ++ a :: as₂ = as at h
  induction h generalizing as₁ with
  | refl => simp at has
  | @cons m m₁ m' as move rest ih =>
    obtain hnone | ⟨b, hone⟩ := m.actions_eq
    · -- a move without actions is prepended to the way there
      rw [hnone, List.nil_append] at has
      obtain ⟨m₀, m₂, hbefore, hmove⟩ := ih has
      refine ⟨m₀, m₂, ?_, hmove⟩
      have hlead := Leads.cons move hbefore
      rwa [hnone] at hlead
    · rw [hone, List.singleton_append] at has
      cases as₁ with
      | nil =>
        cases has
        exact ⟨m, m₁, .refl m, hone, move, rest⟩
      | cons b' as₁ =>
        cases has
        obtain ⟨m₀, m₂, hbefore, hmove⟩ := ih rfl
        refine ⟨m₀, m₂, ?_, hmove⟩
        have hlead := Leads.cons move hbefore
        rwa [hone] at hlead

/-! ### Every execution ends -/

/-- What is left to do: tokens, then words. -/
def left : Moment α → Nat × Nat
  | between _ _ rest => (rest.length, 0)
  | inside _ words _ _ rest => (rest.length, words.length + 1)

theorem left_of_next? {m m' : Moment α} (h : m.next? = some (.ok m')) :
    Prod.Lex (· < ·) (· < ·) m'.left m.left := by
  cases next?_eq_ok_iff.1 h with
  | begin => exact .left _ _ (by simp)
  | step => exact .left _ _ (by simp)
  | word =>
    refine .right _ ?_
    split <;> simp
  | finish => exact .right _ (by simp)

/-- **Every execution ends**, with nothing left to do or in an error. -/
theorem exists_end (m : Moment α) :
    ∃ as m', Leads m as m' ∧ (m'.next? = none ∨ ∃ e, m'.next? = some (.error e)) := by
  match hm : m.next? with
  | none => exact ⟨[], m, .refl m, .inl hm⟩
  | some (.error e) => exact ⟨[], m, .refl m, .inr ⟨e, hm⟩⟩
  | some (.ok m') =>
    obtain ⟨as, m'', hlead, hend⟩ := exists_end m'
    exact ⟨_, m'', .cons hm hlead, hend⟩
termination_by m.left
decreasing_by exact left_of_next? hm

/-! ### Executions end as runs do -/

/-- How the run from a moment on ends. -/
def outcome : Moment α → Except GerberError (State α)
  | between s position rest => (State.runFrom (.ok s) (rest.zipIdx position)).result
  | inside b words text position rest =>
    (b.words position text words >>= (·.finish position) >>= fun s ↦
      State.runFrom (.ok s) (rest.zipIdx (position + 1))).result

theorem step_of_blockText? {s : State α} {t : Token} {text : String}
    (running : s.modes.stoppedAt? = none) (block : s.blockText? t = some text) (position : Nat) :
    s.step position t = s.block text position := by
  obtain ⟨rfl, hopen, hextended⟩ := State.blockText?_eq_some_iff.1 block
  simp [State.step, running, State.command, hopen, hextended]

theorem outcome_of_next? {m m' : Moment α} (h : m.next? = some (.ok m')) :
    m'.outcome = m.outcome := by
  cases next?_eq_ok_iff.1 h with
  | begin running block =>
    rw [outcome, outcome, State.runFrom_cons, step_of_blockText? running block, State.block]
  | step _ _ done =>
    rw [outcome, outcome, State.runFrom_cons, Report.result_bind, done]
    rfl
  | @word b b' w words text position rest done =>
    have hwords : (b.words position text (w :: words)).result =
        (b'.words position text (if b'.ended then [] else words)).result := by
      rw [Block.words, Report.result_bind, done]
      show (if b'.ended then pure b' else b'.words position text words).result = _
      cases b'.ended <;> rfl
    simp only [outcome, Report.result_bind, hwords]
  | finish done =>
    simp only [outcome, Block.words, Report.ok_eq_pure, pure_bind, Report.result_bind, done]
    rfl

theorem outcome_of_error {m : Moment α} {e : GerberError} (h : m.next? = some (.error e)) :
    m.outcome = .error e := by
  cases next?_eq_error_iff.1 h with
  | step _ _ failed =>
    rw [outcome, State.runFrom_cons, Report.result_bind, failed]
    rfl
  | word failed =>
    simp only [outcome, Block.words, Report.result_bind, failed]
    rfl
  | finish failed =>
    simp only [outcome, Block.words, Report.ok_eq_pure, pure_bind, Report.result_bind, failed]
    rfl

theorem outcome_of_end {m : Moment α} (h : m.next? = none) : m.outcome = .ok m.state := by
  obtain ⟨s, position, rest, rfl, rfl | hstop⟩ := next?_eq_none_iff.1 h
  · rfl
  · rw [outcome, State.runFrom_of_stopped hstop]
    rfl

theorem Leads.outcome {m m' : Moment α} {as : List Action} (h : Leads m as m') :
    m'.outcome = m.outcome := by
  induction h with
  | refl => rfl
  | cons move _ ih => rw [ih, outcome_of_next? move]

/-- A run fails where an execution does. -/
theorem outcome_eq_error_iff {m : Moment α} {e : GerberError} :
    m.outcome = .error e ↔ ∃ as m', Leads m as m' ∧ m'.next? = some (.error e) := by
  constructor
  · intro h
    obtain ⟨as, m', hlead, hend | ⟨e', hend⟩⟩ := exists_end m
    · rw [← hlead.outcome, outcome_of_end hend] at h
      cases h
    · rw [← hlead.outcome, outcome_of_error hend] at h
      cases h
      exact ⟨as, m', hlead, hend⟩
  · rintro ⟨as, m', hlead, hend⟩
    rw [← hlead.outcome, outcome_of_error hend]

/-- A run ends in the state in which an execution has nothing left to do. -/
theorem outcome_eq_ok_iff {m : Moment α} {s : State α} :
    m.outcome = .ok s ↔ ∃ as m', Leads m as m' ∧ m'.next? = none ∧ m'.state = s := by
  constructor
  · intro h
    obtain ⟨as, m', hlead, hend | ⟨e, hend⟩⟩ := exists_end m
    · rw [← hlead.outcome, outcome_of_end hend] at h
      exact ⟨as, m', hlead, hend, Except.ok.inj h⟩
    · rw [← hlead.outcome, outcome_of_error hend] at h
      cases h
  · rintro ⟨as, m', hlead, hend, rfl⟩
    rw [← hlead.outcome, outcome_of_end hend]

end Moment

variable [Scalar α] {source : String} {bounds : Bounds}

theorem interpretOver_result (source : String) (bounds : Bounds) :
    (interpretOver α source bounds).result =
      (Moment.start source bounds : Moment α).outcome.map .ofState := by
  simp only [interpretOver, Report.result_bind, Interpretation.result_finish]
  rfl

/-- **Interpretations fail as executions do.** -/
theorem interpretOver_eq_error_iff {e : GerberError} :
    (interpretOver α source bounds).result = .error e ↔
      ∃ as m, (Moment.start source bounds : Moment α).Leads as m ∧ m.next? = some (.error e) := by
  rw [interpretOver_result, Report.map_eq_error, Moment.outcome_eq_error_iff]

/-- **Interpretations end as executions do.** -/
theorem interpretOver_eq_ok_iff {i : Interpretation} :
    (interpretOver α source bounds).result = .ok i ↔
      ∃ as m, (Moment.start source bounds : Moment α).Leads as m ∧ m.next? = none ∧
        .ofState m.state = i := by
  simp only [interpretOver_result, Report.map_eq_ok, Moment.outcome_eq_ok_iff]
  constructor
  · rintro ⟨s, ⟨as, m, hlead, hend, rfl⟩, hi⟩
    exact ⟨as, m, hlead, hend, hi⟩
  · rintro ⟨as, m, hlead, hend, hi⟩
    exact ⟨_, ⟨as, m, hlead, hend, rfl⟩, hi⟩

end GerberMask.Gerber
