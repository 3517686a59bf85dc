import GerberMask.Proofs.Gerber.DrawingFrame
import GerberMask.Proofs.Gerber.StepFrame
import GerberMask.Proofs.Gerber.TokenCuts

/-!
# Interpretation is an online fold

A document that ends at a cut can be read before its continuation is known. The tokens of the whole
are those of the document and then those of the continuation (`Token.scan_append`), and a run over
them is a run over the first, then one over the rest from the state that was reached (`run_append`).
So what the document has decided stays decided:

* an error is the error of every continuation, because nothing is executed after it;
* a stop is final, because tokens mean nothing to a state that has stopped (`runFrom_of_stopped`);
* otherwise a continuation adds items behind those of the document (`runFrom_drawing`), and
  apertures to those it has defined (`runFrom_codes`).

Nothing is asked of the state at the cut. A block may have left a region open, and a macro may still
take the commands that follow as its lines: both are part of the state that is handed on.
-/

namespace GerberMask.Gerber

variable {α : Type}

/-! ### The end of a document -/

namespace Interpretation

theorem result_finish (s : State α) : (finish s).result = .ok (ofState s) := by
  rw [finish]
  split <;> rfl

theorem isStopped_ofState (s : State α) :
    (ofState s).isStopped = s.modes.stoppedAt?.isSome := by
  unfold isStopped ofState
  cases s.modes.stoppedAt? <;> rfl

end Interpretation

variable [Scalar α]

/-! ### Runs over two parts -/

namespace State

theorem runFrom_eq_bind (r : Report GerberError (State α)) (tokens : List (Token × Nat)) :
    runFrom r tokens = r >>= fun s ↦ runFrom (.ok s) tokens := by
  induction tokens generalizing r with
  | nil =>
    show r = r >>= pure
    rw [bind_pure]
  | cons t tokens ih =>
    -- the hypothesis is used twice: at the report after the token, and backwards at its values
    show runFrom (r >>= (·.step t.2 t.1)) tokens =
      r >>= fun s ↦ runFrom (pure s >>= (·.step t.2 t.1)) tokens
    simp only [pure_bind]
    rw [ih, bind_assoc]
    simp only [← ih]

theorem runFrom_cons (s : State α) (t : Token) (tokens : List Token) (position : Nat) :
    runFrom (.ok s) ((t :: tokens).zipIdx position) =
      s.step position t >>= fun s' ↦ runFrom (.ok s') (tokens.zipIdx (position + 1)) := by
  rw [← runFrom_eq_bind]
  show runFrom ((.ok s : Report GerberError (State α)) >>= _) _ = _
  rw [Report.ok_eq_pure, pure_bind]

theorem runFrom_append (s : State α) (front rest : List Token) (position : Nat) :
    runFrom (.ok s) ((front ++ rest).zipIdx position) =
      runFrom (.ok s) (front.zipIdx position) >>= fun s' ↦
        runFrom (.ok s') (rest.zipIdx (position + front.length)) := by
  rw [← runFrom_eq_bind, List.zipIdx_append, runFrom, List.foldl_append]
  rfl

theorem run_append (s : State α) (front rest : List Token) :
    s.run (front ++ rest) =
      s.run front >>= fun s' ↦ runFrom (.ok s') (rest.zipIdx front.length) := by
  rw [run, runFrom_append, Nat.zero_add]
  rfl

theorem step_of_stopped {s : State α} (h : s.modes.stoppedAt?.isSome) (position : Nat)
    (t : Token) : s.step position t = .ok s := by
  unfold step
  exact if_pos h

/-- **A stop is final.** -/
theorem runFrom_of_stopped {s : State α} (h : s.modes.stoppedAt?.isSome)
    (tokens : List (Token × Nat)) : runFrom (.ok s) tokens = .ok s := by
  induction tokens with
  | nil => rfl
  | cons t tokens ih =>
    show runFrom (pure s >>= (·.step t.2 t.1)) tokens = _
    rw [pure_bind, step_of_stopped h]
    exact ih

end State

/-! ### Interpretations of two parts -/

theorem interpretOver_result_eq_ok {source : String} {bounds : Bounds} {i : Interpretation} :
    (interpretOver α source bounds).result = .ok i ↔
      ∃ s : State α, ((State.initial bounds).run (Token.scan source)).result = .ok s ∧
        .ofState s = i := by
  simp only [interpretOver, Report.result_bind_eq_ok, Interpretation.result_finish,
    Except.ok.injEq]

theorem interpretOver_result_eq_error {source : String} {bounds : Bounds} {e : GerberError}
    (h : (interpretOver α source bounds).result = .error e) :
    ((State.initial bounds : State α).run (Token.scan source)).result = .error e := by
  rw [interpretOver, Report.result_bind] at h
  cases hrun : ((State.initial bounds : State α).run (Token.scan source)).result with
  | error e' =>
    rw [hrun] at h
    obtain rfl : e' = e := Except.error.inj h
    rfl
  | ok s =>
    rw [hrun] at h
    change (Interpretation.finish s).result = _ at h
    rw [Interpretation.result_finish] at h
    cases h

theorem interpretOver_append {a : String} (ha : Token.EndsAtCut a) (b : String)
    (bounds : Bounds) :
    interpretOver α (a ++ b) bounds =
      ((State.initial bounds : State α).run (Token.scan a)) >>= fun s ↦
        State.runFrom (.ok s) ((Token.scan b).zipIdx (Token.scan a).length) >>=
          Interpretation.finish := by
  rw [interpretOver, Token.scan_append ha, State.run_append, bind_assoc]

/-- An error is the error of every continuation. -/
theorem interpretOver_append_of_error {a : String} (ha : Token.EndsAtCut a) (b : String)
    {bounds : Bounds} {e : GerberError} (h : (interpretOver α a bounds).result = .error e) :
    interpretOver α (a ++ b) bounds = interpretOver α a bounds := by
  have hrun := interpretOver_result_eq_error h
  rw [interpretOver_append ha, interpretOver, Report.bind_eq_of_error hrun,
    Report.bind_eq_of_error hrun]

/-- A stop is the stop of every continuation. -/
theorem interpretOver_append_of_stopped {a : String} (ha : Token.EndsAtCut a) (b : String)
    {bounds : Bounds} {i : Interpretation} (h : (interpretOver α a bounds).result = .ok i)
    (hstop : i.isStopped) : interpretOver α (a ++ b) bounds = interpretOver α a bounds := by
  obtain ⟨s, hrun, rfl⟩ := interpretOver_result_eq_ok.1 h
  rw [Interpretation.isStopped_ofState] at hstop
  rw [interpretOver_append ha, interpretOver, Report.bind_eq_of_ok hrun,
    Report.bind_eq_of_ok hrun, State.runFrom_of_stopped hstop, Report.ok_eq_pure, pure_bind]

/-- What a continuation adds to a document. -/
structure Interpretation.Continues (i j : Interpretation) : Prop where
  apertures : i.apertures ≤ j.apertures
  drawn : ∃ more, j.items = i.items ++ more ∧ j.bounds = more.foldl DrawItem.extend i.bounds

theorem State.continues_ofState {s s' : State α} {tokens : List (Token × Nat)}
    (h : (runFrom (.ok s) tokens).result = .ok s') :
    (Interpretation.ofState s).Continues (.ofState s') := by
  obtain ⟨e, he⟩ := runFrom_drawing s tokens s' h
  refine ⟨Registry.size_le_of_codes_subset (runFrom_codes s tokens s' h), e.items, ?_⟩
  simp only [Interpretation.ofState, he]
  exact ⟨rfl, rfl⟩

theorem interpretOver_append_of_ok {a : String} (ha : Token.EndsAtCut a) {b : String}
    {bounds : Bounds} {j : Interpretation}
    (h : (interpretOver α (a ++ b) bounds).result = .ok j) :
    ∃ i, (interpretOver α a bounds).result = .ok i ∧ i.Continues j := by
  rw [interpretOver_append ha] at h
  -- the state at the cut, then the state at the end
  obtain ⟨s, hrun, hrest⟩ := Report.result_bind_eq_ok.1 h
  obtain ⟨s', hrun', hfinish⟩ := Report.result_bind_eq_ok.1 hrest
  rw [Interpretation.result_finish] at hfinish
  cases hfinish
  exact ⟨.ofState s, interpretOver_result_eq_ok.2 ⟨s, hrun, rfl⟩, State.continues_ofState hrun'⟩

/-- **Interpretation is an online fold.** What a document that ends at a cut has decided, its
continuations cannot change: an error or a stop is theirs too, warnings included, and what it has
drawn and defined is the beginning of what they draw and define. -/
theorem interpret_append {a : String} (ha : Token.EndsAtCut a) (b : String) :
    (∀ e, (interpret a).result = .error e → interpret (a ++ b) = interpret a) ∧
    (∀ i, (interpret a).result = .ok i → i.isStopped → interpret (a ++ b) = interpret a) ∧
    ∀ j, (interpret (a ++ b)).result = .ok j →
      ∃ i more, (interpret a).result = .ok i ∧ j.items = i.items ++ more ∧
        i.apertures ≤ j.apertures ∧
        j.bounds = more.foldl (fun bounds item ↦
          bounds.includeRect item.shape.corners.1 item.shape.corners.2) i.bounds := by
  refine ⟨fun e h ↦ interpretOver_append_of_error ha b h,
    fun i h hstop ↦ interpretOver_append_of_stopped ha b h hstop, fun j h ↦ ?_⟩
  obtain ⟨i, hi, hij⟩ := interpretOver_append_of_ok ha h
  obtain ⟨more, hitems, hbounds⟩ := hij.drawn
  exact ⟨i, more, hi, hitems, hij.apertures, hbounds⟩

/-- A document that fails, one that stops, and one that is cut inside a macro: the flash of its
continuation draws the line before the cut and the line after it, and grows the extent of nothing
to the extent of both. -/
theorem interpret_append_macro :
    (interpret ("D10*" ++ "M02*")).result = .error ⟨.undefinedAperture 10, 0⟩ ∧
    (∃ i, (interpret ("M02*" ++ "D10*")).result = .ok i ∧ i.isStopped) ∧
    ∃ i j more, (interpret "%AMDOTS*1,1,2,0,0*").result = .ok i ∧ i.items = #[] ∧
      i.bounds = .empty ∧
      (interpret ("%AMDOTS*1,1,2,0,0*" ++ "1,1,2,0,4*%%ADD10DOTS*%D10*D03*")).result = .ok j ∧
      j.items = more ∧ i.apertures ≤ j.apertures ∧
      more.toList.map (·.shape) = [.ellipse ⟨0, 0⟩ 2 2, .ellipse ⟨0, 4⟩ 2 2] ∧
      j.bounds = ⟨some ⟨⟨-1, -1⟩, ⟨1, 5⟩⟩⟩ ∧
      more.foldl (fun bounds item ↦
        bounds.includeRect item.shape.corners.1 item.shape.corners.2) i.bounds = j.bounds := by
  have hfails : Token.EndsAtCut "D10*" := .inr ⟨"D10", .inl rfl⟩
  have hstops : Token.EndsAtCut "M02*" := .inr ⟨"M02", .inl rfl⟩
  have hmacro : Token.EndsAtCut "%AMDOTS*1,1,2,0,0*" :=
    .inr ⟨"%AMDOTS*1,1,2,0,0", .inl rfl⟩
  refine ⟨?_, ?_, ?_⟩
  · have herror : (interpret "D10*").result = .error ⟨.undefinedAperture 10, 0⟩ := by
      decide +kernel
    rw [(interpret_append hfails "M02*").1 _ herror, herror]
  · obtain ⟨i, hi, hstop⟩ : ∃ i, (interpret "M02*").result = .ok i ∧ i.isStopped := by
      decide +kernel
    rw [(interpret_append hstops "D10*").2.1 i hi hstop]
    exact ⟨i, hi, hstop⟩
  · obtain ⟨j, hj, hshapes, hbox⟩ : ∃ j,
        (interpret ("%AMDOTS*1,1,2,0,0*" ++ "1,1,2,0,4*%%ADD10DOTS*%D10*D03*")).result = .ok j ∧
          j.items.toList.map (·.shape) = [.ellipse ⟨0, 0⟩ 2 2, .ellipse ⟨0, 4⟩ 2 2] ∧
          j.bounds = ⟨some ⟨⟨-1, -1⟩, ⟨1, 5⟩⟩⟩ := by
      decide +kernel
    obtain ⟨i₀, hi₀, hempty, hstart⟩ : ∃ i,
        (interpret "%AMDOTS*1,1,2,0,0*").result = .ok i ∧ i.items = #[] ∧ i.bounds = .empty := by
      decide +kernel
    obtain ⟨i, more, hi, hitems, haperture, hbounds⟩ := (interpret_append hmacro _).2.2 j hj
    obtain rfl : i₀ = i := Except.ok.inj (hi₀.symm.trans hi)
    rw [hempty, Array.empty_append] at hitems
    exact ⟨i₀, j, more, hi₀, hempty, hstart, hj, hitems, haperture, hitems ▸ hshapes, hbox,
      hbounds.symm⟩

end GerberMask.Gerber
