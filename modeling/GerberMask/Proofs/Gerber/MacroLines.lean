import GerberMask.Proofs.Gerber.OnlineFold

/-!
# The lines of a macro

A macro declaration owns the commands that follow it, up to the next toggle. A step takes them one
by one, so that a document may end or be cut anywhere between them. Here they are taken at once: a
run that meets a declaration looks ahead for its lines, declares the macro with all of them and
goes on behind them (`State.runAhead`). Both runs give the same interpretation
(`interpretOver_eq_ahead`).

They differ in one thing only. Taking lines one by one, a run keeps in mind which macro is open,
and it still does where the document ends. Nothing reads that at the end, and a toggle closes the
macro, so the two runs are compared by their settled states.
-/

namespace GerberMask.Gerber

/-! ### Looking ahead -/

namespace Token

/-- The commands before the next toggle. -/
def leading : List Token → List String
  | command text :: ts => text :: leading ts
  | _ => []

theorem leading_append_drop (ts : List Token) :
    (leading ts).map command ++ ts.drop (leading ts).length = ts := by
  induction ts with
  | nil => rfl
  | cons t ts ih =>
    cases t with
    | toggle => rfl
    | command text => simp [leading, ih]

/-- The commands end where the document does or at a toggle. -/
theorem drop_leading (ts : List Token) :
    ts.drop (leading ts).length = [] ∨
      ∃ rest, ts.drop (leading ts).length = toggle :: rest := by
  induction ts with
  | nil => exact .inl rfl
  | cons t ts ih =>
    cases t with
    | toggle => exact .inr ⟨ts, rfl⟩
    | command text => simpa [leading] using ih

end Token

namespace State

variable {α : Type}

/-- The state in which no macro is open. -/
def settled (s : State α) : State α :=
  { s with openMacro? := none }

/-- The state in which a macro is declared. -/
def declaring (s : State α) (name : String) (lines : List String) : State α :=
  { s with registry := s.registry.declare ⟨name, lines⟩ }

/-- The state in which a macro is declared and still takes lines. -/
def taking (s : State α) (name : String) (lines : List String) : State α :=
  { s.declaring name lines with openMacro? := some name }

theorem settled_of_openMacro? {s : State α} (h : s.openMacro? = none) : s.settled = s := by
  rw [settled, ← h]

/-- The name of the macro that a token declares. -/
def declared? (s : State α) : Token → Option String
  | .toggle => none
  | .command text =>
    if s.modes.extended && String.ofList (text.toList.take 2) == "AM" then
      some (String.ofList (Text.trim (text.toList.drop 2)))
    else none

variable [Scalar α]

/-- Executes tokens from an index on; a declaration takes its lines at once. -/
def runAhead (s : State α) (position : Nat) : List Token → Report GerberError (State α)
  | [] => .ok s
  | t :: ts =>
    if s.modes.stoppedAt?.isSome then .ok s
    else
      match s.declared? t with
      | some name =>
        let lines := Token.leading ts
        runAhead (s.declaring name lines) (position + 1 + lines.length) (ts.drop lines.length)
      | none => s.step position t >>= fun s' ↦ runAhead s' (position + 1) ts
termination_by ts => ts.length
decreasing_by
  · simp only [List.length_cons, List.length_drop]
    omega
  · simp

/-! ### Lines, one by one -/

omit [Scalar α] in
theorem declare_extend (r : Registry) (name line : String) (lines : List String) :
    (r.declare ⟨name, lines⟩).extend name line = r.declare ⟨name, lines ++ [line]⟩ := by
  simp [Registry.declare, Registry.extend, Table.get?_insert, Table.insert_insert]

theorem step_of_declared? {s : State α} {t : Token} {name : String}
    (hstop : ¬ s.modes.stoppedAt?.isSome) (hopen : s.openMacro? = none)
    (ht : s.declared? t = some name) (position : Nat) :
    s.step position t = .ok (s.taking name []) := by
  cases t with
  | toggle => cases ht
  | command text =>
    rw [declared?] at ht
    split at ht
    next h =>
      obtain ⟨hextended, hprefix⟩ := (Bool.and_eq_true _ _).mp h
      cases ht
      simp only [step, hstop, command, hopen, hextended, extendedCommand, eq_of_beq hprefix,
        openMacro, taking, declaring, Bool.false_eq_true, if_false, if_true]
    next => cases ht

/-- While a macro is open, commands are added to its lines. -/
theorem runFrom_lines {s : State α} (hstop : ¬ s.modes.stoppedAt?.isSome) (name : String)
    (front lines : List String) (position : Nat) :
    runFrom (.ok (s.taking name front))
        ((lines.map Token.command).zipIdx position) =
      .ok (s.taking name (front ++ lines)) := by
  induction lines generalizing front position with
  | nil =>
    rw [List.append_nil]
    rfl
  | cons line lines ih =>
    have hstep : (s.taking name front).step position (.command line) =
        .ok (s.taking name (front ++ [line])) := by
      simp only [step, taking, declaring, hstop, command, declare_extend, Bool.false_eq_true,
        if_false]
    rw [List.map_cons, runFrom_cons, hstep, Report.ok_eq_pure, pure_bind, ih, List.append_assoc]
    rfl

/-- A declaration and its lines, one by one, declare the macro with all of them. -/
theorem runFrom_declared? {s : State α} {t : Token} {name : String}
    (hstop : ¬ s.modes.stoppedAt?.isSome) (hopen : s.openMacro? = none)
    (ht : s.declared? t = some name) (lines : List String) (position : Nat) :
    runFrom (.ok s) ((t :: lines.map Token.command).zipIdx position) =
      .ok (s.taking name lines) := by
  rw [runFrom_cons, step_of_declared? hstop hopen ht, Report.ok_eq_pure, pure_bind]
  exact runFrom_lines hstop name [] lines (position + 1)

/-! ### Only a declaration opens a macro -/

theorem step_openMacro? {s : State α} {t : Token} (hopen : s.openMacro? = none)
    (ht : s.declared? t = none) (position : Nat) :
    (s.step position t).Ensures (·.openMacro? = none) := by
  unfold step
  split
  · exact Report.ensures_pure hopen
  · cases t with
    | toggle => exact Report.ensures_pure rfl
    | command text =>
      simp only [command, hopen]
      split
      next hextended =>
        refine (extendedCommand_effect s text position).mono fun s' hs' ↦ ?_
        -- a declaration would have had a name
        cases hs' with
        | declare hname => simp [declared?, hextended, hname] at ht
        | _ => exact hopen
      next => exact (block_frame s text position).mono fun s' hs' ↦ hs'.openMacro?.trans hopen

/-! ### The two runs agree -/

/-- At a toggle and at the end, it does not matter which macro is open. -/
theorem settled_runFrom {s : State α} (hstop : ¬ s.modes.stoppedAt?.isSome) {ts : List Token}
    (hts : ts = [] ∨ ∃ rest, ts = .toggle :: rest) (position : Nat) :
    settled <$> runFrom (.ok s) (ts.zipIdx position) =
      settled <$> runFrom (.ok s.settled) (ts.zipIdx position) := by
  rcases hts with rfl | ⟨rest, rfl⟩
  · rfl
  · have hstop' : ¬ s.settled.modes.stoppedAt?.isSome := hstop
    have htoggle : s.step position .toggle = s.settled.step position .toggle := by
      rw [step, step, if_neg hstop, if_neg hstop']
      rfl
    rw [runFrom_cons, runFrom_cons, htoggle]

/-- The induction is on the tokens that are left, as `runAhead` takes them; between two of its steps
no macro is open. -/
theorem settled_runAhead {s : State α} (hopen : s.openMacro? = none) (position : Nat)
    (ts : List Token) :
    settled <$> runFrom (.ok s) (ts.zipIdx position) = settled <$> s.runAhead position ts := by
  fun_induction runAhead s position ts with
  | case1 s position => rfl
  | case2 s position t ts hstop => rw [runFrom_of_stopped hstop]
  | case3 s position t ts hstop name hname lines ih =>
    -- the declaration with its lines first, then the toggle or the end behind them
    have hsplit : t :: ts = (t :: lines.map Token.command) ++ ts.drop lines.length := by
      rw [List.cons_append, Token.leading_append_drop]
    have hstop' : ¬ (s.taking name lines).modes.stoppedAt?.isSome := hstop
    have hsettled : (s.taking name lines).settled = s.declaring name lines :=
      settled_of_openMacro? (s := s.declaring name lines) hopen
    have hrest := settled_runFrom hstop' (Token.drop_leading ts) (position + 1 + lines.length)
    rw [hsettled, ih hopen] at hrest
    rw [hsplit, runFrom_append, runFrom_declared? hstop hopen hname, Report.ok_eq_pure, pure_bind,
      ← hrest, List.length_cons, List.length_map, Nat.add_assoc, Nat.add_comm 1]
  | case4 s position t ts hstop hname ih =>
    rw [runFrom_cons, map_bind, map_bind]
    exact (step_openMacro? hopen hname position).bind_congr fun s' hopen' ↦ ih s' hopen'

end State

/-- **Taking the lines of a macro at once is the same interpretation.** -/
theorem interpretOver_eq_ahead {α : Type} [Scalar α] (source : String) (bounds : Bounds) :
    interpretOver α source bounds =
      (State.initial bounds : State α).runAhead 0 (Token.scan source) >>=
        Interpretation.finish := by
  have hfinish : ∀ r : Report GerberError (State α),
      r >>= Interpretation.finish = (State.settled <$> r) >>= Interpretation.finish := fun r ↦ by
    rw [bind_map_left]
    rfl
  rw [interpretOver, State.run, hfinish, State.settled_runAhead rfl, ← hfinish]

end GerberMask.Gerber
