import GerberMask.Proofs.Gerber.OnlineFold

/-!
# How a token is read

Whether a command is a block, an extended command or the line of a macro is decided by the tokens
in front of it: a toggle goes into or out of extended commands, a declaration makes lines of what
follows it, and the next toggle ends both. Nothing that a block or another extended command does
takes part in this, so the readings of all tokens can be told without executing one
(`Reading.after`), and a run that has not stopped agrees with them (`runFrom_reads`).

Blocks are read where the number of toggles in front is even (`after_eq_block_iff`), that is the
number of `%` signs (`Token.count_toggle_scan`).
-/

namespace GerberMask.Gerber

/-! ### Readings -/

/-- What a command means where it stands. -/
inductive Reading where
  /-- A block. -/
  | block
  /-- An extended command. -/
  | extended
  /-- A line of the macro that was declared last. -/
  | line
  deriving DecidableEq, Repr

namespace Reading

/-- The reading behind a token. -/
def next (r : Reading) : Token → Reading
  | .toggle => if r = block then extended else block
  | .command text =>
    if r = extended ∧ String.ofList (text.toList.take 2) = "AM" then line else r

/-- The reading behind a row of tokens. -/
def after (r : Reading) (tokens : List Token) : Reading :=
  tokens.foldl next r

theorem next_command_eq_block_iff (r : Reading) (text : String) :
    r.next (.command text) = block ↔ r = block := by
  rw [next]
  split
  next h => simp [h.1]
  · exact Iff.rfl

/-- Every toggle changes between blocks and the rest. -/
theorem after_eq_block_iff (r : Reading) (tokens : List Token) :
    r.after tokens = block ↔ (r = block ↔ tokens.count .toggle % 2 = 0) := by
  induction tokens generalizing r with
  | nil => simp [after]
  | cons t tokens ih =>
    rw [after, List.foldl_cons]
    refine (ih _).trans ?_
    cases t with
    | toggle =>
      have hflip : r.next .toggle = block ↔ ¬ r = block := by cases r <;> decide
      rw [hflip, List.count_cons_self]
      have hparity : (tokens.count .toggle + 1) % 2 = 0 ↔ ¬ tokens.count .toggle % 2 = 0 := by
        omega
      rw [hparity]
      tauto
    | command text =>
      rw [next_command_eq_block_iff, List.count_cons_of_ne (by rintro ⟨⟩)]

end Reading

/-! ### Toggles of a document -/

namespace Token

theorem count_toggle_ofFragment (fragment : List Char) :
    (ofFragment fragment).count toggle = 0 := by
  unfold ofFragment
  split <;> simp

theorem count_toggle_scanFrom (fragment text : List Char) :
    (scanFrom fragment text).count toggle = text.count '%' := by
  induction text generalizing fragment with
  | nil => simp [scanFrom, count_toggle_ofFragment]
  | cons c text ih =>
    rw [scanFrom]
    split
    next hbreak =>
      have hne : c ≠ '%' := by
        rintro rfl
        exact absurd hbreak (by decide)
      rw [ih, List.count_cons_of_ne hne]
    split
    next hstar =>
      subst hstar
      rw [List.count_append, count_toggle_ofFragment, ih, Nat.zero_add,
        List.count_cons_of_ne (by decide)]
    split
    next hpercent =>
      subst hpercent
      rw [List.count_append, count_toggle_ofFragment, List.count_cons_self, ih, Nat.zero_add,
        List.count_cons_self]
    next hpercent => rw [ih, List.count_cons_of_ne hpercent]

/-- A document has as many toggles as signs `%`. -/
theorem count_toggle_scan (source : String) :
    (scan source).count toggle = source.toList.count '%' :=
  count_toggle_scanFrom [] source.toList

end Token

/-! ### Runs agree with readings -/

namespace State

variable {α : Type} {s : State α} {r : Reading}

/-- Whether a state reads commands in a given way. -/
def Reads (s : State α) : Reading → Prop
  | .block => s.modes.extended = false ∧ s.openMacro? = none
  | .extended => s.modes.extended = true ∧ s.openMacro? = none
  | .line => s.modes.extended = true ∧ s.openMacro?.isSome

theorem toggle_reads (h : s.Reads r) : s.toggle.Reads (r.next .toggle) := by
  cases r with
  | block => exact ⟨by simp [toggle, h.1], rfl⟩
  | extended => exact ⟨by simp [toggle, h.1], rfl⟩
  | line => exact ⟨by simp [toggle, h.1], rfl⟩

theorem extendedCommand_reads (h : s.Reads .extended) (text : String) (position : Nat) :
    (s.extendedCommand text position).Ensures
      (·.Reads (Reading.extended.next (.command text))) := by
  intro s' hs'
  obtain ⟨hextended, hopen⟩ := h
  by_cases hname : String.ofList (text.toList.take 2) = "AM"
  · rw [Reading.next, if_pos ⟨rfl, hname⟩]
    have hdeclared : (s.extendedCommand text position).result =
        .ok (s.openMacro (text.toList.drop 2)) := by
      simp [extendedCommand, hname]
    rw [hdeclared] at hs'
    cases hs'
    exact ⟨hextended, rfl⟩
  · rw [Reading.next, if_neg fun h ↦ hname h.2]
    cases extendedCommand_effect s text position s' hs' with
    | declare hname' => exact absurd hname' hname
    | _ => exact ⟨hextended, hopen⟩

variable [Scalar α]

theorem step_reads (h : s.Reads r) (running : s.modes.stoppedAt? = none) (position : Nat)
    (t : Token) : (s.step position t).Ensures (·.Reads (r.next t)) := by
  rw [step.eq_def, if_neg (by simp [running])]
  cases t with
  | toggle => exact Report.ensures_pure (toggle_reads h)
  | command text =>
    dsimp only
    unfold command
    cases r with
    | block =>
      rw [h.2, h.1]
      exact (block_frame s text position).mono fun s' hs' ↦
        ⟨hs'.extended.trans h.1, hs'.openMacro?.trans h.2⟩
    | extended =>
      rw [h.2, h.1]
      exact extendedCommand_reads h text position
    | line =>
      obtain ⟨name, hname⟩ := Option.isSome_iff_exists.1 h.2
      rw [hname]
      exact Report.ensures_pure ⟨h.1, by simp⟩

/-- **A run that has not stopped reads as its tokens say.** -/
theorem runFrom_reads (h : s.Reads r) (tokens : List Token) (position : Nat) :
    (runFrom (.ok s) (tokens.zipIdx position)).Ensures fun s' ↦
      s'.modes.stoppedAt? = none → s'.Reads (r.after tokens) := by
  induction tokens generalizing s r position with
  | nil => exact Report.ensures_pure fun _ ↦ h
  | cons t tokens ih =>
    cases hstop : s.modes.stoppedAt? with
    | some p =>
      rw [runFrom_of_stopped (by simp [hstop])]
      refine Report.ensures_pure fun hrunning ↦ ?_
      rw [hstop] at hrunning
      cases hrunning
    | none =>
      rw [runFrom_cons]
      exact (step_reads h hstop position t).bind fun s' hs' ↦ ih hs' (position + 1)

theorem initial_reads (bounds : Bounds) : (State.initial bounds : State α).Reads .block :=
  ⟨rfl, rfl⟩

end State

end GerberMask.Gerber
