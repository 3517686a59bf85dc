import GerberMask.Proofs.Gerber.MacroLines
import GerberMask.Proofs.Gerber.Moments

/-!
# Who owns which part of the state

Blocks and extended commands share a state and divide it. The registry, the polarity and the layout
of coordinates belong to extended commands: a block leaves them alone (`BlockFrame`). The drawing,
the position and the modes of drawing belong to blocks, and an extended command leaves them alone
(`ExtendedFrame`). Of what is left, the unit, the format, the polarity and the two tables of the
registry, each has one command that sets it and is left alone by all others. Only the unit and the
mode of coordinates can be set from both sides.

A macro declaration owns the commands behind it as well, up to the next toggle, so its frame is that
of a run over all of them (`State.runFrom_extendedFrame`).

Neither side decides what is read next as which: whether commands are extended changes at toggles
and nowhere else, so it is the parity of the toggles that have been read
(`Moment.Leads.countsToggles`).
-/

namespace GerberMask.Gerber

/-! ### Frames of extended commands -/

/-- The name of an extended command. -/
def commandName (text : String) : String :=
  String.ofList (text.toList.take 2)

/-- The lines that a command takes from the tokens behind it: a macro declaration all commands up to
the next toggle, every other command none. -/
def Token.taken (text : String) (rest : List Token) : List String :=
  if commandName text = "AM" then leading rest else []

variable {α : Type}

/-- What an extended command leaves alone: what blocks own, and of its own side everything that
other names stand for. -/
structure ExtendedFrame (name : String) (s s' : State α) : Prop where
  drawing : s'.drawing = s.drawing := by rfl
  position : s'.modes.position = s.modes.position := by rfl
  arcOffset : s'.modes.arcOffset = s.modes.arcOffset := by rfl
  interpolation : s'.modes.interpolation = s.modes.interpolation := by rfl
  quadrant : s'.modes.quadrant = s.modes.quadrant := by rfl
  region? : s'.modes.region? = s.modes.region? := by rfl
  aperture? : s'.modes.aperture? = s.modes.aperture? := by rfl
  toolOn : s'.modes.toolOn = s.modes.toolOn := by rfl
  stoppedAt? : s'.modes.stoppedAt? = s.modes.stoppedAt? := by rfl
  extended : s'.modes.extended = s.modes.extended := by rfl
  unit : name ≠ "MO" → s'.modes.unit = s.modes.unit := by exact fun _ ↦ rfl
  format : name ≠ "FS" → s'.modes.format = s.modes.format := by exact fun _ ↦ rfl
  polarity : name ≠ "LP" → s'.modes.polarity = s.modes.polarity := by exact fun _ ↦ rfl
  apertures : name ≠ "AD" → s'.registry.apertures = s.registry.apertures := by exact fun _ ↦ rfl
  macros : name ≠ "AM" → s'.registry.macros = s.registry.macros := by exact fun _ ↦ rfl

theorem ExtendedFrame.refl (name : String) (s : State α) : ExtendedFrame name s s := {}

/-- A definition leaves the macros alone. -/
theorem Registry.defineFrom_macros (r : Registry) (command : String) (unit : LengthUnit)
    (position : Nat) : (r.defineFrom command unit position).Ensures (·.1.macros = r.macros) := by
  have hdefine : ∀ code primitives,
      (r.define code primitives : Report GerberError Registry).Ensures (·.macros = r.macros) := by
    intro code primitives
    rw [define]
    split
    · exact Report.ensures_bind fun _ ↦ Report.ensures_pure rfl
    · exact Report.ensures_pure rfl
  unfold defineFrom
  split
  · exact Report.ensures_error _
  · refine Report.ensures_bind fun args ↦ Report.ensures_bind fun resolved ↦ ?_
    split
    · exact Report.ensures_pure rfl
    next primitives =>
      exact (hdefine _ primitives).bind fun r' hr' ↦ Report.ensures_pure hr'

namespace State

theorem setPolarity_extendedFrame (s : State α) (args : List Char) (command : String) :
    (s.setPolarity args command).Ensures (ExtendedFrame "LP" s) := by
  have hset : ∀ polarity, ExtendedFrame "LP" s { s with modes.polarity := polarity } :=
    fun _ ↦ { polarity := fun h ↦ absurd rfl h }
  unfold setPolarity
  split
  · exact Report.ensures_pure (hset .dark)
  · exact Report.ensures_pure (hset .clear)
  · exact Report.ensures_bind fun _ ↦ Report.ensures_pure (.refl _ s)

theorem setUnit_extendedFrame (s : State α) (args : List Char) (command : String) :
    (s.setUnit args command).Ensures (ExtendedFrame "MO" s) := by
  have hset : ∀ unit, ExtendedFrame "MO" s { s with modes.unit := unit } :=
    fun _ ↦ { unit := fun h ↦ absurd rfl h }
  unfold setUnit
  split
  next unit _ => exact Report.ensures_pure (hset unit)
  · exact Report.ensures_bind fun _ ↦ Report.ensures_pure (.refl _ s)

/-- **An extended command changes what its name stands for**, at most. -/
theorem extendedCommand_extendedFrame (s : State α) (text : String) (position : Nat) :
    (s.extendedCommand text position).Ensures (ExtendedFrame (commandName text) s) := by
  show (s.extendedCommand text position).Ensures
    (ExtendedFrame (String.ofList (text.toList.take 2)) s)
  unfold extendedCommand
  split
  next hname =>
    rw [hname]
    refine (Registry.defineFrom_macros s.registry text s.modes.unit position).bind fun d hd ↦ ?_
    exact Report.ensures_pure { apertures := fun h ↦ absurd rfl h, macros := fun _ ↦ hd }
  next hname =>
    rw [hname]
    exact Report.ensures_pure { macros := fun h ↦ absurd rfl h }
  next hname =>
    rw [hname]
    exact Report.ensures_bind fun format ↦
      Report.ensures_pure { format := fun h ↦ absurd rfl h }
  next hname =>
    rw [hname]
    exact setPolarity_extendedFrame s _ text
  next hname =>
    rw [hname]
    exact setUnit_extendedFrame s _ text
  · split
    · exact Report.ensures_bind fun _ ↦ Report.ensures_pure (.refl _ s)
    · split
      · exact Report.ensures_pure (.refl _ s)
      · exact Report.ensures_bind fun _ ↦ Report.ensures_pure (.refl _ s)

variable [Scalar α]

/-- A command with the lines that it takes has the frame of its name. -/
theorem runFrom_extendedFrame {s : State α} (hextended : s.modes.extended = true)
    (hopen : s.openMacro? = none) (text : String) (rest : List Token) (position : Nat) :
    (runFrom (.ok s) ((Token.command text :: (Token.taken text rest).map .command).zipIdx
      position)).Ensures (ExtendedFrame (commandName text) s) := by
  by_cases hstop : s.modes.stoppedAt?.isSome
  · rw [runFrom_of_stopped hstop]
    exact Report.ensures_pure (.refl _ s)
  · by_cases hname : commandName text = "AM"
    · -- a declaration is over when its lines are
      have hdeclared : s.declared? (.command text) =
          some (String.ofList (Text.trim (text.toList.drop 2))) := by
        rw [declared?, hextended, show String.ofList (text.toList.take 2) = "AM" from hname]
        rfl
      rw [runFrom_declared? hstop hopen hdeclared, hname]
      exact Report.ensures_pure { macros := fun h ↦ absurd rfl h }
    · have hstep : s.step position (.command text) = s.extendedCommand text position := by
        simp [step, hstop, command, hopen, hextended]
      rw [Token.taken, if_neg hname, List.map_nil, runFrom_cons, hstep]
      exact (extendedCommand_extendedFrame s text position).bind fun s' hs' ↦
        Report.ensures_pure hs'

/-- A toggle changes whether commands are extended, and no command does. -/
theorem step_extended {s : State α} (running : s.modes.stoppedAt? = none) (position : Nat)
    (t : Token) :
    (s.step position t).Ensures (·.modes.extended = (s.modes.extended ^^ t == .toggle)) := by
  rw [step.eq_def, if_neg (by simp [running])]
  cases t with
  | toggle => exact Report.ensures_pure (Bool.xor_true _).symm
  | command text =>
    show (s.command text position).Ensures (·.modes.extended = (s.modes.extended ^^ false))
    rw [Bool.xor_false, command]
    split
    · exact Report.ensures_pure rfl
    · split
      · exact (extendedCommand_extendedFrame s text position).mono fun s' hs' ↦ hs'.extended
      · exact (block_frame s text position).mono fun s' hs' ↦ hs'.extended

end State

/-! ### What has been read -/

namespace Moment

/-- How many tokens have been read; the one of a block in execution is among them. -/
def read : Moment α → Nat
  | between _ position _ => position
  | inside _ _ _ position _ => position + 1

/-- The tokens that have not been read. -/
def unread : Moment α → List Token
  | between _ _ rest => rest
  | inside _ _ _ _ rest => rest

/-- Of the tokens of a document, those in front have been read, and commands are extended if an odd
number of them are toggles. -/
def CountsToggles (tokens : List Token) (m : Moment α) : Prop :=
  ∃ front, tokens = front ++ m.unread ∧ front.length = m.read ∧
    (m.state.modes.extended = true ↔ front.count .toggle % 2 = 1)

/-- Reading one more token keeps count of the toggles. -/
theorem parity_append {extended : Bool} {front : List Token}
    (h : extended = true ↔ front.count .toggle % 2 = 1) (t : Token) :
    (extended ^^ t == .toggle) = true ↔ (front ++ [t]).count .toggle % 2 = 1 := by
  rw [List.count_append]
  cases t with
  | toggle =>
    have hone : [Token.toggle].count .toggle = 1 := rfl
    have hflip : (extended ^^ Token.toggle == .toggle) = true ↔ ¬ extended = true := by
      cases extended <;> decide
    rw [hone, hflip, h]
    omega
  | command text =>
    have hnone : [Token.command text].count .toggle = 0 := rfl
    have hkeep : (extended ^^ Token.command text == .toggle) = extended := Bool.xor_false _
    rw [hnone, hkeep, h, Nat.add_zero]

variable [Scalar α] {tokens : List Token}

/-- A move reads one token or none. -/
theorem countsToggles_of_next? {m m' : Moment α} (h : m.next? = some (.ok m'))
    (hm : m.CountsToggles tokens) : m'.CountsToggles tokens := by
  obtain ⟨front, htokens, hlength, hparity⟩ := hm
  cases next?_eq_ok_iff.1 h with
  | @begin s position t rest text running block =>
    obtain ⟨rfl, -, -⟩ := State.blockText?_eq_some_iff.1 block
    refine ⟨front ++ [.command text], ?_, ?_, ?_⟩
    · rw [htokens, List.append_assoc]
      rfl
    · rw [List.length_append, hlength]
      rfl
    · have hkeep : ∀ b, (b ^^ Token.command text == .toggle) = b := Bool.xor_false
      rw [← parity_append hparity (.command text), hkeep]
      exact Iff.rfl
  | @step s s' position t rest running other done =>
    refine ⟨front ++ [t], ?_, ?_, ?_⟩
    · rw [htokens, List.append_assoc]
      rfl
    · rw [List.length_append, hlength]
      rfl
    · show s'.modes.extended = true ↔ _
      rw [State.step_extended running position t s' done]
      exact parity_append hparity t
  | word done =>
    refine ⟨front, htokens, hlength, ?_⟩
    rw [← hparity]
    exact iff_of_eq (congrArg (· = true) (Block.word_frame _ _ _ _ _ done).extended)
  | finish done =>
    refine ⟨front, htokens, hlength, ?_⟩
    rw [← hparity]
    exact iff_of_eq (congrArg (· = true) (Block.finish_frame _ _ _ done).extended)

theorem Leads.countsToggles {m m' : Moment α} {as : List Action} (h : Leads m as m')
    (hm : m.CountsToggles tokens) : m'.CountsToggles tokens := by
  induction h with
  | refl => exact hm
  | cons move _ ih => exact ih (countsToggles_of_next? move hm)

end Moment

variable [Scalar α]

variable (α) in
/-- **Blocks and extended commands own disjoint parts of the state.** A block leaves the registry,
the polarity, the layout of coordinates and the kind of what is read next alone. An extended
command, with the lines that it takes, leaves alone all that blocks own and all that other names
stand for. And at every moment of an execution commands are extended exactly if an odd number of
toggles has been read. -/
theorem owned_parts (source : String) (bounds : Bounds) :
    (∀ (s s' : State α) text position, (s.block text position).result = .ok s' →
      BlockFrame s s') ∧
    (∀ (s s' : State α) text rest position, s.modes.extended = true → s.openMacro? = none →
      (State.runFrom (.ok s) ((Token.command text :: (Token.taken text rest).map .command).zipIdx
        position)).result = .ok s' →
      ExtendedFrame (commandName text) s s') ∧
    ∀ as (m : Moment α), (Moment.start source bounds).Leads as m →
      (m.state.modes.extended = true ↔
        ((Token.scan source).take m.read).count .toggle % 2 = 1) := by
  refine ⟨fun s s' text position h ↦ State.block_frame s text position s' h,
    fun s s' text rest position hextended hopen h ↦
      State.runFrom_extendedFrame hextended hopen text rest position s' h, fun as m h ↦ ?_⟩
  have hstart : (Moment.start source bounds : Moment α).CountsToggles (Token.scan source) :=
    ⟨[], rfl, rfl, iff_of_false (by rintro ⟨⟩) (by decide)⟩
  obtain ⟨front, htokens, hlength, hparity⟩ := h.countsToggles hstart
  rw [htokens, ← hlength, List.take_left]
  exact hparity

/-- A block that sets the unit and the mode of coordinates, a declaration with a line, and the
moment at which its line has been read. -/
theorem owned_parts_macro_body :
    (∃ s', ((State.initial .empty : State Float).block "G71G91X1D02" 0).result = .ok s' ∧
      s'.modes.unit = .millimetre ∧ BlockFrame (.initial .empty) s') ∧
    (∃ s', (State.runFrom (.ok (State.initial .empty : State Float).toggle)
        ((Token.command "AMDOT" :: (Token.taken "AMDOT" [.command "1,1,1,0,0", .toggle]).map
          .command).zipIdx 1)).result = .ok s' ∧
      s'.registry.macros.get? "DOT" = some ["1,1,1,0,0"] ∧
      ExtendedFrame (commandName "AMDOT") (State.initial .empty).toggle s') ∧
    ∃ as m, (Moment.start "%AMDOT*1,1,1,0,0*%D02*" .empty : Moment Float).Leads as m ∧
      m.read = 3 ∧ m.state.modes.extended = true := by
  obtain ⟨hblock, hextended, hmoments⟩ :=
    owned_parts Float "%AMDOT*1,1,1,0,0*%D02*" .empty
  refine ⟨?_, ?_, _, _, Moment.leads_run 3 _, by decide +kernel, ?_⟩
  · obtain ⟨s', hs', hunit⟩ : ∃ s',
        ((State.initial .empty : State Float).block "G71G91X1D02" 0).result = .ok s' ∧
          s'.modes.unit = .millimetre := by
      decide +kernel
    exact ⟨s', hs', hunit, hblock _ s' _ _ hs'⟩
  · obtain ⟨s', hs', hlines⟩ : ∃ s',
        (State.runFrom (.ok (State.initial .empty : State Float).toggle)
          ((Token.command "AMDOT" :: (Token.taken "AMDOT" [.command "1,1,1,0,0", .toggle]).map
            .command).zipIdx 1)).result = .ok s' ∧
        s'.registry.macros.get? "DOT" = some ["1,1,1,0,0"] := by
      decide +kernel
    exact ⟨s', hs', hlines, hextended _ s' _ _ _ rfl rfl hs'⟩
  · exact (hmoments _ _ (Moment.leads_run 3 _)).2 (by decide +kernel)

end GerberMask.Gerber
