import GerberMask.Proofs.Gerber.ApertureFaults
import GerberMask.Proofs.Gerber.InertCommands
import GerberMask.Proofs.Number.Digits

/-!
# Which apertures can be selected

A definition and a D word both begin with a number, but they do not agree on which numbers are codes
of apertures: a definition takes all that fit into 32 bits, a D word only those from ten on, because
the smaller ones are operations. So the code of a defined aperture can always be read back by a D
word (`Moment.Leads.lt_of_contains`), and the block that names it selects it if it is ten or more.
An aperture with a smaller code is defined and counted, and nothing selects it.
-/

namespace GerberMask.Gerber

/-! ### The codes of definitions -/

theorem Registry.lt_of_splitDefinition {command : String} {parts : Nat × String × List Char}
    (h : splitDefinition command = some parts) : parts.1 < Nat.pow 2 32 := by
  obtain ⟨code, hcode, hparts⟩ := Option.map_eq_some_iff.1 h
  rw [← hparts]
  exact lt_of_readWord?_eq_some hcode

theorem Registry.lt_of_definition? {r : Registry} {command : String} {unit : LengthUnit}
    {position : Nat} {definition : Nat × List Primitive}
    (h : r.definition? command unit position = some definition) : definition.1 < Nat.pow 2 32 := by
  obtain ⟨parts, hparts, hrest⟩ := Option.bind_eq_some_iff.1 h
  obtain ⟨args, -, hrest⟩ := Option.bind_eq_some_iff.1 hrest
  obtain ⟨primitives?, -, hrest⟩ := Option.bind_eq_some_iff.1 hrest
  obtain ⟨primitives, -, hdefinition⟩ := Option.bind_eq_some_iff.1 hrest
  rw [← Option.some.inj hdefinition]
  exact lt_of_splitDefinition hparts

variable {α : Type} [Scalar α]

/-- A code that is defined was read from 32 bits. -/
theorem Moment.Leads.lt_of_contains {source : String} {bounds : Bounds} {as : List Action}
    {m : Moment α} (h : (start source bounds).Leads as m) {code : Nat}
    (hcode : m.state.registry.contains code) : code < Nat.pow 2 32 := by
  obtain ⟨ps, hmem⟩ := h.contains_iff.1 hcode
  obtain ⟨as₁, as₂, rfl⟩ := List.append_of_mem hmem
  obtain ⟨m₀, m₁, -, hdefine, -⟩ := h.exists_move
  obtain ⟨s, position, text, rest, rfl, -, hdef⟩ := actions_eq_define_iff.1 hdefine
  exact Registry.lt_of_definition? hdef

/-! ### Blocks of one D word -/

theorem Word.split_operation (code : Nat) :
    split ("D" ++ toString code).toList = [⟨'D', Nat.toDigits 10 code⟩] := by
  have htext : ("D" ++ toString code).toList = 'D' :: Nat.toDigits 10 code := by
    rw [String.toList_append, Nat.toString_eq_repr, Nat.toList_repr]
    rfl
  rw [htext]
  refine split_word (by decide) fun c hc ↦ ?_
  simp [isNumberChar, isDigit_of_mem_toDigits hc]

namespace State

variable {s : State α} {code : Nat}

/-- A block of one D word executes its operation where it stands. -/
theorem block_operation (running : s.modes.stoppedAt? = none) (hcode : code < Nat.pow 2 32)
    (position : Nat) :
    s.block ("D" ++ toString code) position =
      s.rested.operation code s.modes.position position >>= fun s' ↦
        pure { s' with modes.position := s.modes.position } := by
  rw [block, Word.split_operation, Block.words_singleton]
  exact Block.word_operation_finish running (readWord?_toDigits hcode) (.inl rfl) _

theorem block_select (running : s.modes.stoppedAt? = none)
    (hdefined : s.registry.contains code) (hcode : code < Nat.pow 2 32) (hleast : 10 ≤ code)
    (position : Nat) :
    s.block ("D" ++ toString code) position =
      pure { s.rested with modes.aperture? := some code, modes.toolOn := false } := by
  have hselect : s.rested.operation code s.modes.position position =
      pure { s.rested with modes.aperture? := some code, modes.toolOn := false } := by
    unfold operation
    split
    · omega
    · omega
    · omega
    · rw [if_pos hleast, select]
      exact if_pos hdefined
  rw [block_operation running hcode, hselect]
  rfl

/-- Below ten there are operations, and they select nothing. -/
theorem block_operation_aperture? (running : s.modes.stoppedAt? = none) (hcode : code < 10)
    (position : Nat) :
    (s.block ("D" ++ toString code) position).Ensures (·.modes.aperture? = s.modes.aperture?) := by
  have hactions : (s.rested.operationActions code s.modes.position).foldl Action.onAperture
      s.modes.aperture? = s.modes.aperture? := by
    unfold operationActions
    split
    · rfl
    · rfl
    · rfl
    · rw [if_neg (by omega)]
      rfl
  rw [block_operation running (hcode.trans (by decide))]
  refine (operation_follows s.rested code s.modes.position position).bind fun s' hs' ↦ ?_
  exact Report.ensures_pure (hs'.aperture?.trans hactions)

end State

/-- **An aperture that is defined can be selected exactly if its code is ten or more.** At every
moment at which the document has not stopped, the block that names the code of a defined aperture
succeeds and selects it, and changes nothing else that the next block would find, if the code is ten
or more; if it is less, the aperture is not selected, and executing the block does not select it. -/
theorem selectable_apertures {source : String} {bounds : Bounds} {as : List Action}
    {m : Moment α} (h : (Moment.start source bounds).Leads as m)
    (running : m.state.modes.stoppedAt? = none) {code : Nat}
    (hcode : m.state.registry.contains code) (position : Nat) :
    (10 ≤ code → (m.state.block ("D" ++ toString code) position).result =
      .ok { m.state.rested with modes.aperture? := some code, modes.toolOn := false }) ∧
    (code < 10 → m.state.modes.aperture? ≠ some code ∧
      ∀ s', (m.state.block ("D" ++ toString code) position).result = .ok s' →
        s'.modes.aperture? ≠ some code) := by
  refine ⟨fun hleast ↦ ?_, fun hless ↦ ?_⟩
  · rw [State.block_select running hcode (h.lt_of_contains hcode) hleast]
    rfl
  · have hother : m.state.modes.aperture? ≠ some code := fun hselected ↦ by
      have hleast := (h.selected (by rintro _ ⟨⟩) code hselected).1
      omega
    refine ⟨hother, fun s' hs' ↦ ?_⟩
    rw [State.block_operation_aperture? running hless position s' hs']
    exact hother

/-- Ten is defined twice and two once. -/
theorem selectable_apertures_redefined :
    ∃ as m, (Moment.start "%ADD10C,1*ADD10R,1X2*ADD2C,1*%" .empty : Moment Float).Leads as m ∧
      m.state.modes.stoppedAt? = none ∧ m.state.registry.contains 10 ∧
      m.state.registry.contains 2 ∧ m.state.registry.size = 2 ∧
      (m.state.block ("D" ++ toString 10) 5).result =
        .ok { m.state.rested with modes.aperture? := some 10, modes.toolOn := false } ∧
      ∀ s', (m.state.block ("D" ++ toString 2) 5).result = .ok s' →
        s'.modes.aperture? ≠ some 2 := by
  have hlead := Moment.leads_run 5
    (Moment.start "%ADD10C,1*ADD10R,1X2*ADD2C,1*%" .empty : Moment Float)
  refine ⟨_, _, hlead, by decide +kernel, by decide +kernel, by decide +kernel, by decide +kernel,
    ?_, ?_⟩
  · exact (selectable_apertures hlead (by decide +kernel) (by decide +kernel) 5).1 (by decide)
  · exact ((selectable_apertures hlead (by decide +kernel) (by decide +kernel) 5).2
      (by decide)).2

/-- Five is defined and counted, and the block that names it succeeds and selects nothing. -/
theorem unselectable_aperture :
    ∃ as m, (Moment.start "%ADD5C,1*%" .empty : Moment Float).Leads as m ∧
      m.state.modes.stoppedAt? = none ∧ m.state.registry.contains 5 ∧
      m.state.registry.size = 1 ∧
      ∃ s', (m.state.block ("D" ++ toString 5) 3).result = .ok s' ∧ s'.modes.aperture? = none :=
  ⟨_, _, Moment.leads_run 3 _, by decide +kernel, by decide +kernel, by decide +kernel,
    by decide +kernel⟩

end GerberMask.Gerber
