import Mathlib.Data.List.Perm.Subperm
import GerberMask.Gerber.Interpretation
import GerberMask.Proofs.Gerber.ReportLaws

/-!
# What a step leaves alone

A block never touches what only extended commands can set: the registry, the open macro, the
polarity, the digit layout of the coordinates and whether commands are extended (`BlockFrame`). Each
operation of a block has this frame, and frames compose, so a block has it (`block_frame`).

An extended command touches one part of the state (`ExtendedEffect`). Of those that touch the
registry a definition adds a code and a macro adds none, so a code that is in the registry stays
there (`step_codes`, `runFrom_codes`), and the number of apertures never falls, because the codes of
a registry are distinct.
-/

namespace GerberMask.Gerber

/-! ### The codes of a registry -/

namespace Registry

/-- The codes of the apertures that are defined. -/
def codes (r : Registry) : List Nat :=
  r.apertures.entries.map Prod.fst

theorem length_codes (r : Registry) : r.codes.length = r.size :=
  List.length_map ..

/-- A registry with more codes has more apertures: codes are distinct. -/
theorem size_le_of_codes_subset {r r' : Registry} (h : r.codes ⊆ r'.codes) : r.size ≤ r'.size := by
  rw [← length_codes, ← length_codes]
  exact (r.apertures.nodup.subperm h).length_le

theorem codes_insert_subset (r : Registry) (code : Nat) (primitives : List Primitive) :
    r.codes ⊆ ((r.apertures.insert code primitives).entries.map Prod.fst) := by
  intro c hc
  obtain ⟨entry, hentry, rfl⟩ := List.mem_map.1 hc
  by_cases heq : entry.1 = code
  · simp [Table.insert, heq]
  · refine List.mem_map.2 ⟨entry, List.mem_cons_of_mem _ (List.mem_filter.2 ⟨hentry, ?_⟩), rfl⟩
    simpa using heq

theorem define_codes {ε : Type} (r : Registry) (code : Nat) (primitives : List Primitive) :
    (r.define code primitives : Report ε Registry).Ensures (r.codes ⊆ ·.codes) := by
  rw [define]
  split
  · exact Report.ensures_bind fun _ ↦ Report.ensures_pure (codes_insert_subset r code primitives)
  · exact Report.ensures_pure (codes_insert_subset r code primitives)

theorem defineFrom_codes (r : Registry) (command : String) (unit : LengthUnit) (position : Nat) :
    (r.defineFrom command unit position).Ensures (r.codes ⊆ ·.1.codes) := by
  unfold defineFrom
  split
  · exact Report.ensures_error _
  · refine Report.ensures_bind fun args ↦ Report.ensures_bind fun resolved ↦ ?_
    split
    · exact Report.ensures_pure (List.Subset.refl _)
    · exact (define_codes r _ _).bind fun r' hr' ↦ Report.ensures_pure hr'

end Registry

variable {α : Type}

/-! ### Frames of blocks -/

/-- What a block leaves alone. -/
structure BlockFrame (s s' : State α) : Prop where
  registry : s'.registry = s.registry
  openMacro? : s'.openMacro? = s.openMacro?
  polarity : s'.modes.polarity = s.modes.polarity
  extended : s'.modes.extended = s.modes.extended
  layoutX : s'.modes.format.x = s.modes.format.x
  layoutY : s'.modes.format.y = s.modes.format.y
  zeros : s'.modes.format.zeros = s.modes.format.zeros

namespace BlockFrame

theorem refl (s : State α) : BlockFrame s s := ⟨rfl, rfl, rfl, rfl, rfl, rfl, rfl⟩

theorem trans {s s' s'' : State α} (h : BlockFrame s s') (h' : BlockFrame s' s'') :
    BlockFrame s s'' where
  registry := h'.registry.trans h.registry
  openMacro? := h'.openMacro?.trans h.openMacro?
  polarity := h'.polarity.trans h.polarity
  extended := h'.extended.trans h.extended
  layoutX := h'.layoutX.trans h.layoutX
  layoutY := h'.layoutY.trans h.layoutY
  zeros := h'.zeros.trans h.zeros

end BlockFrame

namespace State

theorem addDrawn_frame (s : State α) (drawn : Drawn) :
    (s.addDrawn drawn).Ensures (BlockFrame s) :=
  Report.ensures_bind fun _ ↦ Report.ensures_pure ⟨rfl, rfl, rfl, rfl, rfl, rfl, rfl⟩

theorem drawEach_frame (s : State α) (draw : Primitive → Except GerberError Drawn)
    (ps : List Primitive) : (s.drawEach draw ps).Ensures (BlockFrame s) := by
  induction ps generalizing s with
  | nil => exact Report.ensures_pure (.refl s)
  | cons p ps ih =>
    refine Report.ensures_bind fun drawn ↦ (addDrawn_frame s drawn).bind fun s' hs' ↦ ?_
    exact (ih s').mono fun s'' hs'' ↦ hs'.trans hs''

theorem closeRegion_frame (s : State α) : s.closeRegion.Ensures (BlockFrame s) := by
  rw [closeRegion]
  split
  · exact Report.ensures_bind fun _ ↦ Report.ensures_pure (.refl s)
  · have hclosed : BlockFrame s { s with modes.region? := none } :=
      ⟨rfl, rfl, rfl, rfl, rfl, rfl, rfl⟩
    dsimp only
    split
    · exact Report.ensures_pure hclosed
    · exact (addDrawn_frame _ _).mono fun s' hs' ↦ hclosed.trans hs'

theorem preparatory_frame (s : State α) (code position : Nat) :
    (s.preparatory code position).Ensures (BlockFrame s) := by
  unfold preparatory
  split
  -- opening a region may give a warning first
  case h_7 =>
    split
    · exact Report.ensures_bind fun _ ↦ Report.ensures_pure ⟨rfl, rfl, rfl, rfl, rfl, rfl, rfl⟩
    · exact Report.ensures_pure ⟨rfl, rfl, rfl, rfl, rfl, rfl, rfl⟩
  case h_8 => exact closeRegion_frame s
  -- an unknown code
  case h_17 => exact Report.ensures_bind fun _ ↦ Report.ensures_pure (.refl s)
  all_goals exact Report.ensures_pure ⟨rfl, rfl, rfl, rfl, rfl, rfl, rfl⟩

theorem select_frame (s : State α) (code position : Nat) :
    (s.select code position).Ensures (BlockFrame s) := by
  rw [select]
  split
  · exact Report.ensures_pure ⟨rfl, rfl, rfl, rfl, rfl, rfl, rfl⟩
  · exact Report.ensures_error _

variable [Scalar α]

theorem flashAt_frame (s : State α) (target : Point α) (position : Nat) :
    (s.flashAt target position).Ensures (BlockFrame s) :=
  Report.ensures_bind fun primitives ↦ drawEach_frame s _ primitives

theorem drawTo_frame (s : State α) (target : Point α) (position : Nat) :
    (s.drawTo target position).Ensures (BlockFrame s) := by
  rw [drawTo]
  split
  · exact Report.ensures_pure ⟨rfl, rfl, rfl, rfl, rfl, rfl, rfl⟩
  · exact Report.ensures_bind fun primitives ↦ drawEach_frame s _ primitives

theorem operation_frame (s : State α) (code : Nat) (target : Point α) (position : Nat) :
    (s.operation code target position).Ensures (BlockFrame s) := by
  have htool : ∀ on : Bool, BlockFrame s { s with modes.toolOn := on } :=
    fun _ ↦ ⟨rfl, rfl, rfl, rfl, rfl, rfl, rfl⟩
  unfold operation
  split
  · exact (drawTo_frame _ target position).mono fun s' hs' ↦ (htool true).trans hs'
  · exact Report.ensures_pure ⟨rfl, rfl, rfl, rfl, rfl, rfl, rfl⟩
  · exact (flashAt_frame _ target position).mono fun s' hs' ↦ (htool false).trans hs'
  · split
    · exact select_frame s code position
    · exact Report.ensures_bind fun _ ↦ Report.ensures_pure (.refl s)

end State

namespace Block

variable [Scalar α]

theorem word_frame (position : Nat) (text : String) (b : Block α) (w : Word) :
    (b.word position text w).Ensures fun b' ↦ BlockFrame b.state b'.state := by
  unfold word
  split
  -- a G word goes on to `preparatory` unless it is a comment
  case h_1 =>
    refine Report.ensures_bind fun code ↦ ?_
    split
    · exact Report.ensures_pure (.refl _)
    · exact (State.preparatory_frame b.state code position).bind fun s hs ↦
        Report.ensures_pure hs
  -- a D word goes on to `operation`
  case h_6 =>
    exact Report.ensures_bind fun code ↦
      (State.operation_frame b.state code b.target position).bind fun s hs ↦
        Report.ensures_pure hs
  case h_7 => exact Report.ensures_pure (.refl _)
  case h_8 =>
    refine Report.ensures_bind fun code ↦ ?_
    split
    · exact Report.ensures_pure ⟨rfl, rfl, rfl, rfl, rfl, rfl, rfl⟩
    · exact Report.ensures_bind fun _ ↦ Report.ensures_pure (.refl _)
  -- coordinates, offsets and unknown letters
  all_goals
    exact Report.ensures_bind fun _ ↦ Report.ensures_pure ⟨rfl, rfl, rfl, rfl, rfl, rfl, rfl⟩

theorem words_frame (position : Nat) (text : String) (b : Block α) (ws : List Word) :
    (b.words position text ws).Ensures fun b' ↦ BlockFrame b.state b'.state := by
  induction ws generalizing b with
  | nil => exact Report.ensures_pure (.refl _)
  | cons w ws ih =>
    refine (word_frame position text b w).bind fun b' hb' ↦ ?_
    split
    · exact Report.ensures_pure hb'
    · exact (ih b').mono fun b'' hb'' ↦ hb'.trans hb''

theorem finish_frame (b : Block α) (position : Nat) :
    (b.finish position).Ensures (BlockFrame b.state) := by
  have hplaced : ∀ s : State α, BlockFrame s { s with modes.position := b.target } :=
    fun _ ↦ ⟨rfl, rfl, rfl, rfl, rfl, rfl, rfl⟩
  rw [finish]
  split
  · exact Report.ensures_pure (.refl _)
  · split
    · exact (State.drawTo_frame b.state b.target position).bind fun s hs ↦
        Report.ensures_pure (hs.trans (hplaced s))
    · exact Report.ensures_pure (hplaced _)

end Block

namespace State

variable [Scalar α]

/-- **A block leaves its frame alone.** -/
theorem block_frame (s : State α) (text : String) (position : Nat) :
    (s.block text position).Ensures (BlockFrame s) := by
  have hstart : BlockFrame s (Block.start s).state := ⟨rfl, rfl, rfl, rfl, rfl, rfl, rfl⟩
  refine (Block.words_frame position text _ _).bind fun b hb ↦ ?_
  exact (Block.finish_frame b position).mono fun s' hs' ↦ hstart.trans (hb.trans hs')

end State

/-! ### Effects of extended commands -/

/-- What an extended command can do. -/
inductive ExtendedEffect (s : State α) (command : String) (position : Nat) : State α → Prop
  /-- A definition, or a template that is skipped. -/
  | define {r : Registry} {code? : Option Nat}
      (name : String.ofList (command.toList.take 2) = "AD")
      (h : (s.registry.defineFrom command s.modes.unit position).result = .ok (r, code?)) :
      ExtendedEffect s command position { s with registry := r }
  /-- A macro declaration. -/
  | declare (h : String.ofList (command.toList.take 2) = "AM") :
      ExtendedEffect s command position (s.openMacro (command.toList.drop 2))
  | setFormat {format : CoordinateFormat} (h : CoordinateFormat.parse command = .ok format) :
      ExtendedEffect s command position { s with modes.format := format }
  | setPolarity (polarity : Polarity) :
      ExtendedEffect s command position { s with modes.polarity := polarity }
  | setUnit (unit : LengthUnit) :
      ExtendedEffect s command position { s with modes.unit := unit }
  /-- A command that gives a warning, or an attribute. -/
  | ignored : ExtendedEffect s command position s

namespace State

theorem setPolarity_effect (s : State α) (args : List Char) (command : String) (position : Nat) :
    (s.setPolarity args command).Ensures (ExtendedEffect s command position) := by
  unfold setPolarity
  split
  · exact Report.ensures_pure (.setPolarity .dark)
  · exact Report.ensures_pure (.setPolarity .clear)
  · exact Report.ensures_bind fun _ ↦ Report.ensures_pure .ignored

theorem setUnit_effect (s : State α) (args : List Char) (command : String) (position : Nat) :
    (s.setUnit args command).Ensures (ExtendedEffect s command position) := by
  unfold setUnit
  split
  next unit _ => exact Report.ensures_pure (.setUnit unit)
  · exact Report.ensures_bind fun _ ↦ Report.ensures_pure .ignored

/-- **An extended command touches one part of the state.** -/
theorem extendedCommand_effect (s : State α) (command : String) (position : Nat) :
    (s.extendedCommand command position).Ensures (ExtendedEffect s command position) := by
  unfold extendedCommand
  split
  -- the guard of a definition is that it gave the registry that is kept
  next hname =>
    refine Report.Ensures.bind (P := fun d ↦ _ = Except.ok d) (fun d hd ↦ hd) fun d hd ↦ ?_
    exact Report.ensures_pure (.define hname hd)
  next hname => exact Report.ensures_pure (.declare hname)
  · refine Report.Ensures.bind (P := fun format ↦ _ = Except.ok format) (fun d hd ↦ hd)
      fun format hformat ↦ Report.ensures_pure (.setFormat ?_)
    -- placing a malformed number does not change which texts are formats
    cases hparse : CoordinateFormat.parse command with
    | error e =>
      rw [Report.result_ofExcept, hparse] at hformat
      cases hformat
    | ok format' =>
      rw [Report.result_ofExcept, hparse] at hformat
      cases hformat
      rfl
  · exact setPolarity_effect s _ command position
  · exact setUnit_effect s _ command position
  · split
    · exact Report.ensures_bind fun _ ↦ Report.ensures_pure .ignored
    · split
      · exact Report.ensures_pure .ignored
      · exact Report.ensures_bind fun _ ↦ Report.ensures_pure .ignored

end State

/-! ### Codes stay in the registry -/

theorem ExtendedEffect.codes {s s' : State α} {command : String} {position : Nat}
    (h : ExtendedEffect s command position s') : s.registry.codes ⊆ s'.registry.codes := by
  have hrefl : s.registry.codes ⊆ s.registry.codes := List.Subset.refl _
  cases h with
  | define _ h => exact Registry.defineFrom_codes s.registry command _ position _ h
  | declare => exact hrefl
  | setFormat => exact hrefl
  | setPolarity => exact hrefl
  | setUnit => exact hrefl
  | ignored => exact hrefl

namespace State

variable [Scalar α]

theorem step_codes (s : State α) (position : Nat) (t : Token) :
    (s.step position t).Ensures (s.registry.codes ⊆ ·.registry.codes) := by
  have hrefl : s.registry.codes ⊆ s.registry.codes := List.Subset.refl _
  unfold step
  split
  · exact Report.ensures_pure hrefl
  · split
    · exact Report.ensures_pure hrefl
    · rw [command]
      split
      · exact Report.ensures_pure hrefl
      · split
        · exact (extendedCommand_effect s _ position).mono fun s' hs' ↦ hs'.codes
        · refine (block_frame s _ position).mono fun s' hs' ↦ ?_
          rw [hs'.registry]
          exact hrefl

/-- **No code ever leaves the registry.** -/
theorem runFrom_codes (s : State α) (tokens : List (Token × Nat)) :
    (runFrom (.ok s) tokens).Ensures (s.registry.codes ⊆ ·.registry.codes) := by
  suffices h : ∀ r : Report GerberError (State α),
      r.Ensures (s.registry.codes ⊆ ·.registry.codes) →
        (runFrom r tokens).Ensures (s.registry.codes ⊆ ·.registry.codes) from
    h _ (Report.ensures_pure (List.Subset.refl _))
  induction tokens with
  | nil => exact fun r hr ↦ hr
  | cons t tokens ih =>
    intro r hr
    refine ih _ (hr.bind fun s' hs' ↦ ?_)
    exact (step_codes s' t.2 t.1).mono fun s'' hs'' ↦ List.Subset.trans hs' hs''

end State

end GerberMask.Gerber
