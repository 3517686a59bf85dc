import GerberMask.Proofs.Gerber.Moments

/-!
# What actions do

The open contour, the selected aperture, the tool and the aperture table are folds of the actions
that led to them (`Moment.Leads.follows`): an action changes one of them in the way that its name
says, whatever else a document does. The drawing is not such a fold, but it is left alone by
everything except a flash, a closure and a draw outside of a region (`Action.drawItems`).

The proof goes up from the operations. Each function that a block or an extended command is made of
ends in a state that follows by the actions read off its code (`Follows`), and a move executes one
of these functions (`Moment.follows_of_next?`). A history is then followed move by move.
-/

namespace GerberMask.Gerber

namespace Action

/-- The edge of a draw. -/
def edge (target : Point Float) (arc? : Option Arc) : RegionEdge :=
  arc?.elim (.line target) .arc

/-- The contour of the open region after an action. -/
def onRegion (region? : Option RegionContour) : Action → Option RegionContour
  | openRegion => some .unstarted
  | closeRegion => none
  | draw _ start target arc? => region?.map (·.draw start (edge target arc?))
  | move target => region?.map (·.moveTo target)
  | _ => region?

/-- The selected aperture after an action. -/
def onAperture (aperture? : Option Nat) : Action → Option Nat
  | select code => some code
  | _ => aperture?

/-- Whether the tool is on after an action; a repeated draw leaves it as it is. -/
def onTool (toolOn : Bool) : Action → Bool
  | draw repeated .. => !repeated || toolOn
  | move _ | flash | select _ => false
  | _ => toolOn

/-- The aperture table after an action. -/
def onTable (apertures : Table Nat (List Primitive)) : Action → Table Nat (List Primitive)
  | define code primitives => apertures.insert code primitives
  | _ => apertures

/-- Whether an action uses the selected aperture: a flash, or a draw with no region open. -/
def usesAperture (region? : Option RegionContour) : Action → Bool
  | draw .. => region?.isNone
  | flash => true
  | _ => false

/-- Whether a row of actions can add items to the drawing. -/
def drawItems (region? : Option RegionContour) : List Action → Bool
  | [] => false
  | a :: as => a.usesAperture region? || a == closeRegion || drawItems (a.onRegion region?) as

theorem drawItems_append (region? : Option RegionContour) (as bs : List Action) :
    drawItems region? (as ++ bs) =
      (drawItems region? as || drawItems (as.foldl onRegion region?) bs) := by
  induction as generalizing region? with
  | nil => rfl
  | cons a as ih => simp [drawItems, ih, Bool.or_assoc]

end Action

variable {α : Type}

/-- A state follows from another by actions: what actions are about is what they make of it. -/
structure Follows (s : State α) (as : List Action) (s' : State α) : Prop where
  region? : s'.modes.region? = as.foldl Action.onRegion s.modes.region?
  aperture? : s'.modes.aperture? = as.foldl Action.onAperture s.modes.aperture?
  toolOn : s'.modes.toolOn = as.foldl Action.onTool s.modes.toolOn
  apertures : s'.registry.apertures = as.foldl Action.onTable s.registry.apertures
  drawing : Action.drawItems s.modes.region? as = false → s'.drawing = s.drawing

namespace Follows

theorem refl (s : State α) : Follows s [] s := ⟨rfl, rfl, rfl, rfl, fun _ ↦ rfl⟩

theorem trans {s s' s'' : State α} {as bs : List Action} (h : Follows s as s')
    (h' : Follows s' bs s'') : Follows s (as ++ bs) s'' where
  region? := by rw [List.foldl_append, ← h.region?, h'.region?]
  aperture? := by rw [List.foldl_append, ← h.aperture?, h'.aperture?]
  toolOn := by rw [List.foldl_append, ← h.toolOn, h'.toolOn]
  apertures := by rw [List.foldl_append, ← h.apertures, h'.apertures]
  drawing := by
    intro hquiet
    rw [Action.drawItems_append, ← h.region?, Bool.or_eq_false_iff] at hquiet
    rw [h'.drawing hquiet.2, h.drawing hquiet.1]

end Follows

/-! ### Operations -/

namespace State

/-- What is drawn is added to the drawing, and nothing else changes. -/
theorem addDrawn_result (s : State α) (drawn : Drawn) :
    (s.addDrawn drawn).result =
      .ok { s with drawing := drawn.items.foldl Drawing.add s.drawing } := rfl

theorem drawEach_only (s : State α) (draw : Primitive → Except GerberError Drawn)
    (ps : List Primitive) :
    (s.drawEach draw ps).Ensures fun s' ↦ ∃ d, s' = { s with drawing := d } := by
  induction ps generalizing s with
  | nil => exact Report.ensures_pure ⟨s.drawing, rfl⟩
  | cons p ps ih =>
    refine Report.ensures_bind fun drawn ↦ ?_
    refine Report.Ensures.bind (P := fun s' ↦ ∃ d, s' = { s with drawing := d }) ?_ ?_
    · rintro _ ⟨⟩
      exact ⟨_, rfl⟩
    · rintro _ ⟨d, rfl⟩
      exact ih _

/-- What closing a region does: the contour becomes an item if anything was drawn. -/
theorem closeRegion_result (s : State α) :
    s.closeRegion.result = .ok { s with
      modes.region? := none
      drawing := (s.modes.region?.bind RegionContour.build).elim s.drawing fun path ↦
        s.drawing.add ⟨.outline path, s.modes.polarity⟩ } := by
  rw [closeRegion]
  split
  next hregion =>
    have hsame : s = { s with modes.region? := none } := by rw [← hregion]
    rw [hregion]
    exact congrArg Except.ok hsame
  next contour hregion =>
    rw [hregion, Option.bind_some]
    dsimp only
    cases contour.build with
    | none => rfl
    | some path => rfl

theorem closeRegion_follows (s : State α) : s.closeRegion.Ensures (Follows s [.closeRegion]) := by
  intro s' hs'
  rw [closeRegion_result] at hs'
  cases hs'
  exact ⟨rfl, rfl, rfl, rfl, fun hquiet ↦ by cases hquiet⟩

/-- A G code never fails. -/
theorem preparatory_ok (s : State α) (code position : Nat) :
    ∃ s', (s.preparatory code position).result = .ok s' := by
  unfold preparatory
  split
  case h_7 => split <;> exact ⟨_, rfl⟩
  case h_8 => exact ⟨_, closeRegion_result s⟩
  all_goals exact ⟨_, rfl⟩

theorem preparatoryActions_of_ne {code : Nat} (hopen : code ≠ 36) (hclose : code ≠ 37) :
    preparatoryActions code = [] := by
  unfold preparatoryActions
  split <;> first | rfl | contradiction

theorem preparatory_follows (s : State α) (code position : Nat) :
    (s.preparatory code position).Ensures (Follows s (preparatoryActions code)) := by
  unfold preparatory
  split
  -- opening a region may give a warning first
  case h_7 =>
    split
    · exact Report.ensures_bind fun _ ↦ Report.ensures_pure ⟨rfl, rfl, rfl, rfl, fun _ ↦ rfl⟩
    · exact Report.ensures_pure ⟨rfl, rfl, rfl, rfl, fun _ ↦ rfl⟩
  case h_8 => exact closeRegion_follows s
  -- an unknown code
  case h_17 =>
    refine Report.ensures_bind fun _ ↦ Report.ensures_pure ?_
    rw [preparatoryActions_of_ne (by assumption) (by assumption)]
    exact .refl s
  all_goals exact Report.ensures_pure ⟨rfl, rfl, rfl, rfl, fun _ ↦ rfl⟩

variable [Scalar α]

theorem edgeTo_eq (m : Modes α) (target : Point α) :
    m.edgeTo target = Action.edge (target.map Scalar.toFloat) (m.arcTo? target) := by
  unfold Modes.edgeTo
  cases m.arcTo? target <;> rfl

theorem drawTo_follows (s : State α) (target : Point α) (position : Nat) :
    (s.drawTo target position).Ensures (Follows s [s.drawAction true target]) := by
  rw [drawTo]
  split
  next contour hregion =>
    refine Report.ensures_pure ⟨?_, rfl, ?_, rfl, fun _ ↦ rfl⟩
    · simp [drawEdge, hregion, drawAction, Action.onRegion, edgeTo_eq]
    · simp [drawEdge, drawAction, Action.onTool]
  next hregion =>
    refine Report.ensures_bind fun primitives ↦ (drawEach_only s _ primitives).mono ?_
    rintro _ ⟨d, rfl⟩
    refine ⟨?_, rfl, ?_, rfl, ?_⟩
    · simp [hregion, drawAction, Action.onRegion]
    · simp [drawAction, Action.onTool]
    · simp [hregion, drawAction, Action.drawItems, Action.usesAperture]

theorem flashAt_follows (s : State α) (target : Point α) (position : Nat) :
    (flashAt { s with modes.toolOn := false } target position).Ensures (Follows s [.flash]) := by
  refine Report.ensures_bind fun primitives ↦ (drawEach_only _ _ primitives).mono ?_
  rintro _ ⟨d, rfl⟩
  exact ⟨rfl, rfl, rfl, rfl, fun hquiet ↦ by cases hquiet⟩

theorem operationActions_of_ne (s : State α) {code : Nat} (target : Point α) (hdraw : code ≠ 1)
    (hmove : code ≠ 2) (hflash : code ≠ 3) :
    s.operationActions code target = if 10 ≤ code then [.select code] else [] := by
  unfold operationActions
  split <;> first | rfl | contradiction

theorem operation_follows (s : State α) (code : Nat) (target : Point α) (position : Nat) :
    (s.operation code target position).Ensures (Follows s (s.operationActions code target)) := by
  unfold operation
  split
  · refine (drawTo_follows _ target position).mono fun s' hs' ↦ ?_
    exact ⟨hs'.region?, hs'.aperture?, hs'.toolOn, hs'.apertures, hs'.drawing⟩
  · exact Report.ensures_pure ⟨rfl, rfl, rfl, rfl, fun _ ↦ rfl⟩
  · exact flashAt_follows s target position
  next hdraw hmove hflash =>
    rw [operationActions_of_ne s target hdraw hmove hflash]
    split
    · rw [select]
      split
      · exact Report.ensures_pure ⟨rfl, rfl, rfl, rfl, fun _ ↦ rfl⟩
      · exact Report.ensures_error _
    · exact Report.ensures_bind fun _ ↦ Report.ensures_pure (.refl s)

omit [Scalar α] in
theorem drawEach_stoppedAt? (s : State α) (draw : Primitive → Except GerberError Drawn)
    (ps : List Primitive) :
    (s.drawEach draw ps).Ensures (·.modes.stoppedAt? = s.modes.stoppedAt?) :=
  (drawEach_only s draw ps).mono fun _ ⟨_, hs⟩ ↦ by rw [hs]

theorem drawTo_stoppedAt? (s : State α) (target : Point α) (position : Nat) :
    (s.drawTo target position).Ensures (·.modes.stoppedAt? = s.modes.stoppedAt?) := by
  rw [drawTo]
  split
  · exact Report.ensures_pure rfl
  · exact Report.ensures_bind fun primitives ↦ drawEach_stoppedAt? s _ primitives

/-- No operation stops the document. -/
theorem operation_stoppedAt? (s : State α) (code : Nat) (target : Point α) (position : Nat) :
    (s.operation code target position).Ensures (·.modes.stoppedAt? = s.modes.stoppedAt?) := by
  unfold operation
  split
  · exact drawTo_stoppedAt? _ target position
  · exact Report.ensures_pure rfl
  · exact Report.ensures_bind fun primitives ↦ drawEach_stoppedAt? _ _ primitives
  · split
    · rw [select]
      split
      · exact Report.ensures_pure rfl
      · exact Report.ensures_error _
    · exact Report.ensures_bind fun _ ↦ Report.ensures_pure rfl

end State

/-! ### Blocks -/

namespace Block

variable [Scalar α]

theorem wordActions_of_ne (b : Block α) {w : Word} (hG : w.letter ≠ 'G') (hD : w.letter ≠ 'D') :
    b.wordActions w = [] := by
  unfold wordActions
  split <;> first | rfl | contradiction

theorem wordActions_preparatory (b : Block α) {number : List Char} {code : Nat}
    (h : readWord? 32 number = some code) :
    b.wordActions ⟨'G', number⟩ = preparatoryActions code := by
  simp [wordActions, h]

theorem wordActions_operation (b : Block α) {number : List Char} {code : Nat}
    (h : readWord? 32 number = some code) :
    b.wordActions ⟨'D', number⟩ = b.state.operationActions code b.target := by
  simp [wordActions, h]

theorem readCode_eq_ok_iff {number : List Char} {position code : Nat} :
    readCode number position = .ok code ↔ readWord? 32 number = some code := by
  unfold readCode
  cases readWord? 32 number <;> simp

/-- A word whose code can be read goes on with that code. -/
theorem ensures_readCode_bind {β : Type} {number : List Char} {position : Nat}
    {f : Nat → Report GerberError β} {P : β → Prop}
    (h : ∀ code, readWord? 32 number = some code → (f code).Ensures P) :
    (Report.ofExcept (readCode number position) >>= f).Ensures P :=
  Report.Ensures.bind (P := fun code ↦ readWord? 32 number = some code)
    (fun _ hcode ↦ readCode_eq_ok_iff.1 hcode) h

theorem word_follows (position : Nat) (text : String) (b : Block α) (w : Word) :
    (b.word position text w).Ensures fun b' ↦ Follows b.state (b.wordActions w) b'.state := by
  obtain ⟨letter, number⟩ := w
  unfold word
  split
  case h_1 hletter =>
    obtain rfl : letter = 'G' := hletter
    refine ensures_readCode_bind fun code hcode ↦ ?_
    rw [wordActions_preparatory b hcode]
    split
    next hcomment =>
      subst hcomment
      exact Report.ensures_pure (.refl _)
    · exact (State.preparatory_follows b.state code position).bind fun s hs ↦
        Report.ensures_pure hs
  case h_6 hletter =>
    obtain rfl : letter = 'D' := hletter
    refine ensures_readCode_bind fun code hcode ↦ ?_
    rw [wordActions_operation b hcode]
    exact (State.operation_follows b.state code b.target position).bind fun s hs ↦
      Report.ensures_pure hs
  all_goals
    rw [wordActions_of_ne b (by simp_all) (by simp_all)]
  case h_7 => exact Report.ensures_pure (.refl _)
  case h_8 =>
    refine Report.ensures_bind fun code ↦ ?_
    split
    · exact Report.ensures_pure ⟨rfl, rfl, rfl, rfl, fun _ ↦ rfl⟩
    · exact Report.ensures_bind fun _ ↦ Report.ensures_pure (.refl _)
  -- coordinates, offsets and unknown letters
  all_goals
    exact Report.ensures_bind fun _ ↦ Report.ensures_pure ⟨rfl, rfl, rfl, rfl, fun _ ↦ rfl⟩

theorem finish_follows (b : Block α) (position : Nat) :
    (b.finish position).Ensures (Follows b.state b.lastActions) := by
  rw [finish]
  unfold lastActions
  split
  next hstop =>
    simp only [Option.isNone_eq_false_iff.2 hstop, Bool.false_and]
    exact Report.ensures_pure (.refl _)
  next hrunning =>
    have hrunning : b.state.modes.stoppedAt?.isNone = true := by simpa using hrunning
    rw [hrunning, Bool.true_and]
    split
    · exact (State.drawTo_follows b.state b.target position).bind fun s hs ↦
        Report.ensures_pure ⟨hs.region?, hs.aperture?, hs.toolOn, hs.apertures, hs.drawing⟩
    · exact Report.ensures_pure ⟨rfl, rfl, rfl, rfl, fun _ ↦ rfl⟩

/-- A D word does what its code says. -/
theorem word_operation (b : Block α) {number : List Char} {code : Nat}
    (h : readWord? 32 number = some code) (position : Nat) (text : String) :
    b.word position text ⟨'D', number⟩ = b.state.operation code b.target position >>= fun s ↦
      pure { b with state := s, pending := b.pending && 10 ≤ code } := by
  have hcode : (Report.ofExcept (readCode number position)) = pure code :=
    congrArg Report.ofExcept (readCode_eq_ok_iff.2 h)
  show Report.ofExcept (readCode number position) >>= (fun code ↦ _) = _
  rw [hcode, pure_bind]

theorem words_singleton (position : Nat) (text : String) (b : Block α) (w : Word) :
    b.words position text [w] = b.word position text w := by
  show (b.word position text w >>= fun b' ↦ if b'.ended then pure b' else pure b') = _
  simp only [ite_self, bind_pure]

section

variable {b : Block α} {position : Nat}

theorem finish_of_used (running : b.state.modes.stoppedAt? = none) (used : b.pending = false) :
    b.finish position = pure { b.state with modes.position := b.target } := by
  rw [finish, running, used]
  rfl

/-- A block whose last word is an operation. -/
theorem word_operation_finish (running : b.state.modes.stoppedAt? = none) {number : List Char}
    {code : Nat} (hcode : readWord? 32 number = some code)
    (used : b.pending = false ∨ code < 10) (text : String) :
    b.word position text ⟨'D', number⟩ >>= (·.finish position) =
      b.state.operation code b.target position >>= fun s ↦
        pure { s with modes.position := b.target } := by
  have hused : (b.pending && 10 ≤ code) = false := by
    obtain hused | hless := used
    · rw [hused, Bool.false_and]
    · simp [hless]
  rw [b.word_operation hcode, bind_assoc]
  refine (State.operation_stoppedAt? _ _ _ _).bind_congr fun s hs ↦ ?_
  rw [pure_bind, finish_of_used (hs.trans running) hused]

end

end Block

/-! ### Definitions -/

namespace Registry

/-- The registry with a definition, if there is one, and the code that it defines. -/
def defined (r : Registry) : Option (Nat × List Primitive) → Registry × Option Nat
  | none => (r, none)
  | some (code, primitives) =>
    ({ r with apertures := r.apertures.insert code primitives }, some code)

theorem define_result {ε : Type} (r : Registry) (code : Nat) (primitives : List Primitive) :
    (r.define code primitives : Report ε Registry).result =
      .ok { r with apertures := r.apertures.insert code primitives } := by
  rw [define]
  split <;> rfl

/-- **What a definition does.** It is worked out before anything is changed: if there is nothing to
define, it is skipped or it fails. -/
theorem defineFrom_cases (r : Registry) (command : String) (unit : LengthUnit) (position : Nat) :
    (∃ d, r.definition? command unit position = some d ∧
      (r.defineFrom command unit position).result = .ok (r.defined (some d))) ∨
    r.definition? command unit position = none ∧
      ((r.defineFrom command unit position).result = .ok (r.defined none) ∨
        ∃ e, (r.defineFrom command unit position).result = .error e) := by
  unfold definition? defineFrom
  rcases splitDefinition command with - | ⟨code, template, argsText⟩
  · exact .inr ⟨rfl, .inr ⟨_, rfl⟩⟩
  simp only [Option.bind_eq_bind, Option.bind_some, Report.result_bind, Report.result_ofExcept]
  cases readArguments argsText with
  | error e => exact .inr ⟨rfl, .inr ⟨_, rfl⟩⟩
  | ok args =>
    simp only [Except.mapError, Except.toOption, Option.bind_some, bind, Except.bind]
    cases (r.resolve template args unit position).result with
    | error e => exact .inr ⟨rfl, .inr ⟨e, rfl⟩⟩
    | ok primitives? =>
      cases primitives? with
      | none => exact .inr ⟨rfl, .inl rfl⟩
      | some primitives =>
        refine .inl ⟨_, rfl, ?_⟩
        show ((r.define code primitives : Report GerberError Registry) >>= _).result = _
        rw [Report.result_bind, define_result]
        rfl

theorem defineFrom_eq (r : Registry) (command : String) (unit : LengthUnit) (position : Nat) :
    (r.defineFrom command unit position).Ensures
      (· = r.defined (r.definition? command unit position)) := by
  intro d hd
  rcases r.defineFrom_cases command unit position with ⟨d', hdef, hok⟩ | ⟨hdef, hok | ⟨e, herror⟩⟩
  · rw [hdef]
    exact Except.ok.inj (hd.symm.trans hok)
  · rw [hdef]
    exact Except.ok.inj (hd.symm.trans hok)
  · cases hd.symm.trans herror

end Registry

/-! ### Tokens that are no blocks -/

namespace State

theorem defines_iff {s : State α} {text : String} :
    s.defines text ↔ s.openMacro? = none ∧ s.modes.extended = true ∧
      String.ofList (text.toList.take 2) = "AD" := by
  simp [defines, and_assoc]

theorem definition?_of_defines {s : State α} {text : String} (h : s.defines text)
    (position : Nat) :
    s.definition? position (.command text) = s.registry.definition? text s.modes.unit position :=
  if_pos h

theorem definition?_of_not_defines {s : State α} {text : String} (h : ¬ s.defines text)
    (position : Nat) : s.definition? position (.command text) = none :=
  if_neg h

theorem extendedCommand_follows (s : State α) (text : String) (position : Nat)
    (hopen : s.openMacro? = none) (hextended : s.modes.extended = true) :
    (s.extendedCommand text position).Ensures
      (Follows s
        ((s.definition? position (.command text)).toList.map fun d ↦ .define d.1 d.2)) := by
  by_cases hname : String.ofList (text.toList.take 2) = "AD"
  · rw [definition?_of_defines (defines_iff.2 ⟨hopen, hextended, hname⟩)]
    unfold extendedCommand
    simp only [hname]
    refine (Registry.defineFrom_eq s.registry text s.modes.unit position).bind ?_
    rintro _ rfl
    refine Report.ensures_pure ?_
    rcases s.registry.definition? text s.modes.unit position with - | ⟨code, primitives⟩
    · exact .refl s
    · exact ⟨rfl, rfl, rfl, rfl, fun _ ↦ rfl⟩
  · rw [definition?_of_not_defines fun h ↦ hname (defines_iff.1 h).2.2]
    refine (extendedCommand_effect s text position).mono fun s' hs' ↦ ?_
    cases hs' with
    | define hname' => exact absurd hname' hname
    | _ => exact ⟨rfl, rfl, rfl, rfl, fun _ ↦ rfl⟩

variable [Scalar α]

theorem step_follows {s : State α} {t : Token} (running : s.modes.stoppedAt? = none)
    (other : s.blockText? t = none) (position : Nat) :
    (s.step position t).Ensures
      (Follows s ((s.definition? position t).toList.map fun d ↦ .define d.1 d.2)) := by
  rw [step.eq_def, if_neg (by simp [running])]
  cases t with
  | toggle => exact Report.ensures_pure ⟨rfl, rfl, rfl, rfl, fun _ ↦ rfl⟩
  | command text =>
    dsimp only
    rw [command]
    split
    next name hopen =>
      rw [definition?_of_not_defines fun h ↦ by simp [(defines_iff.1 h).1] at hopen]
      exact Report.ensures_pure ⟨rfl, rfl, rfl, rfl, fun _ ↦ rfl⟩
    next hopen =>
      have hextended : s.modes.extended = true := by simpa [blockText?, hopen] using other
      rw [if_pos hextended]
      exact extendedCommand_follows s text position hopen hextended

end State

/-! ### Moves and histories -/

namespace Moment

variable [Scalar α]

/-- **A move does what its actions say.** -/
theorem follows_of_next? {m m' : Moment α} (h : m.next? = some (.ok m')) :
    Follows m.state m.actions m'.state := by
  cases next?_eq_ok_iff.1 h with
  | begin running block =>
    obtain ⟨rfl, hopen, hextended⟩ := State.blockText?_eq_some_iff.1 block
    rw [actions, State.definition?_of_not_defines fun h ↦ by
      simp [(State.defines_iff.1 h).2.1] at hextended]
    exact ⟨rfl, rfl, rfl, rfl, fun _ ↦ rfl⟩
  | step running other done => exact State.step_follows running other _ _ done
  | word done => exact Block.word_follows _ _ _ _ _ done
  | finish done => exact Block.finish_follows _ _ _ done

/-- **So does a history.** -/
theorem Leads.follows {m m' : Moment α} {as : List Action} (h : Leads m as m') :
    Follows m.state as m'.state := by
  induction h with
  | refl m => exact .refl m.state
  | cons move _ ih => exact (follows_of_next? move).trans ih

end Moment

end GerberMask.Gerber
