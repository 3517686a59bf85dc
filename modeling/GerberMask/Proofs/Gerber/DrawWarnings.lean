import GerberMask.Proofs.Gerber.FlashFaults

/-!
# Nothing is left out without a warning

A flash, a line or an arc of a primitive either draws something and is silent, or draws nothing and
gives one warning that says so (`Drawn.IsAccountedFor`). An operation draws with all primitives of
the selected aperture, in order, and the only other warnings on its way are about extents. So the
warnings about what was left out are as many as the primitives that drew nothing, and what was drawn
is in the order of the primitives (`Drawing.Accounts`).
-/

namespace GerberMask.Gerber

variable {α : Type}

namespace Report

variable {ε β : Type}

theorem exists_of_isOk {r : Except ε β} {P : β → Prop} (hok : r.isOk = true)
    (h : ∀ b, r = .ok b → P b) : ∃ b, r = .ok b ∧ P b := by
  cases r with
  | error e => cases hok
  | ok b => exact ⟨b, rfl, h b rfl⟩

/-- A sequence that begins with a computation without warnings and has a value. -/
theorem ofExcept_bind_of_ok {γ : Type} {r : Except ε β} {f : β → Report ε γ} {c : γ}
    (h : (ofExcept r >>= f).result = .ok c) :
    ∃ b, r = .ok b ∧ ofExcept r >>= f = f b := by
  cases r with
  | error e => cases h
  | ok b => exact ⟨b, rfl, pure_bind' b f⟩

end Report

/-- Whether a warning says that a primitive was not drawn. -/
def Warning.isSkip : Warning → Bool
  | zeroLengthVectorLine | shortOutline .. | primitiveNotRendered _ | cannotInterpolate _
  | cannotDrawArcs _ => true
  | _ => false

/-! ### One primitive -/

namespace Drawn

/-- Nothing is drawn exactly if there is a warning, and then there is one, which says so. -/
structure IsAccountedFor (d : Drawn) : Prop where
  eq_nil_iff : d.items = [] ↔ d.warnings ≠ []
  warnings_eq : d.warnings ≠ [] → ∃ w, w.isSkip = true ∧ d.warnings = [w]

theorem isAccountedFor_skip {w : Warning} (h : w.isSkip = true) : (skip w).IsAccountedFor where
  eq_nil_iff := iff_of_true rfl (List.cons_ne_nil w [])
  warnings_eq _ := ⟨w, h, rfl⟩

theorem isAccountedFor_ofItems (item : DrawItem) (items : List DrawItem) :
    (ofItems (item :: items)).IsAccountedFor where
  eq_nil_iff := iff_of_false (List.cons_ne_nil item items) fun h ↦ h rfl
  warnings_eq h := absurd rfl h

/-- Warnings about the extents of items say nothing about what was left out. -/
theorem filter_extentWarning (items : List DrawItem) :
    (items.flatMap Drawing.extentWarning).filter Warning.isSkip = [] := by
  refine List.filter_eq_nil_iff.2 fun w hw ↦ ?_
  obtain ⟨item, -, hitem⟩ := List.mem_flatMap.1 hw
  unfold Drawing.extentWarning at hitem
  split at hitem
  split at hitem
  · cases hitem
  · rw [List.mem_singleton.1 hitem]
    exact Bool.false_ne_true

namespace IsAccountedFor

variable {d : Drawn}

theorem filter_warnings (h : d.IsAccountedFor) : d.warnings.filter Warning.isSkip = d.warnings := by
  by_cases hsilent : d.warnings = []
  · rw [hsilent, List.filter_nil]
  · obtain ⟨w, hw, hone⟩ := h.warnings_eq hsilent
    rw [hone, List.filter_cons_of_pos hw, List.filter_nil]

theorem length_warnings (h : d.IsAccountedFor) :
    d.warnings.length = if d.items.isEmpty then 1 else 0 := by
  by_cases hnothing : d.items = []
  · obtain ⟨w, -, hone⟩ := h.warnings_eq (h.eq_nil_iff.1 hnothing)
    rw [hone, hnothing]
    rfl
  · have hsilent : d.warnings = [] := by
      by_contra hwarned
      exact hnothing (h.eq_nil_iff.2 hwarned)
    rw [hsilent, if_neg (by simpa using hnothing)]
    rfl

end IsAccountedFor

end Drawn

namespace Primitive

open Drawn (isAccountedFor_skip isAccountedFor_ofItems)

/-- A macro says about a primitive without a shape that it is not drawn. -/
theorem isSkip_of_macroShape {p : Primitive} {place : Point Float} {w : Warning}
    (h : p.macroShape place = .error w) : w.isSkip = true := by
  unfold macroShape at h
  dsimp only at h
  split at h
  -- a vector line without length and an outline without its points
  case h_2 | h_4 =>
    split at h
    · cases h
      rfl
    · cases h
  -- a kind that is never drawn
  case h_6 =>
    cases h
    rfl
  all_goals cases h

theorem isAccountedFor_flash (p : Primitive) (place : Point Float) (polarity : Polarity) :
    (p.flash place polarity).IsAccountedFor := by
  unfold flash
  split
  · exact isAccountedFor_ofItems _ _
  · split
    · exact isAccountedFor_ofItems _ _
    next hskip => exact isAccountedFor_skip (isSkip_of_macroShape hskip)

theorem isAccountedFor_interpolate (p : Primitive) (start stop : Point Float)
    (polarity : Polarity) : (p.interpolate start stop polarity).IsAccountedFor := by
  unfold interpolate
  split
  · exact isAccountedFor_ofItems _ _
  · exact isAccountedFor_ofItems _ _
  · exact isAccountedFor_skip rfl

theorem isAccountedFor_strokeArc (p : Primitive) (arc : Arc) (polarity : Polarity) :
    (p.strokeArc arc polarity).IsAccountedFor := by
  unfold strokeArc
  split
  · exact isAccountedFor_skip rfl
  · exact isAccountedFor_ofItems _ _

theorem isAccountedFor_strokeAlong (p : Primitive) (start target : Point Float)
    (arc? : Option Arc) (polarity : Polarity) :
    (p.strokeAlong start target arc? polarity).IsAccountedFor := by
  unfold strokeAlong
  split
  · exact p.isAccountedFor_strokeArc _ polarity
  · exact p.isAccountedFor_interpolate start target polarity

end Primitive

/-! ### All primitives of an aperture -/

/-- The warnings about what was left out are those of the drawings, in order. -/
theorem Drawn.filter_flatMap_warnings {ds : List Drawn} (h : ∀ d ∈ ds, d.IsAccountedFor) :
    (ds.flatMap fun d ↦ d.warnings ++ d.items.flatMap Drawing.extentWarning).filter
      Warning.isSkip = ds.flatMap (·.warnings) := by
  induction ds with
  | nil => rfl
  | cons d ds ih =>
    obtain ⟨hd, hds⟩ := List.forall_mem_cons.1 h
    rw [List.flatMap_cons, List.filter_append, List.filter_append, hd.filter_warnings,
      filter_extentWarning, List.append_nil, ih hds, List.flatMap_cons]

/-- They are as many as the drawings of nothing. -/
theorem Drawn.length_flatMap_warnings {ds : List Drawn} (h : ∀ d ∈ ds, d.IsAccountedFor) :
    (ds.flatMap (·.warnings)).length = ds.countP (·.items.isEmpty) := by
  induction ds with
  | nil => rfl
  | cons d ds ih =>
    obtain ⟨hd, hds⟩ := List.forall_mem_cons.1 h
    rw [List.flatMap_cons, List.length_append, hd.length_warnings, ih hds, List.countP_cons,
      Nat.add_comm]

/-- The second drawing is the first one with the items of a row of drawn things, one after the
other. The warnings about what was left out are those of the row, in order, one for each that drew
nothing. -/
structure Drawing.Accounts (d d' : Drawing) (warnings : Array Warning) (ds : List Drawn) :
    Prop where
  items : d'.items.toList = d.items.toList ++ ds.flatMap (·.items)
  skips : warnings.toList.filter Warning.isSkip = ds.flatMap (·.warnings)
  count : warnings.countP Warning.isSkip = ds.countP (·.items.isEmpty)

namespace State

theorem addDrawn_eq (s : State α) (d : Drawn) :
    s.addDrawn d = ⟨(d.warnings ++ d.items.flatMap Drawing.extentWarning).toArray,
      .ok { s with drawing := d.items.foldl Drawing.add s.drawing }⟩ := by
  show (⟨d.warnings.toArray ++ (d.items.flatMap Drawing.extentWarning).toArray ++ #[],
    .ok { s with drawing := d.items.foldl Drawing.add s.drawing }⟩ : Report GerberError _) = _
  rw [Array.append_empty, List.append_toArray]

/-- **Drawing with primitives that can be drawn.** The induction is on the primitives; the state
that each one leaves is the first one with more drawn. -/
theorem drawEach_eq (s : State α) {draw : Primitive → Except GerberError Drawn}
    {f : Primitive → Drawn} {ps : List Primitive} (h : ∀ p ∈ ps, draw p = .ok (f p)) :
    s.drawEach draw ps =
      ⟨((ps.map f).flatMap fun d ↦ d.warnings ++ d.items.flatMap Drawing.extentWarning).toArray,
        .ok { s with
          drawing := ((ps.map f).flatMap (·.items)).foldl Drawing.add s.drawing }⟩ := by
  induction ps generalizing s with
  | nil => rfl
  | cons p ps ih =>
    obtain ⟨hp, hps⟩ := List.forall_mem_cons.1 h
    rw [drawEach, hp, Report.bind_eq_of_ok rfl, addDrawn_eq, Report.bind_eq_of_ok rfl, ih _ hps]
    simp [Report.ofExcept]

theorem accounts_of_drawEach {s s' : State α} {draw : Primitive → Except GerberError Drawn}
    {f : Primitive → Drawn} {ps : List Primitive} (hdraw : ∀ p ∈ ps, draw p = .ok (f p))
    (hf : ∀ p, (f p).IsAccountedFor) (h : (s.drawEach draw ps).result = .ok s') :
    s.drawing.Accounts s'.drawing (s.drawEach draw ps).warnings (ps.map f) := by
  have haccounted : ∀ d ∈ ps.map f, d.IsAccountedFor := by
    intro d hd
    obtain ⟨p, -, rfl⟩ := List.mem_map.1 hd
    exact hf p
  rw [drawEach_eq s hdraw] at h ⊢
  cases h
  have hskips := Drawn.filter_flatMap_warnings haccounted
  refine ⟨Moment.items_foldl_add _ _, hskips, ?_⟩
  rw [List.countP_toArray, List.countP_eq_length_filter, hskips,
    Drawn.length_flatMap_warnings haccounted]

/-- Flashes that succeed are flashes of primitives that can be flashed. -/
theorem flashOne_of_drawEach {s s' : State α} {place : Point Float} {polarity : Polarity}
    {position : Nat} {ps : List Primitive}
    (h : (s.drawEach (flashOne place polarity position) ps).result = .ok s') :
    ∀ p ∈ ps, flashOne place polarity position p = .ok (p.flash place polarity) := by
  intro p hp
  cases hexcess : p.excessVertices? with
  | none => rw [flashOne, hexcess]
  | some n =>
    obtain ⟨n, hn⟩ := s.drawEach_flashOne_error place polarity position hp (by simp [hexcess])
    rw [hn] at h
    cases h

variable [Scalar α]

theorem accounts_of_flashAt {s s' : State α} {target : Point α} {position : Nat}
    (h : (s.flashAt target position).result = .ok s') :
    ∃ ps, s.selected position = .ok ps ∧
      s.drawing.Accounts s'.drawing (s.flashAt target position).warnings
        (ps.map fun p ↦ p.flash (target.map Scalar.toFloat) s.modes.polarity) := by
  obtain ⟨ps, hselected, heq⟩ := Report.ofExcept_bind_of_ok h
  refine ⟨ps, hselected, ?_⟩
  rw [flashAt, heq] at h ⊢
  exact accounts_of_drawEach (flashOne_of_drawEach h) (fun p ↦ p.isAccountedFor_flash _ _) h

theorem accounts_of_strokeTo {s s' : State α} {target : Point α} {position : Nat}
    (h : (s.strokeTo target position).result = .ok s') :
    ∃ ps, s.selected position = .ok ps ∧
      s.drawing.Accounts s'.drawing (s.strokeTo target position).warnings
        (ps.map fun p ↦ p.strokeAlong (s.modes.position.map Scalar.toFloat)
          (target.map Scalar.toFloat) (s.modes.arcTo? target) s.modes.polarity) := by
  obtain ⟨ps, hselected, heq⟩ := Report.ofExcept_bind_of_ok h
  refine ⟨ps, hselected, ?_⟩
  rw [strokeTo, heq] at h ⊢
  refine accounts_of_drawEach (fun p _ ↦ ?_) (fun p ↦ p.isAccountedFor_strokeAlong _ _ _ _) h
  cases s.modes.arcTo? target <;> rfl

end State

section

variable [Scalar α]

open State (flashOne)

/-- **No primitive is left out silently.** A flash of a primitive fails for its vertices or, as do
lines and arcs, draws nothing exactly if it gives a warning, and then gives just one. A draw
outside regions and a flash that succeed use every primitive of the selected aperture, in order:
their warnings about what was left out are as many as the primitives that drew nothing. -/
theorem skipped_primitives (s : State α) (target : Point α) (position : Nat) :
    (∀ (p : Primitive) (place : Point Float) (polarity : Polarity),
      (∃ n, p.excessVertices? = some n ∧
        flashOne place polarity position p = .error ⟨.tooManyVertices n, position⟩) ∨
      ∃ drawn, flashOne place polarity position p = .ok drawn ∧ drawn.IsAccountedFor) ∧
    (∀ (p : Primitive) (start stop : Point Float) (polarity : Polarity),
      (p.interpolate start stop polarity).IsAccountedFor) ∧
    (∀ (p : Primitive) (arc : Arc) (polarity : Polarity),
      (p.strokeArc arc polarity).IsAccountedFor) ∧
    (∀ s', s.modes.region? = none → (s.operation 1 target position).result = .ok s' →
      ∃ ps, s.selected position = .ok ps ∧
        s.drawing.Accounts s'.drawing (s.operation 1 target position).warnings
          (ps.map fun p ↦ p.strokeAlong (s.modes.position.map Scalar.toFloat)
            (target.map Scalar.toFloat) (s.modes.arcTo? target) s.modes.polarity)) ∧
    ∀ s', (s.operation 3 target position).result = .ok s' →
      ∃ ps, s.selected position = .ok ps ∧
        s.drawing.Accounts s'.drawing (s.operation 3 target position).warnings
          (ps.map fun p ↦ p.flash (target.map Scalar.toFloat) s.modes.polarity) := by
  refine ⟨fun p place polarity ↦ ?_, Primitive.isAccountedFor_interpolate,
    Primitive.isAccountedFor_strokeArc, fun s' hregion h ↦ ?_, fun s' h ↦ ?_⟩
  · unfold flashOne
    split
    next n hexcess => exact .inl ⟨n, hexcess, rfl⟩
    · exact .inr ⟨_, rfl, p.isAccountedFor_flash place polarity⟩
  · have hstroke : s.operation 1 target position =
        State.strokeTo { s with modes.toolOn := true } target position := by
      simp only [State.operation, State.drawTo, hregion]
    rw [hstroke] at h ⊢
    exact State.accounts_of_strokeTo h
  · exact State.accounts_of_flashAt h

end

/-- A macro of a thermal and a circle: a flash draws the circle and gives one warning, and a draw
gives two and draws nothing. -/
theorem skipped_primitives_of_thermal :
    ∃ as m, (Moment.start "%AMT*7,0,0,1,0.5,0.1,0*1,1,2,0,0*%%ADD10T*%D10*" .empty :
        Moment Float).Leads as m ∧
      (∃ s', (m.state.operation 3 ⟨1, 1⟩ 9).result = .ok s' ∧
        s'.drawing.items.toList.length = 1 ∧
        (m.state.operation 3 ⟨1, 1⟩ 9).warnings.countP Warning.isSkip = 1) ∧
      ∃ s', (m.state.operation 1 ⟨1, 1⟩ 9).result = .ok s' ∧
        s'.drawing.items.toList = [] ∧
        (m.state.operation 1 ⟨1, 1⟩ 9).warnings.countP Warning.isSkip = 2 := by
  refine ⟨_, _, Moment.leads_run 15 _, ?_, ?_⟩
  · refine Report.exists_of_isOk (by decide +kernel) fun s' hs' ↦ ?_
    obtain ⟨ps, hps, haccounts⟩ := (skipped_primitives _ ⟨1, 1⟩ 9).2.2.2.2 s' hs'
    rw [← State.tool_of_selected hps] at haccounts
    exact ⟨(congrArg List.length haccounts.items).trans (by decide +kernel),
      haccounts.count.trans (by decide +kernel)⟩
  · refine Report.exists_of_isOk (by decide +kernel) fun s' hs' ↦ ?_
    obtain ⟨ps, hps, haccounts⟩ :=
      (skipped_primitives _ ⟨1, 1⟩ 9).2.2.2.1 s' (by decide +kernel) hs'
    rw [← State.tool_of_selected hps] at haccounts
    exact ⟨haccounts.items.trans (by decide +kernel), haccounts.count.trans (by decide +kernel)⟩

end GerberMask.Gerber
