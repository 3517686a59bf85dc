import GerberMask.Proofs.Gerber.Actions

/-!
# Two runs side by side

Two runs over the same tokens can differ in where a token stands, because one document has other
tokens in front of it, and in the polarity of what they draw. Neither is ever asked for: a position
is kept for errors and stops, a polarity for the items. So the two runs go through the same moves,
and what they end in corresponds, position by position and item by item (`runFrom_sideBySide`).

What the two may differ in is a `Variation`. A relation between states is lifted to reports that
either fail alike or end in related values (`Variation.Reports`), and this lifting is closed under
sequencing (`Reports.bind`). Each function that a step is made of has one lemma: from corresponding
states, at corresponding positions, it gives corresponding reports. Warnings are not compared, since
they mention positions in their texts.
-/

namespace GerberMask.Gerber

/-- In what two runs may differ: which position of the second stands for a position of the first,
and which polarity for which. -/
structure Variation where
  places : Nat → Nat → Prop
  polarities : Polarity → Polarity → Prop
  refl : ∀ p, polarities p p
  inverse : ∀ {p q}, polarities p q → polarities p.inverse q.inverse

namespace Variation

variable (v : Variation) {α β γ δ : Type}

/-! ### Corresponding results -/

/-- The same fault at corresponding positions, or related values. -/
inductive Results (R : α → β → Prop) : Except GerberError α → Except GerberError β → Prop
  | error {fault : Fault} {p p' : Nat} (places : v.places p p') :
      Results R (.error ⟨fault, p⟩) (.error ⟨fault, p'⟩)
  | ok {a : α} {b : β} (related : R a b) : Results R (.ok a) (.ok b)

/-- Reports with corresponding results. -/
def Reports (R : α → β → Prop) (r : Report GerberError α) (r' : Report GerberError β) : Prop :=
  v.Results R r.result r'.result

variable {v} {R : α → β → Prop} {S : γ → δ → Prop}

theorem Reports.pure {a : α} {b : β} (h : R a b) :
    v.Reports R (Pure.pure a) (Pure.pure b) :=
  .ok h

theorem Reports.bind {r : Report GerberError α} {r' : Report GerberError β}
    {f : α → Report GerberError γ} {g : β → Report GerberError δ} (h : v.Reports R r r')
    (hfg : ∀ a b, R a b → v.Reports S (f a) (g b)) : v.Reports S (r >>= f) (r' >>= g) := by
  obtain ⟨ws, result⟩ := r
  obtain ⟨ws', result'⟩ := r'
  unfold Reports at h ⊢
  cases h with
  | error places => exact .error places
  | ok related => exact hfg _ _ related

/-- What the first of two reports ensures can be added to their relation. -/
theorem Reports.and_ensures {P : α → Prop} {r : Report GerberError α} {r' : Report GerberError β}
    (h : v.Reports R r r') (hr : r.Ensures P) : v.Reports (fun a b ↦ R a b ∧ P a) r r' := by
  obtain ⟨ws, result⟩ := r
  obtain ⟨ws', result'⟩ := r'
  unfold Reports at h ⊢
  cases h with
  | error places => exact .error places
  | ok related => exact .ok ⟨related, hr _ rfl⟩

/-- Two warnings, one in each run. -/
theorem Reports.warn_bind {w w' : Warning} {r : Report GerberError γ} {r' : Report GerberError δ}
    (h : v.Reports S r r') :
    v.Reports S (Report.warn w >>= fun _ ↦ r) (Report.warn w' >>= fun _ ↦ r') :=
  Reports.bind (R := fun _ _ ↦ True) (.ok trivial) fun _ _ _ ↦ h

/-- A computation that knows no place until it fails. -/
theorem Results.at {p p' : Nat} (hp : v.places p p') (r : Except MalformedNumber α) :
    v.Results Eq (r.mapError (·.at p)) (r.mapError (·.at p')) := by
  cases r with
  | error e => exact .error hp
  | ok a => exact .ok rfl

/-! ### Corresponding drawings -/

variable (v)

/-- The same shape in corresponding polarities. -/
def Items (i j : DrawItem) : Prop :=
  i.shape = j.shape ∧ v.polarities i.polarity j.polarity

/-- Corresponding items, and the same extent. -/
structure Drawings (d e : Drawing) : Prop where
  items : List.Forall₂ v.Items d.items.toList e.items.toList
  bounds : d.bounds = e.bounds

variable {v}

theorem Drawings.add {d e : Drawing} {i j : DrawItem} (h : v.Drawings d e) (hij : v.Items i j) :
    v.Drawings (d.add i) (e.add j) where
  items := by
    simp only [Drawing.add, Array.toList_push]
    exact List.rel_append h.items (.cons hij .nil)
  bounds := by
    simp only [Drawing.add, DrawItem.extend, h.bounds, hij.1]

theorem Drawings.foldl_add {d e : Drawing} {is js : List DrawItem} (h : v.Drawings d e)
    (hitems : List.Forall₂ v.Items is js) :
    v.Drawings (is.foldl Drawing.add d) (js.foldl Drawing.add e) := by
  induction hitems generalizing d e with
  | nil => exact h
  | cons hij _ ih => exact ih (h.add hij)

variable (v)

/-- What corresponding operations draw. -/
def Draws (d e : Drawn) : Prop :=
  List.Forall₂ v.Items d.items e.items

variable {v}

theorem draws_skip (w : Warning) : v.Draws (.skip w) (.skip w) := .nil

theorem draws_cons {s : Shape} {p q : Polarity} (h : v.polarities p q) {is js : List DrawItem}
    (hitems : List.Forall₂ v.Items is js) :
    v.Draws (.ofItems (⟨s, p⟩ :: is)) (.ofItems (⟨s, q⟩ :: js)) :=
  .cons ⟨rfl, h⟩ hitems

end Variation

/-! ### What apertures draw -/

namespace Primitive

variable {v : Variation} {p q : Polarity}

theorem exposed_sideBySide (primitive : Primitive) (h : v.polarities p q) :
    v.polarities (primitive.exposed p) (primitive.exposed q) := by
  unfold exposed
  split
  · exact v.inverse h
  · exact h

/-- A hole is clear in both runs. -/
theorem flash_sideBySide (primitive : Primitive) (place : Point Float) (h : v.polarities p q) :
    v.Draws (primitive.flash place p) (primitive.flash place q) := by
  unfold flash
  split
  · refine Variation.draws_cons h ?_
    refine List.forall₂_same.2 fun hole _ ↦ ⟨rfl, v.refl _⟩
  · split
    · exact Variation.draws_cons (primitive.exposed_sideBySide h) .nil
    · exact Variation.draws_skip _

theorem interpolate_sideBySide (primitive : Primitive) (start stop : Point Float)
    (h : v.polarities p q) :
    v.Draws (primitive.interpolate start stop p) (primitive.interpolate start stop q) := by
  unfold interpolate
  split
  · exact Variation.draws_cons h .nil
  · exact Variation.draws_cons h (.cons ⟨rfl, h⟩ (.cons ⟨rfl, h⟩ .nil))
  · exact Variation.draws_skip _

theorem strokeArc_sideBySide (primitive : Primitive) (arc : Arc) (h : v.polarities p q) :
    v.Draws (primitive.strokeArc arc p) (primitive.strokeArc arc q) := by
  unfold strokeArc
  split
  · exact Variation.draws_skip _
  · exact Variation.draws_cons h .nil

end Primitive

/-! ### Corresponding states -/

variable {α : Type}

namespace Variation

variable (v : Variation)

/-- A state and one that differs from it in its polarity, its drawing and the place of its stop, by
as much as the variation allows. -/
inductive States (s : State α) : State α → Prop
  | mk {polarity : Polarity} {stop? : Option Nat} {drawing : Drawing}
      (polarities : v.polarities s.modes.polarity polarity)
      (stops : Option.Rel v.places s.modes.stoppedAt? stop?)
      (drawings : v.Drawings s.drawing drawing) :
      States s { s with
        modes := { s.modes with polarity, stoppedAt? := stop? }
        drawing }

variable {v}

theorem States.stopped {s s' : State α} (h : v.States s s') :
    s'.modes.stoppedAt?.isSome = s.modes.stoppedAt?.isSome := by
  obtain ⟨-, hstops, -⟩ := h
  dsimp only
  generalize s.modes.stoppedAt? = stop? at hstops
  cases hstops <;> rfl

end Variation

/-! ### Operations -/

namespace State

variable {v : Variation} {s s' : State α}

theorem addDrawn_sideBySide (h : v.States s s') {drawn drawn' : Drawn}
    (hdrawn : v.Draws drawn drawn') :
    v.Reports v.States (s.addDrawn drawn) (s'.addDrawn drawn') := by
  obtain ⟨hpolarity, hstops, hdrawing⟩ := h
  rw [Variation.Reports, addDrawn_result, addDrawn_result]
  exact .ok ⟨hpolarity, hstops, hdrawing.foldl_add hdrawn⟩

theorem drawEach_sideBySide (h : v.States s s') {draw draw' : Primitive → Except GerberError Drawn}
    (hdraw : ∀ p, v.Results v.Draws (draw p) (draw' p)) (ps : List Primitive) :
    v.Reports v.States (s.drawEach draw ps) (s'.drawEach draw' ps) := by
  induction ps generalizing s s' with
  | nil => exact .ok h
  | cons p ps ih =>
    refine Variation.Reports.bind (R := v.Draws) (hdraw p) fun drawn drawn' hdrawn ↦ ?_
    exact (addDrawn_sideBySide h hdrawn).bind fun s₁ s₁' h₁ ↦ ih h₁

theorem closeRegion_sideBySide (h : v.States s s') :
    v.Reports v.States s.closeRegion s'.closeRegion := by
  obtain ⟨hpolarity, hstops, hdrawing⟩ := h
  rw [Variation.Reports, closeRegion_result, closeRegion_result]
  refine .ok ⟨hpolarity, hstops, ?_⟩
  dsimp only
  cases s.modes.region?.bind RegionContour.build with
  | none => exact hdrawing
  | some path => exact hdrawing.add ⟨rfl, hpolarity⟩

theorem preparatory_sideBySide (h : v.States s s') (code p p' : Nat) :
    v.Reports v.States (s.preparatory code p) (s'.preparatory code p') := by
  have h' := h
  obtain ⟨hpolarity, hstops, hdrawing⟩ := h'
  unfold preparatory
  split
  -- opening a region may give a warning first
  case h_7 =>
    split
    · exact Variation.Reports.warn_bind (.ok ⟨hpolarity, hstops, hdrawing⟩)
    · exact .ok ⟨hpolarity, hstops, hdrawing⟩
  case h_8 => exact closeRegion_sideBySide h
  case h_17 => exact Variation.Reports.warn_bind (.ok h)
  all_goals exact .ok ⟨hpolarity, hstops, hdrawing⟩

variable {p p' : Nat}

theorem selected_sideBySide (h : v.States s s') (hp : v.places p p') :
    v.Results Eq (s.selected p) (s'.selected p') := by
  obtain ⟨-, -, -⟩ := h
  unfold selected
  dsimp only
  split
  · exact .error hp
  · split
    · exact .error hp
    · exact .ok rfl

theorem flashOne_sideBySide (hp : v.places p p') {polarity polarity' : Polarity}
    (hpolarity : v.polarities polarity polarity') (place : Point Float) (primitive : Primitive) :
    v.Results v.Draws (flashOne place polarity p primitive)
      (flashOne place polarity' p' primitive) := by
  unfold flashOne
  split
  · exact .error hp
  · exact .ok (primitive.flash_sideBySide place hpolarity)

theorem select_sideBySide (h : v.States s s') (hp : v.places p p') (code : Nat) :
    v.Reports v.States (s.select code p) (s'.select code p') := by
  obtain ⟨hpolarity, hstops, hdrawing⟩ := h
  unfold select
  dsimp only
  split
  · exact .ok ⟨hpolarity, hstops, hdrawing⟩
  · exact .error hp

variable [Scalar α]

theorem flashAt_sideBySide (h : v.States s s') (hp : v.places p p') (target : Point α) :
    v.Reports v.States (s.flashAt target p) (s'.flashAt target p') := by
  refine Variation.Reports.bind (R := Eq) (selected_sideBySide h hp) ?_
  rintro primitives _ rfl
  refine drawEach_sideBySide h (fun primitive ↦ ?_) primitives
  obtain ⟨hpolarity, -, -⟩ := h
  exact flashOne_sideBySide hp hpolarity _ primitive

theorem strokeTo_sideBySide (h : v.States s s') (hp : v.places p p') (target : Point α) :
    v.Reports v.States (s.strokeTo target p) (s'.strokeTo target p') := by
  refine Variation.Reports.bind (R := Eq) (selected_sideBySide h hp) ?_
  rintro primitives _ rfl
  refine drawEach_sideBySide h (fun primitive ↦ .ok ?_) primitives
  -- the arc depends on modes that the two states share
  have harc : s'.modes.arcTo? target = s.modes.arcTo? target := by
    obtain ⟨-, -, -⟩ := h
    rfl
  rw [harc]
  obtain ⟨hpolarity, -, -⟩ := h
  cases s.modes.arcTo? target with
  | none => exact primitive.interpolate_sideBySide _ _ hpolarity
  | some arc => exact primitive.strokeArc_sideBySide arc hpolarity

theorem drawTo_sideBySide (h : v.States s s') (hp : v.places p p') (target : Point α) :
    v.Reports v.States (s.drawTo target p) (s'.drawTo target p') := by
  have h' := h
  obtain ⟨hpolarity, hstops, hdrawing⟩ := h'
  unfold drawTo
  dsimp only
  split
  · exact .ok ⟨hpolarity, hstops, hdrawing⟩
  · exact strokeTo_sideBySide h hp target

theorem operation_sideBySide (h : v.States s s') (hp : v.places p p') (code : Nat)
    (target : Point α) :
    v.Reports v.States (s.operation code target p) (s'.operation code target p') := by
  have h' := h
  obtain ⟨hpolarity, hstops, hdrawing⟩ := h'
  unfold operation
  split
  · exact drawTo_sideBySide (s := { s with modes.toolOn := true })
      ⟨hpolarity, hstops, hdrawing⟩ hp target
  · exact .ok ⟨hpolarity, hstops, hdrawing⟩
  · exact flashAt_sideBySide (s := { s with modes.toolOn := false })
      ⟨hpolarity, hstops, hdrawing⟩ hp target
  · split
    · exact select_sideBySide h hp code
    · exact Variation.Reports.warn_bind (.ok h)

end State

/-! ### Blocks -/

/-- Two blocks whose states correspond, and that are otherwise the same. -/
inductive Variation.Blocks (v : Variation) (b : Block α) : Block α → Prop
  | mk {state : State α} (states : v.States b.state state) : Blocks v b { b with state }

namespace Block

variable {v : Variation} {b b' : Block α} {p p' : Nat}

theorem readCode_sideBySide (hp : v.places p p') (number : List Char) :
    v.Results Eq (readCode number p) (readCode number p') := by
  unfold readCode
  split
  · exact .ok rfl
  · exact .error hp

variable [Scalar α]

theorem readCoordinate_sideBySide (h : v.Blocks b b') (hp : v.places p p') (axis : Axis)
    (number : List Char) :
    v.Results Eq (b.readCoordinate axis number p) (b'.readCoordinate axis number p') := by
  obtain ⟨⟨-, -, -⟩⟩ := h
  exact .at hp _

theorem word_sideBySide (h : v.Blocks b b') (hp : v.places p p') (text : String) (w : Word) :
    v.Reports v.Blocks (b.word p text w) (b'.word p' text w) := by
  have h' := h
  obtain ⟨⟨hpolarity, hstops, hdrawing⟩⟩ := h'
  unfold word
  split
  case h_1 =>
    refine Variation.Reports.bind (R := Eq) (readCode_sideBySide hp _) ?_
    rintro code _ rfl
    split
    · exact .ok ⟨⟨hpolarity, hstops, hdrawing⟩⟩
    · refine (State.preparatory_sideBySide ⟨hpolarity, hstops, hdrawing⟩ code p p').bind ?_
      exact fun s s' hs ↦ .ok ⟨hs⟩
  case h_6 =>
    refine Variation.Reports.bind (R := Eq) (readCode_sideBySide hp _) ?_
    rintro code _ rfl
    refine (State.operation_sideBySide ⟨hpolarity, hstops, hdrawing⟩ hp code b.target).bind ?_
    exact fun s s' hs ↦ .ok ⟨hs⟩
  case h_7 => exact .ok h
  case h_8 =>
    refine Variation.Reports.bind (R := Eq) (readCode_sideBySide hp _) ?_
    rintro code _ rfl
    split
    · exact .ok ⟨⟨hpolarity, .some hp, hdrawing⟩⟩
    · exact Variation.Reports.warn_bind (.ok ⟨⟨hpolarity, hstops, hdrawing⟩⟩)
  case h_9 => exact Variation.Reports.warn_bind (.ok ⟨⟨hpolarity, hstops, hdrawing⟩⟩)
  -- coordinates and offsets
  all_goals
    refine Variation.Reports.bind (R := Eq) (readCoordinate_sideBySide h hp _ _) ?_
    rintro value _ rfl
    exact .ok ⟨⟨hpolarity, hstops, hdrawing⟩⟩

theorem words_sideBySide (h : v.Blocks b b') (hp : v.places p p') (text : String)
    (ws : List Word) : v.Reports v.Blocks (b.words p text ws) (b'.words p' text ws) := by
  induction ws generalizing b b' with
  | nil => exact .ok h
  | cons w ws ih =>
    refine (word_sideBySide h hp text w).bind fun b₁ b₁' h₁ ↦ ?_
    have hended : b₁'.ended = b₁.ended := by
      obtain ⟨-⟩ := h₁
      rfl
    rw [hended]
    split
    · exact .ok h₁
    · exact ih h₁

theorem finish_sideBySide (h : v.Blocks b b') (hp : v.places p p') :
    v.Reports v.States (b.finish p) (b'.finish p') := by
  obtain ⟨hstates⟩ := h
  have hplaced : ∀ s s' : State α, v.States s s' →
      v.Reports v.States (.ok { s with modes.position := b.target })
        (.ok { s' with modes.position := b.target }) := by
    rintro s _ ⟨hpolarity, hstops, hdrawing⟩
    exact .ok ⟨hpolarity, hstops, hdrawing⟩
  have hregion : ∀ s', v.States b.state s' → s'.modes.region? = b.state.modes.region? ∧
      s'.modes.toolOn = b.state.modes.toolOn := by
    rintro _ ⟨-, -, -⟩
    exact ⟨rfl, rfl⟩
  unfold finish
  rw [hstates.stopped, (hregion _ hstates).1, (hregion _ hstates).2]
  split
  · exact .ok hstates
  · split
    · exact (State.drawTo_sideBySide hstates hp b.target).bind hplaced
    · exact hplaced _ _ hstates

end Block

/-! ### Commands, steps and runs -/

namespace Registry

variable {v : Variation} {p p' : Nat}

theorem defineFrom_sideBySide (hp : v.places p p') (r : Registry) (command : String)
    (unit : LengthUnit) :
    v.Reports Eq (r.defineFrom command unit p) (r.defineFrom command unit p') := by
  unfold defineFrom
  split
  · exact .error hp
  next code template argsText _ =>
    refine Variation.Reports.bind (R := Eq) (.at hp _) ?_
    rintro args _ rfl
    refine Variation.Reports.bind (R := Eq) ?_ ?_
    · unfold resolve
      split
      · exact .ok rfl
      · refine Variation.Reports.bind (R := Eq) (.at hp _) ?_
        rintro ps _ rfl
        exact .ok rfl
      · split
        · exact Variation.Reports.warn_bind (.ok rfl)
        · exact .error hp
    · rintro primitives? _ rfl
      cases primitives? with
      | none => exact .ok rfl
      | some primitives =>
        refine Variation.Reports.bind (R := Eq) ?_ ?_
        · rw [Variation.Reports, define_result]
          exact .ok rfl
        · rintro r' _ rfl
          exact .ok rfl

end Registry

namespace State

variable {v : Variation} {s s' : State α} {p p' : Nat}

theorem setPolarity_sideBySide (h : v.States s s') (args : List Char) (command : String) :
    v.Reports v.States (s.setPolarity args command) (s'.setPolarity args command) := by
  have h' := h
  obtain ⟨-, hstops, hdrawing⟩ := h'
  unfold setPolarity
  split
  · exact .ok ⟨v.refl _, hstops, hdrawing⟩
  · exact .ok ⟨v.refl _, hstops, hdrawing⟩
  · exact Variation.Reports.warn_bind (.ok h)

theorem setUnit_sideBySide (h : v.States s s') (args : List Char) (command : String) :
    v.Reports v.States (s.setUnit args command) (s'.setUnit args command) := by
  have h' := h
  obtain ⟨hpolarity, hstops, hdrawing⟩ := h'
  unfold setUnit
  split
  · exact .ok ⟨hpolarity, hstops, hdrawing⟩
  · exact Variation.Reports.warn_bind (.ok h)

theorem extendedCommand_sideBySide (h : v.States s s') (hp : v.places p p') (command : String) :
    v.Reports v.States (s.extendedCommand command p) (s'.extendedCommand command p') := by
  have h' := h
  obtain ⟨hpolarity, hstops, hdrawing⟩ := h'
  unfold extendedCommand
  split
  · refine Variation.Reports.bind (R := Eq)
      (Registry.defineFrom_sideBySide hp s.registry command s.modes.unit) ?_
    rintro ⟨r, _⟩ _ rfl
    exact .ok ⟨hpolarity, hstops, hdrawing⟩
  · exact .ok ⟨hpolarity, hstops, hdrawing⟩
  · refine Variation.Reports.bind (R := Eq) (.at hp _) ?_
    rintro format _ rfl
    exact .ok ⟨hpolarity, hstops, hdrawing⟩
  · exact setPolarity_sideBySide h _ command
  · exact setUnit_sideBySide h _ command
  · split
    · exact Variation.Reports.warn_bind (.ok h)
    · split
      · exact .ok h
      · exact Variation.Reports.warn_bind (.ok h)

variable [Scalar α]

theorem block_sideBySide (h : v.States s s') (hp : v.places p p') (text : String) :
    v.Reports v.States (s.block text p) (s'.block text p') := by
  obtain ⟨hpolarity, hstops, hdrawing⟩ := h
  have hstart : v.Blocks (Block.start s) _ := ⟨⟨hpolarity, hstops, hdrawing⟩⟩
  exact (Block.words_sideBySide hstart hp text _).bind fun b b' hb ↦
    Block.finish_sideBySide hb hp

theorem step_sideBySide (h : v.States s s') (hp : v.places p p') (t : Token) :
    v.Reports v.States (s.step p t) (s'.step p' t) := by
  have h' := h
  obtain ⟨hpolarity, hstops, hdrawing⟩ := h'
  unfold step
  rw [h.stopped]
  split
  · exact .ok h
  · cases t with
    | toggle => exact .ok ⟨hpolarity, hstops, hdrawing⟩
    | command text =>
      unfold command
      dsimp only
      split
      · exact .ok ⟨hpolarity, hstops, hdrawing⟩
      · split
        · exact extendedCommand_sideBySide h hp text
        · exact block_sideBySide h hp text

/-- **Two runs go side by side.** The positions of the tokens have to correspond, one by one. -/
theorem runFrom_sideBySide (h : v.States s s') (tokens : List Token)
    (hp : ∀ i < tokens.length, v.places (p + i) (p' + i)) :
    v.Reports v.States (runFrom (.ok s) (tokens.zipIdx p))
      (runFrom (.ok s') (tokens.zipIdx p')) := by
  induction tokens generalizing s s' p p' with
  | nil => exact .ok h
  | cons t tokens ih =>
    rw [runFrom_cons, runFrom_cons]
    refine (step_sideBySide h (hp 0 (Nat.zero_lt_succ _)) t).bind fun s₁ s₁' h₁ ↦
      ih h₁ fun i hi ↦ ?_
    have hnext := hp (i + 1) (Nat.succ_lt_succ hi)
    rwa [Nat.add_comm i, ← Nat.add_assoc, ← Nat.add_assoc] at hnext

end State

end GerberMask.Gerber
