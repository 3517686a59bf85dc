import GerberMask.Proofs.Gerber.RegionContours

/-!
# Where the items of a document come from

Three kinds of actions add items to a drawing: a flash, a draw with no region open, and the closure
of a region. What they add is read off the state in which they happen (`State.drawn`): the
primitives of the selected aperture one after the other, or the contour that was collected.

A move adds what its action draws and nothing else (`Moment.drawing_of_next?`), so every item of an
interpretation was drawn at a moment of its execution, and whatever was drawn at one of its moments
is an item (`Moment.mem_items_iff`). A property of all items is therefore one of flashes, strokes
and contours.

Strokes and contours are always in order. So if something can be wrong with an item at all, it is
wrong with the shape of a primitive, and the documents with such an item are those that flash such a
primitive (`exists_flawed_iff`).
-/

namespace GerberMask.Gerber

variable {α : Type}

/-! ### What an action draws -/

/-- What moving a primitive from one place to another draws: along the arc, if there is one. -/
def Primitive.strokeAlong (p : Primitive) (start target : Point Float) (arc? : Option Arc)
    (polarity : Polarity) : Drawn :=
  match arc? with
  | some arc => p.strokeArc arc polarity
  | none => p.interpolate start target polarity

/-- The shape that a primitive has at a place, its hole apart. -/
def Primitive.shape? (p : Primitive) (place : Point Float) : Option Shape :=
  match p.standardShape? place with
  | some (shape, _) => some shape
  | none => (p.macroShape place).toOption

namespace State

/-- The primitives of the selected aperture; there are none as long as nothing is selected. -/
def tool (s : State α) : List Primitive :=
  (s.modes.aperture?.bind s.registry.get?).getD []

/-- What an action draws. Flashes are put at the given place. -/
def drawn (s : State α) (place : Point Float) : Action → List DrawItem
  | .flash => s.tool.flatMap fun p ↦ (p.flash place s.modes.polarity).items
  | .draw _ start target arc? =>
    if s.modes.region?.isSome then []
    else s.tool.flatMap fun p ↦ (p.strokeAlong start target arc? s.modes.polarity).items
  | .closeRegion =>
    (s.modes.region?.bind RegionContour.build).toList.map fun path ↦
      ⟨.outline path, s.modes.polarity⟩
  | _ => []

theorem tool_of_selected {s : State α} {position : Nat} {ps : List Primitive}
    (h : s.selected position = .ok ps) : s.tool = ps := by
  unfold selected at h
  rw [tool]
  split at h
  · cases h
  next code hcode =>
    split at h
    · cases h
    next hget =>
      cases h
      simp [hcode, hget]

theorem selected_of_mem_tool {s : State α} {p : Primitive} (h : p ∈ s.tool) (position : Nat) :
    s.selected position = .ok s.tool := by
  cases haperture : s.modes.aperture? with
  | none => simp [tool, haperture] at h
  | some code =>
    cases hget : s.registry.get? code with
    | none => simp [tool, haperture, hget] at h
    | some ps => simp [selected, tool, haperture, hget]

/-- An item that an action draws belongs to a flash, to a stroke or to a contour. -/
theorem drawn_cases {s : State α} {place : Point Float} {a : Action} {item : DrawItem}
    (h : item ∈ s.drawn place a) :
    (a = .flash ∧ ∃ p ∈ s.tool, item ∈ (p.flash place s.modes.polarity).items) ∨
    (∃ p start target arc? polarity,
      item ∈ (Primitive.strokeAlong p start target arc? polarity).items) ∨
    ∃ contour path, RegionContour.build contour = some path ∧ item.shape = .outline path := by
  cases a with
  | flash => exact .inl ⟨rfl, List.mem_flatMap.1 h⟩
  | draw repeated start target arc? =>
    rw [drawn] at h
    split at h
    · cases h
    · obtain ⟨p, -, hitem⟩ := List.mem_flatMap.1 h
      exact .inr (.inl ⟨p, start, target, arc?, _, hitem⟩)
  | closeRegion =>
    obtain ⟨path, hpath, rfl⟩ := List.mem_map.1 h
    obtain ⟨contour, -, hbuild⟩ := Option.bind_eq_some_iff.1 (Option.mem_toList.1 hpath)
    exact .inr (.inr ⟨contour, path, hbuild, rfl⟩)
  | _ => cases h

/-- Drawing with one primitive after the other adds the items of each. -/
theorem drawEach_drawing (s : State α) {draw : Primitive → Except GerberError Drawn}
    {f : Primitive → Drawn} (hf : ∀ p drawn, draw p = .ok drawn → drawn = f p)
    (ps : List Primitive) :
    (s.drawEach draw ps).Ensures fun s' ↦
      s'.drawing = (ps.flatMap fun p ↦ (f p).items).foldl Drawing.add s.drawing := by
  induction ps generalizing s with
  | nil => exact Report.ensures_pure rfl
  | cons p ps ih =>
    refine Report.Ensures.bind (P := fun drawn ↦ drawn = f p) (fun drawn hdrawn ↦ hf p drawn hdrawn)
      ?_
    rintro _ rfl
    refine Report.Ensures.bind
      (P := fun s' ↦ s'.drawing = (f p).items.foldl Drawing.add s.drawing) ?_ fun s' hs' ↦ ?_
    · rintro _ ⟨⟩
      rfl
    · refine (ih s').mono fun s'' hs'' ↦ ?_
      rw [hs'', hs', List.flatMap_cons, List.foldl_append]

theorem flashOne_eq_ok {place : Point Float} {polarity : Polarity} {position : Nat}
    {p : Primitive} {drawn : Drawn} (h : flashOne place polarity position p = .ok drawn) :
    drawn = p.flash place polarity := by
  unfold flashOne at h
  split at h
  · cases h
  · cases h
    rfl

variable [Scalar α]

theorem flashAt_drawing (s : State α) (target : Point α) (position : Nat) :
    (s.flashAt target position).Ensures fun s' ↦
      s'.drawing = (s.drawn (target.map Scalar.toFloat) .flash).foldl Drawing.add s.drawing := by
  refine Report.Ensures.bind (P := fun ps ↦ s.tool = ps) (fun ps hps ↦ tool_of_selected hps) ?_
  rintro _ rfl
  exact drawEach_drawing s (fun _ _ ↦ flashOne_eq_ok) s.tool

theorem strokeTo_drawing (s : State α) (target : Point α) (position : Nat) :
    (s.strokeTo target position).Ensures fun s' ↦
      s'.drawing = (s.tool.flatMap fun p ↦ (p.strokeAlong (s.modes.position.map Scalar.toFloat)
        (target.map Scalar.toFloat) (s.modes.arcTo? target) s.modes.polarity).items).foldl
          Drawing.add s.drawing := by
  refine Report.Ensures.bind (P := fun ps ↦ s.tool = ps) (fun ps hps ↦ tool_of_selected hps) ?_
  rintro _ rfl
  refine drawEach_drawing s (fun p drawn h ↦ ?_) s.tool
  cases h
  unfold Primitive.strokeAlong
  split <;> simp_all

theorem drawTo_drawing (s : State α) (target : Point α) (position : Nat) (repeated : Bool)
    (place : Point Float) :
    (s.drawTo target position).Ensures fun s' ↦
      s'.drawing = (s.drawn place (s.drawAction repeated target)).foldl Drawing.add s.drawing := by
  rw [drawTo]
  split
  next contour hregion =>
    refine Report.ensures_pure ?_
    rw [drawAction, drawn, if_pos (by simp [hregion])]
    rfl
  next hregion =>
    rw [drawAction, drawn, if_neg (by simp [hregion])]
    exact strokeTo_drawing s target position

end State

/-! ### What a move draws -/

variable [Scalar α]

namespace Block

theorem word_result_operation (b : Block α) {number : List Char} {code : Nat}
    (h : readWord? 32 number = some code) (position : Nat) (text : String) :
    (b.word position text ⟨'D', number⟩).result =
      (b.state.operation code b.target position).result.map fun s ↦
        { b with state := s, pending := b.pending && 10 ≤ code } := by
  rw [b.word_operation h, ← map_eq_pure_bind, Report.result_map]

/-- A word adds what its action draws. -/
theorem word_drawing (position : Nat) (text : String) (b : Block α) (w : Word) :
    (b.word position text w).Ensures fun b' ↦
      b'.state.drawing =
        ((b.wordActions w).flatMap (b.state.drawn (b.target.map Scalar.toFloat))).foldl
          Drawing.add b.state.drawing := by
  intro b' hb'
  have hfollows := b.word_follows position text w b' hb'
  have hdoes := b.does_wordActions w
  generalize b.wordActions w = as at hdoes hfollows
  cases hdoes with
  | closeRegion hcode =>
    rw [b.word_result_preparatory hcode (by decide)] at hb'
    obtain ⟨s, hs, rfl⟩ := Report.map_eq_ok.1 hb'
    rw [show b.state.preparatory 37 position = b.state.closeRegion from rfl,
      State.closeRegion_result] at hs
    cases hs
    simp only [List.flatMap_singleton, State.drawn]
    cases b.state.modes.region?.bind RegionContour.build <;> rfl
  | draw hcode =>
    rw [b.word_result_operation hcode] at hb'
    obtain ⟨s, hs, rfl⟩ := Report.map_eq_ok.1 hb'
    rw [List.flatMap_singleton]
    exact State.drawTo_drawing { b.state with modes.toolOn := true } b.target position false
      (b.target.map Scalar.toFloat) s hs
  | flash hcode =>
    rw [b.word_result_operation hcode] at hb'
    obtain ⟨s, hs, rfl⟩ := Report.map_eq_ok.1 hb'
    rw [List.flatMap_singleton]
    exact State.flashAt_drawing { b.state with modes.toolOn := false } b.target position s hs
  -- the other actions draw nothing
  | _ => exact hfollows.drawing rfl

/-- Completing a block adds what a repeated draw draws. -/
theorem finish_drawing (b : Block α) (position : Nat) :
    (b.finish position).Ensures fun s ↦
      s.drawing =
        (b.lastActions.flatMap (b.state.drawn (b.target.map Scalar.toFloat))).foldl Drawing.add
          b.state.drawing := by
  rw [finish]
  unfold lastActions
  split
  next hstop =>
    simp only [Option.isNone_eq_false_iff.2 hstop, Bool.false_and]
    exact Report.ensures_pure rfl
  next hrunning =>
    have hrunning : b.state.modes.stoppedAt?.isNone = true := by simpa using hrunning
    rw [hrunning, Bool.true_and]
    split
    · rw [List.flatMap_singleton]
      exact (State.drawTo_drawing b.state b.target position true _).bind fun s hs ↦
        Report.ensures_pure hs
    · exact Report.ensures_pure rfl

end Block

namespace Moment

/-- What the next move draws. -/
def drawn (m : Moment α) : List DrawItem :=
  match m with
  | between _ _ _ => []
  | inside b _ _ _ _ => m.actions.flatMap (b.state.drawn (b.target.map Scalar.toFloat))

/-- **A move adds what its action draws.** -/
theorem drawing_of_next? {m m' : Moment α} (h : m.next? = some (.ok m')) :
    m'.state.drawing = m.drawn.foldl Drawing.add m.state.drawing := by
  have hfollows := follows_of_next? h
  cases next?_eq_ok_iff.1 h with
  | begin => rfl
  | @step s s' position t rest running other done =>
    refine hfollows.drawing ?_
    rw [actions]
    cases s.definition? position t <;> rfl
  | word done => exact Block.word_drawing _ _ _ _ _ done
  | finish done => exact Block.finish_drawing _ _ _ done

/-! ### What an execution draws -/

theorem items_foldl_add (items : List DrawItem) (d : Drawing) :
    (items.foldl Drawing.add d).items.toList = d.items.toList ++ items := by
  induction items generalizing d with
  | nil => simp
  | cons item items ih => simp [ih, Drawing.add]

theorem mem_items_of_next? {m m' : Moment α} (h : m.next? = some (.ok m')) {item : DrawItem} :
    item ∈ m'.state.drawing.items ↔ item ∈ m.state.drawing.items ∨ item ∈ m.drawn := by
  rw [drawing_of_next? h, ← Array.mem_toList_iff, items_foldl_add, List.mem_append,
    Array.mem_toList_iff]

/-- What was drawn stays. -/
theorem Leads.mem_items {m m' : Moment α} {as : List Action} (h : Leads m as m')
    {item : DrawItem} (hitem : item ∈ m.state.drawing.items) : item ∈ m'.state.drawing.items := by
  induction h with
  | refl => exact hitem
  | cons move _ ih => exact ih ((mem_items_of_next? move).2 (.inl hitem))

/-- What is drawn in the end was there at first or was drawn on the way. -/
theorem Leads.exists_drawn {m m' : Moment α} {as : List Action} (h : Leads m as m')
    {item : DrawItem} (hitem : item ∈ m'.state.drawing.items) :
    item ∈ m.state.drawing.items ∨ ∃ as₁ m₀, Leads m as₁ m₀ ∧ item ∈ m₀.drawn := by
  induction h with
  | refl => exact .inl hitem
  | @cons m m₁ m' as move _ ih =>
    obtain hbefore | ⟨as₁, m₀, hlead, hdrawn⟩ := ih hitem
    · obtain hfirst | hdrawn := (mem_items_of_next? move).1 hbefore
      · exact .inl hfirst
      · exact .inr ⟨[], m, .refl m, hdrawn⟩
    · exact .inr ⟨_, m₀, .cons move hlead, hdrawn⟩

/-- Executions do not branch: what a moment leads to lies on the way to the end. -/
theorem Leads.to_end {m m₀ m' : Moment α} {as as' : List Action} (h : Leads m as m₀)
    (h' : Leads m as' m') (hend : m'.next? = none) : ∃ as'', Leads m₀ as'' m' := by
  induction h generalizing as' with
  | refl => exact ⟨as', h'⟩
  | cons move _ ih =>
    cases h' with
    | refl => rw [hend] at move; cases move
    | cons move' rest' =>
      rw [move] at move'
      cases move'
      exact ih rest'

/-- Only a block draws. -/
theorem next?_isSome_of_drawn {m : Moment α} {item : DrawItem} (h : item ∈ m.drawn) :
    m.next? ≠ none := by
  rintro hend
  obtain ⟨s, position, rest, rfl, -⟩ := next?_eq_none_iff.1 hend
  cases h

/-- **The items of an interpretation are what the moments of its execution draw.** -/
theorem mem_items_iff {source : String} {bounds : Bounds} {i : Interpretation}
    (h : (interpretOver α source bounds).result = .ok i) {item : DrawItem} :
    item ∈ i.items ↔ ∃ as, ∃ m : Moment α, (start source bounds).Leads as m ∧ item ∈ m.drawn := by
  obtain ⟨as, m, hlead, hend, rfl⟩ := interpretOver_eq_ok_iff.1 h
  constructor
  · intro hitem
    obtain hfirst | hdrawn := hlead.exists_drawn hitem
    · exact absurd hfirst (Array.not_mem_empty item)
    · exact hdrawn
  · rintro ⟨as₁, m₀, hlead₀, hdrawn⟩
    obtain ⟨as₂, hrest⟩ := hlead₀.to_end hlead hend
    cases hrest with
    | refl => exact absurd hend (next?_isSome_of_drawn hdrawn)
    | cons move hrest => exact hrest.mem_items ((mem_items_of_next? move).2 (.inr hdrawn))

end Moment

/-! ### Flashed primitives -/

variable (α) in
/-- A document flashes a primitive: in its execution there is a flash with an aperture that holds
it. -/
def Flashes (source : String) (bounds : Bounds) (p : Primitive) : Prop :=
  ∃ as, ∃ m : Moment α, (Moment.start source bounds).Leads as m ∧ m.actions = [.flash] ∧
    p ∈ m.state.tool

namespace Moment

/-- Only a D word flashes. -/
theorem actions_eq_flash_iff {m : Moment α} :
    m.actions = [.flash] ↔
      ∃ b number words text position rest,
        m = inside b (⟨'D', number⟩ :: words) text position rest ∧
        readWord? 32 number = some 3 := by
  constructor
  · intro h
    have hdoes := m.does_actions
    rw [h] at hdoes
    cases hdoes with
    | word hword =>
      cases hword with
      | flash hcode => exact ⟨_, _, _, _, _, _, rfl, hcode⟩
  · rintro ⟨b, number, words, text, position, rest, rfl, hcode⟩
    exact Block.wordActions_operation b hcode

/-- What a move draws belongs to its flash, to a stroke or to a contour. -/
theorem drawn_cases {m : Moment α} {item : DrawItem} (h : item ∈ m.drawn) :
    (m.actions = [.flash] ∧ ∃ p ∈ m.state.tool, ∃ place polarity,
      item ∈ (p.flash place polarity).items) ∨
    (∃ p start target arc? polarity,
      item ∈ (Primitive.strokeAlong p start target arc? polarity).items) ∨
    ∃ contour path, RegionContour.build contour = some path ∧ item.shape = .outline path := by
  match m with
  | between s position rest => cases h
  | inside b words text position rest =>
    obtain ⟨a, ha, hitem⟩ := List.mem_flatMap.1 h
    obtain ⟨rfl, p, hp, hflash⟩ | hother := State.drawn_cases hitem
    · refine .inl ⟨?_, p, hp, _, _, hflash⟩
      obtain hnone | ⟨a, hone⟩ := (inside b words text position rest).actions_eq
      · rw [hnone] at ha
        cases ha
      · rw [hone] at ha ⊢
        rw [List.mem_singleton.1 ha]
    · exact .inr hother

end Moment

/-! ### Flaws of items -/

namespace Primitive

/-- Strokes are made of paths and, at the ends of a rectangle's, of rectangles, all of the given
polarity. -/
theorem of_mem_strokeAlong {p : Primitive} {start target : Point Float} {arc? : Option Arc}
    {polarity : Polarity} {item : DrawItem}
    (h : item ∈ (p.strokeAlong start target arc? polarity).items) :
    item.polarity = polarity ∧
      ((∃ path width cap, item.shape = .stroke path width cap) ∨
        ∃ center width height, item.shape = .rectangle center width height) := by
  unfold strokeAlong at h
  split at h
  · unfold strokeArc at h
    split at h
    · cases h
    · rw [List.mem_singleton.1 h]
      exact ⟨rfl, .inl ⟨_, _, _, rfl⟩⟩
  · unfold interpolate at h
    split at h
    · rw [List.mem_singleton.1 h]
      exact ⟨rfl, .inl ⟨_, _, _, rfl⟩⟩
    · simp only [Drawn.ofItems, List.mem_cons, List.not_mem_nil, or_false] at h
      obtain rfl | rfl | rfl := h
      · exact ⟨rfl, .inl ⟨_, _, _, rfl⟩⟩
      · exact ⟨rfl, .inr ⟨_, _, _, rfl⟩⟩
      · exact ⟨rfl, .inr ⟨_, _, _, rfl⟩⟩
    · cases h

/-- A flash draws the shape of the primitive, and holes. -/
theorem exists_mem_flash_iff {flawed : Shape → Prop}
    (hellipse : ∀ center width height, ¬ flawed (.ellipse center width height)) {p : Primitive}
    {place : Point Float} (polarity : Polarity) :
    (∃ item ∈ (p.flash place polarity).items, flawed item.shape) ↔
      ∃ shape, p.shape? place = some shape ∧ flawed shape := by
  have hsingle : ∀ (shape : Shape) (polarity' : Polarity) (hole : List DrawItem),
      (∀ item ∈ hole, ¬ flawed item.shape) →
      ((∃ item ∈ ⟨shape, polarity'⟩ :: hole, flawed item.shape) ↔ flawed shape) := by
    intro shape polarity' hole hhole
    rw [List.exists_mem_cons_iff]
    exact or_iff_left fun ⟨item, hmem, hitem⟩ ↦ hhole item hmem hitem
  rw [flash, shape?]
  cases p.standardShape? place with
  | some standard =>
    obtain ⟨shape, holeIndex⟩ := standard
    simp only [Drawn.ofItems, Option.some.injEq, exists_eq_left']
    refine hsingle _ _ _ fun item hmem ↦ ?_
    split at hmem
    · split at hmem
      · rw [List.mem_singleton.1 hmem]
        exact hellipse _ _ _
      · cases hmem
    · cases hmem
  | none =>
    cases p.macroShape place with
    | error w => simp [Drawn.skip, Except.toOption]
    | ok shape =>
      simp only [Drawn.ofItems, Except.toOption, Option.some.injEq, exists_eq_left']
      exact hsingle _ _ [] fun item hmem ↦ by cases hmem

end Primitive

section

variable {source : String} {bounds : Bounds} {i : Interpretation}

/-- **A flaw that only shapes of flashes can have is one of flashed primitives.** Whether a
primitive has it must not depend on the place. -/
theorem exists_flawed_iff (flawed : Shape → Prop) (flawedFlash : Primitive → Prop)
    (hellipse : ∀ center width height, ¬ flawed (.ellipse center width height))
    (hrectangle : ∀ center width height, ¬ flawed (.rectangle center width height))
    (hstroke : ∀ path width cap, ¬ flawed (.stroke path width cap))
    (hcontour : ∀ contour path, RegionContour.build contour = some path → ¬ flawed (.outline path))
    (hflash : ∀ (p : Primitive) place,
      (∃ shape, p.shape? place = some shape ∧ flawed shape) ↔ flawedFlash p)
    (h : (interpretOver α source bounds).result = .ok i) :
    (∃ item ∈ i.items, flawed item.shape) ↔ ∃ p, Flashes α source bounds p ∧ flawedFlash p := by
  constructor
  · rintro ⟨item, hitem, hflawed⟩
    obtain ⟨as, m, hlead, hdrawn⟩ := (Moment.mem_items_iff h).1 hitem
    obtain ⟨hactions, p, hp, place, polarity, hmem⟩ | ⟨p, start, target, arc?, polarity, hmem⟩ |
      ⟨contour, path, hbuild, hshape⟩ := Moment.drawn_cases hdrawn
    · refine ⟨p, ⟨as, m, hlead, hactions, hp⟩, (hflash p place).1 ?_⟩
      exact (Primitive.exists_mem_flash_iff hellipse polarity).1 ⟨item, hmem, hflawed⟩
    · obtain ⟨-, ⟨path, width, cap, hshape⟩ | ⟨center, width, height, hshape⟩⟩ :=
        Primitive.of_mem_strokeAlong hmem
      · rw [hshape] at hflawed
        exact absurd hflawed (hstroke path width cap)
      · rw [hshape] at hflawed
        exact absurd hflawed (hrectangle center width height)
    · rw [hshape] at hflawed
      exact absurd hflawed (hcontour contour path hbuild)
  · rintro ⟨p, ⟨as, m, hlead, hactions, hp⟩, hflawed⟩
    obtain ⟨b, number, words, text, position, rest, rfl, hcode⟩ :=
      Moment.actions_eq_flash_iff.1 hactions
    obtain ⟨item, hmem, hitem⟩ :=
      (Primitive.exists_mem_flash_iff hellipse b.state.modes.polarity).2
        ((hflash p (b.target.map Scalar.toFloat)).2 hflawed)
    refine ⟨item, (Moment.mem_items_iff h).2 ⟨as, _, hlead, ?_⟩, hitem⟩
    rw [Moment.drawn, hactions, List.flatMap_singleton]
    exact List.mem_flatMap.2 ⟨p, hp, hmem⟩

end

end GerberMask.Gerber
