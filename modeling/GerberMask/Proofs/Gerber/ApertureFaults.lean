import GerberMask.Proofs.Gerber.EarlyBinding

/-!
# Faults for want of an aperture

Two faults are about apertures: a code without a definition, and nothing selected. An action meets
such a fault in a state as `State.apertureFault?` says, and a move ends in one exactly if its action
meets it (`Moment.next?_eq_apertureFault_iff`); every other failure of a move is about a number, a
macro or a polygon.

In a state that an execution reaches, the selected aperture is a defined one
(`Moment.Leads.selected`): it was defined when it was selected, and codes stay. So only a selection
can meet the first fault, and only if its code was never defined, and the second is met by the
actions that use an aperture, as long as none was ever selected.
-/

namespace GerberMask.Gerber

variable {α β : Type}

/-- Whether a fault is the want of an aperture. -/
def Fault.isAboutAperture : Fault → Bool
  | undefinedAperture _ | noApertureSelected => true
  | _ => false

namespace State

/-- The fault that the use of the selected aperture meets. -/
def useFault? (s : State α) : Option Fault :=
  match s.modes.aperture? with
  | none => some .noApertureSelected
  | some code => if s.registry.contains code then none else some (.undefinedAperture code)

/-- The fault that an action meets for want of an aperture. -/
def apertureFault? (s : State α) (a : Action) : Option Fault :=
  match a with
  | .select code => if s.registry.contains code then none else some (.undefinedAperture code)
  | _ => if a.usesAperture s.modes.region? then s.useFault? else none

end State

/-! ### Computations that meet such faults -/

namespace Report

/-- For want of an aperture, a computation ends in the given fault, if there is one. -/
def FaultsAs (r : Report GerberError β) (fault? : Option Fault) (position : Nat) : Prop :=
  ∀ f p, f.isAboutAperture → (r.result = .error ⟨f, p⟩ ↔ fault? = some f ∧ p = position)

variable {γ : Type} {r : Report GerberError β} {fault? : Option Fault} {position : Nat}

theorem faultsAs_of_ok {b : β} (h : r.result = .ok b) : r.FaultsAs none position := by
  intro f p hf
  simp [h]

theorem faultsAs_of_error {e : GerberError} (h : r.result = .error e)
    (he : e.fault.isAboutAperture = false) : r.FaultsAs none position := by
  intro f p hf
  rw [h]
  constructor
  · rintro ⟨⟩
    rw [hf] at he
    cases he
  · rintro ⟨⟨⟩, -⟩

theorem faultsAs_error (f : Fault) (position : Nat) :
    (error ⟨f, position⟩ : Report GerberError β).FaultsAs (some f) position := by
  intro f' p hf
  simp [eq_comm]

/-- What follows a computation has no part in its faults if it meets none itself. -/
theorem FaultsAs.bind {g : β → Report GerberError γ} (hr : r.FaultsAs fault? position)
    (hg : ∀ b, r.result = .ok b → (g b).FaultsAs none position) :
    (r >>= g).FaultsAs fault? position := by
  intro f p hf
  rw [← hr f p hf, result_bind]
  cases hresult : r.result with
  | error e =>
    show (Except.error e : Except GerberError γ) = _ ↔ _
    simp
  | ok b =>
    refine iff_of_false (fun h ↦ ?_) (by simp)
    exact absurd ((hg b hresult f p hf).1 h).1 (by simp)

/-- What comes before a computation has no part in its faults if it cannot fail. -/
theorem FaultsAs.of_ok_bind {g : β → Report GerberError γ} {b : β} (hr : r.result = .ok b)
    (hg : (g b).FaultsAs fault? position) : (r >>= g).FaultsAs fault? position := by
  intro f p hf
  rw [← hg f p hf, result_bind, hr]
  rfl

/-- A malformed number is no such fault. -/
theorem faultsAs_of_malformed {x : Except MalformedNumber β} {p : Nat}
    (h : r.result = x.mapError (·.at p)) : r.FaultsAs none position := by
  cases x with
  | error e => exact faultsAs_of_error h rfl
  | ok b => exact faultsAs_of_ok h

end Report

/-! ### Operations -/

theorem Registry.contains_eq (r : Registry) (code : Nat) :
    r.contains code = (r.get? code).isSome := rfl

namespace State

theorem selected_faults (s : State α) (position : Nat) :
    (Report.ofExcept (s.selected position)).FaultsAs s.useFault? position := by
  cases haperture : s.modes.aperture? with
  | none =>
    simp only [selected, useFault?, haperture]
    exact Report.faultsAs_error _ _
  | some code =>
    cases hget : s.registry.get? code with
    | none =>
      simp only [selected, useFault?, haperture, Registry.contains_eq, hget, Option.isSome_none,
        Bool.false_eq_true, if_false]
      exact Report.faultsAs_error _ _
    | some primitives =>
      simp only [selected, useFault?, haperture, Registry.contains_eq, hget, Option.isSome_some,
        if_true]
      exact Report.faultsAs_of_ok rfl

theorem drawEach_faults (s : State α) {draw : Primitive → Except GerberError Drawn}
    (hdraw : ∀ p e, draw p = .error e → e.fault.isAboutAperture = false) (ps : List Primitive)
    (position : Nat) : (s.drawEach draw ps).FaultsAs none position := by
  induction ps generalizing s with
  | nil => exact Report.faultsAs_of_ok rfl
  | cons p ps ih =>
    rw [drawEach]
    cases hp : draw p with
    | error e => exact Report.faultsAs_of_error rfl (hdraw p e hp)
    | ok drawn =>
      refine Report.FaultsAs.of_ok_bind rfl ?_
      exact Report.FaultsAs.of_ok_bind (addDrawn_result s drawn) (ih _)

theorem flashOne_error {place : Point Float} {polarity : Polarity} {position : Nat} {p : Primitive}
    {e : GerberError} (h : flashOne place polarity position p = .error e) :
    e.fault.isAboutAperture = false := by
  unfold flashOne at h
  split at h
  · cases h
    rfl
  · cases h

variable [Scalar α]

theorem flashAt_faults (s : State α) (target : Point α) (position : Nat) :
    (s.flashAt target position).FaultsAs s.useFault? position :=
  (selected_faults s position).bind fun primitives _ ↦
    drawEach_faults s (fun _ _ ↦ flashOne_error) primitives position

theorem drawTo_faults (s : State α) (target : Point α) (position : Nat) (repeated : Bool) :
    (s.drawTo target position).FaultsAs (s.apertureFault? (s.drawAction repeated target))
      position := by
  rw [drawTo]
  split
  next contour hregion =>
    simp only [apertureFault?, drawAction, Action.usesAperture, hregion]
    exact Report.faultsAs_of_ok rfl
  next hregion =>
    simp only [apertureFault?, drawAction, Action.usesAperture, hregion]
    refine (selected_faults s position).bind fun primitives _ ↦ ?_
    refine drawEach_faults s (fun p e h ↦ ?_) primitives position
    cases h

theorem operation_faults (s : State α) (code : Nat) (target : Point α) (position : Nat) :
    (s.operation code target position).FaultsAs
      ((s.operationActions code target).findSome? s.apertureFault?) position := by
  unfold operation
  split
  · show Report.FaultsAs _ ([s.drawAction false target].findSome? _) position
    rw [List.findSome?_singleton]
    exact drawTo_faults { s with modes.toolOn := true } target position false
  · exact Report.faultsAs_of_ok rfl
  · show Report.FaultsAs _ ([.flash].findSome? s.apertureFault?) position
    rw [List.findSome?_singleton]
    exact flashAt_faults { s with modes.toolOn := false } target position
  next hdraw hmove hflash =>
    rw [operationActions_of_ne s target hdraw hmove hflash]
    split
    · rw [select, List.findSome?_singleton, apertureFault?]
      split
      · exact Report.faultsAs_of_ok rfl
      · exact Report.faultsAs_error _ _
    · exact Report.faultsAs_of_ok rfl

end State

/-! ### Blocks -/

namespace Block

variable [Scalar α]

theorem readCode_eq_error {number : List Char} {position : Nat} {e : GerberError}
    (h : readCode number position = .error e) :
    readWord? 32 number = none ∧ e.fault.isAboutAperture = false := by
  unfold readCode at h
  split at h
  · cases h
  next hread =>
    cases h
    exact ⟨hread, rfl⟩

theorem readCode_faults (number : List Char) (place position : Nat) :
    (Report.ofExcept (readCode number place)).FaultsAs none position := by
  cases h : readCode number place with
  | error e => exact Report.faultsAs_of_error rfl (readCode_eq_error h).2
  | ok code => exact Report.faultsAs_of_ok rfl

theorem word_faults (position : Nat) (text : String) (b : Block α) (w : Word) :
    (b.word position text w).FaultsAs ((b.wordActions w).findSome? b.state.apertureFault?)
      position := by
  obtain ⟨letter, number⟩ := w
  unfold word
  split
  case h_1 hletter =>
    obtain rfl : letter = 'G' := hletter
    have hnone : (b.wordActions ⟨'G', number⟩).findSome? b.state.apertureFault? = none := by
      have hdoes := b.does_wordActions ⟨'G', number⟩
      generalize b.wordActions ⟨'G', number⟩ = as at hdoes
      cases hdoes <;> rfl
    rw [hnone]
    refine (readCode_faults _ _ _).bind fun code _ ↦ ?_
    split
    · exact Report.faultsAs_of_ok rfl
    · obtain ⟨s, hs⟩ := State.preparatory_ok b.state code position
      exact Report.FaultsAs.of_ok_bind hs (Report.faultsAs_of_ok rfl)
  case h_6 hletter =>
    obtain rfl : letter = 'D' := hletter
    cases hcode : readCode number position with
    | error e =>
      obtain ⟨hread, he⟩ := readCode_eq_error hcode
      have hactions : b.wordActions ⟨'D', number⟩ = [] := by
        simp [wordActions, hread]
      rw [hactions]
      exact Report.faultsAs_of_error rfl he
    | ok code =>
      rw [wordActions_operation b (readCode_eq_ok_iff.1 hcode)]
      refine Report.FaultsAs.of_ok_bind rfl ?_
      exact (State.operation_faults b.state code b.target position).bind fun s _ ↦
        Report.faultsAs_of_ok rfl
  all_goals
    rw [wordActions_of_ne b (by simp_all) (by simp_all)]
  case h_7 => exact Report.faultsAs_of_ok rfl
  case h_8 =>
    refine (readCode_faults _ _ _).bind fun code _ ↦ ?_
    split
    · exact Report.faultsAs_of_ok rfl
    · exact Report.faultsAs_of_ok rfl
  case h_9 => exact Report.faultsAs_of_ok rfl
  -- coordinates and offsets
  all_goals
    exact (Report.faultsAs_of_malformed rfl).bind fun v _ ↦ Report.faultsAs_of_ok rfl

theorem finish_faults (b : Block α) (position : Nat) :
    (b.finish position).FaultsAs (b.lastActions.findSome? b.state.apertureFault?) position := by
  rw [finish]
  unfold lastActions
  split
  next hstop =>
    simp only [Option.isNone_eq_false_iff.2 hstop, Bool.false_and]
    exact Report.faultsAs_of_ok rfl
  next hrunning =>
    have hrunning : b.state.modes.stoppedAt?.isNone = true := by simpa using hrunning
    rw [hrunning, Bool.true_and]
    split
    · rw [List.findSome?_singleton]
      exact (State.drawTo_faults b.state b.target position true).bind fun s _ ↦
        Report.faultsAs_of_ok rfl
    · exact Report.faultsAs_of_ok rfl

end Block

/-! ### Extended commands -/

theorem Registry.defineFrom_faults (r : Registry) (command : String) (unit : LengthUnit)
    (place position : Nat) : (r.defineFrom command unit place).FaultsAs none position := by
  unfold defineFrom
  split
  · exact Report.faultsAs_of_error rfl rfl
  · refine (Report.faultsAs_of_malformed rfl).bind fun args _ ↦ ?_
    refine Report.FaultsAs.bind ?_ fun primitives? _ ↦ ?_
    · unfold resolve
      split
      · exact Report.faultsAs_of_ok rfl
      · exact (Report.faultsAs_of_malformed rfl).bind fun ps _ ↦ Report.faultsAs_of_ok rfl
      · split
        · exact Report.faultsAs_of_ok rfl
        · exact Report.faultsAs_of_error rfl rfl
    · cases primitives? with
      | none => exact Report.faultsAs_of_ok rfl
      | some primitives =>
        exact Report.FaultsAs.of_ok_bind (define_result _ _ _) (Report.faultsAs_of_ok rfl)

namespace State

theorem extendedCommand_faults (s : State α) (command : String) (place position : Nat) :
    (s.extendedCommand command place).FaultsAs none position := by
  unfold extendedCommand
  split
  · exact (Registry.defineFrom_faults _ _ _ _ _).bind fun d _ ↦ Report.faultsAs_of_ok rfl
  · exact Report.faultsAs_of_ok rfl
  · exact (Report.faultsAs_of_malformed rfl).bind fun format _ ↦ Report.faultsAs_of_ok rfl
  · unfold setPolarity
    dsimp only
    split <;> exact Report.faultsAs_of_ok rfl
  · unfold setUnit
    dsimp only
    split <;> exact Report.faultsAs_of_ok rfl
  · split
    · exact Report.faultsAs_of_ok rfl
    · split <;> exact Report.faultsAs_of_ok rfl

variable [Scalar α]

theorem step_faults {s : State α} {t : Token} (other : s.blockText? t = none)
    (place position : Nat) : (s.step place t).FaultsAs none position := by
  rw [step.eq_def]
  split
  · exact Report.faultsAs_of_ok rfl
  · cases t with
    | toggle => exact Report.faultsAs_of_ok rfl
    | command text =>
      dsimp only
      rw [command]
      split
      · exact Report.faultsAs_of_ok rfl
      next hopen =>
        have hextended : s.modes.extended = true := by simpa [blockText?, hopen] using other
        rw [if_pos hextended]
        exact extendedCommand_faults s text place position

end State

/-! ### Moves -/

variable [Scalar α]

namespace Moment

/-- **A move ends for want of an aperture exactly if its action meets that fault.** -/
theorem next?_eq_apertureFault_iff {m : Moment α} {f : Fault} {p : Nat}
    (hf : f.isAboutAperture) :
    m.next? = some (.error ⟨f, p⟩) ↔
      m.actions.findSome? m.state.apertureFault? = some f ∧ p = m.position := by
  match m with
  | between s position [] => simp [next?, actions]
  | between s position (t :: rest) =>
    have hnone : (between s position (t :: rest)).actions.findSome? s.apertureFault? = none := by
      rw [actions]
      cases s.definition? position t <;> rfl
    refine iff_of_false (fun h ↦ ?_) fun h ↦ ?_
    · cases next?_eq_error_iff.1 h with
      | step _ other failed =>
        cases ((State.step_faults other position position f p hf).1 failed).1
    · cases hnone.symm.trans h.1
  | inside b [] text position rest =>
    rw [next?, Option.some.injEq, Report.map_eq_error]
    exact b.finish_faults position f p hf
  | inside b (w :: words) text position rest =>
    rw [next?, Option.some.injEq, Report.map_eq_error]
    exact b.word_faults position text w f p hf

/-- Only a D word selects, and its number is the code. -/
theorem actions_eq_select_iff {m : Moment α} {code : Nat} :
    m.actions = [.select code] ↔
      ∃ b w words text position rest, m = inside b (w :: words) text position rest ∧
        w.letter = 'D' ∧ readWord? 32 w.number = some code ∧ 10 ≤ code := by
  constructor
  · intro h
    have hdoes := m.does_actions
    rw [h] at hdoes
    cases hdoes with
    | word hword =>
      cases hword with
      | select hcode hleast => exact ⟨_, _, _, _, _, _, rfl, rfl, hcode, hleast⟩
  · rintro ⟨b, ⟨letter, number⟩, words, text, position, rest, rfl, rfl, hcode, hleast⟩
    rw [actions, Block.wordActions_operation b hcode,
      State.operationActions_of_ne _ _ (by omega) (by omega) (by omega), if_pos hleast]

/-! ### The selected aperture -/

theorem contains_onTable {apertures : Table Nat (List Primitive)} {code : Nat}
    (h : apertures.contains code) (a : Action) : (a.onTable apertures).contains code := by
  cases a with
  | define c primitives =>
    show (apertures.insert c primitives).contains code
    simp [Table.contains_insert, h]
  | _ => exact h

theorem contains_foldl_onTable {apertures : Table Nat (List Primitive)} {code : Nat}
    (h : apertures.contains code) (as : List Action) :
    (as.foldl Action.onTable apertures).contains code := by
  induction as generalizing apertures with
  | nil => exact h
  | cons a as ih => exact ih (contains_onTable h a)

/-- Codes stay. -/
theorem Leads.contains {m m' : Moment α} {as : List Action} (h : Leads m as m') {code : Nat}
    (hcode : m.state.registry.contains code) : m'.state.registry.contains code := by
  rw [Registry.contains, h.follows.apertures]
  exact contains_foldl_onTable hcode as

/-- A selection that does not fail selects a code that is defined. -/
theorem contains_of_select {m m' : Moment α} (h : m.next? = some (.ok m')) {code : Nat}
    (hselect : m.actions = [.select code]) : m.state.registry.contains code := by
  by_contra hcode
  have hfault : m.next? = some (.error ⟨.undefinedAperture code, m.position⟩) := by
    refine (next?_eq_apertureFault_iff rfl).2 ⟨?_, rfl⟩
    rw [hselect, List.findSome?_singleton, State.apertureFault?]
    exact if_neg hcode
  rw [h] at hfault
  cases hfault

theorem selected_of_next? {m m' : Moment α} (h : m.next? = some (.ok m'))
    (hm : ∀ c, m.state.modes.aperture? = some c → 10 ≤ c ∧ m.state.registry.contains c) (c : Nat)
    (hc : m'.state.modes.aperture? = some c) : 10 ≤ c ∧ m'.state.registry.contains c := by
  have hfollows := follows_of_next? h
  have hcontains : m.state.registry.contains c → m'.state.registry.contains c :=
    (Leads.single h).contains
  by_cases hselect : m.actions = [.select c]
  · -- it is selected now, so it is defined now
    obtain ⟨-, -, -, -, -, -, -, -, -, hleast⟩ := actions_eq_select_iff.1 hselect
    exact ⟨hleast, hcontains (contains_of_select h hselect)⟩
  · -- it was selected before
    have hbefore : m.state.modes.aperture? = some c := by
      rw [hfollows.aperture?] at hc
      obtain hnone | ⟨a, hone⟩ := m.actions_eq
      · rwa [hnone] at hc
      · rw [hone] at hc hselect
        cases a <;> first | exact hc | simp_all [Action.onAperture]
    exact ⟨(hm c hbefore).1, hcontains (hm c hbefore).2⟩

/-- **The selected aperture is a defined one**, if it was at first. -/
theorem Leads.selected {m m' : Moment α} {as : List Action} (h : Leads m as m')
    (hm : ∀ c, m.state.modes.aperture? = some c → 10 ≤ c ∧ m.state.registry.contains c) :
    ∀ c, m'.state.modes.aperture? = some c → 10 ≤ c ∧ m'.state.registry.contains c := by
  induction h with
  | refl => exact hm
  | cons move _ ih => exact ih (selected_of_next? move hm)

theorem foldl_onAperture_eq_none_iff {aperture? : Option Nat} {as : List Action} :
    as.foldl Action.onAperture aperture? = none ↔ aperture? = none ∧ ∀ c, .select c ∉ as := by
  induction as generalizing aperture? with
  | nil => simp
  | cons a as ih =>
    rw [List.foldl_cons, ih]
    cases a with
    | select c => exact iff_of_false (by rintro ⟨⟨⟩, -⟩) fun h ↦ h.2 c List.mem_cons_self
    | _ => simp [Action.onAperture]

/-- Nothing is selected as long as no aperture was. -/
theorem Leads.aperture?_eq_none_iff {m m' : Moment α} {as : List Action} (h : Leads m as m')
    (hm : m.state.modes.aperture? = none) :
    m'.state.modes.aperture? = none ↔ ∀ c, .select c ∉ as := by
  rw [h.follows.aperture?, hm, foldl_onAperture_eq_none_iff]
  simp

/-! ### Faults in an execution -/

theorem findSome?_actions_iff {m : Moment α} {g : Action → Option β} {x : β} :
    m.actions.findSome? g = some x ↔ ∃ a, m.actions = [a] ∧ g a = some x := by
  obtain hnone | ⟨a, hone⟩ := m.actions_eq
  · simp [hnone]
  · rw [hone, List.findSome?_singleton]
    simp

section

variable {source : String} {bounds : Bounds} {as : List Action} {m : Moment α}

/-- In an execution, the use of an aperture meets no other fault than that none is selected. -/
theorem Leads.useFault?_eq_some_iff (h : (start source bounds).Leads as m) {f : Fault} :
    m.state.useFault? = some f ↔ f = .noApertureSelected ∧ ∀ c, .select c ∉ as := by
  have hnone := h.aperture?_eq_none_iff rfl
  have hselected := h.selected (by rintro _ ⟨⟩)
  rw [← hnone, State.useFault?]
  split
  next haperture => simp [haperture, eq_comm]
  next c haperture => simp [haperture, (hselected c haperture).2]

/-- The first fault is met by selections of codes that were never defined. -/
theorem Leads.next?_eq_undefinedAperture_iff (h : (start source bounds).Leads as m) {c p : Nat} :
    m.next? = some (.error ⟨.undefinedAperture c, p⟩) ↔
      (∃ b w words text rest, m = inside b (w :: words) text p rest ∧ w.letter = 'D' ∧
        readWord? 32 w.number = some c ∧ 10 ≤ c) ∧ ∀ ps, .define c ps ∉ as := by
  have hfault : ∀ a : Action, m.state.apertureFault? a = some (.undefinedAperture c) ↔
      a = .select c ∧ ∀ ps, .define c ps ∉ as := by
    intro a
    cases a with
    | select code =>
      rw [State.apertureFault?, Action.select.injEq]
      constructor
      · intro hfault
        split at hfault
        · cases hfault
        next hcode =>
          cases hfault
          exact ⟨rfl, fun ps hmem ↦ hcode (h.contains_iff.2 ⟨ps, hmem⟩)⟩
      · rintro ⟨rfl, hnever⟩
        rw [if_neg fun hcode ↦ ?_]
        obtain ⟨ps, hmem⟩ := h.contains_iff.1 hcode
        exact hnever ps hmem
    | _ => simp [State.apertureFault?, h.useFault?_eq_some_iff]
  rw [next?_eq_apertureFault_iff rfl, findSome?_actions_iff]
  constructor
  · rintro ⟨⟨a, hone, ha⟩, rfl⟩
    obtain ⟨rfl, hnever⟩ := (hfault a).1 ha
    obtain ⟨b, w, words, text, position, rest, rfl, hword⟩ := actions_eq_select_iff.1 hone
    exact ⟨⟨b, w, words, text, rest, rfl, hword⟩, hnever⟩
  · rintro ⟨⟨b, w, words, text, rest, rfl, hword⟩, hnever⟩
    have hone := actions_eq_select_iff.2 ⟨b, w, words, text, p, rest, rfl, hword⟩
    exact ⟨⟨_, hone, (hfault _).2 ⟨rfl, hnever⟩⟩, rfl⟩

/-- The second fault is met by uses of an aperture before any was selected. -/
theorem Leads.next?_eq_noApertureSelected_iff (h : (start source bounds).Leads as m) {p : Nat} :
    m.next? = some (.error ⟨.noApertureSelected, p⟩) ↔
      p = m.position ∧ (m.actions = [.flash] ∨ m.state.modes.region? = none ∧
        ∃ repeated place target arc?, m.actions = [.draw repeated place target arc?]) ∧
        ∀ c, .select c ∉ as := by
  have hfault : ∀ a : Action, m.state.apertureFault? a = some .noApertureSelected ↔
      a.usesAperture m.state.modes.region? ∧ ∀ c, .select c ∉ as := by
    intro a
    cases a with
    | select code =>
      rw [State.apertureFault?]
      split <;> simp [Action.usesAperture]
    | _ => simp [State.apertureFault?, h.useFault?_eq_some_iff]
  rw [next?_eq_apertureFault_iff rfl, findSome?_actions_iff]
  simp only [hfault]
  constructor
  · rintro ⟨⟨a, hone, huses, hnever⟩, rfl⟩
    refine ⟨rfl, ?_, hnever⟩
    cases a with
    | flash => exact .inl hone
    | draw repeated place target arc? =>
      exact .inr ⟨Option.isNone_iff_eq_none.1 huses, repeated, place, target, arc?, hone⟩
    | _ => cases huses
  · rintro ⟨rfl, hone | ⟨hregion, repeated, place, target, arc?, hone⟩, hnever⟩
    · exact ⟨⟨_, hone, rfl, hnever⟩, rfl⟩
    · exact ⟨⟨_, hone, Option.isNone_iff_eq_none.2 hregion, hnever⟩, rfl⟩

end

end Moment

variable (α) in
/-- **Faults for want of an aperture.** At every moment of an execution the selected aperture has a
code from 10 on and is defined, and what is defined stays defined. So a code without a definition is
a fault of a D word that names it, and that nothing is selected is a fault of a flash, or of a draw
with no region open, before the first selection. Interpretations end in the faults of their
executions. -/
theorem aperture_faults (source : String) (bounds : Bounds) :
    (∀ as (m : Moment α), (Moment.start source bounds).Leads as m →
      (∀ c, m.state.modes.aperture? = some c → 10 ≤ c ∧ m.state.registry.contains c) ∧
      (∀ as' m' c, m.Leads as' m' → m.state.registry.contains c → m'.state.registry.contains c) ∧
      (∀ c p, m.next? = some (.error ⟨.undefinedAperture c, p⟩) ↔
        (∃ b w words text rest, m = .inside b (w :: words) text p rest ∧ w.letter = 'D' ∧
          readWord? 32 w.number = some c ∧ 10 ≤ c) ∧ ∀ ps, .define c ps ∉ as) ∧
      ∀ p, m.next? = some (.error ⟨.noApertureSelected, p⟩) ↔
        p = m.position ∧ (m.actions = [.flash] ∨ m.state.modes.region? = none ∧
          ∃ repeated place target arc?, m.actions = [.draw repeated place target arc?]) ∧
          ∀ c, .select c ∉ as) ∧
    ∀ e, (interpretOver α source bounds).result = .error e ↔
      ∃ as m, (Moment.start source bounds : Moment α).Leads as m ∧ m.next? = some (.error e) := by
  refine ⟨fun as m h ↦ ⟨h.selected ?_, fun as' m' c h' ↦ h'.contains, fun c p ↦ ?_, fun p ↦ ?_⟩,
    fun e ↦ interpretOver_eq_error_iff⟩
  · rintro _ ⟨⟩
  · exact h.next?_eq_undefinedAperture_iff
  · exact h.next?_eq_noApertureSelected_iff

/-- A code is selected that is defined later, and after a region, in which drawing needs no
aperture, coordinates repeat its draws. -/
theorem aperture_faults_before_selection :
    (∃ as b w words text rest, (Moment.start "D10*%ADD10C,1*%" .empty : Moment Float).Leads as
      (.inside b (w :: words) text 0 rest) ∧ w.letter = 'D' ∧ readWord? 32 w.number = some 10 ∧
      ∀ ps, .define 10 ps ∉ as) ∧
    ∃ as m, (Moment.start "G36*X1Y1D01*G37*X2Y2*" .empty : Moment Float).Leads as m ∧
      m.position = 3 ∧ (m.actions = [.flash] ∨ m.state.modes.region? = none ∧
        ∃ repeated place target arc?, m.actions = [.draw repeated place target arc?]) ∧
      ∀ c, .select c ∉ as := by
  constructor
  · obtain ⟨hfaults, hends⟩ := aperture_faults Float "D10*%ADD10C,1*%" .empty
    obtain ⟨as, m, hlead, hfails⟩ := (hends ⟨.undefinedAperture 10, 0⟩).1 (by decide +kernel)
    obtain ⟨-, -, hundefined, -⟩ := hfaults as m hlead
    obtain ⟨⟨b, w, words, text, rest, rfl, hletter, hcode, -⟩, hnever⟩ :=
      (hundefined 10 0).1 hfails
    exact ⟨as, b, w, words, text, rest, hlead, hletter, hcode, hnever⟩
  · obtain ⟨hfaults, hends⟩ := aperture_faults Float "G36*X1Y1D01*G37*X2Y2*" .empty
    obtain ⟨as, m, hlead, hfails⟩ := (hends ⟨.noApertureSelected, 3⟩).1 (by decide +kernel)
    obtain ⟨-, -, -, hnone⟩ := hfaults as m hlead
    obtain ⟨hposition, huses, hnever⟩ := (hnone 3).1 hfails
    exact ⟨as, m, hlead, hposition.symm, huses, hnever⟩

end GerberMask.Gerber
