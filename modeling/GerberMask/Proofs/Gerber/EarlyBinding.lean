import Mathlib.Data.List.Dedup
import Mathlib.Data.List.Induction
import Mathlib.Data.List.Perm.Subperm
import GerberMask.Proofs.Gerber.Actions

/-!
# Apertures are bound early

What the registry holds under a code is what the last definition of that code made of it, when it
was executed.

* A table that definitions were put into holds the last one of every code
  (`get?_foldl_onTable_iff`) and as many codes as were defined (`size_foldl_onTable`).
* The table of a moment is such a table, and each of its definitions is the action of a definition
  command that was executed with the macros and the unit of that moment (`get?_eq_some_iff`).
-/

namespace GerberMask.Gerber

variable {α : Type}

/-! ### Tables of definitions -/

/-- The code that an action defines. -/
def Action.definedCode? : Action → Option Nat
  | define code _ => some code
  | _ => none

theorem get?_onTable_define (apertures : Table Nat (List Primitive)) (code : Nat)
    (primitives : List Primitive) :
    ((Action.define code primitives).onTable apertures).get? code = some primitives :=
  (Table.get?_insert apertures code code primitives).trans (if_pos rfl)

theorem get?_onTable_of_ne (apertures : Table Nat (List Primitive)) {a : Action} {code : Nat}
    (h : ∀ primitives, a ≠ .define code primitives) :
    (a.onTable apertures).get? code = apertures.get? code := by
  cases a with
  | define c primitives =>
    have hne : code ≠ c := fun heq ↦ h primitives (by rw [heq])
    exact (Table.get?_insert apertures c code primitives).trans (if_neg hne)
  | _ => rfl

/-- An element inside of a row that is one longer is the new last one or inside the old row. -/
private theorem eq_append_cons_of_append_singleton {β : Type} {as as₁ as₂ : List β} {a b : β}
    (h : as ++ [a] = as₁ ++ b :: as₂) :
    (as₂ = [] ∧ a = b) ∨ ∃ as₃, as₂ = as₃ ++ [a] ∧ as = as₁ ++ b :: as₃ := by
  rcases List.eq_nil_or_concat as₂ with rfl | ⟨as₃, c, rfl⟩
  · exact .inl ⟨rfl, (List.append_singleton_inj.1 h).2⟩
  · rw [List.concat_eq_append, ← List.cons_append, ← List.append_assoc] at h
    obtain ⟨rfl, rfl⟩ := List.append_singleton_inj.1 h
    exact .inr ⟨as₃, List.concat_eq_append, rfl⟩

/-- **The last definition of a code decides.** -/
theorem get?_foldl_onTable_iff {as : List Action} {code : Nat} {primitives : List Primitive} :
    (as.foldl Action.onTable .empty).get? code = some primitives ↔
      ∃ as₁ as₂, as = as₁ ++ .define code primitives :: as₂ ∧
        ∀ ps, .define code ps ∉ as₂ := by
  induction as using List.reverseRecOn with
  | nil => simp
  | append_singleton as a ih =>
    rw [List.foldl_append, List.foldl_cons, List.foldl_nil]
    by_cases hdefines : ∃ ps, a = .define code ps
    · obtain ⟨ps, rfl⟩ := hdefines
      rw [get?_onTable_define, Option.some.injEq]
      constructor
      · rintro rfl
        exact ⟨as, [], rfl, fun _ ↦ List.not_mem_nil⟩
      · rintro ⟨as₁, as₂, hsplit, hlast⟩
        rcases eq_append_cons_of_append_singleton hsplit with ⟨-, heq⟩ | ⟨as₃, rfl, -⟩
        · cases heq
          rfl
        · exact absurd (List.mem_append_right as₃ (List.mem_singleton_self _)) (hlast ps)
    · have hne : ∀ ps, a ≠ .define code ps := fun ps heq ↦ hdefines ⟨ps, heq⟩
      rw [get?_onTable_of_ne _ hne, ih]
      constructor
      · rintro ⟨as₁, as₂, rfl, hlast⟩
        refine ⟨as₁, as₂ ++ [a], by simp, fun ps hmem ↦ ?_⟩
        rcases List.mem_append.1 hmem with hmem | hmem
        · exact hlast ps hmem
        · exact hne ps (List.mem_singleton.1 hmem).symm
      · rintro ⟨as₁, as₂, hsplit, hlast⟩
        rcases eq_append_cons_of_append_singleton hsplit with ⟨-, heq⟩ | ⟨as₃, rfl, rfl⟩
        · exact absurd heq (hne primitives)
        · exact ⟨as₁, as₃, rfl, fun ps hmem ↦ hlast ps (List.mem_append_left _ hmem)⟩

/-- Definitions of other codes leave a code alone. -/
theorem get?_foldl_onTable_of_not_mem (apertures : Table Nat (List Primitive)) {as : List Action}
    {code : Nat} (h : ∀ primitives, .define code primitives ∉ as) :
    (as.foldl Action.onTable apertures).get? code = apertures.get? code := by
  induction as generalizing apertures with
  | nil => rfl
  | cons a as ih =>
    have hne : ∀ ps, a ≠ .define code ps := fun ps heq ↦ h ps (heq ▸ List.mem_cons_self)
    rw [List.foldl_cons, ih _ fun ps hmem ↦ h ps (List.mem_cons_of_mem a hmem),
      get?_onTable_of_ne _ hne]

/-- The codes of a table of definitions are the codes that were defined. -/
theorem contains_foldl_onTable_iff {as : List Action} {code : Nat} :
    (as.foldl Action.onTable .empty).contains code ↔ ∃ ps, .define code ps ∈ as := by
  induction as using List.reverseRecOn with
  | nil => simp [Table.contains]
  | append_singleton as a ih =>
    rw [List.foldl_append, List.foldl_cons, List.foldl_nil]
    by_cases hdefines : ∃ ps, a = .define code ps
    · obtain ⟨ps, rfl⟩ := hdefines
      rw [Table.contains, get?_onTable_define]
      exact iff_of_true rfl ⟨ps, by simp⟩
    · have hne : ∀ ps, .define code ps ≠ a := fun ps heq ↦ hdefines ⟨ps, heq.symm⟩
      rw [Table.contains, get?_onTable_of_ne _ fun ps heq ↦ hne ps heq.symm, ← Table.contains, ih]
      simp [hne]

theorem Table.mem_keys_iff {κ ν : Type} [DecidableEq κ] (t : Table κ ν) (k : κ) :
    k ∈ t.entries.map Prod.fst ↔ t.contains k := by
  rw [contains, get?, List.lookup_isSome_iff, List.mem_map]
  constructor
  · rintro ⟨entry, hentry, rfl⟩
    exact ⟨entry, hentry, beq_self_eq_true _⟩
  · rintro ⟨entry, hentry, hkey⟩
    exact ⟨entry, hentry, (beq_iff_eq.1 hkey).symm⟩

/-- A table of definitions has as many codes as were defined. -/
theorem size_foldl_onTable (as : List Action) :
    (as.foldl Action.onTable .empty).size = (as.filterMap Action.definedCode?).dedup.length := by
  have hperm : ((as.foldl Action.onTable .empty).entries.map Prod.fst).Perm
      (as.filterMap Action.definedCode?).dedup := by
    refine (List.perm_ext_iff_of_nodup (Table.nodup _) (List.nodup_dedup _)).2 fun code ↦ ?_
    rw [Table.mem_keys_iff, contains_foldl_onTable_iff, List.mem_dedup, List.mem_filterMap]
    constructor
    · rintro ⟨ps, hmem⟩
      exact ⟨_, hmem, rfl⟩
    · rintro ⟨a, hmem, hcode⟩
      cases a <;> cases hcode
      exact ⟨_, hmem⟩
  rw [Table.size, ← hperm.length_eq, List.length_map]

/-! ### Definitions -/

namespace Registry

/-- A definition looks at the macros of a registry and at nothing else. -/
theorem definition?_of_macros (r r' : Registry) (h : r.macros = r'.macros) :
    r.definition? = r'.definition? := by
  have hresolve : r.resolve = r'.resolve := by
    funext template args unit position
    rw [resolve, resolve, findMacro?, findMacro?, h]
  funext command unit position
  rw [definition?, definition?, hresolve]

/-- The order in which a template is looked for: the standard letters, which no macro can shadow,
then the macros, and a template that is neither is skipped if it has at most one character. -/
structure ResolvesInOrder (r : Registry) (template : String) (args : List Float)
    (unit : LengthUnit) (position : Nat) : Prop where
  standard : ∀ kind,
    (template, kind) ∈ [("C", .circle), ("R", .rectangle), ("O", .obround), ("P", .polygon)] →
      r.resolve template args unit position = .ok (some [(Primitive.mk kind args).inInches unit])
  declared : template ∉ ["C", "R", "O", "P"] → ∀ lines, r.macros.get? template = some lines →
    (r.resolve template args unit position).result =
      (((ApertureMacro.mk template lines).expand args).result.mapError (·.at position)).map
        fun ps ↦ some (ps.map (·.inInches unit))
  skipped : template ∉ ["C", "R", "O", "P"] → r.macros.get? template = none →
    template.length ≤ 1 → (r.resolve template args unit position).result = .ok none
  unknown : template ∉ ["C", "R", "O", "P"] → r.macros.get? template = none →
    1 < template.length →
      (r.resolve template args unit position).result = .error ⟨.unknownMacro template, position⟩

theorem ofTemplate?_eq_none {template : String} (h : template ∉ ["C", "R", "O", "P"]) :
    PrimitiveKind.ofTemplate? template = none := by
  simp only [List.mem_cons, List.not_mem_nil, or_false, not_or] at h
  rw [PrimitiveKind.ofTemplate?, List.lookup_eq_none_iff]
  simp [h]

theorem resolvesInOrder (r : Registry) (template : String) (args : List Float)
    (unit : LengthUnit) (position : Nat) : r.ResolvesInOrder template args unit position where
  standard := by
    intro kind hmem
    have hkind : PrimitiveKind.ofTemplate? template = some kind := by
      simp only [List.mem_cons, Prod.mk.injEq, List.not_mem_nil, or_false] at hmem
      rcases hmem with ⟨rfl, rfl⟩ | ⟨rfl, rfl⟩ | ⟨rfl, rfl⟩ | ⟨rfl, rfl⟩ <;> rfl
    unfold resolve
    simp only [hkind]
  declared := by
    intro hother lines hmacro
    unfold resolve
    simp only [ofTemplate?_eq_none hother, findMacro?, hmacro, Option.map_some,
      Report.result_bind, Report.mapError]
    rfl
  skipped := by
    intro hother hmacro hshort
    unfold resolve
    simp only [ofTemplate?_eq_none hother, findMacro?, hmacro, Option.map_none, if_pos hshort]
    rfl
  unknown := by
    intro hother hmacro hlong
    unfold resolve
    simp only [ofTemplate?_eq_none hother, findMacro?, hmacro, Option.map_none,
      if_neg (Nat.not_le.2 hlong)]
    rfl

end Registry

/-! ### Definitions in an execution -/

variable [Scalar α]

namespace Moment

/-- Only a definition command defines. -/
theorem actions_eq_define_iff {m : Moment α} {code : Nat} {primitives : List Primitive} :
    m.actions = [.define code primitives] ↔
      ∃ s position text rest, m = between s position (.command text :: rest) ∧ s.defines text ∧
        s.registry.definition? text s.modes.unit position = some (code, primitives) := by
  constructor
  · intro h
    have hdoes := m.does_actions
    rw [h] at hdoes
    cases hdoes with
    | define hdefines hdef => exact ⟨_, _, _, _, rfl, hdefines, hdef⟩
    | word hword => cases hword
  · rintro ⟨s, position, text, rest, rfl, hdefines, hdef⟩
    rw [actions, State.definition?_of_defines hdefines, hdef]
    rfl

theorem next?_of_defines {s : State α} {text : String} (running : s.modes.stoppedAt? = none)
    (h : s.defines text) (position : Nat) (rest : List Token) :
    (between s position (.command text :: rest)).next? =
      some ((s.registry.defineFrom text s.modes.unit position).result.map fun d ↦
        between { s with registry := d.1 } (position + 1) rest) := by
  obtain ⟨hopen, hextended, hname⟩ := State.defines_iff.1 h
  have hother : s.blockText? (.command text) = none := by
    simp [State.blockText?, hextended]
  have hstep : (s.step position (.command text)).result =
      (s.registry.defineFrom text s.modes.unit position).result.map fun d ↦
        { s with registry := d.1 } := by
    rw [State.step.eq_def, if_neg (by simp [running])]
    simp only [State.command, hopen, hextended, if_true, State.extendedCommand, hname,
      Report.result_bind]
    cases (s.registry.defineFrom text s.modes.unit position).result <;> rfl
  rw [next?, if_neg (by simp [running])]
  simp only [hother, hstep]
  cases (s.registry.defineFrom text s.modes.unit position).result <;> rfl

/-- What a definition command does in an execution. -/
theorem next?_of_definition {s : State α} {text : String} (running : s.modes.stoppedAt? = none)
    (h : s.defines text) (position : Nat) (rest : List Token) :
    (∀ code primitives,
      s.registry.definition? text s.modes.unit position = some (code, primitives) →
        (between s position (.command text :: rest)).next? = some (.ok (between
          { s with registry.apertures := s.registry.apertures.insert code primitives }
          (position + 1) rest))) ∧
    (s.registry.definition? text s.modes.unit position = none →
      (between s position (.command text :: rest)).next? =
          some (.ok (between s (position + 1) rest)) ∨
        ∃ e, (between s position (.command text :: rest)).next? = some (.error e)) := by
  rw [next?_of_defines running h]
  rcases s.registry.defineFrom_cases text s.modes.unit position with
    ⟨d, hdef, hok⟩ | ⟨hdef, hok | ⟨e, herror⟩⟩
  · rw [hdef, hok]
    refine ⟨fun code primitives hd ↦ ?_, ?_⟩
    · cases hd
      rfl
    · rintro ⟨⟩
  · rw [hdef, hok]
    refine ⟨?_, fun _ ↦ .inl rfl⟩
    rintro code primitives ⟨⟩
  · rw [hdef, herror]
    refine ⟨?_, fun _ ↦ .inr ⟨e, rfl⟩⟩
    rintro code primitives ⟨⟩

/-- A code has the primitives that its last definition gave it. -/
theorem Leads.get?_eq_some_iff {source : String} {bounds : Bounds} {as : List Action}
    {m : Moment α} (h : (start source bounds).Leads as m) {code : Nat}
    {primitives : List Primitive} :
    m.state.registry.get? code = some primitives ↔
      ∃ as₁ as₂ s position text rest m₁, as = as₁ ++ .define code primitives :: as₂ ∧
        (start source bounds).Leads as₁ (between s position (.command text :: rest)) ∧
        s.defines text ∧
        (Registry.mk s.registry.macros .empty).definition? text s.modes.unit position =
          some (code, primitives) ∧
        (between s position (.command text :: rest)).next? = some (.ok m₁) ∧
        m₁.Leads as₂ m ∧ ∀ ps, .define code ps ∉ as₂ := by
  have htable : m.state.registry.get? code =
      (as.foldl Action.onTable .empty).get? code := by
    rw [Registry.get?, h.follows.apertures]
    rfl
  rw [htable, get?_foldl_onTable_iff]
  constructor
  · rintro ⟨as₁, as₂, rfl, hlast⟩
    obtain ⟨m₀, m₁, hbefore, hdefine, hmove, hafter⟩ := h.exists_move
    obtain ⟨s, position, text, rest, rfl, hdefines, hdef⟩ := actions_eq_define_iff.1 hdefine
    rw [Registry.definition?_of_macros s.registry ⟨s.registry.macros, .empty⟩ rfl] at hdef
    exact ⟨as₁, as₂, s, position, text, rest, m₁, rfl, hbefore, hdefines, hdef, hmove, hafter,
      hlast⟩
  · rintro ⟨as₁, as₂, s, position, text, rest, m₁, rfl, -, -, -, -, -, hlast⟩
    exact ⟨as₁, as₂, rfl, hlast⟩

/-- What is not defined again stays as it is. -/
theorem Leads.get?_eq {m m' : Moment α} {as : List Action} (h : Leads m as m') {code : Nat}
    (hsame : ∀ primitives, .define code primitives ∉ as) :
    m'.state.registry.get? code = m.state.registry.get? code := by
  rw [Registry.get?, h.follows.apertures]
  exact get?_foldl_onTable_of_not_mem _ hsame

/-- The codes in the registry are the codes that were defined. -/
theorem Leads.contains_iff {source : String} {bounds : Bounds} {as : List Action} {m : Moment α}
    (h : (start source bounds).Leads as m) {code : Nat} :
    m.state.registry.contains code ↔ ∃ ps, .define code ps ∈ as := by
  rw [Registry.contains, h.follows.apertures]
  exact contains_foldl_onTable_iff

/-- The number of apertures is the number of codes that were defined. -/
theorem Leads.size_eq {source : String} {bounds : Bounds} {as : List Action} {m : Moment α}
    (h : (start source bounds).Leads as m) :
    m.state.registry.size = (as.filterMap Action.definedCode?).dedup.length := by
  rw [Registry.size, h.follows.apertures]
  exact size_foldl_onTable as

end Moment

variable (α) in
/-- **Apertures are bound early.** At every moment a code has the primitives that its last
definition gave it, worked out with the macros and the unit of the moment in which it was executed;
what follows, other than another definition of that code, does not change them. A definition changes
the registry by what it defines and otherwise leaves it alone, templates are looked for in order,
and the apertures that are counted are the codes that were defined. -/
theorem apertures_bound_early (source : String) (bounds : Bounds) :
    (∀ as (m : Moment α), (Moment.start source bounds).Leads as m → ∀ code primitives,
      m.state.registry.get? code = some primitives ↔
        ∃ as₁ as₂ s position text rest m₁, as = as₁ ++ .define code primitives :: as₂ ∧
          (Moment.start source bounds).Leads as₁ (.between s position (.command text :: rest)) ∧
          s.defines text ∧
          (Registry.mk s.registry.macros .empty).definition? text s.modes.unit position =
            some (code, primitives) ∧
          (Moment.between s position (.command text :: rest)).next? = some (.ok m₁) ∧
          m₁.Leads as₂ m ∧ ∀ ps, .define code ps ∉ as₂) ∧
    (∀ (m m' : Moment α) as code, m.Leads as m' → (∀ ps, .define code ps ∉ as) →
      m'.state.registry.get? code = m.state.registry.get? code) ∧
    (∀ (s : State α) text position rest, s.modes.stoppedAt? = none → s.defines text →
      (∀ code primitives,
        s.registry.definition? text s.modes.unit position = some (code, primitives) →
          (Moment.between s position (.command text :: rest)).next? = some (.ok (.between
            { s with registry.apertures := s.registry.apertures.insert code primitives }
            (position + 1) rest))) ∧
      (s.registry.definition? text s.modes.unit position = none →
        (Moment.between s position (.command text :: rest)).next? =
            some (.ok (.between s (position + 1) rest)) ∨
          ∃ e, (Moment.between s position (.command text :: rest)).next? = some (.error e))) ∧
    (∀ (r : Registry) template args unit position,
      r.ResolvesInOrder template args unit position) ∧
    ∀ i, (interpretOver α source bounds).result = .ok i →
      ∃ as m, (Moment.start source bounds : Moment α).Leads as m ∧ m.next? = none ∧
        .ofState m.state = i ∧ i.apertures = (as.filterMap Action.definedCode?).dedup.length := by
  refine ⟨fun as m h code primitives ↦ h.get?_eq_some_iff,
    fun m m' as code h hsame ↦ h.get?_eq hsame,
    fun s text position rest running h ↦ Moment.next?_of_definition running h position rest,
    Registry.resolvesInOrder, fun i hi ↦ ?_⟩
  obtain ⟨as, m, hlead, hend, rfl⟩ := interpretOver_eq_ok_iff.1 hi
  exact ⟨as, m, hlead, hend, rfl, hlead.size_eq⟩

/-- A macro and the unit are declared anew after a definition, and a definition of the same code is
skipped: the aperture stays the one that was defined, and two are counted. -/
theorem apertures_bound_early_redeclared_macro :
    let source := "%MOMM*%%AMDOT*1,1,$1,0,0*%%ADD10DOT,25.4*%" ++
      "%MOIN*%%AMDOT*1,1,9,0,0*%%ADD11C,1*%%ADD10Q*%"
    let first : Moment Float := .start source .empty
    (∃ as₁ s position text rest, first.Leads as₁ (.between s position (.command text :: rest)) ∧
      s.defines text ∧
      (Registry.mk s.registry.macros .empty).definition? text s.modes.unit position =
        some (10, [⟨.macroCircle, [1, 1, 0, 0]⟩])) ∧
    ∃ as m, first.Leads as m ∧ m.next? = none ∧
      (as.filterMap Action.definedCode?).dedup.length = 2 := by
  intro source first
  obtain ⟨hbound, -, -, -, hcount⟩ := apertures_bound_early Float source .empty
  -- the moment after all moves, and the interpretation
  obtain ⟨hget, i, hi, htwo⟩ :
      (first.run 40).2.state.registry.get? 10 = some [⟨.macroCircle, [1, 1, 0, 0]⟩] ∧
        ∃ i, (interpretOver Float source .empty).result = .ok i ∧ i.apertures = 2 := by
    decide +kernel
  obtain ⟨as₁, -, s, position, text, rest, -, -, hbefore, hdefines, hdef, -⟩ :=
    (hbound _ _ (Moment.leads_run 40 first) 10 _).1 hget
  obtain ⟨as, m, hlead, hend, -, hsize⟩ := hcount i hi
  exact ⟨⟨as₁, s, position, text, rest, hbefore, hdefines, hdef⟩, as, m, hlead, hend,
    hsize.symm.trans htwo⟩

end GerberMask.Gerber
