import Mathlib.Data.List.Forall2
import Mathlib.Data.List.ReduceOption
import GerberMask.Proofs.Gerber.LineFields
import GerberMask.Proofs.Gerber.ReportLaws
import GerberMask.Proofs.Number.Literals

/-!
# What a macro makes

A macro is expanded line by line (`ApertureMacro.result_expandLines`), and a line field by field
(`ApertureMacro.result_fieldValues`): both go through a list and end at the first element that
fails (`Traversal`). What an element means is a relation (`FieldMeans`, `LineMakes`), when it has a
meaning is a predicate that does not speak of arguments (`Readable`, `WellFormed`), and the error
names the first field in reading order that has none (`FirstOffence`).

Arguments come in only as values of fields. So a macro whose fields `$n` are filled in with literals
of these values makes, without arguments, the same primitives (`ApertureMacro.expand_linewise`).
-/

namespace GerberMask.Gerber

/-! ### Element by element -/

namespace Traversal

variable {ε α β γ : Type}

/-- The first element, then the rest. -/
theorem mapM_cons (f : α → Except ε β) (x : α) (xs : List α) :
    (x :: xs).mapM f = (f x).bind fun y ↦ (xs.mapM f).map (y :: ·) := by
  rw [List.mapM_cons]
  cases f x <;> cases xs.mapM f <;> rfl

/-- There is a value for each element. -/
theorem mapM_eq_ok_iff {f : α → Except ε β} {xs : List α} {ys : List β} :
    xs.mapM f = .ok ys ↔ List.Forall₂ (fun x y ↦ f x = .ok y) xs ys := by
  induction xs generalizing ys with
  | nil => cases ys <;> simp [pure, Except.pure]
  | cons x xs ih =>
    rw [mapM_cons, List.forall₂_cons_left_iff]
    simp only [← ih]
    cases f x <;> cases xs.mapM f <;> simp [Except.bind, Except.map, eq_comm]

theorem exists_mapM_eq_ok_iff {f : α → Except ε β} {xs : List α} :
    (∃ ys, xs.mapM f = .ok ys) ↔ ∀ x ∈ xs, ∃ y, f x = .ok y := by
  induction xs with
  | nil => simp [pure, Except.pure]
  | cons x xs ih =>
    rw [mapM_cons, List.forall_mem_cons, ← ih]
    cases f x <;> cases xs.mapM f <;> simp [Except.bind, Except.map]

/-- The first element that fails decides. -/
theorem mapM_eq_error_iff {f : α → Except ε β} {xs : List α} {e : ε} :
    xs.mapM f = .error e ↔ ∃ front x back, xs = front ++ x :: back ∧
      (∀ y ∈ front, ∃ b, f y = .ok b) ∧ f x = .error e := by
  constructor
  · intro h
    induction xs with
    | nil => cases h
    | cons x xs ih =>
      rw [mapM_cons] at h
      cases hx : f x with
      | error e' =>
        rw [hx] at h
        cases h
        exact ⟨[], x, xs, rfl, by simp, hx⟩
      | ok y =>
        rw [hx] at h
        obtain ⟨front, x', back, rfl, hfront, hx'⟩ := ih (Report.map_eq_error.1 h)
        exact ⟨x :: front, x', back, rfl, List.forall_mem_cons.2 ⟨⟨y, hx⟩, hfront⟩, hx'⟩
  · rintro ⟨front, x, back, rfl, hfront, hx⟩
    induction front with
    | nil =>
      rw [List.nil_append, mapM_cons, hx]
      rfl
    | cons y front ih =>
      obtain ⟨⟨b, hb⟩, hfront⟩ := List.forall_mem_cons.1 hfront
      rw [List.cons_append, mapM_cons, hb, ih hfront]
      rfl

/-- Lists that agree element by element give the same. -/
theorem mapM_congr {f : α → Except ε γ} {g : β → Except ε γ} {xs : List α} {ys : List β}
    (h : List.Forall₂ (fun x y ↦ f x = g y) xs ys) : xs.mapM f = ys.mapM g := by
  induction h with
  | nil => rfl
  | cons hxy _ ih => rw [mapM_cons, mapM_cons, hxy, ih]

end Traversal

namespace ApertureMacro

/-! ### Fields -/

/-- The argument number `n`, counted from one; zero where there is none. -/
def argument (args : List Float) : Nat → Float
  | 0 => 0
  | n + 1 => args.getD n 0

/-- The field stands for the argument of a number. -/
def Placeholder (field : List Char) (n : Nat) : Prop :=
  ∃ digits, field = '$' :: digits ∧ readWord? 64 digits = some n

theorem not_placeholder {field : List Char} (h : field.head? ≠ some '$') (n : Nat) :
    ¬ Placeholder field n := by
  rintro ⟨digits, rfl, -⟩
  exact h rfl

/-- What a field means with given arguments. -/
inductive FieldMeans (args : List Float) (field : List Char) : Float → Prop
  | literal {v : Float} : readFiniteFloat? field = some v → FieldMeans args field v
  | placeholder {n : Nat} : Placeholder field n → FieldMeans args field (argument args n)

/-- The field is a finite literal or stands for an argument. -/
def Readable (field : List Char) : Prop :=
  (∃ v, readFiniteFloat? field = some v) ∨ ∃ n, Placeholder field n

theorem exists_fieldMeans_iff (args : List Float) {field : List Char} :
    (∃ v, FieldMeans args field v) ↔ Readable field := by
  constructor
  · rintro ⟨_, hliteral | hplaceholder⟩
    · exact .inl ⟨_, hliteral⟩
    · exact .inr ⟨_, hplaceholder⟩
  · rintro (⟨v, hliteral⟩ | ⟨n, hplaceholder⟩)
    · exact ⟨v, .literal hliteral⟩
    · exact ⟨_, .placeholder hplaceholder⟩

/-- No literal begins like a placeholder. -/
theorem readFiniteFloat?_dollar (digits : List Char) : readFiniteFloat? ('$' :: digits) = none := by
  by_contra hne
  obtain ⟨v, hv⟩ := Option.ne_none_iff_exists'.1 hne
  exact absurd (isLiteralChar_of_readFiniteFloat? hv '$' List.mem_cons_self) (by decide)

theorem result_fieldValue_of_means {args : List Float} {field : List Char} {v : Float}
    (h : FieldMeans args field v) : (fieldValue args field).result = .ok v := by
  cases h with
  | literal hv =>
    rw [fieldValue.eq_def]
    split
    next digits =>
      rw [readFiniteFloat?_dollar] at hv
      cases hv
    · rw [hv]
      rfl
  | @placeholder n h =>
    obtain ⟨digits, rfl, hn⟩ := h
    cases n with
    | zero =>
      simp only [fieldValue, hn]
      rfl
    | succ n =>
      simp only [fieldValue, hn, argument, List.getD_eq_getElem?_getD, Nat.add_one_ne_zero,
        if_false, Nat.add_sub_cancel]
      cases args[n]? <;> rfl

theorem result_fieldValue_of_not_readable {args : List Float} {field : List Char}
    (h : ¬ Readable field) : (fieldValue args field).result = .error ⟨String.ofList field⟩ := by
  rw [fieldValue.eq_def]
  split
  next digits =>
    have hnone : readWord? 64 digits = none :=
      Option.eq_none_iff_forall_ne_some.2 fun n hn ↦ h (.inr ⟨n, digits, rfl, hn⟩)
    rw [hnone]
    rfl
  · have hnone : readFiniteFloat? field = none :=
      Option.eq_none_iff_forall_ne_some.2 fun v hv ↦ h (.inl ⟨v, hv⟩)
    rw [hnone]
    rfl

theorem result_fieldValue_eq_ok_iff {args : List Float} {field : List Char} {v : Float} :
    (fieldValue args field).result = .ok v ↔ FieldMeans args field v := by
  refine ⟨fun h ↦ ?_, result_fieldValue_of_means⟩
  by_cases hreadable : Readable field
  · obtain ⟨v', hv'⟩ := (exists_fieldMeans_iff args).2 hreadable
    cases (result_fieldValue_of_means hv').symm.trans h
    exact hv'
  · cases (result_fieldValue_of_not_readable hreadable).symm.trans h

theorem result_fieldValue_eq_error_iff {args : List Float} {field : List Char}
    {e : MalformedNumber} :
    (fieldValue args field).result = .error e ↔ ¬ Readable field ∧ e = ⟨String.ofList field⟩ := by
  by_cases hreadable : Readable field
  · obtain ⟨v, hv⟩ := (exists_fieldMeans_iff args).2 hreadable
    simp [result_fieldValue_of_means hv, hreadable]
  · simp [result_fieldValue_of_not_readable hreadable, hreadable, eq_comm]

/-- The fields of a row are read one by one, the empty ones left out. -/
theorem result_fieldValues (args : List Float) (fields : List (List Char)) :
    (fieldValues args fields).result =
      (fields.filter (· ≠ [])).mapM fun field ↦ (fieldValue args field).result := by
  induction fields with
  | nil => rfl
  | cons field fields ih =>
    rw [fieldValues]
    split
    next hempty => simp [List.isEmpty_iff.1 hempty, ih]
    next hempty =>
      have hne : field ≠ [] := mt List.isEmpty_iff.2 hempty
      rw [List.filter_cons_of_pos (by simpa using hne), Traversal.mapM_cons, Report.result_bind, ← ih]
      cases (fieldValue args field).result with
      | error e => rfl
      | ok v => exact Report.result_map _ _

/-- A row of fields has values if every one that is not empty has. -/
theorem result_fieldValues_eq_ok_iff {args : List Float} {fields : List (List Char)}
    {params : List Float} :
    (fieldValues args fields).result = .ok params ↔
      List.Forall₂ (FieldMeans args) (fields.filter (· ≠ [])) params := by
  rw [result_fieldValues, Traversal.mapM_eq_ok_iff]
  simp only [result_fieldValue_eq_ok_iff]

theorem exists_result_fieldValues_eq_ok_iff {args : List Float} {fields : List (List Char)} :
    (∃ params, (fieldValues args fields).result = .ok params) ↔
      ∀ field ∈ fields.filter (· ≠ []), Readable field := by
  rw [result_fieldValues, Traversal.exists_mapM_eq_ok_iff]
  simp only [result_fieldValue_eq_ok_iff, exists_fieldMeans_iff]

/-- The error names the first field that is not empty and cannot be read. -/
theorem result_fieldValues_eq_error_iff {args : List Float} {fields : List (List Char)}
    {e : MalformedNumber} :
    (fieldValues args fields).result = .error e ↔
      ∃ front field back, fields.filter (· ≠ []) = front ++ field :: back ∧
        (∀ g ∈ front, Readable g) ∧ ¬ Readable field ∧ e = ⟨String.ofList field⟩ := by
  rw [result_fieldValues, Traversal.mapM_eq_error_iff]
  simp only [result_fieldValue_eq_ok_iff, exists_fieldMeans_iff, result_fieldValue_eq_error_iff]

/-! ### Lines -/

/-- The fields of a line, trimmed. -/
def fieldsOf (line : String) : List (List Char) :=
  (splitAtEach ',' line.toList).map Text.trim

/-- The first field of a line. -/
def codeText (line : String) : List Char :=
  (fieldsOf line).headD []

/-- The fields after the first, empty ones left out. -/
def operands (line : String) : List (List Char) :=
  (fieldsOf line).tail.filter (· ≠ [])

/-- The line is empty, a comment or an equation. -/
def Silent (line : String) : Prop :=
  let text := Text.trim line.toList
  text = [] ∨ text = ['0'] ∨ ['0', ' '] <+: text ∨ text.head? = some '$'

theorem isSilent_iff {line : String} :
    isSilent (Text.trim line.toList) = true ↔ Silent line := by
  simp [isSilent, Silent, or_assoc]

/-- The line is silent, or its first field is a code. If the code names a primitive, every other
field that is not empty is readable. -/
def WellFormed (line : String) : Prop :=
  ¬ Silent line → ∃ code, readWord? 32 (codeText line) = some code ∧
    ∀ kind, PrimitiveKind.ofCode? code = some kind → ∀ field ∈ operands line, Readable field

/-- What a line makes with given arguments. -/
inductive LineMakes (args : List Float) (line : String) : Option Primitive → Prop
  | silent : Silent line → LineMakes args line none
  | unknown {code : Nat} : ¬ Silent line → readWord? 32 (codeText line) = some code →
      PrimitiveKind.ofCode? code = none → LineMakes args line none
  | primitive {code : Nat} {kind : PrimitiveKind} {params : List Float} : ¬ Silent line →
      readWord? 32 (codeText line) = some code → PrimitiveKind.ofCode? code = some kind →
      List.Forall₂ (FieldMeans args) (operands line) params →
      LineMakes args line (some ⟨kind, params⟩)

/-- The field is the first of a line that cannot be read and has to be. -/
inductive Offends (line : String) : List Char → Prop
  | code : ¬ Silent line → readWord? 32 (codeText line) = none → Offends line (codeText line)
  | operand {code : Nat} {kind : PrimitiveKind} {front back : List (List Char)}
      {field : List Char} : ¬ Silent line →
      readWord? 32 (codeText line) = some code → PrimitiveKind.ofCode? code = some kind →
      operands line = front ++ field :: back → (∀ g ∈ front, Readable g) → ¬ Readable field →
      Offends line field

/-- The field is the first of a row of lines that cannot be read and has to be. -/
def FirstOffence (lines : List String) (field : List Char) : Prop :=
  ∃ front line back, lines = front ++ line :: back ∧ (∀ l ∈ front, WellFormed l) ∧
    Offends line field

section

variable {args : List Float} {line : String}

theorem expandLine_of_silent (h : Silent line) : expandLine args line = .ok none := by
  rw [expandLine, if_pos (isSilent_iff.2 h)]

/-- The fields of a line that is read. -/
theorem expandLine_of_not_silent (h : ¬ Silent line) :
    expandLine args line =
      match readWord? 32 (codeText line) with
      | none => .error ⟨String.ofList (codeText line)⟩
      | some code =>
        match PrimitiveKind.ofCode? code with
        | none => do
          .warn (.unknownMacroCode code)
          return none
        | some kind => do
          let params ← fieldValues args (fieldsOf line).tail
          return some ⟨kind, params⟩ := by
  have hfields : (splitAtEach ',' (Text.trim line.toList)).map Text.trim = fieldsOf line :=
    map_trim_splitAtEach_trim rfl _
  rw [expandLine, if_neg (mt isSilent_iff.1 h), hfields]
  rfl

/-- A line with a known code makes its primitive of the values of its fields. -/
theorem result_expandLine_primitive {code : Nat} {kind : PrimitiveKind} (hread : ¬ Silent line)
    (hcode : readWord? 32 (codeText line) = some code)
    (hkind : PrimitiveKind.ofCode? code = some kind) :
    (expandLine args line).result =
      (fieldValues args (fieldsOf line).tail).result.map fun params ↦ some ⟨kind, params⟩ := by
  rw [expandLine_of_not_silent hread, hcode]
  simp only [hkind]
  rw [← Report.result_map]
  rfl

theorem result_expandLine_of_makes {p? : Option Primitive} (h : LineMakes args line p?) :
    (expandLine args line).result = .ok p? := by
  cases h with
  | silent h =>
    rw [expandLine_of_silent h]
    rfl
  | unknown hread hcode hunknown =>
    rw [expandLine_of_not_silent hread, hcode]
    simp only [hunknown]
    rfl
  | primitive hread hcode hkind hparams =>
    rw [result_expandLine_primitive hread hcode hkind, result_fieldValues_eq_ok_iff.2 hparams]
    rfl

theorem result_expandLine_of_offends {field : List Char} (h : Offends line field) :
    (expandLine args line).result = .error ⟨String.ofList field⟩ := by
  cases h with
  | code hread hnone =>
    rw [expandLine_of_not_silent hread, hnone]
    rfl
  | operand hread hcode hkind hsplit hfront hfield =>
    rw [result_expandLine_primitive hread hcode hkind,
      result_fieldValues_eq_error_iff.2 ⟨_, _, _, hsplit, hfront, hfield, rfl⟩]
    rfl

/-- A line makes something or has an offending field. -/
theorem makes_or_offends (args : List Float) (line : String) :
    (∃ p?, LineMakes args line p?) ∨ ∃ field, Offends line field := by
  by_cases hread : Silent line
  · exact .inl ⟨none, .silent hread⟩
  cases hcode : readWord? 32 (codeText line) with
  | none => exact .inr ⟨_, .code hread hcode⟩
  | some code =>
    cases hkind : PrimitiveKind.ofCode? code with
    | none => exact .inl ⟨none, .unknown hread hcode hkind⟩
    | some kind =>
      cases hvalues : (fieldValues args (fieldsOf line).tail).result with
      | ok params =>
        exact .inl ⟨_, .primitive hread hcode hkind (result_fieldValues_eq_ok_iff.1 hvalues)⟩
      | error e =>
        obtain ⟨front, field, back, hsplit, hfront, hfield, -⟩ :=
          result_fieldValues_eq_error_iff.1 hvalues
        exact .inr ⟨field, .operand hread hcode hkind hsplit hfront hfield⟩

theorem result_expandLine_eq_ok_iff {p? : Option Primitive} :
    (expandLine args line).result = .ok p? ↔ LineMakes args line p? := by
  refine ⟨fun h ↦ ?_, result_expandLine_of_makes⟩
  obtain ⟨q?, hq⟩ | ⟨field, hfield⟩ := makes_or_offends args line
  · cases (result_expandLine_of_makes hq).symm.trans h
    exact hq
  · cases (result_expandLine_of_offends hfield).symm.trans h

theorem result_expandLine_eq_error_iff {e : MalformedNumber} :
    (expandLine args line).result = .error e ↔
      ∃ field, Offends line field ∧ e = ⟨String.ofList field⟩ := by
  constructor
  · intro h
    obtain ⟨q?, hq⟩ | ⟨field, hfield⟩ := makes_or_offends args line
    · cases (result_expandLine_of_makes hq).symm.trans h
    · cases (result_expandLine_of_offends hfield).symm.trans h
      exact ⟨field, hfield, rfl⟩
  · rintro ⟨field, hfield, rfl⟩
    exact result_expandLine_of_offends hfield

/-- **A line makes something if and only if it is well-formed**, whatever the arguments are. -/
theorem exists_lineMakes_iff : (∃ p?, LineMakes args line p?) ↔ WellFormed line := by
  constructor
  · rintro ⟨p?, h⟩ hread
    cases h with
    | silent h => exact absurd h hread
    | unknown _ hcode hunknown => exact ⟨_, hcode, fun _ hkind ↦ by cases hunknown.symm.trans hkind⟩
    | primitive _ hcode hkind hparams =>
      have hvalues := result_fieldValues_eq_ok_iff.2 hparams
      exact ⟨_, hcode, fun _ _ ↦ exists_result_fieldValues_eq_ok_iff.1 ⟨_, hvalues⟩⟩
  · intro h
    obtain hmakes | ⟨field, hfield⟩ := makes_or_offends args line
    · exact hmakes
    · cases hfield with
      | code hread hnone =>
        obtain ⟨code, hcode, -⟩ := h hread
        cases hnone.symm.trans hcode
      | operand hread hcode hkind hsplit _ hfield =>
        obtain ⟨code', hcode', hall⟩ := h hread
        cases hcode.symm.trans hcode'
        refine absurd (hall _ hkind _ ?_) hfield
        rw [hsplit]
        exact List.mem_append_right _ List.mem_cons_self

end

/-! ### Macros -/

/-- The lines are expanded one by one. -/
theorem result_expandLines (args : List Float) (lines : List String) :
    (expandLines args lines).result =
      (lines.mapM fun line ↦ (expandLine args line).result).map List.reduceOption := by
  induction lines with
  | nil => rfl
  | cons line lines ih =>
    rw [expandLines, Traversal.mapM_cons, Report.result_bind]
    cases (expandLine args line).result with
    | error e => rfl
    | ok p? =>
      have hrest : (expandLines args lines >>= fun ps ↦ pure (p?.toList ++ ps)).result =
          (expandLines args lines).result.map (p?.toList ++ ·) := Report.result_map _ _
      show (expandLines args lines >>= fun ps ↦ pure (p?.toList ++ ps)).result = _
      rw [hrest, ih]
      cases lines.mapM fun line ↦ (expandLine args line).result with
      | error e => rfl
      | ok ps => cases p? <;> rfl

section

variable {args : List Float} {lines : List String}

theorem result_expandLines_eq_ok_iff {ps : List Primitive} :
    (expandLines args lines).result = .ok ps ↔
      ∃ made, List.Forall₂ (LineMakes args) lines made ∧ ps = made.reduceOption := by
  rw [result_expandLines, Report.map_eq_ok]
  simp only [Traversal.mapM_eq_ok_iff, result_expandLine_eq_ok_iff, eq_comm (b := ps)]

theorem exists_result_expandLines_eq_ok_iff :
    (∃ ps, (expandLines args lines).result = .ok ps) ↔ ∀ line ∈ lines, WellFormed line := by
  rw [result_expandLines, Report.exists_map_eq_ok, Traversal.exists_mapM_eq_ok_iff]
  simp only [result_expandLine_eq_ok_iff, exists_lineMakes_iff]

theorem result_expandLines_eq_error_iff {e : MalformedNumber} :
    (expandLines args lines).result = .error e ↔
      ∃ field, FirstOffence lines field ∧ e = ⟨String.ofList field⟩ := by
  rw [result_expandLines, Report.map_eq_error, Traversal.mapM_eq_error_iff]
  simp only [result_expandLine_eq_ok_iff, exists_lineMakes_iff, result_expandLine_eq_error_iff]
  constructor
  · rintro ⟨front, line, back, hsplit, hfront, field, hfield, he⟩
    exact ⟨field, ⟨front, line, back, hsplit, hfront, hfield⟩, he⟩
  · rintro ⟨field, ⟨front, line, back, hsplit, hfront, hfield⟩, he⟩
    exact ⟨front, line, back, hsplit, hfront, field, hfield, he⟩

end

/-! ### Filling in -/

/-- A field that stands for an argument is replaced by a literal of its value, any other is kept. -/
inductive FilledField (args : List Float) (field : List Char) : List Char → Prop
  | kept : (∀ n, ¬ Placeholder (Text.trim field) n) → FilledField args field field
  | filled {n : Nat} {literal : List Char} : Placeholder (Text.trim field) n →
      readFiniteFloat? literal = some (argument args n) → FilledField args field literal

/-- The fields of a line are filled in. A line that makes nothing may also be left as it is. -/
inductive FilledLine (args : List Float) (line : String) : String → Prop
  | left : LineMakes args line none → FilledLine args line line
  | filled {code : List Char} {fields fields' : List (List Char)} :
      splitAtEach ',' line.toList = code :: fields →
      List.Forall₂ (FilledField args) fields fields' →
      FilledLine args line (String.ofList ([','].intercalate (code :: fields')))

/-- A literal is not cut at commas, is not empty and has nothing that trimming takes away. -/
theorem comma_not_mem_of_readFiniteFloat? {literal : List Char} {v : Float}
    (h : readFiniteFloat? literal = some v) : ',' ∉ literal :=
  fun hmem ↦ absurd (isLiteralChar_of_readFiniteFloat? h ',' hmem) (by decide)

theorem trim_of_readFiniteFloat? {literal : List Char} {v : Float}
    (h : readFiniteFloat? literal = some v) : Text.trim literal = literal := by
  have hblank : ∀ c ∈ literal, Text.isBlank c = false :=
    fun c hc ↦ isBlank_of_isLiteralChar (isLiteralChar_of_readFiniteFloat? h c hc)
  exact Text.trim_eq_self_iff.2
    ⟨fun c hc ↦ hblank c (List.mem_of_mem_head? hc), fun c hc ↦ hblank c (List.mem_of_getLast? hc)⟩

theorem FilledField.comma_not_mem {args : List Float} {field field' : List Char}
    (h : FilledField args field field') (hfield : ',' ∉ field) : ',' ∉ field' := by
  cases h with
  | kept => exact hfield
  | filled _ hliteral => exact comma_not_mem_of_readFiniteFloat? hliteral

/-- A field that does not stand for an argument has the same value for all arguments. -/
theorem fieldMeans_congr {args args' : List Float} {field : List Char}
    (h : ∀ n, ¬ Placeholder field n) {v : Float} (hv : FieldMeans args field v) :
    FieldMeans args' field v := by
  cases hv with
  | literal hv => exact .literal hv
  | placeholder hplaceholder => exact absurd hplaceholder (h _)

theorem result_fieldValue_congr {args args' : List Float} {field : List Char}
    (h : ∀ n, ¬ Placeholder field n) :
    (fieldValue args field).result = (fieldValue args' field).result := by
  by_cases hreadable : Readable field
  · obtain ⟨v, hv⟩ := (exists_fieldMeans_iff args).2 hreadable
    rw [result_fieldValue_of_means hv, result_fieldValue_of_means (fieldMeans_congr h hv)]
  · rw [result_fieldValue_of_not_readable hreadable, result_fieldValue_of_not_readable hreadable]

/-- A field and what it is filled in with are empty together and have the same value. -/
theorem FilledField.result_fieldValue {args : List Float} {field field' : List Char}
    (h : FilledField args field field') :
    (Text.trim field = [] ↔ Text.trim field' = []) ∧
      (fieldValue args (Text.trim field)).result = (fieldValue [] (Text.trim field')).result := by
  cases h with
  | kept h => exact ⟨.rfl, result_fieldValue_congr h⟩
  | filled hplaceholder hliteral =>
    have hne : field' ≠ [] := by
      rintro rfl
      cases readFiniteFloat?_nil.symm.trans hliteral
    rw [trim_of_readFiniteFloat? hliteral, result_fieldValue_of_means (.literal hliteral),
      result_fieldValue_of_means (.placeholder hplaceholder)]
    obtain ⟨digits, hdollar, -⟩ := hplaceholder
    exact ⟨iff_of_false (by simp [hdollar]) hne, rfl⟩

theorem result_fieldValues_filled {args : List Float} {fields fields' : List (List Char)}
    (h : List.Forall₂ (FilledField args) fields fields') :
    (fieldValues args (fields.map Text.trim)).result =
      (fieldValues [] (fields'.map Text.trim)).result := by
  have hrow : List.Forall₂ (fun f f' ↦ (f = [] ↔ f' = []) ∧
      (fieldValue args f).result = (fieldValue [] f').result)
      (fields.map Text.trim) (fields'.map Text.trim) := by
    simp only [List.forall₂_map_left_iff, List.forall₂_map_right_iff]
    exact h.imp fun _ _ ↦ FilledField.result_fieldValue
  rw [result_fieldValues, result_fieldValues]
  refine Traversal.mapM_congr ((List.rel_filter ?_ hrow).imp fun _ _ hvalue ↦ hvalue.2)
  intro f f' hvalue
  simpa using not_congr hvalue.1

/-- Lines that are read alike and have the same code and the same values make the same. -/
theorem result_expandLine_congr {args args' : List Float} {line line' : String}
    (hsilent : Silent line ↔ Silent line') (hcode : codeText line = codeText line')
    (hvalues : (fieldValues args (fieldsOf line).tail).result =
      (fieldValues args' (fieldsOf line').tail).result) :
    (expandLine args line).result = (expandLine args' line').result := by
  by_cases hread : Silent line
  · rw [expandLine_of_silent hread, expandLine_of_silent (hsilent.1 hread)]
  · rw [expandLine_of_not_silent hread, expandLine_of_not_silent (mt hsilent.2 hread), hcode]
    cases readWord? 32 (codeText line') with
    | none => rfl
    | some code =>
      cases hkind : PrimitiveKind.ofCode? code with
      | none => simp only [hkind]
      | some kind =>
        simp only [hkind]
        rw [Report.result_bind, Report.result_bind, hvalues]

/-- Filling in adds no commas, so the filled line has the fields it was made of. -/
theorem splitAtEach_filled {args : List Float} {text code : List Char}
    {fields fields' : List (List Char)} (hsplit : splitAtEach ',' text = code :: fields)
    (h : List.Forall₂ (FilledField args) fields fields') :
    splitAtEach ',' ([','].intercalate (code :: fields')) = code :: fields' := by
  have hpieces : ∀ piece ∈ code :: fields, ',' ∉ piece :=
    hsplit ▸ not_mem_of_mem_splitAtEach text
  obtain ⟨hcode, hfields⟩ := List.forall_mem_cons.1 hpieces
  refine splitAtEach_intercalate (List.forall_mem_cons.2 ⟨hcode, ?_⟩) (List.cons_ne_nil _ _)
  clear hsplit hpieces
  induction h with
  | nil => exact hfields
  | cons hfield _ ih =>
    obtain ⟨hfield', hrest⟩ := List.forall_mem_cons.1 hfields
    exact List.forall_mem_cons.2 ⟨hfield.comma_not_mem hfield', ih hrest⟩

/-- **A line whose fields are filled in makes the same without arguments.** -/
theorem FilledLine.result_expandLine {args : List Float} {line line' : String}
    (h : FilledLine args line line') :
    (expandLine args line).result = (expandLine [] line').result := by
  cases h with
  | left h =>
    have hmakes : LineMakes [] line none := by
      cases h with
      | silent h => exact .silent h
      | unknown hread hcode hunknown => exact .unknown hread hcode hunknown
    rw [result_expandLine_of_makes h, result_expandLine_of_makes hmakes]
  | @filled code fields fields' hsplit hfields =>
    set line' := String.ofList ([','].intercalate (code :: fields')) with hline'
    have hsplit' : splitAtEach ',' line'.toList = code :: fields' := by
      rw [hline', String.toList_ofList, splitAtEach_filled hsplit hfields]
    have hnil : fields = [] ↔ fields' = [] := by
      rw [← List.length_eq_zero_iff, hfields.length_eq, List.length_eq_zero_iff]
    refine result_expandLine_congr ?_ ?_ ?_
    · rw [← isSilent_iff, isSilent_congr hsplit hsplit' hnil, isSilent_iff]
    · rw [codeText, codeText, fieldsOf, fieldsOf, hsplit, hsplit']
      rfl
    · rw [fieldsOf, fieldsOf, hsplit, hsplit']
      exact result_fieldValues_filled hfields

/-- **A macro is expanded line by line**, and it can be expanded if and only if its lines are
well-formed. It makes what its lines make, in order, and the error names the first field that is
needed and cannot be read. Arguments count only where a field stands for one: with literals in the
place of these fields the macro makes the same without arguments. -/
theorem expand_linewise (m : ApertureMacro) (args : List Float) :
    ((∃ ps, (m.expand args).result = .ok ps) ↔ ∀ line ∈ m.lines, WellFormed line) ∧
      (∀ ps, (m.expand args).result = .ok ps ↔
        ∃ made, List.Forall₂ (LineMakes args) m.lines made ∧ ps = made.reduceOption) ∧
      (∀ e, (m.expand args).result = .error e ↔
        ∃ field, FirstOffence m.lines field ∧ e = ⟨String.ofList field⟩) ∧
      ∀ m' : ApertureMacro, List.Forall₂ (FilledLine args) m.lines m'.lines →
        (m.expand args).result = (m'.expand []).result := by
  refine ⟨exists_result_expandLines_eq_ok_iff, fun _ ↦ result_expandLines_eq_ok_iff,
    fun _ ↦ result_expandLines_eq_error_iff, fun m' h ↦ ?_⟩
  rw [expand, expand, result_expandLines, result_expandLines,
    Traversal.mapM_congr (h.imp fun _ _ ↦ FilledLine.result_expandLine)]

/-- A comment, an equation, a circle of which one argument is missing, and an unknown code. -/
theorem expand_linewise_filled_in :
    let m : ApertureMacro := ⟨"PAD", ["0 pad", "$2=$1x2", " 1 ,1, $1 ,,$3", "99,$x"]⟩
    let filled : ApertureMacro := ⟨"PAD", ["0 pad", "$2=$1x2", " 1 ,1,2.0,,0", "99,$x"]⟩
    (∀ line ∈ m.lines, WellFormed line) ∧
      List.Forall₂ (FilledLine [2]) m.lines filled.lines ∧
      (m.expand [2]).result = .ok [⟨.macroCircle, [1, 2, 0]⟩] ∧
      (filled.expand []).result = .ok [⟨.macroCircle, [1, 2, 0]⟩] := by
  intro m filled
  obtain ⟨ps, hps, rfl⟩ :
      ∃ ps, (m.expand [2]).result = .ok ps ∧ ps = [⟨.macroCircle, [1, 2, 0]⟩] := by
    decide +kernel
  have hcircle : FilledLine [2] " 1 ,1, $1 ,,$3" " 1 ,1,2.0,,0" := by
    have hsplit : splitAtEach ',' " 1 ,1, $1 ,,$3".toList =
        [[' ', '1', ' '], ['1'], [' ', '$', '1', ' '], [], ['$', '3']] := by decide
    have hone : FilledField [2] [' ', '$', '1', ' '] ['2', '.', '0'] :=
      .filled (n := 1) ⟨['1'], by decide, by decide⟩ (by decide +kernel)
    have hthree : FilledField [2] ['$', '3'] ['0'] :=
      .filled (n := 3) ⟨['3'], by decide, by decide⟩ (by decide +kernel)
    exact .filled hsplit <| .cons (.kept (not_placeholder (by decide))) <| .cons hone <|
      .cons (.kept (not_placeholder (by decide))) <| .cons hthree .nil
  have hcomment : LineMakes [2] "0 pad" none := .silent (isSilent_iff.1 (by decide))
  have hequation : LineMakes [2] "$2=$1x2" none := .silent (isSilent_iff.1 (by decide))
  have hcode : readWord? 32 (codeText "99,$x") = some 99 := by decide
  have hunknown : LineMakes [2] "99,$x" none :=
    .unknown (mt isSilent_iff.2 (by decide)) hcode (by decide)
  have hfilled : List.Forall₂ (FilledLine [2]) m.lines filled.lines :=
    .cons (.left hcomment) <| .cons (.left hequation) <| .cons hcircle <|
      .cons (.left hunknown) .nil
  have hlinewise := expand_linewise m [2]
  exact ⟨hlinewise.1.1 ⟨_, hps⟩, hfilled, hps, (hlinewise.2.2.2 filled hfilled).symm.trans hps⟩

end ApertureMacro

end GerberMask.Gerber
