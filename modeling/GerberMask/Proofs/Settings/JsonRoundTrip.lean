import GerberMask.Proofs.Settings.JsonScalars
import GerberMask.Proofs.Settings.Sections
import GerberMask.Settings.Json.Reader
import Mathlib.Data.List.DropRight

/-!
# What is written in JSON is read back

A value is read as it was written, except that JSON has no spelling for everything: a number that
is not finite is written as `null` and read as nothing (`spelled`). This holds for every value whose
integers have 64 bits and whose finite numbers are read as they are written (`Representable`), at
every depth and in front of everything that cannot continue a number (`value?_write`), and so for a
document (`read?_write`).

The reader threads what follows a value, and so does the induction; it goes along the value that is
written, with one statement for a value, one for the items of a list and one for the entries of a
group. Two units of fuel for every character of the text are enough.
-/

namespace GerberMask.Settings.Json

/-! ### What comes through -/

/-- A number that is read as it is written. -/
def ReadsBack (x : Float) : Prop :=
  ∃ n, Numeral.read? (writeReal x) = some (n, []) ∧ n.setting = .real x

mutual

/-- The values that JSON can hold: integers of 64 bits, and finite numbers that are read as they are
written. -/
def Representable : Setting → Prop
  | .integer n => IsInteger n
  | .real x => x.isFinite → ReadsBack x
  | .list items => RepresentableItems items
  | .group entries => RepresentableEntries entries
  | _ => True

/-- Representable items. -/
def RepresentableItems : List Setting → Prop
  | [] => True
  | v :: vs => Representable v ∧ RepresentableItems vs

/-- Representable entries. -/
def RepresentableEntries : List (String × Setting) → Prop
  | [] => True
  | (_, v) :: es => Representable v ∧ RepresentableEntries es

end

mutual

/-- What a value is read as after it was written. -/
def spelled : Setting → Setting
  | .real x => if x.isFinite then .real x else .nothing
  | .moment => .nothing
  | .unreadable => .nothing
  | .list items => .list (spelledItems items)
  | .group entries => .group (spelledEntries entries)
  | v => v

/-- What items are read as. -/
def spelledItems : List Setting → List Setting
  | [] => []
  | v :: vs => spelled v :: spelledItems vs

/-- What entries are read as. -/
def spelledEntries : List (String × Setting) → List (String × Setting)
  | [] => []
  | (key, v) :: es => (key, spelled v) :: spelledEntries es

end

theorem spelledItems_eq (vs : List Setting) : spelledItems vs = vs.map spelled := by
  induction vs with
  | nil => rfl
  | cons v vs ih => rw [spelledItems, ih, List.map_cons]

theorem spelledEntries_eq (es : List (String × Setting)) :
    spelledEntries es = es.map fun e ↦ (e.1, spelled e.2) := by
  induction es with
  | nil => rfl
  | cons e es ih => rw [spelledEntries, ih, List.map_cons]

/-- Writing and reading changes numbers at most. -/
theorem passage_spelled : Passage spelled where
  flag _ := rfl
  integer _ := rfl
  text _ := rfl
  list vs := by rw [spelled, spelledItems_eq]
  group es := by rw [spelled, spelledEntries_eq]

/-! ### Blanks -/

theorem skip_newLine (depth : Nat) (cs : List Char) : skip (newLine depth ++ cs) = skip cs := by
  refine List.dropWhile_append_of_pos ?_
  intro c hc
  rw [newLine, List.mem_cons, List.mem_replicate] at hc
  obtain rfl | ⟨-, rfl⟩ := hc
  · rfl
  · rfl

theorem value?_congr {cs cs' : List Char} (h : skip cs = skip cs') (fuel : Nat) :
    value? fuel cs = value? fuel cs' := by
  rcases fuel with - | fuel
  · rw [value?, value?]
  · rw [value?, value?, h]

theorem items?_congr {cs cs' : List Char} (h : skip cs = skip cs') (fuel : Nat) :
    items? fuel cs = items? fuel cs' := by
  rcases fuel with - | fuel
  · rw [items?, items?]
  · rw [items?, items?, value?_congr h]

theorem entries?_congr {cs cs' : List Char} (h : skip cs = skip cs') (fuel : Nat) :
    entries? fuel cs = entries? fuel cs' := by
  rcases fuel with - | fuel
  · rw [entries?, entries?]
  · rw [entries?, entries?, h]

/-! ### Words, texts and numbers as values -/

theorem value?_null (fuel : Nat) (rest : List Char) :
    value? (fuel + 1) ("null".toList ++ rest) = some (.nothing, rest) := by
  rw [value?]
  rfl

theorem value?_flag (fuel : Nat) (b : Bool) (rest : List Char) :
    value? (fuel + 1) ((if b then "true" else "false").toList ++ rest) = some (.flag b, rest) := by
  rw [value?]
  rcases b with - | -
  · rfl
  · rfl

theorem value?_text (fuel : Nat) (s : String) (rest : List Char) :
    value? (fuel + 1) (writeText s.toList ++ rest) = some (.text s, rest) := by
  obtain ⟨ps, hpieces, hdecode⟩ := pieces?_write s.toList rest
  have htext : writeText s.toList ++ rest = '"' :: (s.toList.flatMap writeChar ++ '"' :: rest) := by
    simp [writeText]
  have hskip : ∀ cs, skip ('"' :: cs) = '"' :: cs := fun _ ↦ rfl
  rw [htext, value?, hskip]
  simp only [hpieces, hdecode, Option.bind_eq_bind, Option.bind_some, Option.map_some,
    Option.getD_some, String.ofList_toList]
  rfl

/-- The beginning of a number begins no other value. -/
theorem starts_number {c : Char} (hc : c = '-' ∨ c.isDigit = true) :
    isBlank c = false ∧ c ∉ ['"', '[', '{', ']', 'n', 't', 'f'] := by
  refine ⟨Bool.eq_false_iff.2 fun hblank ↦ ?_, fun hmem ↦ ?_⟩
  · simp only [isBlank, Bool.or_eq_true, beq_iff_eq] at hblank
    obtain ((rfl | rfl) | rfl) | rfl := hblank
    all_goals revert hc; decide
  · simp only [List.mem_cons, List.not_mem_nil, or_false] at hmem
    obtain rfl | rfl | rfl | rfl | rfl | rfl | rfl := hmem
    all_goals revert hc; decide

theorem value?_number (fuel : Nat) {cs rest : List Char} {n : Numeral}
    (h : Numeral.read? cs = some (n, rest)) : value? (fuel + 1) cs = some (n.setting, rest) := by
  obtain ⟨c, cs, rfl, hc⟩ := Numeral.head_of_read? h
  obtain ⟨hblank, hmem⟩ := starts_number hc
  simp only [List.mem_cons, List.not_mem_nil, or_false, not_or] at hmem
  obtain ⟨hquote, hbracket, hbrace, -, hn, ht, hf⟩ := hmem
  have hskip : skip (c :: cs) = c :: cs := List.dropWhile_cons_of_neg (by simp [hblank])
  have hword : word? (c :: cs) = none := by
    simp [word?, words, Ne.symm hn, Ne.symm ht, Ne.symm hf]
  rw [value?, hskip]
  split
  · next heq => exact absurd (List.cons.inj heq).1 hquote
  · next heq => exact absurd (List.cons.inj heq).1 hbracket
  · next heq => exact absurd (List.cons.inj heq).1 hbrace
  · rw [hword, h]
    rfl

/-! ### Steps of the reader -/

section
variable {fuel : Nat} {cs more rest : List Char}

theorem skip_skip (cs : List Char) : skip (skip cs) = skip cs :=
  List.dropWhile_idempotent _ cs

/-- No value begins with a bracket that closes a list. -/
theorem skip_ne_of_value? {r : Setting × List Char} (h : value? fuel cs = some r) :
    skip cs ≠ ']' :: rest := by
  intro hskip
  rcases fuel with - | fuel
  · simp [value?] at h
  · rw [value?, hskip] at h
    cases h

theorem items?_last {v : Setting} (hv : value? fuel cs = some (v, more))
    (hmore : skip more = ']' :: rest) : items? (fuel + 1) cs = some ([v], rest) := by
  rw [items?, hv]
  simp only [Option.bind_eq_bind, Option.bind_some, hmore]
  rfl

theorem items?_next {v : Setting} {vs : List Setting} {more' : List Char}
    (hv : value? fuel cs = some (v, more)) (hmore : skip more = ',' :: more')
    (hvs : items? fuel more' = some (vs, rest)) : items? (fuel + 1) cs = some (v :: vs, rest) := by
  rw [items?, hv]
  simp only [Option.bind_eq_bind, Option.bind_some, hmore, hvs]
  rfl

theorem value?_list {vs : List Setting} (h : items? fuel cs = some (vs, rest)) :
    value? (fuel + 1) ('[' :: cs) = some (.list vs, rest) := by
  have hclose : ∀ cs', skip cs ≠ ']' :: cs' := by
    intro cs'
    rcases fuel with - | fuel
    · simp [items?] at h
    · rw [items?] at h
      obtain ⟨r, hr, -⟩ := Option.bind_eq_some_iff.1 h
      exact skip_ne_of_value? hr
  have hskip : skip ('[' :: cs) = '[' :: cs := rfl
  rw [value?, hskip]
  simp only [items?_congr (skip_skip cs), h, Option.map_some]

/-- The name of an entry is read as a text. -/
theorem exists_pieces_key {key : String} (hcs : skip cs = writeText key.toList ++ ':' :: more) :
    ∃ cs' ps, skip cs = '"' :: cs' ∧ pieces? cs' = some (ps, ':' :: more) ∧
      decode? ps = some key.toList := by
  obtain ⟨ps, hpieces, hdecode⟩ := pieces?_write key.toList (':' :: more)
  exact ⟨_, ps, hcs.trans (by simp [writeText]), hpieces, hdecode⟩

theorem entries?_last {key : String} {v : Setting} {more' : List Char}
    (hcs : skip cs = writeText key.toList ++ ':' :: more) (hv : value? fuel more = some (v, more'))
    (hmore : skip more' = '}' :: rest) :
    entries? (fuel + 1) cs = some ([(some key.toList, v)], rest) := by
  obtain ⟨cs', ps, hkey, hpieces, hdecode⟩ := exists_pieces_key hcs
  have hcolon : skip (':' :: more) = ':' :: more := rfl
  rw [entries?, hkey]
  simp only [hpieces, hdecode, hcolon, hv, hmore, Option.bind_eq_bind, Option.bind_some]
  rfl

theorem entries?_next {key : String} {v : Setting} {more' more'' : List Char}
    {es : List (Option (List Char) × Setting)}
    (hcs : skip cs = writeText key.toList ++ ':' :: more) (hv : value? fuel more = some (v, more'))
    (hmore : skip more' = ',' :: more'') (hes : entries? fuel more'' = some (es, rest)) :
    entries? (fuel + 1) cs = some ((some key.toList, v) :: es, rest) := by
  obtain ⟨cs', ps, hkey, hpieces, hdecode⟩ := exists_pieces_key hcs
  have hcolon : skip (':' :: more) = ':' :: more := rfl
  rw [entries?, hkey]
  simp only [hpieces, hdecode, hcolon, hv, hmore, hes, Option.bind_eq_bind, Option.bind_some]
  rfl

theorem groupOf_map (es : List (String × Setting)) :
    groupOf (es.map fun e ↦ (some e.1.toList, e.2)) = .group es := by
  have hid : ∀ f : Option (List Char) × Setting → Option (String × Setting),
      (∀ key v, f (some key, v) = some (String.ofList key, v)) →
        (f ∘ fun e : String × Setting ↦ (some e.1.toList, e.2)) = pure := by
    intro f hf
    funext e
    simp [hf]
  rw [groupOf, List.mapM_map, hid _ fun _ _ ↦ rfl, List.mapM_pure]
  simp

theorem value?_group {es : List (String × Setting)}
    (h : entries? fuel cs = some (es.map fun e ↦ (some e.1.toList, e.2), rest)) :
    value? (fuel + 1) ('{' :: cs) = some (.group es, rest) := by
  have hclose : ∀ cs', skip cs ≠ '}' :: cs' := by
    intro cs' hcs
    rcases fuel with - | fuel
    · simp [entries?] at h
    · rw [entries?, hcs] at h
      cases h
  have hskip : skip ('{' :: cs) = '{' :: cs := rfl
  rw [value?, hskip]
  simp only [entries?_congr (skip_skip cs), h, Option.map_some, groupOf_map]

end

/-! ### Lines between brackets -/

/-- Texts on lines of their own, with commas between them. -/
def lines (depth : Nat) (parts : List (List Char)) : List Char :=
  List.intercalate [','] (parts.map (newLine depth ++ ·))

theorem lines_singleton (depth : Nat) (part : List Char) :
    lines depth [part] = newLine depth ++ part := by
  rw [lines, List.map_singleton, List.intercalate_singleton]

theorem lines_cons_cons (depth : Nat) (part next : List Char) (parts : List (List Char)) :
    lines depth (part :: next :: parts) =
      newLine depth ++ (part ++ ',' :: lines depth (next :: parts)) := by
  rw [lines, List.map_cons, List.map_cons, List.intercalate_cons_cons, lines, List.map_cons]
  simp

theorem bracketed_cons (opening closing : Char) (depth : Nat) (part : List Char)
    (parts : List (List Char)) : bracketed opening closing depth (part :: parts) =
      opening :: (lines (depth + 1) (part :: parts) ++ (newLine depth ++ [closing])) := rfl

theorem length_newLine (depth : Nat) : (newLine depth).length = 2 * depth + 1 := by
  simp [newLine]

theorem endsNumber_newLine (depth : Nat) (cs : List Char) : EndsNumber (newLine depth ++ cs) := by
  rintro _ ⟨⟩
  decide

theorem endsNumber_comma (cs : List Char) : EndsNumber (',' :: cs) := by
  rintro _ ⟨⟩
  decide

/-! ### Values -/

/-- A value is read from its text as what it is spelled. -/
def Reads (v : Setting) : Prop :=
  ∀ depth fuel rest, EndsNumber rest → 2 * (write depth v).length < fuel →
    value? fuel (write depth v ++ rest) = some (spelled v, rest)

theorem items?_write {v : Setting} {vs : List Setting} (h : ∀ w ∈ v :: vs, Reads w)
    {depth fuel : Nat} (hfuel : 2 * (lines depth (writeItems depth (v :: vs))).length ≤ fuel)
    (outer : Nat) (rest : List Char) :
    items? fuel (lines depth (writeItems depth (v :: vs)) ++ (newLine outer ++ ']' :: rest)) =
      some (spelledItems (v :: vs), rest) := by
  induction vs generalizing v fuel with
  | nil =>
    rw [writeItems, writeItems, lines_singleton, List.length_append, length_newLine] at hfuel
    obtain ⟨fuel, rfl⟩ := Nat.exists_eq_succ_of_ne_zero (show fuel ≠ 0 by omega)
    have hv := h v (List.mem_singleton_self v) depth fuel _
      (endsNumber_newLine outer (']' :: rest)) (by omega)
    rw [writeItems, writeItems, lines_singleton, List.append_assoc,
      items?_congr (skip_newLine depth _)]
    exact items?_last hv (skip_newLine outer _)
  | cons w ws ih =>
    rw [writeItems, writeItems, lines_cons_cons, ← writeItems, List.length_append, length_newLine,
      List.length_append, List.length_cons] at hfuel
    obtain ⟨fuel, rfl⟩ := Nat.exists_eq_succ_of_ne_zero (show fuel ≠ 0 by omega)
    have hv := h v List.mem_cons_self depth fuel _
      (endsNumber_comma (lines depth (writeItems depth (w :: ws)) ++
        (newLine outer ++ ']' :: rest))) (by omega)
    have hws : ∀ u ∈ w :: ws, Reads u := fun u hu ↦ h u (List.mem_cons_of_mem v hu)
    rw [writeItems, writeItems, lines_cons_cons, ← writeItems, List.append_assoc,
      items?_congr (skip_newLine depth _), List.append_assoc, List.cons_append]
    exact items?_next hv rfl (ih hws (by omega))

/-- Entries as the reader returns them, before their names are put together. -/
def named (es : List (String × Setting)) : List (Option (List Char) × Setting) :=
  es.map fun e ↦ (some e.1.toList, e.2)

/-- The text of an entry, and what follows it, behind a line break. -/
theorem skip_entry (depth : Nat) (key : String) (cs : List Char) :
    skip (newLine depth ++ (writeText key.toList ++ ':' :: ' ' :: cs)) =
      writeText key.toList ++ ':' :: ' ' :: cs :=
  (skip_newLine depth _).trans rfl

theorem entries?_write {e : String × Setting} {es : List (String × Setting)}
    (h : ∀ d ∈ e :: es, Reads d.2) {depth fuel : Nat}
    (hfuel : 2 * (lines depth (writeEntries depth (e :: es))).length ≤ fuel)
    (outer : Nat) (rest : List Char) :
    entries? fuel (lines depth (writeEntries depth (e :: es)) ++ (newLine outer ++ '}' :: rest)) =
      some (named (spelledEntries (e :: es)), rest) := by
  have hblank : ∀ cs, skip (' ' :: cs) = skip cs := fun _ ↦ rfl
  induction es generalizing e fuel with
  | nil =>
    obtain ⟨key, v⟩ := e
    rw [writeEntries, writeEntries, lines_singleton, List.length_append, length_newLine,
      List.length_append, List.length_cons, List.length_cons] at hfuel
    obtain ⟨fuel, rfl⟩ := Nat.exists_eq_succ_of_ne_zero (show fuel ≠ 0 by omega)
    have hreads : Reads v := h (key, v) (List.mem_singleton_self _)
    have hv := hreads depth fuel _ (endsNumber_newLine outer ('}' :: rest)) (by omega)
    rw [← value?_congr (hblank _)] at hv
    rw [writeEntries, writeEntries, lines_singleton, List.append_assoc, List.append_assoc]
    exact entries?_last (skip_entry depth key _) hv (skip_newLine outer _)
  | cons d ds ih =>
    obtain ⟨key, v⟩ := e
    obtain ⟨key', w⟩ := d
    rw [writeEntries, writeEntries, lines_cons_cons, ← writeEntries, List.length_append,
      length_newLine, List.length_append, List.length_cons, List.length_append, List.length_cons,
      List.length_cons] at hfuel
    obtain ⟨fuel, rfl⟩ := Nat.exists_eq_succ_of_ne_zero (show fuel ≠ 0 by omega)
    have hreads : Reads v := h (key, v) List.mem_cons_self
    have hv := hreads depth fuel _
      (endsNumber_comma (lines depth (writeEntries depth ((key', w) :: ds)) ++
        (newLine outer ++ '}' :: rest))) (by omega)
    have hds : ∀ d ∈ (key', w) :: ds, Reads d.2 := fun d hd ↦ h d (List.mem_cons_of_mem _ hd)
    rw [← value?_congr (hblank _)] at hv
    rw [writeEntries, writeEntries, lines_cons_cons, ← writeEntries, List.append_assoc,
      List.append_assoc, List.append_assoc]
    exact entries?_next (skip_entry depth key _) hv rfl (ih hds (by omega))

theorem Reads.list {vs : List Setting} (h : ∀ v ∈ vs, Reads v) : Reads (.list vs) := by
  intro depth fuel rest hrest hfuel
  obtain ⟨fuel, rfl⟩ := Nat.exists_eq_succ_of_ne_zero (show fuel ≠ 0 by omega)
  rcases vs with - | ⟨v, vs⟩
  · rw [value?]
    rfl
  · rw [write, writeItems, bracketed_cons, ← writeItems] at hfuel ⊢
    rw [List.length_cons, List.length_append] at hfuel
    rw [List.cons_append, List.append_assoc, List.append_assoc]
    exact value?_list (items?_write h (by omega) depth rest)

theorem Reads.group {es : List (String × Setting)} (h : ∀ e ∈ es, Reads e.2) :
    Reads (.group es) := by
  intro depth fuel rest hrest hfuel
  obtain ⟨fuel, rfl⟩ := Nat.exists_eq_succ_of_ne_zero (show fuel ≠ 0 by omega)
  rcases es with - | ⟨⟨key, v⟩, es⟩
  · rw [value?]
    rfl
  · rw [write, writeEntries, bracketed_cons, ← writeEntries] at hfuel ⊢
    rw [List.length_cons, List.length_append] at hfuel
    rw [List.cons_append, List.append_assoc, List.append_assoc]
    exact value?_group (entries?_write h (by omega) depth rest)

/-- A value without parts is read whatever the fuel is. -/
theorem reads_of_succ {v : Setting} (h : ∀ depth fuel rest, EndsNumber rest →
    value? (fuel + 1) (write depth v ++ rest) = some (spelled v, rest)) : Reads v := by
  intro depth fuel rest hrest hfuel
  obtain ⟨fuel, rfl⟩ := Nat.exists_eq_succ_of_ne_zero (show fuel ≠ 0 by omega)
  exact h depth fuel rest hrest

theorem reads_integer {n : Int} (h : IsInteger n) : Reads (.integer n) := by
  refine reads_of_succ fun depth fuel rest hrest ↦ ?_
  rw [write, value?_number fuel (Numeral.read?_append hrest (read?_integer n)),
    setting_numeralOf h]
  rfl

theorem reads_real {x : Float} (h : x.isFinite → ReadsBack x) : Reads (.real x) := by
  refine reads_of_succ fun depth fuel rest hrest ↦ ?_
  rw [write, spelled]
  by_cases hx : x.isFinite
  · obtain ⟨n, hread, hsetting⟩ := h hx
    rw [value?_number fuel (Numeral.read?_append hrest hread), hsetting, if_pos hx]
  · rw [writeReal, if_neg hx, if_neg hx]
    exact value?_null fuel rest

mutual

/-- **Every value is read from its text as what it is spelled.** -/
theorem reads : ∀ {v : Setting}, Representable v → Reads v
  | .nothing, _ => reads_of_succ fun _ fuel rest _ ↦ value?_null fuel rest
  | .flag b, _ => reads_of_succ fun _ fuel rest _ ↦ value?_flag fuel b rest
  | .integer _, h => reads_integer h
  | .real _, h => reads_real h
  | .text s, _ => reads_of_succ fun _ fuel rest _ ↦ value?_text fuel s rest
  | .moment, _ => reads_of_succ fun _ fuel rest _ ↦ value?_null fuel rest
  | .unreadable, _ => reads_of_succ fun _ fuel rest _ ↦ value?_null fuel rest
  | .list _, h => Reads.list (reads_items h)
  | .group _, h => Reads.group (reads_entries h)

theorem reads_items : ∀ {vs : List Setting}, RepresentableItems vs → ∀ v ∈ vs, Reads v
  | [], _ => fun _ hv ↦ absurd hv List.not_mem_nil
  | _ :: _, h => List.forall_mem_cons.2 ⟨reads h.1, reads_items h.2⟩

theorem reads_entries : ∀ {es : List (String × Setting)}, RepresentableEntries es →
    ∀ e ∈ es, Reads e.2
  | [], _ => fun _ he ↦ absurd he List.not_mem_nil
  | (_, _) :: _, h => List.forall_mem_cons.2 ⟨reads h.1, reads_entries h.2⟩

end

/-- **A document is read as what its value is spelled.** -/
theorem read?_write {v : Setting} (h : Representable v) :
    read? (String.ofList (write 0 v)) = some (spelled v) := by
  have hlength : (String.ofList (write 0 v)).length = (write 0 v).length := by simp
  have hv := reads h 0 (2 * (write 0 v).length + 2) [] (by rintro _ ⟨⟩) (by omega)
  rw [List.append_nil] at hv
  rw [read?, hlength, String.toList_ofList, hv]
  rfl

end GerberMask.Settings.Json
