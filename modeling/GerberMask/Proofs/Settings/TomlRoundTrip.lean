import GerberMask.Proofs.Settings.TomlScalars
import GerberMask.Proofs.Settings.TomlTexts

/-!
# What is written in TOML is read back

A document of sections is read as these sections (`read?_writeDocument`). The values of a section
are flags, integers of 64 bits, numbers that are read as they are written, texts, and lists of such
values (`IsLine`); names are plain and different from each other.

A value is read in front of the end of its line or its item (`value?_line`). On top of this a
document is a run over lines: a header opens a table, a line adds a value to it, an empty line does
nothing, and each of these takes the document from one state to the next and the text to what
follows the line (`Reads.header`, `Reads.entries`, `Reads.blank`). What is read so far always has
the form of the sections that were written so far, with the current table at the end (`tableOf`).
-/

namespace GerberMask.Settings.Toml

/-! ### Values of one line -/

/-- A value that is written as a word or a text. -/
def IsScalar : Setting → Prop
  | .flag _ => True
  | .integer n => int64Min ≤ n ∧ n ≤ int64Max
  | .real x => ReadsBack x
  | .text _ => True
  | _ => False

/-- A value of a section: a word, a text or a list of these. -/
def IsLine : Setting → Prop
  | .list vs => ∀ v ∈ vs, IsScalar v
  | v => IsScalar v

/-- A character at the beginning of a word or of a text. -/
def StartsScalar (c : Char) : Prop := isWordChar c = true ∨ c = '"' ∨ c = '\''

theorem StartsScalar.not_mem {c : Char} (h : StartsScalar c) :
    c ∉ ['[', ']', '{', ',', '#', ' ', '\t', '\n', '\r'] := by
  intro hmem
  simp only [List.mem_cons, List.not_mem_nil, or_false] at hmem
  obtain hword | rfl | rfl := h
  · obtain rfl | rfl | rfl | rfl | rfl | rfl | rfl | rfl | rfl := hmem
    all_goals exact absurd hword (by decide)
  · simp at hmem
  · simp at hmem

/-- A scalar is a word that says it, or a text. -/
theorem word_or_text {v : Setting} (h : IsScalar v) :
    ((∀ c ∈ write v, isWordChar c = true) ∧ word? (write v) = some v) ∨ ∃ s, v = .text s := by
  rcases v with - | b | n | x | s | - | - | vs | es
  · exact h.elim
  · refine .inl ⟨List.all_eq_true.1 ?_, ?_⟩
    · rcases b with - | - <;> rfl
    · rcases b with - | - <;> rfl
  · exact .inl ⟨fun _ ↦ isWordChar_of_mem_integer, word?_integer h⟩
  · exact .inl ⟨fun _ ↦ isWordChar_of_mem_writeReal, h⟩
  · exact .inr ⟨s, rfl⟩
  · exact h.elim
  · exact h.elim
  · exact h.elim
  · exact h.elim

theorem exists_writeText_eq_cons (cs : List Char) :
    ∃ c ds, writeText cs = c :: ds ∧ (c = '"' ∨ c = '\'') := by
  unfold writeText
  dsimp only
  split
  · exact ⟨_, _, rfl, .inl rfl⟩
  split
  · exact ⟨_, _, rfl, .inr rfl⟩
  split
  · exact ⟨_, _, rfl, .inl rfl⟩
  split
  · exact ⟨_, _, rfl, .inr rfl⟩
  split
  · exact ⟨_, _, rfl, .inl rfl⟩
  · exact ⟨_, _, rfl, .inl rfl⟩

theorem exists_write_eq_cons {v : Setting} (h : IsScalar v) :
    ∃ c cs, write v = c :: cs ∧ StartsScalar c := by
  obtain ⟨hchars, hword⟩ | ⟨s, rfl⟩ := word_or_text h
  · rcases hv : write v with - | ⟨c, cs⟩
    · rw [hv] at hword
      cases hword
    · exact ⟨c, cs, rfl, .inl (hchars c (by rw [hv]; exact List.mem_cons_self))⟩
  · obtain ⟨c, cs, htext, hc⟩ := exists_writeText_eq_cons s.toList
    exact ⟨c, cs, htext, .inr hc⟩

/-- A scalar is read back. -/
theorem value?_scalar {v : Setting} (h : IsScalar v) (fuel room : Nat) {rest : List Char}
    (hrest : EndsValue rest) : value? (fuel + 1) room (write v ++ rest) = some (v, rest) := by
  obtain ⟨hchars, hword⟩ | ⟨s, rfl⟩ := word_or_text h
  · exact value?_word fuel room hchars hrest hword
  have hmark : ∀ c, c ∉ ['\n', ',', ']'] → rest.head? ≠ some c := fun c hc heq ↦ hc (hrest c heq)
  have htext : text? (writeText s.toList ++ rest) = some (s.toList, rest) :=
    text?_writeText s.toList (hmark '"' (by decide)) (hmark '\'' (by decide))
  show value? (fuel + 1) room (writeText s.toList ++ rest) = _
  obtain ⟨c, cs, hcs, rfl | rfl⟩ := exists_writeText_eq_cons s.toList
  · rw [hcs, List.cons_append] at htext ⊢
    rw [value?, htext]
    simp
  · rw [hcs, List.cons_append] at htext ⊢
    rw [value?, htext]
    simp

/-! ### Lists -/

/-- No blank, no line break and no comment. -/
def IsVisible (c : Char) : Prop := c ∉ ['#', ' ', '\t', '\n', '\r']

theorem isVisible_comma : IsVisible ',' := by simp [IsVisible]

theorem isVisible_opening : IsVisible '[' := by simp [IsVisible]

theorem isVisible_closing : IsVisible ']' := by simp [IsVisible]

theorem StartsScalar.isVisible {c : Char} (h : StartsScalar c) : IsVisible c :=
  fun hmem ↦ h.not_mem (by simp_all)

theorem skip_of_isVisible {c : Char} (hc : IsVisible c) (cs : List Char) :
    skip (c :: cs) = c :: cs := by
  refine List.dropWhile_cons_of_neg ?_
  intro hblank
  rw [isBlank, Bool.or_eq_true, beq_iff_eq, beq_iff_eq] at hblank
  obtain rfl | rfl := hblank
  · exact hc (by decide)
  · exact hc (by decide)

theorem skipComment_of_isVisible {c : Char} (hc : IsVisible c) (cs : List Char) :
    skipComment (c :: cs) = c :: cs := by
  refine skipComment.eq_2 _ fun _ heq ↦ ?_
  obtain rfl := (List.cons.inj heq).1
  exact hc (by decide)

theorem lineBreak?_of_isVisible {c : Char} (hc : IsVisible c) (cs : List Char) :
    lineBreak? (c :: cs) = none := by
  simp only [IsVisible, List.mem_cons, List.not_mem_nil, or_false, not_or] at hc
  obtain ⟨-, -, -, hbreak⟩ := hc
  exact lineBreak?_cons hbreak

theorem skipLines_of_isVisible {c : Char} (hc : IsVisible c) (fuel : Nat) (cs : List Char) :
    skipLines fuel (c :: cs) = c :: cs := by
  rcases fuel with - | fuel
  · rfl
  · rw [skipLines, skip_of_isVisible hc, skipComment_of_isVisible hc, lineBreak?_of_isVisible hc]

/-- A line break and the blanks behind it are dropped. -/
theorem skipLines_newLine {c : Char} (hc : IsVisible c) {cs cs' : List Char}
    (hskip : skip cs = c :: cs') (fuel : Nat) : skipLines (fuel + 2) ('\n' :: cs) = c :: cs' := by
  have hbreak : lineBreak? (skipComment (skip ('\n' :: cs))) = some cs := rfl
  rw [skipLines, hbreak]
  dsimp only
  rw [skipLines, hskip, skipComment_of_isVisible hc, lineBreak?_of_isVisible hc]

theorem items?_close {fuel room : Nat} {cs rest : List Char}
    (h : skipLines fuel cs = ']' :: rest) : items? (fuel + 1) room cs = some ([], rest) := by
  rw [items?, h]
  rfl

/-- `items?` reads an item and goes on according to what follows it. -/
theorem items?_item {fuel room : Nat} {cs more : List Char} {v : Setting} (hv : IsScalar v)
    (hmore : EndsValue more) (h : skipLines (fuel + 1) cs = write v ++ more) :
    items? (fuel + 2) room cs =
      match skipLines (fuel + 1) more with
      | ']' :: rest => some ([v], rest)
      | ',' :: rest => (items? (fuel + 1) room rest).bind fun r ↦ some (v :: r.1, r.2)
      | _ => none := by
  rw [items?, h]
  split
  · next heq =>
    obtain ⟨c, ds, hds, hc⟩ := exists_write_eq_cons hv
    rw [hds, List.cons_append] at heq
    exact absurd (by rw [(List.cons.inj heq).1]; decide) hc.not_mem
  · rw [value?_scalar hv fuel room hmore]
    rfl

theorem endsValue_cons {c : Char} (hc : c ∈ ['\n', ',', ']']) (cs : List Char) :
    EndsValue (c :: cs) := by
  intro d hd
  obtain rfl := Option.mem_some.1 hd
  exact hc

theorem items?_last {fuel room : Nat} {cs rest : List Char} {v : Setting} (hv : IsScalar v)
    (h : skipLines (fuel + 1) cs = write v ++ ']' :: rest) :
    items? (fuel + 2) room cs = some ([v], rest) := by
  rw [items?_item hv (endsValue_cons (by decide) rest) h, skipLines_of_isVisible isVisible_closing]
  rfl

theorem items?_next {fuel room : Nat} {cs more rest : List Char} {v : Setting} {vs : List Setting}
    (hv : IsScalar v) (h : skipLines (fuel + 1) cs = write v ++ ',' :: more)
    (hmore : items? (fuel + 1) room more = some (vs, rest)) :
    items? (fuel + 2) room cs = some (v :: vs, rest) := by
  rw [items?_item hv (endsValue_cons (by decide) more) h, skipLines_of_isVisible isVisible_comma]
  simp only [hmore, Option.bind_some]

theorem writeItems_cons (v : Setting) (vs : List Setting) :
    write.writeItems (v :: vs) = "\n    ".toList ++ write v ++ ',' :: write.writeItems vs := rfl

/-- Items on lines of their own are read up to the bracket that closes the list. -/
theorem items?_lines {vs : List Setting} (hvs : ∀ v ∈ vs, IsScalar v) (fuel room : Nat)
    (rest : List Char) :
    items? (fuel + vs.length + 3) room (write.writeItems vs ++ '\n' :: ']' :: rest) =
      some (vs, rest) := by
  induction vs with
  | nil =>
    have hclose := isVisible_closing
    exact items?_close (skipLines_newLine hclose (skip_of_isVisible hclose rest) fuel)
  | cons v vs ih =>
    obtain ⟨hv, hvs⟩ := List.forall_mem_cons.1 hvs
    obtain ⟨c, cs, hcs, hc⟩ := exists_write_eq_cons hv
    rw [writeItems_cons, List.append_assoc, List.append_assoc, List.cons_append]
    -- one unit for the item and its comma, and what is left is enough for the others
    show items? (fuel + vs.length + 2 + 2) room _ = _
    refine items?_next hv ?_ (ih hvs)
    rw [hcs, List.cons_append]
    exact skipLines_newLine hc.isVisible (skip_of_isVisible hc.isVisible _) _

theorem length_le_writeItems (vs : List Setting) : vs.length ≤ (write.writeItems vs).length := by
  induction vs with
  | nil => exact Nat.zero_le _
  | cons v vs ih =>
    rw [writeItems_cons]
    simp only [List.length_append, List.length_cons]
    omega

theorem value?_list {fuel room : Nat} {cs rest : List Char} {vs : List Setting}
    (h : items? fuel room cs = some (vs, rest)) :
    value? (fuel + 1) (room + 1) ('[' :: cs) = some (.list vs, rest) := by
  rw [value?.eq_3, h]
  rfl

theorem scalar_or_list {v : Setting} (h : IsLine v) :
    IsScalar v ∨ ∃ vs, v = .list vs ∧ ∀ v ∈ vs, IsScalar v := by
  rcases v with - | b | n | x | s | - | - | vs | es
  all_goals first | exact .inl h | exact .inr ⟨vs, rfl, h⟩

/-- Two items or more have lines of their own. -/
theorem write_list_cons_cons (v v' : Setting) (vs : List Setting) :
    write (.list (v :: v' :: vs)) =
      '[' :: (write.writeItems (v :: v' :: vs) ++ ['\n', ']']) :=
  write.eq_7 _ nofun nofun

theorem exists_line_eq_cons {v : Setting} (h : IsLine v) :
    ∃ c cs, write v = c :: cs ∧ IsVisible c := by
  obtain hv | ⟨vs, rfl, -⟩ := scalar_or_list h
  · obtain ⟨c, cs, hcs, hc⟩ := exists_write_eq_cons hv
    exact ⟨c, cs, hcs, hc.isVisible⟩
  rcases vs with - | ⟨v, - | ⟨v', vs⟩⟩
  · exact ⟨_, _, rfl, isVisible_opening⟩
  · exact ⟨_, _, rfl, isVisible_opening⟩
  · exact ⟨_, _, write_list_cons_cons v v' vs, isVisible_opening⟩

/-- A value is read in front of the end of its line. -/
theorem value?_line {v : Setting} (h : IsLine v) {fuel : Nat} (room : Nat)
    (hfuel : (write v).length + 4 ≤ fuel) {rest : List Char} (hrest : EndsValue rest) :
    value? fuel (room + 1) (write v ++ rest) = some (v, rest) := by
  obtain hv | ⟨vs, rfl, h⟩ := scalar_or_list h
  · obtain ⟨k, rfl⟩ : ∃ k, fuel = k + 1 := ⟨fuel - 1, by omega⟩
    exact value?_scalar hv _ _ hrest
  rcases vs with - | ⟨v, - | ⟨v', vs⟩⟩
  · obtain ⟨k, rfl⟩ : ∃ k, fuel = k + 2 := ⟨fuel - 2, by omega⟩
    exact value?_list (items?_close (skipLines_of_isVisible isVisible_closing k rest))
  · obtain ⟨k, rfl⟩ : ∃ k, fuel = k + 3 := ⟨fuel - 3, by omega⟩
    have hv := h v List.mem_cons_self
    obtain ⟨c, cs, hcs, hc⟩ := exists_write_eq_cons hv
    have hitem : skipLines (k + 1) (write v ++ ']' :: rest) = write v ++ ']' :: rest := by
      rw [hcs, List.cons_append]
      exact skipLines_of_isVisible hc.isVisible _ _
    rw [write, List.append_assoc]
    exact value?_list (items?_last hv hitem)
  · have hwrite := write_list_cons_cons v v' vs
    have hlength := length_le_writeItems (v :: v' :: vs)
    rw [hwrite, List.length_cons, List.length_append] at hfuel
    obtain ⟨k, rfl⟩ : ∃ k, fuel = k + (v :: v' :: vs).length + 3 + 1 :=
      ⟨fuel - (v :: v' :: vs).length - 4, by omega⟩
    rw [hwrite, List.cons_append, List.append_assoc]
    exact value?_list (items?_lines h k room rest)

/-! ### Names -/

/-- A name without points that needs no quotation marks. -/
def IsKey (key : String) : Prop := key.toList ≠ [] ∧ key.toList.all isNameChar = true

instance : DecidablePred IsKey := fun _ ↦ inferInstanceAs (Decidable (_ ∧ _))

theorem IsKey.isNameChar_of_mem {key : String} (h : IsKey key) :
    ∀ c ∈ key.toList, isNameChar c = true :=
  List.all_eq_true.1 h.2

theorem exists_key_eq_cons {key : String} (h : IsKey key) :
    ∃ c cs, key.toList = c :: cs ∧ isNameChar c = true := by
  obtain ⟨c, cs, hcs⟩ := List.exists_cons_of_ne_nil h.1
  exact ⟨c, cs, hcs, h.isNameChar_of_mem c (by rw [hcs]; exact List.mem_cons_self)⟩

/-- A key does not begin like a header. -/
theorem key_ne_bracket {key : String} (h : IsKey key) (rest cs : List Char) :
    key.toList ++ rest ≠ '[' :: cs := by
  obtain ⟨c, ds, hds, hc⟩ := exists_key_eq_cons h
  intro heq
  rw [hds, List.cons_append] at heq
  rw [(List.cons.inj heq).1] at hc
  exact absurd hc (by decide)

theorem ne_of_isNameChar {c d : Char} (hc : isNameChar c = true) (hd : isNameChar d = false) :
    c ≠ d := by
  rintro rfl
  rw [hc] at hd
  cases hd

theorem isVisible_of_isNameChar {c : Char} (hc : isNameChar c = true) : IsVisible c := by
  simp only [IsVisible, List.mem_cons, List.not_mem_nil, or_false, not_or]
  exact ⟨ne_of_isNameChar hc rfl, ne_of_isNameChar hc rfl, ne_of_isNameChar hc rfl,
    ne_of_isNameChar hc rfl, ne_of_isNameChar hc rfl⟩

theorem part?_key {key : String} (h : IsKey key) {rest : List Char}
    (hrest : ∀ c ∈ rest.head?, isNameChar c = false) :
    part? (key.toList ++ rest) = some (key, rest) := by
  obtain ⟨c, cs, hcs, hc⟩ := exists_key_eq_cons h
  have hquoted : quoted? (key.toList ++ rest) = none := by
    rw [hcs]
    exact quoted?.eq_3 _ (fun _ heq ↦ ne_of_isNameChar hc rfl (List.cons.inj heq).1)
      fun _ heq ↦ ne_of_isNameChar hc rfl (List.cons.inj heq).1
  have htake : (key.toList ++ rest).takeWhile isNameChar = key.toList := by
    rw [takeWhile_append_of_head _ hrest, List.takeWhile_eq_self_iff.2 h.isNameChar_of_mem]
  have hdrop : (key.toList ++ rest).dropWhile isNameChar = rest := by
    rw [dropWhile_append_of_head _ hrest, List.dropWhile_eq_nil_iff.2 h.isNameChar_of_mem,
      List.nil_append]
  rw [part?, hquoted]
  dsimp only
  rw [htake, hdrop, String.ofList_toList, if_neg (by rw [hcs]; exact Bool.false_ne_true)]

/-- A name is read as far as it goes. -/
theorem name?_key {key : String} (h : IsKey key) (room : Nat) {rest : List Char}
    (hrest : ∀ c ∈ rest.head?, isNameChar c = false) (hpoint : (skip rest).head? ≠ some '.') :
    name? (room + 1) (key.toList ++ rest) = some ([], key, skip rest) := by
  obtain ⟨c, cs, hcs, hc⟩ := exists_key_eq_cons h
  have hskip : skip (key.toList ++ rest) = key.toList ++ rest := by
    rw [hcs]
    exact skip_of_isVisible (isVisible_of_isNameChar hc) _
  rw [name?, hskip, part?_key h hrest]
  simp only [Option.bind_eq_bind, Option.bind_some]
  split
  · next heq => exact absurd (congrArg List.head? heq) hpoint
  · rfl

/-! ### Lines -/

theorem endLine?_of_isVisible {c : Char} (hc : IsVisible c) (cs : List Char) :
    endLine? (c :: cs) = none := by
  rw [endLine?, skip_of_isVisible hc, skipComment_of_isVisible hc]
  exact lineBreak?_of_isVisible hc cs

/-- What is read so far: entries, and behind them the current table with its values. -/
def tableOf (done : Entries) (name : String) (es : List (String × Setting)) : Document :=
  ⟨done ++ [(name, .table .declared (es.map fun e ↦ (e.1, .leaf e.2)))], [name]⟩

theorem lookup_of_not_mem {name : String} {es : Entries} (h : name ∉ es.map Prod.fst) :
    es.lookup name = none := by
  rw [List.lookup_eq_none_iff]
  intro p hp
  have hne : name ≠ p.1 := fun heq ↦ h (by rw [heq]; exact List.mem_map_of_mem hp)
  exact bne_iff_ne.2 hne

theorem replace_of_not_mem {name : String} {es : Entries} (h : name ∉ es.map Prod.fst)
    (n : Node) : es.replace name n = es := by
  refine (List.map_congr_left fun p hp ↦ ?_).trans (List.map_id es)
  have hne : (p.1 == name) = false :=
    beq_false_of_ne fun heq ↦ h (heq ▸ List.mem_map_of_mem hp)
  show (if (p.1 == name) = true then (p.1, n) else (p.1, p.2)) = p
  rw [hne, if_neg Bool.false_ne_true]

/-- A new name opens a table. -/
theorem declare?_new {d : Document} {name : String} (h : name ∉ d.entries.map Prod.fst) :
    d.declare? [] name = some (tableOf d.entries name []) := by
  have hlookup := lookup_of_not_mem h
  rw [Document.declare?, Entries.at?, Entries.declare?, hlookup]
  dsimp only
  rw [Entries.add?, hlookup]
  rfl

/-- A new name gets its value in the current table. -/
theorem assign?_new {done : Entries} {name key : String} {es : List (String × Setting)}
    (hname : name ∉ done.map Prod.fst) (hkey : key ∉ es.map Prod.fst) (v : Setting) :
    (tableOf done name es).assign? [] key v = some (tableOf done name (es ++ [(key, v)])) := by
  have hinner : key ∉ (es.map fun e ↦ (e.1, Node.leaf e.2)).map Prod.fst := by
    rw [List.map_map]
    exact hkey
  have hlookup : (tableOf done name es).entries.lookup name =
      some (.table .declared (es.map fun e ↦ (e.1, .leaf e.2))) := by
    rw [tableOf, List.lookup_append, lookup_of_not_mem hname]
    simp
  have hadd : Entries.assign? [] key v .declared (es.map fun e ↦ (e.1, .leaf e.2)) =
      some ((es ++ [(key, v)]).map fun e ↦ (e.1, .leaf e.2)) := by
    rw [Entries.assign?, Entries.at?, List.map_append]
    show Entries.add? key (.leaf v) _ = _
    rw [Entries.add?, lookup_of_not_mem hinner]
    rfl
  have hreplace : (tableOf done name es).entries.replace name
      (.table .declared ((es ++ [(key, v)]).map fun e ↦ (e.1, .leaf e.2))) =
        (tableOf done name (es ++ [(key, v)])).entries := by
    rw [tableOf, tableOf]
    dsimp only
    rw [Entries.replace, List.map_append, ← Entries.replace, replace_of_not_mem hname]
    simp
  rw [Document.assign?]
  show (Entries.at? false _ [name] _ _).map _ = _
  rw [Entries.at?, hlookup]
  dsimp only
  rw [Entries.at?, hadd]
  dsimp only [Option.map_some]
  rw [hreplace]
  rfl

/-- The line of a header opens its table. -/
theorem line?_header {d : Document} {name : String} (hkey : IsKey name)
    (hname : name ∉ d.entries.map Prod.fst) (rest : List Char) :
    d.line? ('[' :: (name.toList ++ ']' :: '\n' :: rest)) =
      some (tableOf d.entries name [], rest) := by
  have hskip : skip (']' :: '\n' :: rest) = ']' :: '\n' :: rest :=
    skip_of_isVisible isVisible_closing _
  have hread : name? (depthLimit - 1) (name.toList ++ ']' :: '\n' :: rest) =
      some ([], name, ']' :: '\n' :: rest) := by
    have hend : ∀ c ∈ (']' :: '\n' :: rest).head?, isNameChar c = false := by
      rintro c ⟨⟩
      rfl
    have hkeyed := name?_key hkey (depthLimit - 2) hend (by rw [hskip]; simp)
    rwa [hskip] at hkeyed
  rw [Document.line?.eq_2 d _ (key_ne_bracket hkey _), hread]
  simp only [Option.bind_eq_bind, Option.bind_some, declare?_new hname]
  rfl

/-- The line of a value adds it to the current table. -/
theorem line?_entry {done : Entries} {name key : String} {es : List (String × Setting)}
    {v : Setting} (hkey : IsKey key) (hvalue : IsLine v) (hname : name ∉ done.map Prod.fst)
    (hnew : key ∉ es.map Prod.fst) (rest : List Char) :
    (tableOf done name es).line? (writeEntry (key, v) ++ rest) =
      some (tableOf done name (es ++ [(key, v)]), rest) := by
  have hshape : writeEntry (key, v) ++ rest =
      key.toList ++ ' ' :: '=' :: ' ' :: (write v ++ '\n' :: rest) := by
    simp [writeEntry]
  have hread : name? (depthLimit - 1)
      (key.toList ++ ' ' :: '=' :: ' ' :: (write v ++ '\n' :: rest)) =
        some ([], key, '=' :: ' ' :: (write v ++ '\n' :: rest)) := by
    refine name?_key hkey (depthLimit - 2) ?_ (fun heq ↦ ?_)
    · rintro c ⟨⟩
      rfl
    · cases heq
  have hskip : skip (' ' :: (write v ++ '\n' :: rest)) = write v ++ '\n' :: rest := by
    obtain ⟨c, cs, hcs, hc⟩ := exists_line_eq_cons hvalue
    rw [hcs]
    exact skip_of_isVisible hc _
  have hwritten : value? (2 * (' ' :: (write v ++ '\n' :: rest)).length + 2) (depthLimit - 1)
      (write v ++ '\n' :: rest) = some (v, '\n' :: rest) := by
    refine value?_line hvalue (depthLimit - 2) ?_ (endsValue_cons (by decide) rest)
    rw [List.length_cons, List.length_append, List.length_cons]
    omega
  rw [hshape, Document.line?.eq_3 _ _ (fun _ ↦ key_ne_bracket hkey _ _) (key_ne_bracket hkey _),
    hread]
  simp only [Option.bind_eq_bind, Option.bind_some, hskip, hwritten, assign?_new hname hnew]
  rfl

/-- Reading goes through a document from a text to what is read in the end. -/
def Reads (d : Document) (cs : List Char) (out : Document) : Prop :=
  ∀ fuel, cs.length < fuel → d.lines? fuel cs = some out

namespace Reads

variable {d next out : Document} {cs rest : List Char}

theorem nil (d : Document) : Reads d [] d := by
  intro fuel hfuel
  obtain ⟨fuel, rfl⟩ : ∃ k, fuel = k + 1 := ⟨fuel - 1, by omega⟩
  rfl

/-- An empty line does nothing. -/
theorem blank (h : Reads d cs out) : Reads d ('\n' :: cs) out := by
  intro fuel hfuel
  rw [List.length_cons] at hfuel
  obtain ⟨fuel, rfl⟩ : ∃ k, fuel = k + 1 := ⟨fuel - 1, by omega⟩
  exact h fuel (by omega)

/-- A line takes a document from one state to the next. -/
theorem line {c : Char} {cs : List Char} (hc : IsVisible c)
    (hline : d.line? (c :: cs ++ rest) = some (next, rest)) (h : Reads next rest out) :
    Reads d (c :: cs ++ rest) out := by
  intro fuel hfuel
  rw [List.length_append, List.length_cons] at hfuel
  obtain ⟨fuel, rfl⟩ : ∃ k, fuel = k + 1 := ⟨fuel - 1, by omega⟩
  rw [Document.lines?, List.cons_append, skip_of_isVisible hc]
  dsimp only
  rw [endLine?_of_isVisible hc]
  dsimp only
  rw [← List.cons_append, hline]
  exact h fuel (by omega)

/-- A header opens its table. -/
theorem header {name : String} (hkey : IsKey name) (hname : name ∉ d.entries.map Prod.fst)
    (h : Reads (tableOf d.entries name []) rest out) :
    Reads d ('[' :: (name.toList ++ [']', '\n']) ++ rest) out := by
  refine line isVisible_opening ?_ h
  rw [List.cons_append, List.append_assoc]
  exact line?_header hkey hname rest

/-- The lines of values add them to the current table. -/
theorem entries {done : Entries} {name : String} (hname : name ∉ done.map Prod.fst)
    {es new : List (String × Setting)} (hnew : ∀ e ∈ new, IsKey e.1 ∧ IsLine e.2)
    (hdistinct : ((es ++ new).map Prod.fst).Nodup)
    (h : Reads (tableOf done name (es ++ new)) rest out) :
    Reads (tableOf done name es) (new.flatMap writeEntry ++ rest) out := by
  induction new generalizing es with
  | nil => rwa [List.append_nil] at h
  | cons e new ih =>
    obtain ⟨⟨hkey, hvalue⟩, hnew⟩ := List.forall_mem_cons.1 hnew
    have hfresh : e.1 ∉ es.map Prod.fst := by
      rw [List.map_append, List.map_cons] at hdistinct
      intro hmem
      exact (List.nodup_append.1 hdistinct).2.2 e.1 hmem e.1 List.mem_cons_self rfl
    -- the value of this line counts among those that are there when the next line is read
    rw [← List.singleton_append, ← List.append_assoc] at hdistinct h
    obtain ⟨c, cs, hcs, hc⟩ := exists_key_eq_cons hkey
    obtain ⟨ds, hds⟩ : ∃ ds, writeEntry e = c :: ds := by
      rw [writeEntry, hcs]
      exact ⟨_, rfl⟩
    have hline := line?_entry hkey hvalue hname hfresh (new.flatMap writeEntry ++ rest)
    rw [List.flatMap_cons, List.append_assoc]
    rw [hds] at hline ⊢
    exact line (isVisible_of_isNameChar hc) hline (ih hnew hdistinct h)

end Reads

/-! ### Documents -/

/-- A section with plain names that are all different and with values that have a line each. -/
structure IsSection (s : String × List (String × Setting)) : Prop where
  name : IsKey s.1
  entries : ∀ e ∈ s.2, IsKey e.1 ∧ IsLine e.2
  distinct : (s.2.map Prod.fst).Nodup

/-- The value of a section. -/
def sectionSetting (s : String × List (String × Setting)) : String × Setting := (s.1, .group s.2)

/-- The entry that a section becomes. -/
def sectionNode (s : String × List (String × Setting)) : String × Node :=
  (s.1, .table .declared (s.2.map fun e ↦ (e.1, .leaf e.2)))

theorem settings_leaves (es : List (String × Setting)) :
    settings (es.map fun e ↦ (e.1, .leaf e.2)) = es := by
  induction es with
  | nil => rfl
  | cons e es ih =>
    rw [List.map_cons, settings, ih]
    rfl

theorem settings_sectionNodes (sections : List (String × List (String × Setting))) :
    settings (sections.map sectionNode) = sections.map sectionSetting := by
  induction sections with
  | nil => rfl
  | cons s sections ih =>
    rw [List.map_cons, sectionNode, settings, ih, Node.setting, settings_leaves]
    rfl

/-- A section is read behind what is there already. -/
theorem Reads.section {s : String × List (String × Setting)} (hs : IsSection s) {d out : Document}
    (hname : s.1 ∉ d.entries.map Prod.fst) {rest : List Char}
    (h : Reads (tableOf d.entries s.1 s.2) rest out) :
    Reads d (writeSection (sectionSetting s) ++ rest) out := by
  have hentries : Reads (tableOf d.entries s.1 []) (s.2.flatMap writeEntry ++ rest) out :=
    Reads.entries hname hs.entries hs.distinct h
  have hheader := Reads.header hs.name hname hentries
  simpa [writeSection, sectionSetting] using hheader

/-- Sections are read behind what is there already. -/
theorem reads_sections {sections : List (String × List (String × Setting))}
    (hsections : ∀ s ∈ sections, IsSection s) (d : Document)
    (hdistinct : (d.entries.map Prod.fst ++ sections.map Prod.fst).Nodup) :
    ∃ out, Reads d (writeDocument (sections.map sectionSetting)) out ∧
      out.entries = d.entries ++ sections.map sectionNode := by
  induction sections generalizing d with
  | nil => exact ⟨d, .nil d, (List.append_nil _).symm⟩
  | cons s sections ih =>
    obtain ⟨hs, hsections⟩ := List.forall_mem_cons.1 hsections
    have hname : s.1 ∉ d.entries.map Prod.fst := by
      rw [List.map_cons] at hdistinct
      intro hmem
      exact (List.nodup_append.1 hdistinct).2.2 s.1 hmem s.1 List.mem_cons_self rfl
    have hkeys : (tableOf d.entries s.1 s.2).entries.map Prod.fst ++ sections.map Prod.fst =
        d.entries.map Prod.fst ++ (s :: sections).map Prod.fst := by
      simp [tableOf]
    obtain ⟨out, hreads, hout⟩ := ih hsections (tableOf d.entries s.1 s.2) (hkeys ▸ hdistinct)
    refine ⟨out, ?_, by rw [hout]; simp [tableOf, sectionNode]⟩
    -- an empty line stands in front of every section but the first
    rcases sections with - | ⟨s', sections⟩
    · show Reads d (writeSection (sectionSetting s) ++ writeDocument []) out
      exact Reads.section hs hname hreads
    · show Reads d (writeSection (sectionSetting s) ++
        '\n' :: writeDocument ((s' :: sections).map sectionSetting)) out
      exact Reads.section hs hname (.blank hreads)

/-- A document of sections is read as these sections. -/
theorem read?_writeDocument {sections : List (String × List (String × Setting))}
    (hsections : ∀ s ∈ sections, IsSection s) (hdistinct : (sections.map Prod.fst).Nodup) :
    read? (String.ofList (writeDocument (sections.map sectionSetting))) =
      some (.group (sections.map sectionSetting)) := by
  obtain ⟨out, hreads, hout⟩ := reads_sections hsections .empty hdistinct
  have hmark : ∀ cs, writeDocument (sections.map sectionSetting) ≠ '\ufeff' :: cs := by
    intro cs heq
    rcases sections with - | ⟨s, - | ⟨s', sections⟩⟩
    · cases heq
    · exact absurd (List.cons.inj heq).1 (by decide)
    · exact absurd (List.cons.inj heq).1 (by decide)
  rw [read?, String.toList_ofList]
  split
  · next cs heq => exact absurd heq (hmark cs)
  · rw [hreads _ (Nat.lt_succ_self _), Option.map_some, hout, Document.empty, List.nil_append,
      settings_sectionNodes]

end GerberMask.Settings.Toml
