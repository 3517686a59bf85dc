import GerberMask.Proofs.Number.Digits
import GerberMask.Settings.Json.Printer

/-!
# Texts and numbers in JSON are read back

A text is written character by character, and every character in one of three ways
(`writeChar_cases`): as it is, with a backslash and a letter, or as a UTF-16 unit. Each way is read
as one step of the text, and the steps denote the characters again (`pieces?_write`,
`decode?_map_piece`).

A number is read as far as it goes. One that is the whole of a text is read in front of anything
that cannot continue it (`Numeral.read?_append`), which is all that the values of a document need
to know about numbers; an integer of 64 bits is such a number (`Numeral.read?_integer`).
-/

namespace GerberMask.Settings.Json

open GerberMask.Text (hexDigit hexNumber?)

/-! ### Texts -/

theorem hexNumber?_control : ∀ n < 0x20,
    hexNumber? ['0', '0', hexDigit (n / 16), hexDigit n] = some n := by decide

/-- The three ways to write a character. -/
theorem writeChar_cases (c : Char) :
    (∃ e, writeChar c = ['\\', e] ∧ e ≠ 'u' ∧ escaped? e = some c) ∨
    (∃ a b, writeChar c = ['\\', 'u', '0', '0', a, b] ∧ c.toNat < 0x20 ∧
      hexNumber? ['0', '0', a, b] = some c.toNat) ∨
    (writeChar c = [c] ∧ c ≠ '"' ∧ c ≠ '\\' ∧ 0x20 ≤ c.toNat) := by
  unfold writeChar
  split
  · exact .inl ⟨'"', rfl, by decide, rfl⟩
  · exact .inl ⟨'\\', rfl, by decide, rfl⟩
  · exact .inl ⟨'b', rfl, by decide, rfl⟩
  · exact .inl ⟨'f', rfl, by decide, rfl⟩
  · exact .inl ⟨'n', rfl, by decide, rfl⟩
  · exact .inl ⟨'r', rfl, by decide, rfl⟩
  · exact .inl ⟨'t', rfl, by decide, rfl⟩
  · next hquote hbackslash _ _ _ _ _ =>
    by_cases hcontrol : c.toNat < 0x20
    · rw [if_pos hcontrol]
      exact .inr (.inl ⟨_, _, rfl, hcontrol, hexNumber?_control c.toNat hcontrol⟩)
    · rw [if_neg hcontrol]
      exact .inr (.inr ⟨rfl, hquote, hbackslash, by omega⟩)

/-- A unit that is no half of a pair denotes the character with its number. -/
theorem decode?_unit {n : Nat} (hn : n < 0xd800) (ps : List Piece) :
    decode? (.unit n :: ps) = (decode? ps).map (Char.ofNat n :: ·) := by
  have hlow : isLowHalf n = false := by
    simp only [isLowHalf, Bool.and_eq_false_iff, decide_eq_false_iff_not]
    omega
  have hhigh : isHighHalf n = false := by
    simp only [isHighHalf, Bool.and_eq_false_iff, decide_eq_false_iff_not]
    omega
  rw [decode?.eq_def]
  simp only [hlow, hhigh, Bool.false_eq_true, if_false]

/-- A character is read as one step, and the step denotes the character. -/
theorem exists_piece (c : Char) :
    ∃ p, (∀ rest, pieces? (writeChar c ++ rest) =
        (pieces? rest).map fun r ↦ (p :: r.1, r.2)) ∧
      ∀ ps, decode? (p :: ps) = (decode? ps).map (c :: ·) := by
  obtain ⟨e, hwrite, hu, he⟩ | ⟨a, b, hwrite, hcontrol, hhex⟩ | ⟨hwrite, hquote, hbackslash, hc⟩ :=
    writeChar_cases c
  · refine ⟨.char c, fun rest ↦ ?_, fun ps ↦ rfl⟩
    rw [hwrite, List.cons_append, List.cons_append, List.nil_append,
      pieces?.eq_4 _ _ fun _ _ _ _ _ h _ ↦ hu h, he]
    rcases pieces? rest with - | r
    · rfl
    · rfl
  · refine ⟨.unit c.toNat, fun rest ↦ ?_, fun ps ↦ ?_⟩
    · rw [hwrite]
      simp only [List.cons_append, List.nil_append, pieces?, hhex]
      rcases pieces? rest with - | r
      · rfl
      · rfl
    · rw [decode?_unit (by omega), Char.ofNat_toNat]
  · refine ⟨.char c, fun rest ↦ ?_, fun ps ↦ rfl⟩
    rw [hwrite, List.cons_append, List.nil_append,
      pieces?.eq_5 _ _ hquote (fun _ _ _ _ _ h _ ↦ hbackslash h) fun _ _ h _ ↦ hbackslash h,
      if_neg (by omega)]

/-- **A text is read back**, whatever follows it. -/
theorem pieces?_write (cs rest : List Char) :
    ∃ ps, pieces? (cs.flatMap writeChar ++ '"' :: rest) = some (ps, rest) ∧
      decode? ps = some cs := by
  induction cs with
  | nil => exact ⟨[], rfl, rfl⟩
  | cons c cs ih =>
    obtain ⟨p, hread, hdenote⟩ := exists_piece c
    obtain ⟨ps, hps, hcs⟩ := ih
    refine ⟨p :: ps, ?_, ?_⟩
    · rw [List.flatMap_cons, List.append_assoc, hread, hps]
      rfl
    · rw [hdenote, hcs]
      rfl

/-! ### Numbers -/

/-- Nothing that a number could go on with. -/
def EndsNumber (rest : List Char) : Prop :=
  ∀ c ∈ rest.head?, c.isDigit = false ∧ c ≠ '.' ∧ c ≠ 'e' ∧ c ≠ 'E'

namespace Numeral

variable {cs more rest : List Char}

theorem whole?_append {ds : List Char} (hrest : EndsNumber rest) (h : whole? cs = some (ds, more)) :
    whole? (cs ++ rest) = some (ds, more ++ rest) := by
  have hdigit : ∀ c ∈ rest.head?, c.isDigit = false := fun c hc ↦ (hrest c hc).1
  rcases cs with - | ⟨c, cs⟩
  · simp [whole?] at h
  by_cases hc : c = '0'
  · subst hc
    rw [whole?, Option.some.injEq, Prod.mk.injEq] at h
    obtain ⟨rfl, rfl⟩ := h
    rfl
  · rw [whole?.eq_2 _ (by rintro _ ⟨⟩; exact hc rfl)] at h
    rw [List.cons_append, whole?.eq_2 _ (by rintro _ ⟨⟩; exact hc rfl), ← List.cons_append,
      takeWhile_append_of_head _ hdigit, dropWhile_append_of_head _ hdigit]
    split at h
    · simp at h
    · next hne =>
      rw [Option.some.injEq, Prod.mk.injEq] at h
      rw [if_neg hne, h.1, h.2]

theorem fraction?_append {ds : List Char} (hrest : EndsNumber rest)
    (h : fraction? cs = some (ds, more)) : fraction? (cs ++ rest) = some (ds, more ++ rest) := by
  have hdigit : ∀ c ∈ rest.head?, c.isDigit = false := fun c hc ↦ (hrest c hc).1
  by_cases hpoint : cs.head? = some '.'
  · obtain ⟨cs, rfl⟩ := List.head?_eq_some_iff.1 hpoint
    rw [fraction?] at h
    rw [List.cons_append, fraction?, takeWhile_append_of_head _ hdigit,
      dropWhile_append_of_head _ hdigit]
    split at h
    · simp at h
    · next hne =>
      rw [Option.some.injEq, Prod.mk.injEq] at h
      rw [if_neg hne, h.1, h.2]
  · rw [fraction?.eq_2 _ (by rintro _ rfl; exact hpoint rfl), Option.some.injEq,
      Prod.mk.injEq] at h
    obtain ⟨rfl, rfl⟩ := h
    refine fraction?.eq_2 _ ?_
    intro cs' hcs
    rcases cs with - | ⟨c, cs⟩
    · exact (hrest '.' (by rw [show rest = '.' :: cs' from hcs]; rfl)).2.1 rfl
    · rw [List.cons_append, List.cons.injEq] at hcs
      exact hpoint (by rw [hcs.1]; rfl)

theorem readExponent?_append {e? : Option Int} (hrest : EndsNumber rest)
    (h : readExponent? cs = some (e?, [])) : readExponent? (cs ++ rest) = some (e?, rest) := by
  have hdigit : ∀ c ∈ rest.head?, c.isDigit = false := fun c hc ↦ (hrest c hc).1
  rcases cs with - | ⟨c, cs⟩
  · rw [readExponent?, Option.some.injEq, Prod.mk.injEq] at h
    obtain ⟨rfl, -⟩ := h
    rcases rest with - | ⟨c, rest⟩
    · rfl
    · obtain ⟨-, -, he, hE⟩ := hrest c rfl
      rw [List.nil_append, readExponent?, if_neg (by simp [he, hE])]
  · rw [readExponent?] at h
    rw [List.cons_append, readExponent?]
    split at h
    · next hmark =>
      rw [if_pos hmark]
      rcases cs with - | ⟨c', cs⟩
      · simp [takeSign] at h
      rw [takeSign_append (by simp)]
      generalize takeSign (c' :: cs) = signed at h ⊢
      obtain ⟨negative, ds⟩ := signed
      simp only [takeWhile_append_of_head _ hdigit, dropWhile_append_of_head _ hdigit] at h ⊢
      split at h
      · simp at h
      · next hne =>
        rw [Option.some.injEq, Prod.mk.injEq] at h
        rw [if_neg hne, h.1, h.2, List.nil_append]
    · simp at h

/-- The number behind the sign. -/
def magnitude? (negative : Bool) (cs : List Char) : Option (Numeral × List Char) := do
  let (whole, rest) ← whole? cs
  let (fraction, rest) ← fraction? rest
  let (exponent?, rest) ← readExponent? rest
  return (⟨negative, whole, fraction, exponent?⟩, rest)

theorem read?_of_head (h : cs.head? ≠ some '-') : read? cs = magnitude? false cs := by
  have hsign : ∀ rest, cs = '-' :: rest → False := by
    rintro _ rfl
    exact h rfl
  rw [read?]
  · rfl
  · exact hsign

theorem magnitude?_append {negative : Bool} {n : Numeral} (hrest : EndsNumber rest)
    (h : magnitude? negative cs = some (n, [])) :
    magnitude? negative (cs ++ rest) = some (n, rest) := by
  rw [magnitude?] at h
  obtain ⟨⟨whole, more⟩, hwhole, h⟩ := Option.bind_eq_some_iff.1 h
  obtain ⟨⟨fraction, more'⟩, hfraction, h⟩ := Option.bind_eq_some_iff.1 h
  obtain ⟨⟨e?, more''⟩, hexponent, h⟩ := Option.bind_eq_some_iff.1 h
  obtain ⟨rfl, rfl⟩ := Prod.mk.inj (Option.some.inj h)
  rw [magnitude?, whole?_append hrest hwhole]
  simp only [Option.bind_eq_bind, Option.bind_some, fraction?_append hrest hfraction,
    readExponent?_append hrest hexponent]
  rfl

/-- **A number that is the whole of a text is read** in front of what cannot continue it. -/
theorem read?_append {n : Numeral} (hrest : EndsNumber rest) (h : read? cs = some (n, [])) :
    read? (cs ++ rest) = some (n, rest) := by
  by_cases hminus : cs.head? = some '-'
  · obtain ⟨cs, rfl⟩ := List.head?_eq_some_iff.1 hminus
    exact magnitude?_append hrest h
  · rcases cs with - | ⟨c, cs⟩
    · simp [read?, whole?] at h
    rw [read?_of_head hminus] at h
    rw [read?_of_head (by exact hminus), magnitude?_append hrest h]

/-- A number begins with a minus sign or a digit. -/
theorem head_of_read? {n : Numeral} (h : read? cs = some (n, rest)) :
    ∃ c cs', cs = c :: cs' ∧ (c = '-' ∨ c.isDigit = true) := by
  rcases cs with - | ⟨c, cs⟩
  · simp [read?, whole?] at h
  refine ⟨c, cs, rfl, ?_⟩
  by_contra hc
  obtain ⟨hminus, hdigit⟩ := not_or.1 hc
  have hzero : ∀ ds, c :: cs = '0' :: ds → False := by
    rintro ds ⟨⟩
    exact hdigit rfl
  have hwhole : whole? (c :: cs) = none := by
    rw [whole?.eq_2 _ hzero, List.takeWhile_cons_of_neg hdigit]
    rfl
  rw [read?_of_head (by simpa using hminus), magnitude?, hwhole] at h
  cases h

end Numeral

/-! ### Integers -/

/-- The integers that a number without fraction and exponent can say. -/
def IsInteger (n : Int) : Prop := -0x8000000000000000 ≤ n ∧ n ≤ word64Max

/-- An integer as it is written. -/
def numeralOf (n : Int) : Numeral := ⟨decide (n < 0), Nat.toDigits 10 n.natAbs, [], none⟩

theorem setting_numeralOf {n : Int} (h : IsInteger n) : (numeralOf n).setting = .integer n := by
  obtain ⟨hlow, hhigh⟩ := h
  have hinteger : (numeralOf n).integer? = some n := by
    simp only [Numeral.integer?, numeralOf, digitsValue_toDigits, List.isEmpty_nil,
      Option.isNone_none, Bool.and_self, if_true]
    by_cases hn : n < 0
    · rw [if_pos (decide_eq_true hn), if_pos (by omega)]
      exact congrArg some (by omega)
    · rw [if_neg (by simpa using hn), if_pos (by omega)]
      exact congrArg some (by omega)
  rw [Numeral.setting, hinteger]

theorem whole?_toDigits (k : Nat) :
    Numeral.whole? (Nat.toDigits 10 k) = some (Nat.toDigits 10 k, []) := by
  by_cases hzero : (Nat.toDigits 10 k).head? = some '0'
  · obtain ⟨ds, hds⟩ := List.head?_eq_some_iff.1 hzero
    rw [eq_zero_of_toDigits_eq_cons hds]
    rfl
  · have hall : ∀ c ∈ Nat.toDigits 10 k, c.isDigit = true := fun c ↦ isDigit_of_mem_toDigits
    rw [Numeral.whole?.eq_2 _ fun ds hds ↦ hzero (by rw [hds]; rfl),
      List.takeWhile_eq_self_iff.2 hall, List.dropWhile_eq_nil_iff.2 hall,
      if_neg (by simp [Nat.toDigits_ne_nil])]

/-- The text of an integer is a number as a whole. -/
theorem read?_integer (n : Int) : Numeral.read? (toString n).toList = some (numeralOf n, []) := by
  have hdigits : ∀ negative, Numeral.magnitude? negative (Nat.toDigits 10 n.natAbs) =
      some (⟨negative, Nat.toDigits 10 n.natAbs, [], none⟩, []) := by
    intro negative
    rw [Numeral.magnitude?, whole?_toDigits]
    rfl
  rw [toString_toList]
  by_cases hn : n < 0
  · rw [if_pos hn, numeralOf, decide_eq_true hn]
    exact hdigits true
  · rw [if_neg hn, numeralOf, decide_eq_false hn, List.nil_append, Numeral.read?_of_head, hdigits]
    intro hminus
    exact absurd (isDigit_of_mem_toDigits (List.mem_of_mem_head? hminus)) (by decide)

end GerberMask.Settings.Json
