import Mathlib.Data.Rat.Cast.Order
import Mathlib.Tactic.FieldSimp
import GerberMask.Proofs.Number.Digits
import GerberMask.Proofs.Number.Literals

/-!
# Numbers without letters

A number in text that has no letter is no word and has no exponent. What can be read then is a sign,
which may be left out, and digits, with at most one point among them. With a point the digits behind
it are a fraction of the last one in front of it (`Literal.read?_pointed`), and there is no other
way to write a number with a point and without a letter (`Literal.exists_of_read?_eq_some`).
-/

namespace GerberMask

/-! ### Signs -/

/-- How the sign of a number is written. -/
inductive WrittenSign where
  | unwritten
  | plus
  | minus
  deriving DecidableEq, Repr

namespace WrittenSign

/-- The text of a sign. -/
def text : WrittenSign → List Char
  | unwritten => []
  | plus => ['+']
  | minus => ['-']

/-- Whether the number behind the sign is negated. -/
def negates (sign : WrittenSign) : Bool :=
  sign == minus

/-- The number with the sign. -/
def apply {R : Type} [Neg R] (sign : WrittenSign) (a : R) : R :=
  if sign.negates then -a else a

/-- What commutes with negation commutes with signs. -/
theorem map_apply {R S : Type} [Neg R] [Neg S] {g : R → S} (hg : ∀ a, g (-a) = -g a)
    (sign : WrittenSign) (a : R) : g (sign.apply a) = sign.apply (g a) := by
  unfold apply
  split
  · exact hg a
  · rfl

end WrittenSign

/-- A sign is taken off a text that does not begin with one more. -/
theorem takeSign_text_append (sign : WrittenSign) {body : List Char}
    (h : ∀ c ∈ body.head?, c ≠ '+' ∧ c ≠ '-') :
    takeSign (sign.text ++ body) = (sign.negates, body) := by
  cases sign with
  | unwritten =>
    cases body with
    | nil => rfl
    | cons c body =>
      obtain ⟨hplus, hminus⟩ := h c rfl
      exact takeSign.eq_3 _ (fun _ heq ↦ hminus (List.cons.inj heq).1)
        fun _ heq ↦ hplus (List.cons.inj heq).1
  | plus => rfl
  | minus => rfl

theorem exists_takeSign (cs : List Char) :
    ∃ sign : WrittenSign, cs = sign.text ++ (takeSign cs).2 ∧ sign.negates = (takeSign cs).1 := by
  unfold takeSign
  split
  · exact ⟨.minus, rfl, rfl⟩
  · exact ⟨.plus, rfl, rfl⟩
  · exact ⟨.unwritten, rfl, rfl⟩

/-- What stands behind the sign of a text is refused, unless the text is a sign and digits. -/
theorem takeSign_refused {cs : List Char} (h : ∀ (sign : WrittenSign) (digits : List Char),
    cs = sign.text ++ digits → (∀ c ∈ digits, c.isDigit = true) → digits = []) :
    ((takeSign cs).2.isEmpty || !(takeSign cs).2.all Char.isDigit) = true := by
  obtain ⟨sign, hcs, -⟩ := exists_takeSign cs
  by_contra haccept
  rw [Bool.or_eq_true, not_or, List.isEmpty_iff, Bool.not_eq_true', Bool.not_eq_false] at haccept
  exact haccept.1 (h sign _ hcs (List.all_eq_true.1 haccept.2))

theorem isAlpha_of_isDigit {c : Char} (h : c.isDigit = true) : c.isAlpha = false := by
  obtain ⟨-, hnine⟩ := Bool.and_eq_true_iff.1 h
  have hlast : c.toNat ≤ '9'.toNat := of_decide_eq_true hnine
  rw [Bool.eq_false_iff]
  intro hletter
  -- all letters come behind the digits
  obtain hupper | hlower := Bool.or_eq_true_iff.1 hletter
  · obtain ⟨hfirst, -⟩ := of_decide_eq_true hupper
    exact absurd (Nat.le_trans hfirst hlast) (by decide)
  · obtain ⟨hfirst, -⟩ := Bool.and_eq_true_iff.1 hlower
    exact absurd (Nat.le_trans (of_decide_eq_true hfirst) hlast) (by decide)

theorem ne_sign_of_isDigit {c : Char} (h : c.isDigit = true) : c ≠ '+' ∧ c ≠ '-' := by
  constructor <;> rintro rfl <;> cases h

/-! ### Points -/

namespace Literal

variable {cs whole fraction : List Char}

/-- Digits around a point are read, and nothing else is behind them. -/
theorem readMagnitude?_pointed (hwhole : ∀ c ∈ whole, c.isDigit = true)
    (hfraction : ∀ c ∈ fraction, c.isDigit = true) (hdigits : whole ++ fraction ≠ [])
    (negative : Bool) :
    readMagnitude? negative (whole ++ '.' :: fraction) =
      some ⟨negative, digitsValue (whole ++ fraction), -fraction.length⟩ := by
  have hpoint : ∀ c ∈ ('.' :: fraction).head?, c.isDigit = false := by
    rintro _ ⟨⟩
    rfl
  have hne : (whole.isEmpty && fraction.isEmpty) = false := by
    simpa using hdigits
  simp [readMagnitude?, takeWhile_append_of_head whole hpoint,
    dropWhile_append_of_head whole hpoint, List.takeWhile_eq_self_iff.2 hwhole,
    List.dropWhile_eq_nil_iff.2 hwhole, List.takeWhile_eq_self_iff.2 hfraction,
    List.dropWhile_eq_nil_iff.2 hfraction, hne, readExponent?]

/-- Without a letter there is no exponent. -/
theorem readExponent?_eq_some {e : Int} (hletters : ∀ c ∈ cs, c.isAlpha = false)
    (h : readExponent? cs = some e) : cs = [] := by
  cases cs with
  | nil => rfl
  | cons c rest =>
    have hmark : ¬ (c = 'e' ∨ c = 'E') := by
      rintro (rfl | rfl) <;> exact absurd (hletters _ List.mem_cons_self) (by decide)
    rw [readExponent?, if_neg hmark] at h
    cases h

/-- A text with a point and without a letter is read only if it is of that form. -/
theorem exists_of_readMagnitude? {negative : Bool} {d : Decimal} (hpoint : '.' ∈ cs)
    (hletters : ∀ c ∈ cs, c.isAlpha = false) (h : readMagnitude? negative cs = some d) :
    ∃ whole fraction, cs = whole ++ '.' :: fraction ∧ (∀ c ∈ whole, c.isDigit = true) ∧
      (∀ c ∈ fraction, c.isDigit = true) ∧ whole ++ fraction ≠ [] := by
  have hcs : cs.takeWhile Char.isDigit ++ cs.dropWhile Char.isDigit = cs :=
    List.takeWhile_append_dropWhile
  have hletters' : ∀ c ∈ cs.dropWhile Char.isDigit, c.isAlpha = false :=
    fun c hc ↦ hletters c ((List.dropWhile_sublist _).subset hc)
  simp only [readMagnitude?] at h
  split at h
  next rest hrest =>
    obtain ⟨hne, h⟩ := Option.ite_none_left_eq_some.1 h
    obtain ⟨e, he, -⟩ := Option.map_eq_some_iff.1 h
    rw [hrest] at hletters' hcs
    have hend : rest.dropWhile Char.isDigit = [] := readExponent?_eq_some
      (fun c hc ↦ hletters' c (List.mem_cons_of_mem _ ((List.dropWhile_sublist _).subset hc))) he
    have hfraction : rest.takeWhile Char.isDigit = rest := by
      have hsplit := List.takeWhile_append_dropWhile (p := Char.isDigit) (l := rest)
      rwa [hend, List.append_nil] at hsplit
    rw [hfraction, Bool.and_eq_true, List.isEmpty_iff, List.isEmpty_iff] at hne
    exact ⟨_, rest, hcs.symm, fun c ↦ List.mem_takeWhile_imp,
      fun c hc ↦ List.mem_takeWhile_imp (hfraction.symm ▸ hc),
      fun hnil ↦ hne (List.append_eq_nil_iff.1 hnil)⟩
  · -- without a point behind the digits the text would be all digits
    obtain ⟨-, h⟩ := Option.ite_none_left_eq_some.1 h
    obtain ⟨e, he, -⟩ := Option.map_eq_some_iff.1 h
    rw [readExponent?_eq_some hletters' he, List.append_nil] at hcs
    exact absurd (List.mem_takeWhile_imp (hcs.symm ▸ hpoint)) (by decide)

/-- A text without a letter is no word. -/
theorem read?_of_letterless (hletters : ∀ c ∈ cs, c.isAlpha = false) :
    read? cs = (readMagnitude? (takeSign cs).1 (takeSign cs).2).map number := by
  have hbody : ∀ c ∈ (takeSign cs).2, c.isAlpha = false := by
    obtain ⟨sign, hcs, -⟩ := exists_takeSign cs
    rw [hcs] at hletters
    exact fun c hc ↦ hletters c (List.mem_append_right _ hc)
  have hword : ∀ first rest, Char.isAlpha first = true →
      (takeSign cs).2.map Char.toLower ≠ first :: rest := by
    intro first rest hfirst hmap
    obtain ⟨c, cs', hc, rfl, -⟩ := List.map_eq_cons_iff.1 hmap
    have hletter := isAlpha_of_isAlpha_toLower hfirst
    rw [hbody c (hc ▸ List.mem_cons_self)] at hletter
    cases hletter
  have hnan : (takeSign cs).2.map Char.toLower ≠ "nan".toList := hword 'n' ['a', 'n'] rfl
  have hinf : (takeSign cs).2.map Char.toLower ≠ "inf".toList := hword 'i' ['n', 'f'] rfl
  have hinfinity : (takeSign cs).2.map Char.toLower ≠ "infinity".toList :=
    hword 'i' ['n', 'f', 'i', 'n', 'i', 't', 'y'] rfl
  simp only [read?]
  rw [if_neg hnan, if_neg (not_or.2 ⟨hinf, hinfinity⟩)]

/-- **A number with a point**: a sign and digits around the point. -/
theorem read?_pointed (sign : WrittenSign) (hwhole : ∀ c ∈ whole, c.isDigit = true)
    (hfraction : ∀ c ∈ fraction, c.isDigit = true) (hdigits : whole ++ fraction ≠ []) :
    read? (sign.text ++ (whole ++ '.' :: fraction)) =
      some (.number ⟨sign.negates, digitsValue (whole ++ fraction), -fraction.length⟩) := by
  have hhead : ∀ c ∈ (whole ++ '.' :: fraction).head?, c ≠ '+' ∧ c ≠ '-' := by
    cases whole with
    | nil =>
      rintro _ ⟨⟩
      decide
    | cons d whole =>
      rintro _ ⟨⟩
      exact ne_sign_of_isDigit (hwhole _ List.mem_cons_self)
  have hletters : ∀ c ∈ sign.text ++ (whole ++ '.' :: fraction), c.isAlpha = false := by
    simp only [List.mem_append, List.mem_cons]
    rintro c (hc | hc | rfl | hc)
    · cases sign <;> simp_all [WrittenSign.text]
    · exact isAlpha_of_isDigit (hwhole c hc)
    · rfl
    · exact isAlpha_of_isDigit (hfraction c hc)
  rw [read?_of_letterless hletters, takeSign_text_append sign hhead,
    readMagnitude?_pointed hwhole hfraction hdigits]
  rfl

/-- Nothing else that has a point and no letter is a number. -/
theorem exists_of_read?_eq_some {l : Literal} (hpoint : '.' ∈ cs)
    (hletters : ∀ c ∈ cs, c.isAlpha = false) (h : read? cs = some l) :
    ∃ (sign : WrittenSign) (whole fraction : List Char),
      cs = sign.text ++ (whole ++ '.' :: fraction) ∧ (∀ c ∈ whole, c.isDigit = true) ∧
      (∀ c ∈ fraction, c.isDigit = true) ∧ whole ++ fraction ≠ [] := by
  rw [read?_of_letterless hletters] at h
  obtain ⟨d, hd, -⟩ := Option.map_eq_some_iff.1 h
  obtain ⟨sign, hcs, -⟩ := exists_takeSign cs
  rw [hcs] at hpoint hletters
  have hbody : '.' ∈ (takeSign cs).2 := by
    refine (List.mem_append.1 hpoint).resolve_left ?_
    cases sign <;> decide
  obtain ⟨whole, fraction, hform, hrest⟩ := exists_of_readMagnitude? hbody
    (fun c hc ↦ hletters c (List.mem_append_right _ hc)) hd
  exact ⟨sign, whole, fraction, hform ▸ hcs, hrest⟩

end Literal

/-! ### Values -/

/-- The value of a number with a point: its whole part and a fraction of one. -/
theorem Decimal.toRat_pointed (sign : WrittenSign) (whole fraction : List Char) :
    toRat ⟨sign.negates, digitsValue (whole ++ fraction), -fraction.length⟩ =
      sign.apply (digitsValue whole + digitsValue fraction / 10 ^ fraction.length : ℚ) := by
  have hmagnitude : ((digitsValue (whole ++ fraction) : ℕ) : ℚ) * 10 ^ (-(fraction.length : ℤ)) =
      digitsValue whole + digitsValue fraction / 10 ^ fraction.length := by
    rw [digitsValue_append, zpow_neg, zpow_natCast]
    push_cast
    field_simp
  rw [toRat, hmagnitude]
  rfl

end GerberMask
