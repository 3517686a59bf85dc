import Mathlib.Data.List.DropRight
import GerberMask.Number.Decimal
import GerberMask.Text.Blank

/-!
# The characters of a literal

Whatever a number in text says, it is written with digits, letters, points, plus and minus
(`isLiteralChar_of_readFiniteFloat?`). So a literal has no blank, and a comma always ends it.
-/

namespace GerberMask

/-- The characters that a number in text can have. -/
def isLiteralChar (c : Char) : Bool :=
  c.isDigit || c.isAlpha || c == '.' || c == '+' || c == '-'

theorem isLiteralChar_of_isDigit {c : Char} (h : c.isDigit = true) : isLiteralChar c = true := by
  simp [isLiteralChar, h]

theorem isLiteralChar_of_isAlpha {c : Char} (h : c.isAlpha = true) : isLiteralChar c = true := by
  simp [isLiteralChar, h]

theorem range_of_isDigit {c : Char} (h : c.isDigit = true) :
    33 ≤ c.toNat ∧ c.toNat < 127 := by
  obtain ⟨hzero, hnine⟩ := Bool.and_eq_true_iff.1 h
  exact ⟨Nat.le_trans (by decide) (of_decide_eq_true hzero),
    Nat.lt_of_le_of_lt (of_decide_eq_true hnine) (by decide)⟩

theorem range_of_isAlpha {c : Char} (h : c.isAlpha = true) :
    33 ≤ c.toNat ∧ c.toNat < 127 := by
  obtain h | h := Bool.or_eq_true_iff.1 h
  · obtain ⟨hfirst, hlast⟩ := of_decide_eq_true h
    exact ⟨Nat.le_trans (by decide) hfirst, Nat.lt_of_le_of_lt hlast (by decide)⟩
  · obtain ⟨hfirst, hlast⟩ := Bool.and_eq_true_iff.1 h
    exact ⟨Nat.le_trans (by decide) (of_decide_eq_true hfirst),
      Nat.lt_of_le_of_lt (of_decide_eq_true hlast) (by decide)⟩

/-- A blank is no such character. -/
theorem isBlank_of_isLiteralChar {c : Char} (h : isLiteralChar c = true) :
    Text.isBlank c = false := by
  have hrange : 33 ≤ c.toNat ∧ c.toNat < 127 := by
    simp only [isLiteralChar, Bool.or_eq_true, beq_iff_eq] at h
    obtain (((h | h) | rfl) | rfl) | rfl := h
    · exact range_of_isDigit h
    · exact range_of_isAlpha h
    all_goals decide
  simp [Text.isBlank]
  omega

namespace Literal

theorem isLiteralChar_of_all {cs : List Char} (h : cs.all Char.isDigit = true) :
    ∀ c ∈ cs, isLiteralChar c = true :=
  fun c hc ↦ isLiteralChar_of_isDigit (List.all_eq_true.1 h c hc)

theorem isLiteralChar_of_mem_takeWhile {cs : List Char} :
    ∀ c ∈ cs.takeWhile Char.isDigit, isLiteralChar c = true :=
  fun _ hc ↦ isLiteralChar_of_isDigit (List.mem_takeWhile_imp hc)

/-- A sign is taken off a text of such characters only. -/
theorem isLiteralChar_of_takeSign {cs : List Char}
    (h : ∀ c ∈ (takeSign cs).2, isLiteralChar c = true) : ∀ c ∈ cs, isLiteralChar c = true := by
  unfold takeSign at h
  split at h
  · exact List.forall_mem_cons.2 ⟨rfl, h⟩
  · exact List.forall_mem_cons.2 ⟨rfl, h⟩
  · exact h

theorem isLiteralChar_of_readExponent? {cs : List Char} {e : Int} (h : readExponent? cs = some e) :
    ∀ c ∈ cs, isLiteralChar c = true := by
  cases cs with
  | nil => simp
  | cons c rest =>
    simp only [readExponent?] at h
    split at h
    next hmark =>
      split at h
      · cases h
      next hdigits =>
        rw [Bool.or_eq_true, not_or, Bool.not_eq_true', Bool.not_eq_false] at hdigits
        refine List.forall_mem_cons.2 ⟨?_, isLiteralChar_of_takeSign ?_⟩
        · rcases hmark with rfl | rfl <;> rfl
        · exact isLiteralChar_of_all hdigits.2
    · cases h

theorem isLiteralChar_of_readMagnitude? {negative : Bool} {cs : List Char} {d : Decimal}
    (h : readMagnitude? negative cs = some d) : ∀ c ∈ cs, isLiteralChar c = true := by
  rw [← List.takeWhile_append_dropWhile (p := Char.isDigit) (l := cs)]
  refine List.forall_mem_append.2 ⟨isLiteralChar_of_mem_takeWhile, ?_⟩
  simp only [readMagnitude?] at h
  -- behind a point a second row of digits stands before the exponent
  split at h
  next rest hrest =>
    obtain ⟨-, h⟩ := Option.ite_none_left_eq_some.1 h
    obtain ⟨e, he, -⟩ := Option.map_eq_some_iff.1 h
    rw [hrest, ← List.takeWhile_append_dropWhile (p := Char.isDigit) (l := rest)]
    refine List.forall_mem_cons.2 ⟨rfl, List.forall_mem_append.2 ?_⟩
    exact ⟨isLiteralChar_of_mem_takeWhile, isLiteralChar_of_readExponent? he⟩
  · obtain ⟨-, h⟩ := Option.ite_none_left_eq_some.1 h
    obtain ⟨e, he, -⟩ := Option.map_eq_some_iff.1 h
    exact isLiteralChar_of_readExponent? he

theorem isAlpha_of_isAlpha_toLower {c : Char} (h : c.toLower.isAlpha = true) :
    c.isAlpha = true := by
  by_cases hupper : c.isUpper = true
  · exact Bool.or_eq_true_iff.2 (.inl hupper)
  · have hsame : c.toLower = c := dif_neg fun hrange ↦ hupper (decide_eq_true hrange)
    rwa [hsame] at h

/-- A word in either letter case consists of letters. -/
theorem isLiteralChar_of_map_toLower {word cs : List Char} (h : cs.map Char.toLower = word)
    (hword : word.all Char.isAlpha = true) : ∀ c ∈ cs, isLiteralChar c = true := by
  intro c hc
  have hlower : c.toLower.isAlpha = true :=
    List.all_eq_true.1 hword _ (h ▸ List.mem_map_of_mem hc)
  exact isLiteralChar_of_isAlpha (isAlpha_of_isAlpha_toLower hlower)

theorem isLiteralChar_of_read? {cs : List Char} {l : Literal} (h : read? cs = some l) :
    ∀ c ∈ cs, isLiteralChar c = true := by
  refine isLiteralChar_of_takeSign ?_
  simp only [read?] at h
  split at h
  next hnan => exact isLiteralChar_of_map_toLower hnan rfl
  · split at h
    next hinf =>
      obtain hinf | hinf := hinf
      · exact isLiteralChar_of_map_toLower hinf rfl
      · exact isLiteralChar_of_map_toLower hinf rfl
    · obtain ⟨d, hd, -⟩ := Option.map_eq_some_iff.1 h
      exact isLiteralChar_of_readMagnitude? hd

end Literal

/-- **A number in text is written with digits, letters, points and signs.** -/
theorem isLiteralChar_of_readFiniteFloat? {cs : List Char} {v : Float}
    (h : readFiniteFloat? cs = some v) : ∀ c ∈ cs, isLiteralChar c = true := by
  obtain ⟨hread, -⟩ := Option.filter_eq_some_iff.1 h
  obtain ⟨l, hl, -⟩ := Option.map_eq_some_iff.1 hread
  exact Literal.isLiteralChar_of_read? hl

theorem readFiniteFloat?_nil : readFiniteFloat? [] = none := rfl

end GerberMask
