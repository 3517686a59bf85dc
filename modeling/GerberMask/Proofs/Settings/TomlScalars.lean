import GerberMask.Proofs.Number.Digits
import GerberMask.Proofs.Number.SpecialNumbers
import GerberMask.Settings.Toml.Printer
import GerberMask.Settings.Toml.Reader

/-!
# Words in TOML are read back

Flags and numbers are words, and a word is read as a whole, so that all that matters about what
follows is that it does not go on with the word (`scalar?_append`). An integer of 64 bits is read as
it was written (`word?_integer`), and so are the infinities; that a finite number is read as it was
written (`ReadsBack`) is for the algorithms of printing and rounding to ensure, and here it is only
needed that its text is a word (`isWordChar_of_mem_writeReal`).
-/

namespace GerberMask.Settings.Toml

/-- A number that is read as it is written. -/
def ReadsBack (x : Float) : Prop := word? (writeReal x) = some (.real x)

/-! ### Words and what follows them -/

/-- What can follow a value that is not the last of its kind: the end of a line or of an item. -/
def EndsValue (rest : List Char) : Prop := ∀ c ∈ rest.head?, c ∈ ['\n', ',', ']']

theorem not_isWordChar_of_endsValue {rest : List Char} (h : EndsValue rest) :
    ∀ c ∈ rest.head?, isWordChar c = false := by
  intro c hc
  have hmem := h c hc
  simp only [List.mem_cons, List.not_mem_nil, or_false] at hmem
  obtain rfl | rfl | rfl := hmem
  · rfl
  · rfl
  · rfl

/-- A word is read as a whole. -/
theorem scalar?_append {w rest : List Char} (hw : ∀ c ∈ w, isWordChar c = true)
    (hrest : EndsValue rest) : scalar? (w ++ rest) = (word? w).map (·, rest) := by
  have hend := not_isWordChar_of_endsValue hrest
  have htake : (w ++ rest).takeWhile isWordChar = w := by
    rw [takeWhile_append_of_head w hend, List.takeWhile_eq_self_iff.2 hw]
  have hdrop : (w ++ rest).dropWhile isWordChar = rest := by
    rw [dropWhile_append_of_head w hend, List.dropWhile_eq_nil_iff.2 hw, List.nil_append]
  rw [scalar?, htake, hdrop]
  dsimp only
  split
  · next rest' _ =>
    have hblank := hrest ' ' rfl
    simp at hblank
  · rfl

/-- The beginning of a word begins no other value. -/
theorem value?_word (fuel room : Nat) {w rest : List Char} {v : Setting}
    (hw : ∀ c ∈ w, isWordChar c = true) (hrest : EndsValue rest) (hv : word? w = some v) :
    value? (fuel + 1) room (w ++ rest) = some (v, rest) := by
  rcases w with - | ⟨c, w⟩
  · cases hv
  have hother : ∀ d, isWordChar d = false → ∀ cs, c :: (w ++ rest) ≠ d :: cs := by
    intro d hd cs heq
    rw [← (List.cons.inj heq).1, hw c List.mem_cons_self] at hd
    exact absurd hd (by decide)
  have hscalar : value? (fuel + 1) room (c :: (w ++ rest)) = scalar? (c :: (w ++ rest)) :=
    value?.eq_8 room _ fuel (hother '[' rfl) (hother '{' rfl) (hother '"' rfl) (hother '\'' rfl)
  rw [List.cons_append, hscalar, ← List.cons_append, scalar?_append hw hrest, hv]
  rfl

/-! ### Integers -/

theorem isWordChar_of_isDigit {c : Char} (h : c.isDigit = true) : isWordChar c = true := by
  have halnum : c.isAlphanum = true := by
    rw [Char.isAlphanum, h, Bool.or_true]
  simp only [isWordChar, halnum, Bool.true_or]

/-- Digits are written without underscores. -/
theorem ungroup?_of_isDigit {ds : List Char} (hne : ds ≠ []) (h : ∀ d ∈ ds, d.isDigit = true) :
    ungroup? Char.isDigit ds = some ds := by
  induction ds with
  | nil => exact absurd rfl hne
  | cons d ds ih =>
    obtain ⟨hd, hds⟩ := List.forall_mem_cons.1 h
    rcases ds with - | ⟨e, ds⟩
    · rw [ungroup?, if_pos hd]
    · have he : e ≠ '_' := by
        rintro rfl
        exact absurd (hds '_' List.mem_cons_self) (by decide)
      rw [ungroup?.eq_4 _ d (e :: ds) nofun (fun _ heq ↦ he (List.cons.inj heq).1), if_pos hd,
        ih nofun hds]
      rfl

theorem whole?_toDigits (n : Nat) : whole? (Nat.toDigits 10 n) = some (Nat.toDigits 10 n) := by
  by_cases hzero : (Nat.toDigits 10 n).head? = some '0'
  · obtain ⟨ds, hds⟩ := List.head?_eq_some_iff.1 hzero
    rw [eq_zero_of_toDigits_eq_cons hds]
    rfl
  · rw [whole?.eq_3 _ (fun h ↦ hzero (by rw [h]; rfl)) (fun _ h ↦ hzero (by rw [h]; rfl)),
      ungroup?_of_isDigit Nat.toDigits_ne_nil fun _ ↦ isDigit_of_mem_toDigits]

section
variable {c : Char} {ds : List Char}

/-- Behind its first character a date has something else than digits. -/
theorem isDate_of_isDigit (h : ∀ d ∈ ds, d.isDigit = true) : isDate (c :: ds) = false := by
  refine isDate.eq_2 _ ?_
  intro y₁ y₂ y₃ y₄ m₁ m₂ d₁ d₂ heq
  obtain ⟨-, rfl⟩ := List.cons.inj heq
  exact absurd (h '-' (by simp)) (by decide)

theorem isClock_of_isDigit (h : ∀ d ∈ ds, d.isDigit = true) : isClock (c :: ds) = false := by
  refine isClock.eq_2 _ ?_
  intro h₁ h₂ m₁ m₂ heq
  obtain ⟨-, rfl⟩ := List.cons.inj heq
  exact absurd (h ':' (by simp)) (by decide)

/-- A word with digits behind its first character is no date and no time. -/
theorem word?_of_isDigit (hc : c ≠ 't' ∧ c ≠ 'f') (h : ∀ d ∈ ds, d.isDigit = true) :
    word? (c :: ds) = (integer? (c :: ds)).or (float? (c :: ds)) := by
  have htake : ∀ n, ∀ d ∈ ds.take n, d.isDigit = true := fun n d hd ↦ h d (List.mem_of_mem_take hd)
  have htime : isTime (c :: ds) = false := by
    rw [isTime, List.take_succ_cons, isClock_of_isDigit (htake 4)]
    rfl
  have hdateTime : isDateTime (c :: ds) = false := by
    rw [isDateTime, List.take_succ_cons, isDate_of_isDigit (htake 9)]
    rfl
  have htrue : c :: ds ≠ "true".toList := fun heq ↦ hc.1 (List.cons.inj heq).1
  have hfalse : c :: ds ≠ "false".toList := fun heq ↦ hc.2 (List.cons.inj heq).1
  rw [word?, if_neg htrue, if_neg hfalse, isDate_of_isDigit h, htime, hdateTime]
  rfl

/-- A word with digits behind its first character is no number of another base. -/
theorem integer?_of_isDigit (h : ∀ d ∈ ds, d.isDigit = true) :
    integer? (c :: ds) = (whole? (takeSign (c :: ds)).2).bind fun body ↦
      int64? (if (takeSign (c :: ds)).1 then -(digitsValue body : Int) else digitsValue body) := by
  have hbase : ∀ b, b.isDigit = false → ∀ cs, c :: ds ≠ '0' :: b :: cs := by
    intro b hb cs heq
    obtain ⟨-, rfl⟩ := List.cons.inj heq
    rw [h b List.mem_cons_self] at hb
    exact absurd hb (by decide)
  rw [integer?.eq_4 _ (hbase 'x' rfl) (hbase 'o' rfl) (hbase 'b' rfl)]
  rfl

end

/-- An integer of 64 bits is read as it was written. -/
theorem word?_integer {n : Int} (h : int64Min ≤ n ∧ n ≤ int64Max) :
    word? (toString n).toList = some (.integer n) := by
  have hdigits : ∀ d ∈ Nat.toDigits 10 n.natAbs, d.isDigit = true :=
    fun _ ↦ isDigit_of_mem_toDigits
  have hsigned : (if decide (n < 0) then -(n.natAbs : Int) else (n.natAbs : Int)) = n := by
    by_cases hn : n < 0
    · rw [decide_eq_true hn, if_pos rfl]
      omega
    · rw [decide_eq_false hn, if_neg Bool.false_ne_true]
      omega
  have hvalue : (whole? (Nat.toDigits 10 n.natAbs)).bind (fun body ↦ int64?
      (if decide (n < 0) then -(digitsValue body : Int) else digitsValue body)) =
        some (.integer n) := by
    rw [whole?_toDigits, Option.bind_some, digitsValue_toDigits, hsigned, int64?, if_pos h]
  rw [toString_toList]
  by_cases hn : n < 0
  · rw [decide_eq_true hn] at hvalue
    have hinteger : integer? ('-' :: Nat.toDigits 10 n.natAbs) = some (.integer n) :=
      (integer?_of_isDigit hdigits).trans hvalue
    rw [if_pos hn, List.singleton_append, word?_of_isDigit (by decide) hdigits, hinteger]
    rfl
  · rw [decide_eq_false hn] at hvalue
    obtain ⟨d, ds, hds⟩ :=
      List.exists_cons_of_ne_nil (Nat.toDigits_ne_nil (n := n.natAbs) (b := 10))
    rw [hds] at hdigits hvalue
    obtain ⟨hd, htail⟩ := List.forall_mem_cons.1 hdigits
    have hfirst : ∀ c, c.isDigit = false → d ≠ c := by
      rintro c hc rfl
      rw [hd] at hc
      exact absurd hc (by decide)
    have hsign : takeSign (d :: ds) = (false, d :: ds) :=
      takeSign.eq_3 _ (fun _ heq ↦ hfirst '-' rfl (List.cons.inj heq).1)
        fun _ heq ↦ hfirst '+' rfl (List.cons.inj heq).1
    have hinteger : integer? (d :: ds) = some (.integer n) := by
      rw [integer?_of_isDigit htail, hsign]
      exact hvalue
    rw [if_neg hn, List.nil_append, hds, word?_of_isDigit ⟨hfirst 't' rfl, hfirst 'f' rfl⟩ htail,
      hinteger]
    rfl

theorem isWordChar_of_mem_integer {n : Int} {c : Char} (h : c ∈ (toString n).toList) :
    isWordChar c = true := by
  rw [toString_toList, List.mem_append] at h
  obtain hsign | hdigit := h
  · split at hsign
    · obtain rfl := List.mem_singleton.1 hsign
      rfl
    · exact absurd hsign List.not_mem_nil
  · exact isWordChar_of_isDigit (isDigit_of_mem_toDigits hdigit)

/-! ### Numbers -/

theorem isDigit_of_mem_significantDigits {n : Nat} {c : Char} (h : c ∈ (significantDigits n).1) :
    c.isDigit = true :=
  isDigit_of_mem_toDigits
    (List.mem_reverse.1 (List.mem_of_mem_drop (List.mem_reverse.1 h)))

theorem isDigit_of_mem_shortest {b : Binary} {c : Char} (h : c ∈ (shortest b).digits) :
    c.isDigit = true := by
  rw [shortest] at h
  split at h
  · exact absurd h List.not_mem_nil
  · exact isDigit_of_mem_significantDigits h

/-- The text of a positive number has digits and points. -/
theorem isWordChar_of_mem_magnitudeText {d : Digits} (hd : ∀ c ∈ d.digits, c.isDigit = true)
    {c : Char} (h : c ∈ numberLayout.magnitudeText d) : isWordChar c = true := by
  have htake : ∀ n, c ∈ d.digits.take n → c ∈ d.digits := fun n ↦ List.mem_of_mem_take
  have hdrop : ∀ n, c ∈ d.digits.drop n → c ∈ d.digits := fun n ↦ List.mem_of_mem_drop
  have hchars : c = '0' ∨ c = '.' ∨ c ∈ d.digits := by
    simp only [PointLayout.magnitudeText, numberLayout, PointLayout.isPositional, Option.all_none,
      Bool.and_self, if_true] at h
    split at h
    · simp only [List.mem_append, List.mem_cons, List.mem_replicate, List.not_mem_nil] at h
      grind
    · split at h
      · simp only [List.mem_append, List.mem_cons, List.mem_replicate, List.not_mem_nil] at h
        grind
      · simp only [List.mem_append, List.mem_cons] at h
        grind
  obtain rfl | rfl | hdigit := hchars
  · rfl
  · rfl
  · exact isWordChar_of_isDigit (hd c hdigit)

theorem isWordChar_of_mem_writeReal_of_isFinite {x : Float} (hx : x.isFinite = true) {c : Char}
    (h : c ∈ writeReal x) : isWordChar c = true := by
  obtain ⟨b, hb⟩ := Binary.exists_ofFloat? hx
  rw [writeReal, Binary.isNaN_of_isFinite hx, if_neg Bool.false_ne_true, PointLayout.text, hb] at h
  dsimp only at h
  rw [String.toList_ofList] at h
  have hbody : c ∈ (if b.mantissa = 0 then '0' :: ['.', '0']
      else numberLayout.magnitudeText (shortest b)) → isWordChar c = true := by
    intro hc
    split at hc
    · simp only [List.mem_cons, List.not_mem_nil, or_false] at hc
      obtain rfl | rfl | rfl := hc
      · rfl
      · rfl
      · rfl
    · exact isWordChar_of_mem_magnitudeText (fun _ ↦ isDigit_of_mem_shortest) hc
  split at h
  · obtain rfl | hc := List.mem_cons.1 h
    · rfl
    · exact hbody hc
  · exact hbody h

theorem writeReal_infinity :
    writeReal (1.0 / 0.0) = "inf".toList ∧ writeReal (-1.0 / 0.0) = "-inf".toList := by
  decide +kernel

/-- The text of a number is a word. -/
theorem isWordChar_of_mem_writeReal {x : Float} {c : Char} (h : c ∈ writeReal x) :
    isWordChar c = true := by
  rcases hfinite : x.isFinite with - | -
  · rcases hnumber : x.isNaN with - | -
    · obtain rfl | rfl := Binary.eq_infinity hfinite hnumber
      · rw [writeReal_infinity.1] at h
        exact List.all_eq_true.1 (rfl : "inf".toList.all isWordChar = true) c h
      · rw [writeReal_infinity.2] at h
        exact List.all_eq_true.1 (rfl : "-inf".toList.all isWordChar = true) c h
    · rw [writeReal, hnumber, if_pos rfl] at h
      exact List.all_eq_true.1 (rfl : "nan".toList.all isWordChar = true) c h
  · exact isWordChar_of_mem_writeReal_of_isFinite hfinite h

/-- The infinities are read as they are written. -/
theorem readsBack_infinity {x : Float} (hfinite : x.isFinite = false) (hnumber : x.isNaN = false) :
    ReadsBack x := by
  obtain rfl | rfl := Binary.eq_infinity hfinite hnumber
  · rw [ReadsBack, writeReal_infinity.1]
    rfl
  · rw [ReadsBack, writeReal_infinity.2]
    rfl

end GerberMask.Settings.Toml
