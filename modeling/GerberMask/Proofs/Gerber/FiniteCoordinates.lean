import GerberMask.Proofs.Gerber.CoordinateValues
import GerberMask.Proofs.Gerber.LineFields
import GerberMask.Proofs.Number.FiniteResults

/-!
# Coordinates that are not finite

A coordinate with a point is finite or refused. A row of digits is not: it is decoded whatever its
length is, by two multiplications and divisions at most, and nothing looks at the result. So the
decoder returns finite numbers for all texts but some rows of digits (`CoordinateFormat.Overflows`):
those that write a number beyond the range of binary numbers, and, where the format has hundreds of
digits, those that the zeros they leave out take there. Where it has so many decimal digits that the
exponent wraps around, a division takes them there as well. No format of a document has more than
eighteen digits, so its rows overflow exactly if the number that they write does
(`CoordinateFormat.rowFits_iff`). The same digits with a point behind them are refused.
-/

namespace GerberMask.Gerber

open Binary (overflowBound)

namespace CoordinateFormat

variable {f : CoordinateFormat} {axis : Axis} {text digits : List Char} {sign : WrittenSign}

/-! ### Rows of digits -/

/-- Without the blanks around it, the text is a sign and digits. -/
structure IsRow (text : List Char) (sign : WrittenSign) (digits : List Char) : Prop where
  trim_eq : Text.trim text = sign.text ++ digits
  isDigit : ∀ c ∈ digits, c.isDigit = true
  nonempty : digits ≠ []

namespace IsRow

theorem takeSign_trim (h : IsRow text sign digits) :
    takeSign (Text.trim text) = (sign.negates, digits) := by
  rw [h.trim_eq]
  exact takeSign_text_append sign fun c hc ↦
    ne_sign_of_isDigit (h.isDigit c (List.mem_of_mem_head? hc))

/-- A text has one row of digits at most. -/
theorem digits_eq {sign' : WrittenSign} {digits' : List Char} (h : IsRow text sign digits)
    (h' : IsRow text sign' digits') : digits' = digits :=
  congrArg Prod.snd (h'.takeSign_trim.symm.trans h.takeSign_trim)

theorem length_le (h : IsRow text sign digits) : digits.length ≤ (Text.trim text).length := by
  rw [h.trim_eq, List.length_append]
  exact Nat.le_add_left _ _

theorem not_mem_point (h : IsRow text sign digits) : '.' ∉ Text.trim text := by
  rw [h.trim_eq, List.mem_append, not_or]
  exact ⟨by cases sign <;> decide, fun hmem ↦ absurd (h.isDigit '.' hmem) (by decide)⟩

end IsRow

theorem decodeRaw_trim (f : CoordinateFormat) (axis : Axis) (text : List Char) :
    (f.decodeRaw axis (Text.trim text) : Except MalformedNumber Float) = f.decodeRaw axis text := by
  rw [decodeRaw, Text.trim_trim]
  rfl

theorem decodeRaw_of_isRow (h : IsRow text sign digits) :
    f.decodeRaw axis text = .ok (sign.apply (f.digitsToScalar axis digits : Float)) := by
  rw [← decodeRaw_trim, h.trim_eq]
  exact decodeRaw_row sign h.isDigit h.nonempty

/-- What is decoded has a point and is finite, or is a row of digits. -/
theorem isFinite_or_isRow {v : Float} (h : f.decodeRaw axis text = .ok v) :
    ('.' ∈ Text.trim text ∧ v.isFinite = true) ∨
      ∃ sign digits, IsRow text sign digits ∧ v = sign.apply (f.digitsToScalar axis digits) := by
  by_cases hpoint : '.' ∈ Text.trim text
  · refine .inl ⟨hpoint, ?_⟩
    have hcontains : (Text.trim text).contains '.' = true := by simpa using hpoint
    simp only [decodeRaw, hcontains, if_true] at h
    split at h
    next w hw =>
      cases h
      unfold pointedToScalar? at hw
      split at hw
      · exact (Option.filter_eq_some_iff.1 hw).2
      · cases hw
    next => cases h
  · refine .inr ?_
    by_cases hrow : ∃ sign digits, IsRow text sign digits
    · obtain ⟨sign, digits, hrow⟩ := hrow
      exact ⟨sign, digits, hrow, Except.ok.inj (h.symm.trans (decodeRaw_of_isRow hrow))⟩
    · have hrefuse := takeSign_refused fun sign digits htext hdigits ↦
        by_contra fun hne ↦ hrow ⟨sign, digits, htext, hdigits, hne⟩
      simp only [decodeRaw, List.contains_eq_mem, hpoint, decide_false, Bool.false_eq_true,
        if_false, hrefuse, if_true] at h
      cases h

/-! ### Rows that fit -/

/-- The number of a row before it is divided by the unit of the last digit. -/
def rowDividend (f : CoordinateFormat) (axis : Axis) (digits : List Char) : Float :=
  match f.zeros with
  | .leading => Scalar.ofNat (digitsValue digits)
  | .trailing =>
    Scalar.ofNat (digitsValue digits) * Scalar.tenPow ((f.layout axis).missing digits.length)

/-- The number that digits write is in the range of binary numbers, and so is what it becomes where
trailing zeros have to be put in, and where it is divided by a power with a negative exponent. -/
structure RowFits (f : CoordinateFormat) (axis : Axis) (digits : List Char) : Prop where
  written : (digitsValue digits : ℚ) < overflowBound
  filled : f.zeros = .trailing → ∀ missing : ℕ, (f.layout axis).missing digits.length = missing →
    missing ≤ 308 ∧ exactValue (Scalar.ofNat (digitsValue digits)) *
      exactValue (Scalar.tenPow missing) < overflowBound
  divided : ∀ n : ℕ, n ≠ 0 → (f.layout axis).places = -n →
    n ≤ 308 ∧ |exactValue (f.rowDividend axis digits) / exactValue (Scalar.tenPow (-n))| <
      overflowBound

/-- The text is a row of digits that does not fit. -/
def Overflows (f : CoordinateFormat) (axis : Axis) (text : List Char) : Prop :=
  ∃ sign digits, IsRow text sign digits ∧ ¬ f.RowFits axis digits

theorem IsRow.overflows_iff (h : IsRow text sign digits) :
    f.Overflows axis text ↔ ¬ f.RowFits axis digits := by
  refine ⟨?_, fun hfits ↦ ⟨sign, digits, h, hfits⟩⟩
  rintro ⟨sign', digits', h', hfits⟩
  rwa [← h.digits_eq h']

theorem not_overflows_of_mem_point (h : '.' ∈ Text.trim text) : ¬ f.Overflows axis text := by
  rintro ⟨sign, digits, hrow, -⟩
  exact hrow.not_mem_point h

theorem isFinite_ofNat_iff (n : ℕ) :
    (Scalar.ofNat n : Float).isFinite = true ↔ (n : ℚ) < overflowBound := by
  rw [Binary.scalar_ofNat]
  exact (Binary.isRounded_ofNat n).isFinite_iff

theorem exactValue_ofNat_nonneg (n : ℕ) : 0 ≤ exactValue (Scalar.ofNat n) := by
  rw [Binary.scalar_ofNat]
  exact (Binary.isRounded_ofNat n).exactValue_nonneg

/-- Zeros that are put in behind a row can take it out of range. -/
theorem isFinite_mul_tenPow_iff (n missing : ℕ) :
    (Scalar.ofNat n * Scalar.tenPow missing : Float).isFinite = true ↔
      (Scalar.ofNat n : Float).isFinite = true ∧ missing ≤ 308 ∧
        exactValue (Scalar.ofNat n) * exactValue (Scalar.tenPow missing) < overflowBound := by
  rw [Binary.isFinite_mul_iff, Binary.isFinite_tenPow_iff]
  rw [abs_of_nonneg (mul_nonneg (exactValue_ofNat_nonneg n)
    (Binary.exactValue_nonneg_of_one_le (Binary.one_le_tenPow missing)))]

theorem exists_eq_neg_of_neg {k : ℤ} (h : k < 0) : ∃ n : ℕ, k = -n ∧ n ≠ 0 :=
  ⟨k.natAbs, by omega, by omega⟩

/-- Digits that are too many do not. -/
theorem isFinite_mul_tenPow_neg_iff {x : Float} {surplus : ℕ} (h : surplus ≠ 0) :
    (x * Scalar.tenPow (-surplus)).isFinite = true ↔ x.isFinite = true := by
  obtain ⟨hpower, hle⟩ := Binary.isFinite_tenPow_neg h
  rw [Binary.isFinite_mul_iff]
  refine ⟨And.left, fun hx ↦ ⟨hx, hpower, ?_⟩⟩
  obtain ⟨a, ha⟩ := Binary.exists_ofFloat? hx
  rw [abs_mul, Binary.abs_exactValue ha]
  exact (mul_le_of_le_one_right a.magnitude_nonneg hle).trans_lt
    (Binary.magnitude_lt_overflowBound ha)

theorem isFinite_rowDividend :
    (f.rowDividend axis digits).isFinite = true ↔
      (digitsValue digits : ℚ) < overflowBound ∧
        (f.zeros = .trailing → ∀ missing : ℕ,
          (f.layout axis).missing digits.length = missing →
            missing ≤ 308 ∧ exactValue (Scalar.ofNat (digitsValue digits)) *
              exactValue (Scalar.tenPow missing) < overflowBound) := by
  unfold rowDividend
  rw [← isFinite_ofNat_iff]
  cases hzeros : f.zeros with
  | leading => simp
  | trailing =>
    simp only [forall_const]
    rcases le_or_gt 0 ((f.layout axis).missing digits.length) with hmissing | hsurplus
    · obtain ⟨missing, hmissing⟩ := Int.eq_ofNat_of_zero_le hmissing
      simp only [hmissing, isFinite_mul_tenPow_iff, Nat.cast_inj, forall_eq']
    · obtain ⟨surplus, hsurplus, hne⟩ := exists_eq_neg_of_neg hsurplus
      simp only [hsurplus, isFinite_mul_tenPow_neg_iff hne]
      exact (and_iff_left fun missing hmissing ↦ by omega).symm

/-- **Digits fit exactly if their value is finite.** -/
theorem isFinite_digitsToScalar :
    (f.digitsToScalar axis digits : Float).isFinite = true ↔ f.RowFits axis digits := by
  have hdivision : (f.digitsToScalar axis digits : Float) =
      f.rowDividend axis digits / Scalar.tenPow (f.layout axis).places := by
    unfold digitsToScalar rowDividend
    cases f.zeros <;> rfl
  have hfits : f.RowFits axis digits ↔ (f.rowDividend axis digits).isFinite = true ∧
      ∀ n : ℕ, n ≠ 0 → (f.layout axis).places = -n → n ≤ 308 ∧
        |exactValue (f.rowDividend axis digits) / exactValue (Scalar.tenPow (-n))| <
          overflowBound := by
    rw [isFinite_rowDividend]
    exact ⟨fun h ↦ ⟨⟨h.written, h.filled⟩, h.divided⟩, fun h ↦ ⟨h.1.1, h.1.2, h.2⟩⟩
  rw [hdivision, hfits]
  rcases le_or_gt 0 (f.layout axis).places with hplaces | hplaces
  · obtain ⟨places, hplaces⟩ := Int.eq_ofNat_of_zero_le hplaces
    rw [hplaces, Binary.isFinite_div_iff (Binary.one_le_tenPow places)]
    exact (and_iff_left fun n hn hneg ↦ by omega).symm
  · obtain ⟨n, hplaces, hn⟩ := exists_eq_neg_of_neg hplaces
    rw [hplaces, Binary.isFinite_div_tenPow_neg_iff hn]
    refine and_congr_right fun _ ↦ ⟨fun h n' _ hneg ↦ ?_, fun h ↦ h n hn rfl⟩
    obtain rfl : n = n' := by omega
    exact h

theorem isFinite_apply (sign : WrittenSign) (x : Float) :
    (sign.apply x).isFinite = x.isFinite := by
  unfold WrittenSign.apply
  split
  · exact Binary.isFinite_neg
  · rfl

/-- A length in inches is finite exactly if the length that was written is. -/
theorem isFinite_toInches (unit : LengthUnit) (x : Float) :
    (unit.toInches x).isFinite = true ↔ x.isFinite = true := by
  cases unit with
  | inch => exact Iff.rfl
  | millimetre => exact Binary.isFinite_div_iff (by decide +kernel)

/-- **What is decoded is finite, except for rows that do not fit.** -/
theorem isFinite_decodeRaw {v : Float} (h : f.decodeRaw axis text = .ok v) :
    v.isFinite = true ↔ ¬ f.Overflows axis text := by
  obtain ⟨hpoint, hfinite⟩ | ⟨sign, digits, hrow, rfl⟩ := isFinite_or_isRow h
  · exact iff_of_true hfinite (not_overflows_of_mem_point hpoint)
  · rw [isFinite_apply, isFinite_digitsToScalar, hrow.overflows_iff, not_not]

@[inherit_doc isFinite_decodeRaw]
theorem isFinite_decode {unit : LengthUnit} {v : Float} (h : f.decode axis unit text = .ok v) :
    v.isFinite = true ↔ ¬ f.Overflows axis text := by
  unfold decode at h
  cases hraw : (f.decodeRaw axis text : Except MalformedNumber Float) with
  | error e =>
    rw [hraw] at h
    cases h
  | ok raw =>
    rw [hraw] at h
    cases h
    rw [isFinite_toInches, isFinite_decodeRaw hraw]

/-! ### Formats of documents -/

/-- **In a document a row fits exactly if the number that it writes is in range**: the zeros that it
leaves out are too few to take it there. -/
theorem rowFits_iff {command : String} (h : parse command = .ok f)
    (hdigits : ∀ c ∈ digits, c.isDigit = true) (hlength : digits.length < 2 ^ 31) :
    f.RowFits axis digits ↔ (digitsValue digits : ℚ) < overflowBound := by
  obtain ⟨hinteger, hdecimal⟩ := le_nine_of_parse h axis
  have hlayout := fits_of_parse h axis
  have hmissing := hlayout.missing hlength
  have hplaces := hlayout.places
  refine ⟨RowFits.written, fun hfits ↦
    ⟨hfits, fun _ missing hfilled ↦ ?_, fun n hn hneg ↦ by omega⟩⟩
  have hlength : digits.length ≤ 18 := by omega
  have hle : missing ≤ 18 := by omega
  have hvalue : (digitsValue digits : ℚ) ≤ 2 ^ (60 : ℤ) := by
    have hlt : digitsValue digits ≤ 2 ^ 60 := calc
      digitsValue digits ≤ 10 ^ digits.length := (digitsValue_lt hdigits).le
      _ ≤ 10 ^ 18 := Nat.pow_le_pow_right (by decide) hlength
      _ ≤ 2 ^ 60 := by decide
    exact_mod_cast hlt
  have hraw : exactValue (Scalar.ofNat (digitsValue digits)) ≤ 2 ^ (60 : ℤ) := by
    rw [Binary.scalar_ofNat]
    exact (Binary.isRounded_ofNat _).exactValue_le (by decide) hvalue
  have hpower : exactValue (Scalar.tenPow missing) ≤ 2 ^ (60 : ℤ) :=
    (by decide +kernel : ∀ n < 19, exactValue (Scalar.tenPow (n : ℕ)) ≤ 2 ^ (60 : ℤ))
      missing (by omega)
  refine ⟨by omega, Binary.lt_overflowBound (n := 60 + 60) ?_ (by decide)⟩
  rw [zpow_add₀ two_ne_zero]
  exact mul_le_mul hraw hpower
    (Binary.exactValue_nonneg_of_one_le (Binary.one_le_tenPow missing)) (by positivity)

/-! ### The same digits with a point -/

theorem ofDecimal_apply (sign : WrittenSign) (n : ℕ) :
    (Scalar.ofDecimal ⟨sign.negates, n, 0⟩ : Float) = sign.apply (Scalar.ofNat n) := by
  cases sign <;> rfl

/-- Behind a point nothing is out of range: the digits are refused. -/
theorem decodeRaw_append_point (hdigits : ∀ c ∈ digits, c.isDigit = true) (hne : digits ≠ [])
    (hvalue : overflowBound ≤ digitsValue digits) :
    (f.decodeRaw axis (sign.text ++ (digits ++ ['.'])) : Except MalformedNumber Float) =
      .error ⟨String.ofList (sign.text ++ (digits ++ ['.']))⟩ := by
  have hchars : ∀ c ∈ sign.text ++ (digits ++ ['.']), Word.isNumberChar c := by
    simp only [List.mem_append, List.mem_singleton]
    rintro c (hc | hc | rfl)
    · exact Word.isNumberChar_of_mem_sign hc
    · exact Word.isNumberChar_of_isDigit (hdigits c hc)
    · rfl
  have hinfinite : ¬ (Scalar.ofNat (digitsValue digits) : Float).isFinite = true :=
    (isFinite_ofNat_iff _).not.2 hvalue.not_gt
  have hnone : (pointedToScalar? (sign.text ++ (digits ++ ['.'])) : Option Float) = none := by
    rw [pointedToScalar?, Literal.read?_pointed sign hdigits (List.forall_mem_nil _) (by simpa)]
    simp only [List.append_nil, List.length_nil, Nat.cast_zero, neg_zero, ofDecimal_apply]
    rw [Option.filter_eq_none_iff]
    rintro _ ⟨⟩
    show ¬ (sign.apply (Scalar.ofNat (digitsValue digits) : Float)).isFinite = true
    rwa [isFinite_apply]
  rw [decodeRaw_of_point hchars (by simp), hnone]

end CoordinateFormat

open CoordinateFormat

/-- **Which coordinates are finite.** What the decoder returns, in the unit of the document or in
inches, is finite unless the text is a row of digits that does not fit; such a row is decoded all
the same. No text with a point is one, since what is out of range there is refused. In the format of
a document a row, if its length can be counted, does not fit exactly if the number that its digits
write is from the bound of the binary numbers on, and that row with a point behind it is
malformed. -/
theorem finite_coordinates (f : CoordinateFormat) (axis : Axis) (unit : LengthUnit)
    (text : List Char) :
    (∀ v : Float, f.decodeRaw axis text = .ok v ∨ f.decode axis unit text = .ok v →
      (v.isFinite = true ↔ ¬ f.Overflows axis text)) ∧
    (f.Overflows axis text → '.' ∉ Text.trim text ∧ ∃ v : Float,
      f.decodeRaw axis text = .ok v ∧ f.decode axis unit text = .ok (unit.toInches v)) ∧
    (∀ command, parse command = .ok f → (Text.trim text).length < 2 ^ 31 →
      (f.Overflows axis text ↔
        ∃ sign digits, IsRow text sign digits ∧ overflowBound ≤ digitsValue digits)) ∧
    ∀ sign digits, IsRow text sign digits → overflowBound ≤ digitsValue digits →
      f.Overflows axis text ∧
        (f.decodeRaw axis (sign.text ++ (digits ++ ['.'])) : Except MalformedNumber Float) =
          .error ⟨String.ofList (sign.text ++ (digits ++ ['.']))⟩ := by
  refine ⟨?_, ?_, fun command hcommand hlength ↦ ?_, fun sign digits hrow hvalue ↦ ⟨?_, ?_⟩⟩
  · rintro v (h | h)
    · exact isFinite_decodeRaw h
    · exact isFinite_decode h
  · rintro ⟨sign, digits, hrow, -⟩
    refine ⟨hrow.not_mem_point, _, decodeRaw_of_isRow hrow, ?_⟩
    rw [decode, decodeRaw_of_isRow hrow]
    rfl
  · refine exists_congr fun sign ↦ exists_congr fun digits ↦ and_congr_right fun hrow ↦ ?_
    rw [rowFits_iff hcommand hrow.isDigit (hrow.length_le.trans_lt hlength), not_lt]
  · exact hrow.overflows_iff.2 fun hfits ↦ hvalue.not_gt hfits.written
  · exact decodeRaw_append_point hrow.isDigit hrow.nonempty hvalue

/-- Five digits in millimetres are finite; three hundred and nine of them are not, and with a point
behind them they are malformed. -/
theorem finite_coordinates_of_long_row :
    ∃ f : CoordinateFormat, parse "FSLAX23Y23" = .ok f ∧
      (∃ v : Float, f.decode .x .millimetre ['2', '5', '4', '0', '0'] = .ok v ∧
        v.isFinite = true) ∧
      (∃ v : Float, f.decodeRaw .x ('2' :: List.replicate 308 '0') = .ok v ∧
        ¬ v.isFinite = true) ∧
      (f.decodeRaw .x ('2' :: List.replicate 308 '0' ++ ['.']) : Except MalformedNumber Float) =
        .error ⟨String.ofList ('2' :: List.replicate 308 '0' ++ ['.'])⟩ := by
  have hdecode : (default : CoordinateFormat).decode .x .millimetre ['2', '5', '4', '0', '0'] =
      .ok (1 : Float) := by
    decide +kernel
  have hvalue : overflowBound ≤ digitsValue ('2' :: List.replicate 308 '0') := by
    decide +kernel
  have hrow : IsRow ('2' :: List.replicate 308 '0') .unwritten ('2' :: List.replicate 308 '0') :=
    ⟨by decide +kernel, List.all_eq_true.1 (by decide +kernel), List.cons_ne_nil _ _⟩
  have hshort : IsRow ['2', '5', '4', '0', '0'] .unwritten ['2', '5', '4', '0', '0'] :=
    ⟨by decide, List.all_eq_true.1 (by decide), by simp⟩
  obtain ⟨hfinite, hdecoded, -, hrefused⟩ :=
    finite_coordinates default .x .inch ('2' :: List.replicate 308 '0')
  obtain ⟨hoverflows, hmalformed⟩ := hrefused .unwritten _ hrow hvalue
  obtain ⟨v, hv, -⟩ := (hdecoded hoverflows).2
  rw [WrittenSign.text, List.nil_append] at hmalformed
  refine ⟨default, by decide, ⟨1, hdecode, ?_⟩, ⟨v, hv, ?_⟩, hmalformed⟩
  · obtain ⟨hfinite, -, hparsed, -⟩ :=
      finite_coordinates default .x .millimetre ['2', '5', '4', '0', '0']
    rw [hfinite 1 (.inr hdecode), hparsed "FSLAX23Y23" (by decide) (by decide)]
    rintro ⟨sign, digits, h, hlarge⟩
    rw [hshort.digits_eq h] at hlarge
    exact absurd hlarge (by decide +kernel)
  · rw [hfinite v (.inl hv), not_not]
    exact hoverflows

/-- Long rows are decoded to infinity, and to no number where trailing zeros are left out. -/
theorem row_decoded_to_infinity :
    (default : CoordinateFormat).decodeRaw .x ('2' :: List.replicate 308 '0') =
      .ok (1.0 / 0.0 : Float) ∧
    (default : CoordinateFormat).decode .x .inch ('2' :: List.replicate 308 '0') =
      .ok (1.0 / 0.0 : Float) ∧
    { (default : CoordinateFormat) with zeros := .trailing }.decodeRaw .x
      (List.replicate 400 '2') = .ok (0.0 / 0.0 : Float) ∧
    (1.0 / 0.0 : Float).isInf = true ∧ (0.0 / 0.0 : Float).isNaN = true := by
  decide +kernel

end GerberMask.Gerber
