import GerberMask.Gerber.Coordinate
import GerberMask.Gerber.Word
import GerberMask.Proofs.Gerber.WrittenTokens
import GerberMask.Proofs.Number.ExactScalars
import GerberMask.Proofs.Number.PlainNumbers

/-!
# What a coordinate says

A coordinate is a sign, which may be left out, and digits, with a point among them or without one.
With a point it is a decimal and the format of the document plays no part. Without one the format
says where the point would be: a fixed number of digits from the end if leading zeros are left out,
and a fixed number of digits from the beginning if trailing ones are. `CoordinateFormat.Says` is
this grammar with its values, and in exact arithmetic decoding is reading by it, for every format
and every text that a number of a block can be (`coordinate_values`).

A format can be made with more digits than exponents go up to. The exponents wrap around then, and
`CoordinateFormat.rowValue` follows them; where they do not, it is the number that the digits write
times a power of ten (`rowValue_leading`, `rowValue_trailing`).

Whether a text is decoded is decided by the text alone, whatever the scalars are
(`decodeRaw_row`, `decodeRaw_of_point`). Exactness is needed for the value only.
-/

namespace GerberMask.Gerber

/-! ### Characters of numbers -/

namespace Word

theorem isNumberChar_of_isDigit {c : Char} (h : c.isDigit = true) : isNumberChar c = true := by
  simp [isNumberChar, h]

theorem letterless_of_isNumberChar {c : Char} (h : isNumberChar c = true) : c.isAlpha = false := by
  simp only [isNumberChar, Bool.or_eq_true, beq_iff_eq] at h
  obtain ((h | rfl) | rfl) | rfl := h
  · exact isAlpha_of_isDigit h
  all_goals rfl

theorem isBlank_of_isNumberChar {c : Char} (h : isNumberChar c = true) :
    Text.isBlank c = false := by
  refine isBlank_of_isLiteralChar ?_
  simp only [isNumberChar, Bool.or_eq_true] at h
  simp only [isLiteralChar, Bool.or_eq_true]
  tauto

theorem trim_of_isNumberChar {text : List Char} (h : ∀ c ∈ text, isNumberChar c) :
    Text.trim text = text :=
  Text.trim_eq_self_iff.2
    ⟨fun c hc ↦ isBlank_of_isNumberChar (h c (List.mem_of_mem_head? hc)),
      fun c hc ↦ isBlank_of_isNumberChar (h c (List.mem_of_getLast? hc))⟩

theorem isNumberChar_of_mem_sign {sign : WrittenSign} {c : Char} (h : c ∈ sign.text) :
    isNumberChar c = true := by
  cases sign <;> simp_all [WrittenSign.text, isNumberChar]

end Word

/-! ### Exponents -/

namespace DigitLayout

variable (l : DigitLayout) (length : ℕ)

theorem places_eq_bmod : l.places = (l.decimalDigits.toNat : ℤ).bmod (2 ^ 32) :=
  BitVec.toInt_eq_toNat_bmod _

theorem missing_eq_bmod :
    l.missing length =
      (l.integerDigits.toNat + l.decimalDigits.toNat - length : ℤ).bmod (2 ^ 32) := by
  have hsum : (l.integerDigits + l.decimalDigits).toInt32.toInt =
      (l.integerDigits.toNat + l.decimalDigits.toNat : ℤ).bmod (2 ^ 32) := by
    refine (BitVec.toInt_eq_toNat_bmod _).trans ?_
    rw [UInt32.toBitVec_toInt32, UInt32.toNat_toBitVec, UInt32.toNat_add]
    push_cast
    exact Int.emod_bmod ..
  have hlength : (Int32.ofNat length).toInt = (length : ℤ).bmod (2 ^ 32) := Int32.toInt_ofNat'
  rw [missing, Int32.toInt_sub, hsum, hlength, Int.bmod_sub_bmod, Int.sub_bmod_bmod]

/-- Whether all exponents are what the digits count, for rows that are not too long either. -/
def Fits : Prop :=
  l.integerDigits.toNat + l.decimalDigits.toNat < 2 ^ 31

variable {l length}

theorem places_of_lt (h : l.decimalDigits.toNat < 2 ^ 31) : l.places = l.decimalDigits.toNat := by
  rw [places_eq_bmod, Int.bmod_eq_of_le] <;> omega

theorem Fits.places (h : l.Fits) : l.places = l.decimalDigits.toNat :=
  places_of_lt ((Nat.le_add_left _ _).trans_lt h)

theorem Fits.missing (h : l.Fits) (hlength : length < 2 ^ 31) :
    l.missing length = l.integerDigits.toNat + l.decimalDigits.toNat - length := by
  unfold Fits at h
  rw [missing_eq_bmod, Int.bmod_eq_of_le] <;> omega

/-- A row of all digits leaves out none, whatever the counts are. -/
theorem missing_of_length (h : length = l.integerDigits.toNat + l.decimalDigits.toNat) :
    l.missing length = 0 := by
  rw [missing_eq_bmod, h]
  push_cast
  rw [sub_self]
  rfl

end DigitLayout

namespace CoordinateFormat

variable (f : CoordinateFormat) (axis : Axis)

/-! ### The grammar -/

/-- What digits without a point stand for on an axis. -/
def rowValue (digits : List Char) : ℚ :=
  match f.zeros with
  | .leading => digitsValue digits / 10 ^ (f.layout axis).places
  | .trailing =>
    digitsValue digits * 10 ^ (f.layout axis).missing digits.length / 10 ^ (f.layout axis).places

/-- The coordinates of an axis and what they stand for. -/
inductive Says : List Char → ℚ → Prop
  /-- Digits, whose place the format knows. -/
  | row (sign : WrittenSign) {digits : List Char} (isDigit : ∀ c ∈ digits, c.isDigit = true)
      (nonempty : digits ≠ []) : Says (sign.text ++ digits) (sign.apply (f.rowValue axis digits))
  /-- A decimal, whatever the format. -/
  | pointed (sign : WrittenSign) {whole fraction : List Char}
      (isDigit_whole : ∀ c ∈ whole, c.isDigit = true)
      (isDigit_fraction : ∀ c ∈ fraction, c.isDigit = true) (nonempty : whole ++ fraction ≠ []) :
      Says (sign.text ++ (whole ++ '.' :: fraction))
        (sign.apply (digitsValue whole + digitsValue fraction / 10 ^ fraction.length : ℚ))

variable {f axis} {text digits : List Char}

/-- A coordinate has one point at most. -/
theorem Says.count_point_le {q : ℚ} (h : f.Says axis text q) : text.count '.' ≤ 1 := by
  have hnone : ∀ {ds : List Char}, (∀ c ∈ ds, c.isDigit = true) → ds.count '.' = 0 :=
    fun hds ↦ List.count_eq_zero.2 fun hmem ↦ absurd (hds '.' hmem) (by decide)
  have hsign : ∀ sign : WrittenSign, sign.text.count '.' = 0 := by rintro (_ | _ | _) <;> rfl
  cases h with
  | row sign hdigits _ => simp [List.count_append, hsign, hnone hdigits]
  | pointed sign hwhole hfraction _ =>
    simp [List.count_append, hsign, hnone hwhole, hnone hfraction]

/-! ### Formats of documents -/

/-- A layout that is read has at most nine digits on either side of the point. -/
theorem le_nine_of_readLayout {letter : Char} {body : List Char} {command : String}
    {layout : DigitLayout} (h : readLayout letter body command = .ok layout) :
    layout.integerDigits.toNat ≤ 9 ∧ layout.decimalDigits.toNat ≤ 9 := by
  unfold readLayout at h
  split at h
  · cases h
    decide
  · split at h
    next hdigits =>
      cases h
      rw [Bool.and_eq_true] at hdigits
      exact ⟨(Nat.mod_le _ _).trans (digitValue_le_nine hdigits.1),
        (Nat.mod_le _ _).trans (digitValue_le_nine hdigits.2)⟩
    next => cases h
  · cases h

theorem le_nine_of_parse {command : String} (h : parse command = .ok f) (axis : Axis) :
    (f.layout axis).integerDigits.toNat ≤ 9 ∧ (f.layout axis).decimalDigits.toNat ≤ 9 := by
  unfold parse at h
  cases hx : readLayout 'X' (dropStart ['F', 'S'] command.toList) command with
  | error e =>
    simp only [hx, bind, Except.bind] at h
    split at h <;> cases h
  | ok x =>
    cases hy : readLayout 'Y' (dropStart ['F', 'S'] command.toList) command with
    | error e =>
      simp only [hx, hy, bind, Except.bind] at h
      split at h <;> cases h
    | ok y =>
      obtain ⟨rfl, rfl⟩ : f.x = x ∧ f.y = y := by
        simp only [hx, hy, bind, Except.bind] at h
        split at h <;> cases h <;> exact ⟨rfl, rfl⟩
      cases axis with
      | x => exact le_nine_of_readLayout hx
      | y => exact le_nine_of_readLayout hy

/-- In a document all exponents are what the digits count. -/
theorem fits_of_parse {command : String} (h : parse command = .ok f) (axis : Axis) :
    (f.layout axis).Fits := by
  obtain ⟨hinteger, hdecimal⟩ := le_nine_of_parse h axis
  unfold DigitLayout.Fits
  omega

variable {α : Type} [Scalar α]

/-! ### Which texts are decoded -/

/-- Digits are decoded, in any arithmetic. -/
theorem decodeRaw_row (sign : WrittenSign) (hdigits : ∀ c ∈ digits, c.isDigit = true)
    (hne : digits ≠ []) :
    f.decodeRaw axis (sign.text ++ digits) =
      .ok (sign.apply (f.digitsToScalar axis digits : α)) := by
  have hchars : ∀ c ∈ sign.text ++ digits, Word.isNumberChar c := by
    intro c hc
    obtain hc | hc := List.mem_append.1 hc
    · exact Word.isNumberChar_of_mem_sign hc
    · exact Word.isNumberChar_of_isDigit (hdigits c hc)
  have hpoint : (sign.text ++ digits).contains '.' = false := by
    rw [List.contains_eq_mem, decide_eq_false_iff_not, List.mem_append, not_or]
    refine ⟨by cases sign <;> decide, fun hmem ↦ ?_⟩
    exact absurd (hdigits '.' hmem) (by decide)
  have hsign : takeSign (sign.text ++ digits) = (sign.negates, digits) :=
    takeSign_text_append sign fun c hc ↦
      ne_sign_of_isDigit (hdigits c (List.mem_of_mem_head? hc))
  have haccept : (digits.isEmpty || !digits.all Char.isDigit) = false := by
    simpa [hne] using hdigits
  simp only [decodeRaw, Word.trim_of_isNumberChar hchars, hpoint, hsign, haccept,
    Bool.false_eq_true, if_false]
  rfl

/-- A text with a point is decoded as a decimal is read. -/
theorem decodeRaw_of_point (htext : ∀ c ∈ text, Word.isNumberChar c) (hpoint : '.' ∈ text) :
    (f.decodeRaw axis text : Except MalformedNumber α) =
      match pointedToScalar? text with
      | some v => .ok v
      | none => .error ⟨String.ofList text⟩ := by
  have hcontains : text.contains '.' = true := by simpa using hpoint
  unfold decodeRaw
  rw [Word.trim_of_isNumberChar htext]
  exact if_pos hcontains

/-- A text that the grammar does not have is refused. -/
theorem decodeRaw_of_not_says (htext : ∀ c ∈ text, Word.isNumberChar c)
    (h : ¬∃ q, f.Says axis text q) :
    (f.decodeRaw axis text : Except MalformedNumber α) = .error ⟨String.ofList text⟩ := by
  by_cases hpoint : '.' ∈ text
  · have hread : Literal.read? text = none := by
      refine Option.eq_none_iff_forall_ne_some.2 fun l hl ↦ h ?_
      obtain ⟨sign, whole, fraction, rfl, hwhole, hfraction, hne⟩ :=
        Literal.exists_of_read?_eq_some hpoint
          (fun c hc ↦ Word.letterless_of_isNumberChar (htext c hc)) hl
      exact ⟨_, .pointed sign hwhole hfraction hne⟩
    rw [decodeRaw_of_point htext hpoint, pointedToScalar?, hread]
  · have hrefuse := takeSign_refused fun sign digits htext hdigits ↦
      by_contra fun hne ↦ h ⟨_, htext ▸ Says.row sign hdigits hne⟩
    simp only [decodeRaw, Word.trim_of_isNumberChar htext, List.contains_eq_mem, hpoint,
      decide_false, Bool.false_eq_true, if_false, hrefuse, if_true]

/-! ### Values in exact arithmetic -/

variable [ExactScalar α]

open ExactScalar

theorem value_digitsToScalar (digits : List Char) :
    value (f.digitsToScalar axis digits : α) = f.rowValue axis digits := by
  cases hzeros : f.zeros <;>
    simp [digitsToScalar, rowValue, hzeros, value_ofNat, value_tenPow]

/-- A text that the grammar has is decoded, and to what it stands for. -/
theorem decodeRaw_of_says {q : ℚ} (h : f.Says axis text q) :
    ∃ v : α, f.decodeRaw axis text = .ok v ∧ value v = q := by
  cases h with
  | @row sign digits hdigits hne =>
    refine ⟨_, decodeRaw_row sign hdigits hne, ?_⟩
    rw [sign.map_apply value_neg, value_digitsToScalar, sign.map_apply Rat.cast_neg]
  | @pointed sign whole fraction hwhole hfraction hne =>
    have hchars : ∀ c ∈ sign.text ++ (whole ++ '.' :: fraction), Word.isNumberChar c := by
      simp only [List.mem_append, List.mem_cons]
      rintro c (hc | hc | rfl | hc)
      · exact Word.isNumberChar_of_mem_sign hc
      · exact Word.isNumberChar_of_isDigit (hwhole c hc)
      · rfl
      · exact Word.isNumberChar_of_isDigit (hfraction c hc)
    refine ⟨Scalar.ofDecimal ⟨sign.negates, digitsValue (whole ++ fraction), -fraction.length⟩,
      ?_, ?_⟩
    · rw [decodeRaw_of_point hchars (by simp), pointedToScalar?,
        Literal.read?_pointed sign hwhole hfraction hne]
      simp only [Option.filter, isFinite_eq_true, if_true]
    · rw [value_ofDecimal, Decimal.toRat_pointed]

/-! ### Zeros that do not matter -/

/-- With leading zeros left out, the last digit has a fixed place. -/
theorem rowValue_leading (hzeros : f.zeros = .leading)
    (h : (f.layout axis).decimalDigits.toNat < 2 ^ 31) (digits : List Char) :
    f.rowValue axis digits = digitsValue digits / 10 ^ (f.layout axis).decimalDigits.toNat := by
  rw [rowValue, hzeros, DigitLayout.places_of_lt h, zpow_natCast]

/-- With trailing zeros left out, the first digit has a fixed place. -/
theorem rowValue_trailing (hzeros : f.zeros = .trailing) (h : (f.layout axis).Fits)
    (hlength : digits.length < 2 ^ 31) :
    f.rowValue axis digits =
      digitsValue digits * 10 ^ ((f.layout axis).integerDigits.toNat - digits.length : ℤ) := by
  rw [rowValue, hzeros, h.missing hlength, h.places, add_sub_right_comm,
    zpow_add₀ (by norm_num), ← mul_assoc, mul_div_cancel_right₀ _ (zpow_ne_zero _ (by norm_num))]

theorem rowValue_replicate_append (hzeros : f.zeros = .leading) (n : ℕ) (digits : List Char) :
    f.rowValue axis (List.replicate n '0' ++ digits) = f.rowValue axis digits := by
  simp only [rowValue, hzeros, digitsValue_append, digitsValue_replicate_zero, zero_mul, zero_add]

theorem rowValue_append_replicate (hzeros : f.zeros = .trailing) (h : (f.layout axis).Fits)
    {n : ℕ} (hlength : digits.length + n < 2 ^ 31) :
    f.rowValue axis (digits ++ List.replicate n '0') = f.rowValue axis digits := by
  have hlength' : (digits ++ List.replicate n '0').length < 2 ^ 31 := by
    rwa [List.length_append, List.length_replicate]
  rw [rowValue_trailing hzeros h hlength', rowValue_trailing hzeros h (by omega),
    digitsValue_append, digitsValue_replicate_zero, List.length_append, List.length_replicate]
  push_cast
  rw [← sub_sub, zpow_sub₀ (by norm_num) _ (n : ℤ), zpow_natCast]
  field_simp
  ring

theorem rowValue_of_length (zeros : ZeroOmission)
    (hlength : digits.length =
      (f.layout axis).integerDigits.toNat + (f.layout axis).decimalDigits.toNat) :
    { f with zeros }.rowValue axis digits = f.rowValue axis digits := by
  have hlayout : ({ f with zeros } : CoordinateFormat).layout axis = f.layout axis := by
    cases axis <;> rfl
  unfold rowValue
  cases zeros <;> cases f.zeros <;>
    simp only [hlayout, DigitLayout.missing_of_length hlength, zpow_zero, mul_one]

/-- Two rows of digits that stand for the same are decoded to the same. -/
theorem decodeRaw_row_congr {f' : CoordinateFormat} {digits' : List Char} (sign : WrittenSign)
    (hdigits : ∀ c ∈ digits, c.isDigit = true) (hne : digits ≠ [])
    (hdigits' : ∀ c ∈ digits', c.isDigit = true) (hne' : digits' ≠ [])
    (h : f.rowValue axis digits = f'.rowValue axis digits') :
    (f.decodeRaw axis (sign.text ++ digits) : Except MalformedNumber α) =
      f'.decodeRaw axis (sign.text ++ digits') := by
  have hsame : (f.digitsToScalar axis digits : α) = f'.digitsToScalar axis digits' :=
    value_injective (by rw [value_digitsToScalar, value_digitsToScalar, h])
  rw [decodeRaw_row sign hdigits hne, decodeRaw_row sign hdigits' hne', hsame]

end CoordinateFormat

open CoordinateFormat ExactScalar

variable (α : Type) [Scalar α] [ExactScalar α]

/-- **The value of a coordinate.** In exact arithmetic a text of digits, signs and points is decoded
exactly if it is a sign, which may be left out, and digits, with at most one point and at least one
digit. With a point its value is that of the decimal. Without one it is the number that the digits
write, divided by a power of ten that depends on the decimal digits of the axis if leading zeros are
left out, and on its integer digits and the length of the row if trailing ones are; the counts have
to be exponents, which are below `2 ^ 31`, and those of a format that a document gives are. All
other texts are malformed. So zeros that the format leaves out can be written or not, and a row of
all digits that the axis has means the same in both modes. -/
theorem coordinate_values (f : CoordinateFormat) (axis : Axis) :
    (∀ command : String, CoordinateFormat.parse command = .ok f → (f.layout axis).Fits) ∧
    (∀ text : List Char, (∀ c ∈ text, Word.isNumberChar c) →
      (∀ q, f.Says axis text q → ∃ v : α, f.decodeRaw axis text = .ok v ∧ value v = q) ∧
      ((¬∃ q, f.Says axis text q) →
        (f.decodeRaw axis text : Except MalformedNumber α) = .error ⟨String.ofList text⟩)) ∧
    (∀ digits : List Char,
      (f.zeros = .leading → (f.layout axis).decimalDigits.toNat < 2 ^ 31 →
        f.rowValue axis digits =
          digitsValue digits / 10 ^ (f.layout axis).decimalDigits.toNat) ∧
      (f.zeros = .trailing → (f.layout axis).Fits → digits.length < 2 ^ 31 →
        f.rowValue axis digits =
          digitsValue digits * 10 ^ ((f.layout axis).integerDigits.toNat - digits.length : ℤ))) ∧
    ∀ (sign : WrittenSign) (digits : List Char), (∀ c ∈ digits, c.isDigit = true) → digits ≠ [] →
      (f.zeros = .leading → ∀ n : ℕ,
        (f.decodeRaw axis (sign.text ++ (List.replicate n '0' ++ digits)) :
          Except MalformedNumber α) = f.decodeRaw axis (sign.text ++ digits)) ∧
      (f.zeros = .trailing → (f.layout axis).Fits → ∀ n : ℕ, digits.length + n < 2 ^ 31 →
        (f.decodeRaw axis (sign.text ++ (digits ++ List.replicate n '0')) :
          Except MalformedNumber α) = f.decodeRaw axis (sign.text ++ digits)) ∧
      (digits.length =
          (f.layout axis).integerDigits.toNat + (f.layout axis).decimalDigits.toNat →
        ∀ zeros : ZeroOmission,
          ({ f with zeros }.decodeRaw axis (sign.text ++ digits) : Except MalformedNumber α) =
            f.decodeRaw axis (sign.text ++ digits)) := by
  refine ⟨fun command hparse ↦ fits_of_parse hparse axis,
    fun text htext ↦ ⟨fun q ↦ decodeRaw_of_says, decodeRaw_of_not_says htext⟩,
    fun digits ↦ ⟨fun hmode hfits ↦ rowValue_leading hmode hfits digits, rowValue_trailing⟩,
    fun sign digits hdigits hne ↦ ?_⟩
  have hzeros : ∀ n, ∀ c ∈ List.replicate n '0', c.isDigit = true := by
    intro n c hc
    rw [List.eq_of_mem_replicate hc]
    rfl
  refine ⟨fun hmode n ↦ ?_, fun hmode hfits n hlength ↦ ?_, fun hlength zeros ↦ ?_⟩
  · exact decodeRaw_row_congr sign (List.forall_mem_append.2 ⟨hzeros n, hdigits⟩) (by simp [hne])
      hdigits hne (rowValue_replicate_append hmode n digits)
  · exact decodeRaw_row_congr sign (List.forall_mem_append.2 ⟨hdigits, hzeros n⟩) (by simp [hne])
      hdigits hne (rowValue_append_replicate hmode hfits hlength)
  · exact decodeRaw_row_congr sign hdigits hne hdigits hne (rowValue_of_length zeros hlength)

/-- A negative row that leaves out three trailing zeros, a decimal without a whole part, and a text
with two points. -/
theorem coordinate_values_trailing :
    ∃ f : CoordinateFormat, f = ⟨⟨2, 4⟩, ⟨2, 4⟩, .trailing, .absolute⟩ ∧
      (∃ v : ℚ, f.decodeRaw .x ['-', '0', '1', '2'] = .ok v ∧ value v = (-1.2 : ℚ)) ∧
      (∃ v : ℚ, f.decodeRaw .x ['+', '.', '2', '5'] = .ok v ∧ value v = (0.25 : ℚ)) ∧
      (f.decodeRaw .x ['1', '.', '.'] : Except MalformedNumber ℚ) = .error ⟨"1.."⟩ ∧
      (f.decodeRaw .x ['-', '0', '1', '2', '0', '0', '0'] : Except MalformedNumber ℚ) =
        f.decodeRaw .x ['-', '0', '1', '2'] ∧
      ({ f with zeros := .leading }.decodeRaw .x ['-', '0', '1', '2', '0', '0', '0'] :
          Except MalformedNumber ℚ) =
        f.decodeRaw .x ['-', '0', '1', '2', '0', '0', '0'] := by
  refine ⟨_, rfl, ?_⟩
  have hpointedValue : (0.25 : ℚ) = WrittenSign.plus.apply
      (digitsValue [] + digitsValue ['2', '5'] / 10 ^ ['2', '5'].length : ℚ) := by
    have hnothing : digitsValue [] = 0 := rfl
    have hdigits : digitsValue ['2', '5'] = 25 := rfl
    have hplus : WrittenSign.plus.negates = false := rfl
    norm_num [WrittenSign.apply, hnothing, hdigits, hplus]
  obtain ⟨hformat, hvalues, hrows, hzeros⟩ :=
    coordinate_values ℚ ⟨⟨2, 4⟩, ⟨2, 4⟩, .trailing, .absolute⟩ .x
  have hfits : DigitLayout.Fits ⟨2, 4⟩ := hformat "FSTAX24Y24" (by decide +kernel)
  have hrowValue : (-1.2 : ℚ) = WrittenSign.minus.apply
      (rowValue ⟨⟨2, 4⟩, ⟨2, 4⟩, .trailing, .absolute⟩ .x ['0', '1', '2']) := by
    rw [(hrows ['0', '1', '2']).2 rfl hfits (by decide)]
    show (-1.2 : ℚ) = -((12 : ℕ) * 10 ^ ((2 : ℕ) - (3 : ℕ) : ℤ))
    norm_num
  refine ⟨?_, ?_, ?_, ?_, ?_⟩
  · rw [hrowValue]
    exact (hvalues _ (List.all_eq_true.1 (by decide))).1 _
      (.row .minus (List.all_eq_true.1 (by decide)) (by decide))
  · rw [hpointedValue]
    exact (hvalues _ (List.all_eq_true.1 (by decide))).1 _
      (.pointed .plus (List.forall_mem_nil _) (List.all_eq_true.1 (by decide)) (by decide))
  · refine (hvalues _ (List.all_eq_true.1 (by decide))).2 ?_
    rintro ⟨q, hq⟩
    exact absurd hq.count_point_le (by decide)
  · exact (hzeros .minus ['0', '1', '2'] (List.all_eq_true.1 (by decide)) (by decide)).2.1 rfl
      hfits 3 (by decide)
  · exact (hzeros .minus ['0', '1', '2', '0', '0', '0'] (List.all_eq_true.1 (by decide))
      (by decide)).2.2 rfl .leading

end GerberMask.Gerber
