import GerberMask.Number.Decimal
import Mathlib.Algebra.Group.Nat.Defs
import Mathlib.Data.List.Induction
import Mathlib.Data.List.TakeWhile

/-!
# Numbers as rows of digits

The text of an integer is a row of digits, behind a minus sign if the integer is negative
(`toString_toList`). The row does not begin with a zero unless it is one, and the number that it
writes is the number that it came from (`digitsValue_toDigits`). A reader takes a row of digits as
far as it goes, so what it takes from a text does not change with what is appended to the text, as
long as that does not begin with one more digit (`takeWhile_append_of_head`).
-/

namespace GerberMask

/-! ### Runs of characters -/

section
variable {α : Type} {p : α → Bool} {rest : List α}

theorem takeWhile_append_of_head (xs : List α) (h : ∀ c ∈ rest.head?, p c = false) :
    (xs ++ rest).takeWhile p = xs.takeWhile p := by
  have hrest : rest.takeWhile p = [] := by
    cases rest with
    | nil => rfl
    | cons c cs => rw [List.takeWhile_cons_of_neg (by simp [h c rfl])]
  rw [List.takeWhile_append]
  split
  · next hall => rw [hrest, List.append_nil, (List.takeWhile_prefix p).eq_of_length hall]
  · rfl

theorem dropWhile_append_of_head (xs : List α) (h : ∀ c ∈ rest.head?, p c = false) :
    (xs ++ rest).dropWhile p = xs.dropWhile p ++ rest := by
  have hsplit : (xs ++ rest).takeWhile p ++ (xs ++ rest).dropWhile p =
      xs.takeWhile p ++ (xs.dropWhile p ++ rest) := by
    rw [List.takeWhile_append_dropWhile, ← List.append_assoc, List.takeWhile_append_dropWhile]
  rw [takeWhile_append_of_head xs h] at hsplit
  exact List.append_cancel_left hsplit

end

/-- What follows a text does not change its sign. -/
theorem takeSign_append {cs : List Char} (h : cs ≠ []) (rest : List Char) :
    takeSign (cs ++ rest) = ((takeSign cs).1, (takeSign cs).2 ++ rest) := by
  obtain ⟨c, cs, rfl⟩ := List.exists_cons_of_ne_nil h
  by_cases hminus : c = '-'
  · subst hminus
    rfl
  by_cases hplus : c = '+'
  · subst hplus
    rfl
  have hnone : ∀ cs, takeSign (c :: cs) = (false, c :: cs) := fun cs ↦
    takeSign.eq_3 _ (fun _ heq ↦ hminus (List.cons.inj heq).1)
      fun _ heq ↦ hplus (List.cons.inj heq).1
  rw [List.cons_append, hnone, hnone]
  rfl

/-! ### Natural numbers -/

theorem digitsValue_eq_ofDigitChars (ds : List Char) :
    digitsValue ds = Nat.ofDigitChars 10 ds 0 :=
  Nat.ofDigitChars_eq_foldl.symm

theorem digitsValue_toDigits (n : Nat) : digitsValue (Nat.toDigits 10 n) = n :=
  (digitsValue_eq_ofDigitChars _).trans Nat.ofDigitChars_ten_toDigits

theorem digitsValue_append (ds es : List Char) :
    digitsValue (ds ++ es) = digitsValue ds * 10 ^ es.length + digitsValue es := by
  simp only [digitsValue_eq_ofDigitChars]
  rw [Nat.ofDigitChars_append, Nat.ofDigitChars_eq_ofDigitChars_zero, Nat.mul_comm]

theorem digitsValue_replicate_zero (n : Nat) : digitsValue (List.replicate n '0') = 0 := by
  rw [digitsValue_eq_ofDigitChars, Nat.ofDigitChars_replicate_zero, Nat.mul_zero]

theorem digitValue_le_nine {c : Char} (h : c.isDigit = true) : digitValue c ≤ 9 := by
  obtain ⟨-, hnine⟩ := Bool.and_eq_true_iff.1 h
  have hlast : c.toNat ≤ '9'.toNat := of_decide_eq_true hnine
  exact Nat.sub_le_sub_right hlast '0'.toNat

/-- Digits write a number below the power of ten with as many zeros. -/
theorem digitsValue_lt {ds : List Char} (h : ∀ c ∈ ds, c.isDigit = true) :
    digitsValue ds < 10 ^ ds.length := by
  induction ds using List.reverseRecOn with
  | nil => decide
  | append_singleton ds c ih =>
    have hds := ih fun d hd ↦ h d (List.mem_append_left _ hd)
    have hc := digitValue_le_nine (h c (by simp))
    have hlast : digitsValue [c] = digitValue c := Nat.zero_add _
    rw [digitsValue_append, hlast, List.length_append, pow_add]
    simp only [List.length_singleton, pow_one]
    omega

theorem isDigit_of_mem_toDigits {n : Nat} {c : Char} (h : c ∈ Nat.toDigits 10 n) :
    c.isDigit = true :=
  Nat.isDigit_of_mem_toDigits (by decide) (by decide) h

/-- Only zero begins with a zero. -/
theorem eq_zero_of_toDigits_eq_cons {n : Nat} {ds : List Char} (h : Nat.toDigits 10 n = '0' :: ds) :
    n = 0 := by
  induction n using Nat.strongRecOn generalizing ds with
  | ind n ih =>
    rcases Nat.lt_or_ge n 10 with hn | hn
    · rw [Nat.toDigits_of_lt_base hn, List.cons.injEq] at h
      exact (by decide : ∀ n < 10, n.digitChar = '0' → n = 0) n hn h.1
    · rw [Nat.toDigits_of_base_le (by decide) hn] at h
      obtain ⟨d, ds', hd⟩ :=
        List.exists_cons_of_ne_nil (Nat.toDigits_ne_nil (n := n / 10) (b := 10))
      rw [hd, List.cons_append, List.cons.injEq] at h
      have hzero : n / 10 = 0 := ih (n / 10) (by omega) (hd.trans (by rw [h.1]))
      omega

theorem readNat?_toDigits (n : Nat) : readNat? (Nat.toDigits 10 n) = some n := by
  have hdigits : ∀ c ∈ Nat.toDigits 10 n, c.isDigit = true := fun _ ↦ isDigit_of_mem_toDigits
  have hne : Nat.toDigits 10 n ≠ [] := Nat.toDigits_ne_nil
  unfold readNat?
  split
  next rest hplus =>
    rw [hplus] at hdigits
    exact absurd (hdigits '+' List.mem_cons_self) (by decide)
  · simp [hne, List.all_eq_true.2 hdigits, digitsValue_toDigits]

/-- A number that fits is read back from its digits. -/
theorem readWord?_toDigits {bits n : Nat} (h : n < Nat.pow 2 bits) :
    readWord? bits (Nat.toDigits 10 n) = some n := by
  rw [readWord?, readNat?_toDigits]
  exact Option.filter_some_pos (decide_eq_true h)

theorem lt_of_readWord?_eq_some {bits n : Nat} {cs : List Char} (h : readWord? bits cs = some n) :
    n < Nat.pow 2 bits :=
  of_decide_eq_true (Option.filter_eq_some_iff.1 h).2

/-! ### Integers -/

theorem toString_toList (n : Int) : (toString n).toList =
    (if n < 0 then ['-'] else []) ++ Nat.toDigits 10 n.natAbs := by
  rw [Int.toString_eq_repr, Int.repr_eq_if]
  split
  · next h =>
    rw [if_neg (by omega), Nat.repr_eq_ofList_toDigits, String.toList_ofList,
      show n.toNat = n.natAbs by omega]
    rfl
  · next h =>
    rw [if_pos (by omega), String.toList_append, Nat.repr_eq_ofList_toDigits,
      show (-n).toNat = n.natAbs by omega]
    exact congrArg ('-' :: ·) String.toList_ofList

end GerberMask
