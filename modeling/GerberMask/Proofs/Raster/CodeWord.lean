import Mathlib.Data.Nat.Bitwise
import GerberMask.Raster.RunLength

/-!
# Words of the run-length code, in arithmetic

The code packs and unpacks its words with shifts and masks. Here every such operation is read as
arithmetic on the number of the word (`runFlag_iff`, `toNat_lengthField`, `wordColor_eq`,
`toNat_colorWord`), and what a writer and a reader of words have to agree on is then linear
arithmetic: a colour word gives back the quantised colour whether or not its flag is set
(`fieldColor_colorWord`, `fieldColor_flagged`), and the flag lies on a bit that no channel uses.
-/

namespace GerberMask.Raster

/-- The number of a word, given by its bytes. -/
def wordValue (lo hi : UInt8) : Nat :=
  lo.toNat + 256 * hi.toNat

/-- The colour in a number of sixteen bits: five bits for each channel, which become the high bits
of a byte. Bit 5 takes no part. -/
def fieldColor (n : Nat) : Rgb :=
  ⟨.ofNat (n / 2048 % 32 * 8), .ofNat (n / 64 % 32 * 8), .ofNat (n % 32 * 8)⟩

/-! ### Reading the fields of a word -/

theorem toNat_word16 (lo hi : UInt8) : (LittleEndian.word16 lo hi).toNat = wordValue lo hi := by
  have hlo := lo.toNat_lt
  have hhi := hi.toNat_lt
  rw [LittleEndian.word16, UInt16.toNat_ofNat', wordValue]
  omega

/-- The flag is bit 5 of the word. -/
theorem runFlag_iff (w : UInt16) : w &&& runFlag = 0 ↔ w.toNat.testBit 5 = false := by
  rw [← UInt16.toNat_inj, UInt16.toNat_and]
  show w.toNat &&& 2 ^ 5 = 0 ↔ w.toNat.testBit 5 = false
  rw [Nat.and_two_pow]
  cases w.toNat.testBit 5 <;> simp

/-- The length field is the low twelve bits. -/
theorem toNat_lengthField (w : UInt16) : (w &&& 0xfff).toNat = w.toNat % 4096 :=
  Nat.and_two_pow_sub_one_eq_mod w.toNat 12

theorem wordColor_eq (w : UInt16) : wordColor w = fieldColor w.toNat := by
  have hmask : ∀ n : Nat, n &&& 31 = n % 32 := fun n ↦ Nat.and_two_pow_sub_one_eq_mod n 5
  rw [wordColor, fieldColor, Rgb.mk.injEq]
  simp only [← UInt8.toNat_inj]
  refine ⟨?_, ?_, ?_⟩ <;> simp [Nat.shiftRight_eq_div_pow, Nat.shiftLeft_eq, hmask]

/-! ### Packing a colour -/

theorem toNat_quantizeChannel (c : UInt8) : (quantizeChannel c).toNat = c.toNat / 8 * 8 := by
  have hmask : ∀ n < 256, n &&& 248 = n / 8 * 8 := by decide +kernel
  exact hmask c.toNat c.toNat_lt

/-- The three fields of a packed colour do not overlap, so that packing is addition. -/
theorem toNat_colorWord (c : Rgb) :
    (colorWord c).toNat = c.r.toNat / 8 * 2048 + (c.g.toNat / 8 * 64 + c.b.toNat / 8) := by
  have hr := c.r.toNat_lt
  have hg := c.g.toNat_lt
  have hb := c.b.toNat_lt
  have hor : (colorWord c).toNat =
      c.r.toNat / 8 * 2048 ||| (c.g.toNat / 8 * 64 ||| c.b.toNat / 8) := by
    have hr' : c.r.toNat / 8 * 2048 % 65536 = c.r.toNat / 8 * 2048 :=
      Nat.mod_eq_of_lt (by omega)
    have hg' : c.g.toNat / 8 * 64 % 65536 = c.g.toNat / 8 * 64 := Nat.mod_eq_of_lt (by omega)
    simp [colorWord, Nat.shiftRight_eq_div_pow, Nat.shiftLeft_eq, hr', hg', Nat.or_assoc]
  have hlow : c.g.toNat / 8 * 64 ||| c.b.toNat / 8 = c.g.toNat / 8 * 64 + c.b.toNat / 8 := by
    simpa [Nat.shiftLeft_eq] using
      (Nat.shiftLeft_add_eq_or_of_lt (i := 6) (show c.b.toNat / 8 < 2 ^ 6 by omega)
        (c.g.toNat / 8)).symm
  rw [hor, hlow]
  simpa [Nat.shiftLeft_eq] using
    (Nat.shiftLeft_add_eq_or_of_lt (i := 11)
      (show c.g.toNat / 8 * 64 + c.b.toNat / 8 < 2 ^ 11 by omega) (c.r.toNat / 8)).symm

/-- The flag of a packed colour is clear: no channel reaches bit 5. -/
theorem testBit_colorWord (c : Rgb) : (colorWord c).toNat.testBit 5 = false := by
  have hb := c.b.toNat_lt
  rw [Nat.testBit_eq_decide_div_mod_eq, decide_eq_false_iff_not, toNat_colorWord]
  omega

theorem toNat_flagged (c : Rgb) : (colorWord c ||| runFlag).toNat = (colorWord c).toNat + 32 := by
  have hclear : colorWord c &&& runFlag = 0 := (runFlag_iff _).2 (testBit_colorWord c)
  have hadd : colorWord c ||| runFlag = colorWord c + runFlag := by
    rw [← UInt16.toBitVec_inj]
    exact (BitVec.add_eq_or_of_and_eq_zero _ _ (congrArg UInt16.toBitVec hclear)).symm
  have hr := c.r.toNat_lt
  have hg := c.g.toNat_lt
  have hb := c.b.toNat_lt
  have hword := toNat_colorWord c
  rw [hadd, UInt16.toNat_add, show runFlag.toNat = 32 from rfl]
  omega

theorem testBit_flagged (c : Rgb) : (colorWord c ||| runFlag).toNat.testBit 5 = true := by
  have hb := c.b.toNat_lt
  rw [Nat.testBit_eq_decide_div_mod_eq, decide_eq_true_iff, toNat_flagged, toNat_colorWord]
  omega

/-! ### What a writer and a reader agree on -/

private theorem fieldColor_eq_quantize {n : Nat} {c : Rgb}
    (hr : n / 2048 % 32 = c.r.toNat / 8) (hg : n / 64 % 32 = c.g.toNat / 8)
    (hb : n % 32 = c.b.toNat / 8) : fieldColor n = quantize c := by
  have hr' := c.r.toNat_lt
  have hg' := c.g.toNat_lt
  have hb' := c.b.toNat_lt
  rw [fieldColor, quantize, Rgb.mk.injEq, hr, hg, hb]
  simp only [← UInt8.toNat_inj, toNat_quantizeChannel, UInt8.toNat_ofNat']
  omega

/-- **A colour word holds the quantised colour.** -/
theorem fieldColor_colorWord (c : Rgb) : fieldColor (colorWord c).toNat = quantize c := by
  have hr := c.r.toNat_lt
  have hg := c.g.toNat_lt
  have hb := c.b.toNat_lt
  have hword := toNat_colorWord c
  apply fieldColor_eq_quantize <;> omega

/-- And so it does with its flag set. -/
theorem fieldColor_flagged (c : Rgb) :
    fieldColor (colorWord c ||| runFlag).toNat = quantize c := by
  have hr := c.r.toNat_lt
  have hg := c.g.toNat_lt
  have hb := c.b.toNat_lt
  have hword := toNat_colorWord c
  have hflag := toNat_flagged c
  apply fieldColor_eq_quantize <;> omega

end GerberMask.Raster
