import GerberMask.Proofs.Number.BinaryOrder

/-!
# Finite numbers and infinities

A binary number is finite, infinite or "not a number". A finite number has an exact value
(`exists_ofFloat?`), and there are only two infinities, so that a number which is neither finite
nor "not a number" is one of these (`eq_infinity`).
-/

namespace GerberMask.Binary

open Float.Model Float.Model.UnpackedFloat

variable {x y : Float}

/-- A number without an exact value has the exponent of the special numbers. -/
theorem exponent_of_ofFloat?_eq_none (h : ofFloat? x = none) :
    x.toBits.toNat / 2 ^ 52 % 2 ^ 11 = 2047 := by
  unfold ofFloat? at h
  dsimp only at h
  split at h
  · next hspecial => exact hspecial
  · split at h
    · cases h
    · cases h

/-- A finite number has an exact value. -/
theorem exists_ofFloat? (h : x.isFinite = true) : ∃ b, ofFloat? x = some b := by
  rcases hx : ofFloat? x with - | b
  · have hexponent : @unpackExponent .binary64 x.toModel.toBits.toBitVec = -1#_ :=
      BitVec.eq_of_toNat_eq ((toNat_unpackExponent _).trans (exponent_of_ofFloat?_eq_none hx))
    have hfinite : x.toModel.unpack.isFinite = true := h
    rw [Float.Model.unpack, UnpackedFloat.unpack] at hfinite
    simp only [hexponent, if_true] at hfinite
    split at hfinite
    · cases hfinite
    · cases hfinite
  · exact ⟨b, rfl⟩

/-- A finite number has an exact value, and only a finite one has. -/
theorem isFinite_iff : x.isFinite = true ↔ ∃ b, ofFloat? x = some b := by
  refine ⟨exists_ofFloat?, fun ⟨b, hb⟩ ↦ ?_⟩
  show x.toModel.unpack.isFinite = true
  rw [unpack_eq hb]
  obtain ⟨s, hb, -⟩ | ⟨hpos, hb, -⟩ | ⟨hpos, hb, -⟩ := b.unpacked_cases <;> rw [hb] <;> rfl

/-- A finite number is a number. -/
theorem isNaN_of_isFinite (h : x.isFinite = true) : x.isNaN = false := by
  replace h : x.toModel.unpack.isFinite = true := h
  show x.toModel.unpack.isNaN = false
  rcases hx : x.toModel.unpack with s | - | s | ⟨s, m, e, hm⟩
  · rfl
  · rw [hx] at h
    cases h
  · rfl
  · rfl

/-- The bits of a number are determined by what comparisons take it apart into. -/
theorem eq_of_unpack_eq {u : Float.Model.UnpackedFloat} (hx : x.toModel.unpack = u)
    (hy : y.toModel.toBits.toBitVec = UnpackedFloat.pack .binary64 u) : x = y := by
  have hbits : x.toModel.toBits.toBitVec = y.toModel.toBits.toBitVec := by
    rw [hy, ← hx]
    exact (pack_unpack_of_valid x.toModel.valid).symm
  obtain ⟨⟨⟨bits⟩, hvalid⟩⟩ := x
  obtain ⟨⟨⟨bits'⟩, hvalid'⟩⟩ := y
  obtain rfl : bits = bits' := hbits
  rfl

/-- **There are two infinities.** -/
theorem eq_infinity (hfinite : x.isFinite = false) (hnumber : x.isNaN = false) :
    x = 1.0 / 0.0 ∨ x = -1.0 / 0.0 := by
  replace hfinite : x.toModel.unpack.isFinite = false := hfinite
  replace hnumber : x.toModel.unpack.isNaN = false := hnumber
  rcases hx : x.toModel.unpack with s | - | s | ⟨s, m, e, hm⟩
  · rcases s with - | -
    · exact .inr (eq_of_unpack_eq hx (by decide +kernel))
    · exact .inl (eq_of_unpack_eq hx (by decide +kernel))
  · rw [hx] at hnumber
    cases hnumber
  · rw [hx] at hfinite
    cases hfinite
  · rw [hx] at hfinite
    cases hfinite

end GerberMask.Binary
