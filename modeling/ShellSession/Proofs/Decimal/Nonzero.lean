/-
**Whole numbers among the binary fractions.**

The binary fraction nearest to a whole number other than zero has an exponent field that is not
zero, and no number that is compared with it as equal to zero has such a field.

* `ofBits_beq_zero`: bits with an exponent field other than zero are not equal to zero;
* `nearestBits_bounds`: the bits nearest to a whole number other than zero;
* `ofInt_beq_zero`: **a whole number other than zero is not the fraction zero**.
-/

import Mathlib
import ShellSession.Decimal.Nearest

namespace ShellSession.Decimal

open Float.Model

/-! ### Bits with an exponent -/

/-- What is unpacked from bits whose exponent field is not zero is not a zero. -/
theorem unpack_ne_zero {bits : BitVec Format.binary64.numBits}
    (normal : UnpackedFloat.unpackExponent bits ≠ 0#_) (sign : UnpackedFloat.Sign) :
    UnpackedFloat.unpack .binary64 bits ≠ .zero sign := by
  intro zero
  rw [UnpackedFloat.unpack] at zero
  split at zero
  · split at zero <;> cases zero
  · cases zero

/-- Packing what was unpacked keeps an exponent field from becoming zero. -/
theorem unpackExponent_pack_unpack {bits : BitVec Format.binary64.numBits}
    (normal : UnpackedFloat.unpackExponent bits ≠ 0#_) :
    UnpackedFloat.unpackExponent
      (UnpackedFloat.pack .binary64 (UnpackedFloat.unpack .binary64 bits)) ≠ 0#_ := by
  rw [UnpackedFloat.pack_unpack bits]
  split
  · decide
  · exact normal

theorem unpack_literal_zero : (0.0 : Float).toModel.unpack = .zero .positive := by rfl

/-- A binary fraction whose bits have an exponent field other than zero is not the fraction zero. -/
theorem ofBits_beq_zero {bits : UInt64} (normal : bits.toNat / 2 ^ 52 % 2 ^ 11 ≠ 0) :
    (Float.ofBits bits == 0.0) = false := by
  have field : @UnpackedFloat.unpackExponent .binary64 bits.toBitVec ≠ 0#_ := by
    intro zero
    apply normal
    have same := congrArg BitVec.toNat zero
    simpa [UnpackedFloat.unpackExponent, Nat.shiftRight_eq_div_pow] using same
  have kept := unpack_ne_zero (unpackExponent_pack_unpack field)
  show (UnpackedFloat.compare (Float.ofBits bits).toModel.unpack (0.0 : Float).toModel.unpack ==
    some .eq) = false
  rw [unpack_literal_zero]
  show (UnpackedFloat.compare (UnpackedFloat.unpack .binary64
    (UnpackedFloat.pack .binary64 (UnpackedFloat.unpack .binary64 bits.toBitVec)))
      (.zero .positive) == some .eq) = false
  cases unpacked : UnpackedFloat.unpack .binary64
    (UnpackedFloat.pack .binary64 (UnpackedFloat.unpack .binary64 bits.toBitVec)) with
  | zero sign => exact absurd unpacked (kept sign)
  | notANumber => rfl
  | infinity sign => cases sign <;> rfl
  | finite sign mantissa exponent positive => cases sign <;> rfl

/-! ### Whole numbers -/

theorem twoTo_eq (n : Nat) : twoTo n = 2 ^ n :=
  rfl

/-- The exponent at which a whole number other than zero has a significand is far above the least. -/
theorem le_scaleOf (n : Nat) : -53 ≤ scaleOf n 1 := by
  have one : (1 : Nat).log2 = 0 := rfl
  simp only [scaleOf, one]
  split <;> omega

/-- The bits nearest to a whole number other than zero. -/
theorem nearestBits_bounds {n : Nat} (nonzero : n ≠ 0) :
    1021 * 2 ^ 52 ≤ nearestBits n 1 ∧ nearestBits n 1 ≤ 2047 * 2 ^ 52 := by
  have least := le_scaleOf n
  rw [nearestBits, if_neg nonzero]
  simp only [infinityBits, twoTo_eq]
  generalize roundHalfEven _ _ = rounded
  have scaled : 1021 * 2 ^ 52 ≤ (scaleOf n 1 + 1074).toNat * 2 ^ 52 :=
    Nat.mul_le_mul_right _ (by omega)
  omega

/-- **A whole number other than zero is not the fraction zero.** -/
theorem ofInt_beq_zero {n : Int} (nonzero : n ≠ 0) : (ofInt n == 0.0) = false := by
  obtain ⟨least, greatest⟩ := nearestBits_bounds (Int.natAbs_ne_zero.mpr nonzero)
  rw [ofInt, signedFloat]
  apply ofBits_beq_zero
  have size : UInt64.size = 2 ^ 64 := rfl
  split
  · rw [twoTo_eq, UInt64.toNat_ofNat_of_lt' (by omega)]
    omega
  · rw [UInt64.toNat_ofNat_of_lt' (by omega)]
    omega

end ShellSession.Decimal
