import Mathlib.Data.Nat.Bitwise

/-! Words that hold two numbers, a low one in the bits of a mask and a high one in the bits above it.
Joining the numbers is adding them at their places, so no bit is shared and none is lost. -/
namespace NxContainer

/-- The mask holds the bits below the shift, and no others. -/
structure Packed (shift mask : UInt64) : Prop where
  near : shift.toNat < 64
  below : mask.toNat = 2 ^ shift.toNat - 1

namespace Packed

variable {shift mask : UInt64} (h : Packed shift mask)
include h

theorem toNat_low (w : UInt64) : (w &&& mask).toNat = w.toNat % 2 ^ shift.toNat := by
  rw [UInt64.toNat_and, h.below, Nat.and_two_pow_sub_one_eq_mod]

theorem toNat_high (w : UInt64) : (w >>> shift).toNat = w.toNat / 2 ^ shift.toNat := by
  rw [UInt64.toNat_shiftRight, Nat.mod_eq_of_lt h.near, Nat.shiftRight_eq_div_pow]

theorem low_lt (w : UInt64) : (w &&& mask).toNat < 2 ^ shift.toNat := by
  rw [h.toNat_low]
  exact Nat.mod_lt _ (Nat.two_pow_pos _)

theorem toNat_join {high low : UInt64} (fits : high.toNat < 2 ^ (64 - shift.toNat))
    (small : low.toNat < 2 ^ shift.toNat) :
    ((high <<< shift) ||| low).toNat = 2 ^ shift.toNat * high.toNat + low.toNat := by
  have room : 2 ^ shift.toNat * high.toNat < 2 ^ 64 := by
    calc 2 ^ shift.toNat * high.toNat
        < 2 ^ shift.toNat * 2 ^ (64 - shift.toNat) := Nat.mul_lt_mul_of_pos_left fits (Nat.two_pow_pos _)
      _ = 2 ^ 64 := by rw [← Nat.pow_add, Nat.add_sub_cancel' (Nat.le_of_lt h.near)]
  have place : (high <<< shift).toNat = 2 ^ shift.toNat * high.toNat := by
    rw [UInt64.toNat_shiftLeft, Nat.mod_eq_of_lt h.near, Nat.shiftLeft_eq, Nat.mul_comm,
      Nat.mod_eq_of_lt room]
  rw [UInt64.toNat_or, place, ← Nat.two_pow_add_eq_or_of_lt small]

theorem high_join {high low : UInt64} (fits : high.toNat < 2 ^ (64 - shift.toNat))
    (small : low.toNat < 2 ^ shift.toNat) : ((high <<< shift) ||| low) >>> shift = high := by
  apply UInt64.toNat_inj.mp
  rw [h.toNat_high, h.toNat_join fits small, Nat.mul_add_div (Nat.two_pow_pos _),
    Nat.div_eq_of_lt small, Nat.add_zero]

theorem low_join {high low : UInt64} (fits : high.toNat < 2 ^ (64 - shift.toNat))
    (small : low.toNat < 2 ^ shift.toNat) : ((high <<< shift) ||| low) &&& mask = low := by
  apply UInt64.toNat_inj.mp
  rw [h.toNat_low, h.toNat_join fits small, Nat.mul_add_mod, Nat.mod_eq_of_lt small]

theorem high_fits (w : UInt64) : (w >>> shift).toNat < 2 ^ (64 - shift.toNat) := by
  rw [h.toNat_high]
  apply Nat.div_lt_of_lt_mul
  rw [← Nat.pow_add, Nat.add_sub_cancel' (Nat.le_of_lt h.near)]
  exact w.toNat_lt

theorem join_parts (w : UInt64) : ((w >>> shift) <<< shift) ||| (w &&& mask) = w := by
  apply UInt64.toNat_inj.mp
  rw [h.toNat_join (h.high_fits w) (h.low_lt w), h.toNat_high, h.toNat_low, Nat.div_add_mod]

end Packed

end NxContainer
