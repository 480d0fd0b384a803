import NxContainer.Bytes.Basic

/-! Little-endian words. A checked reader reports a window that does not fit. A field reader is
total, and where there are enough bytes it agrees with the checked one. -/
namespace NxContainer

def word64? (n : Nat) : Option UInt64 :=
  if n < addressLimit then some (UInt64.ofNat n) else none

namespace Bytes

def ofLE : Bytes → Nat
  | [] => 0
  | b :: rest => b.toNat + 256 * ofLE rest

def toLE : Nat → Nat → Bytes
  | 0, _ => []
  | width + 1, n => UInt8.ofNat n :: toLE width (n / 256)

theorem length_toLE (width n : Nat) : (toLE width n).length = width := by
  induction width generalizing n with
  | zero => rfl
  | succ width ih => simp [toLE, ih]

def capacity : Nat → Nat
  | 0 => 1
  | width + 1 => 256 * capacity width

theorem ofLE_toLE (width n : Nat) : ofLE (toLE width n) = n % capacity width := by
  induction width generalizing n with
  | zero => simp [toLE, ofLE, capacity, Nat.mod_one]
  | succ width ih =>
    have low : (UInt8.ofNat n).toNat = n % 256 := UInt8.toNat_ofNat'
    rw [toLE, ofLE, ih, low, capacity, Nat.mod_mul]

theorem toLE_ofLE (d : Bytes) : toLE d.length (ofLE d) = d := by
  induction d with
  | nil => rfl
  | cons b rest ih =>
    have hb : b.toNat < 256 := b.toNat_lt
    have high : (b.toNat + 256 * ofLE rest) / 256 = ofLE rest := by omega
    have low : UInt8.ofNat (b.toNat + 256 * ofLE rest) = b := by
      apply UInt8.toNat_inj.mp
      rw [UInt8.toNat_ofNat']
      omega
    simp only [List.length_cons, toLE, ofLE, high, low, ih]

theorem ofLE_lt (d : Bytes) : ofLE d < capacity d.length := by
  induction d with
  | nil => exact Nat.one_pos
  | cons b rest ih =>
    have hb : b.toNat < 256 := b.toNat_lt
    simp only [ofLE, List.length_cons, capacity]
    omega

theorem word32_toLE (w : UInt32) : UInt32.ofNat (ofLE (toLE 4 w.toNat)) = w := by
  have bound : w.toNat % capacity 4 = w.toNat := Nat.mod_eq_of_lt w.toNat_lt
  rw [ofLE_toLE, bound, UInt32.ofNat_toNat]

theorem word64_toLE (w : UInt64) : UInt64.ofNat (ofLE (toLE 8 w.toNat)) = w := by
  have bound : w.toNat % capacity 8 = w.toNat := Nat.mod_eq_of_lt w.toNat_lt
  rw [ofLE_toLE, bound, UInt64.ofNat_toNat]

def readU32 (d : Bytes) (o : Nat) : Except DecodeError UInt32 := do
  return UInt32.ofNat (ofLE (← d.slice o 4))

def readU64 (d : Bytes) (o : Nat) : Except DecodeError UInt64 := do
  return UInt64.ofNat (ofLE (← d.slice o 8))

def u32At (d : Bytes) (o : Nat) : UInt32 := UInt32.ofNat (ofLE (d.window o 4))

def u64At (d : Bytes) (o : Nat) : UInt64 := UInt64.ofNat (ofLE (d.window o 8))

theorem readU32_of_inside {d : Bytes} {o : Nat} (near : o + 4 < addressLimit)
    (inside : o + 4 ≤ d.length) : readU32 d o = .ok (d.u32At o) := by
  rw [readU32, slice_eq_ok_iff.mpr ⟨near, inside, rfl⟩]
  rfl

theorem readU64_of_inside {d : Bytes} {o : Nat} (near : o + 8 < addressLimit)
    (inside : o + 8 ≤ d.length) : readU64 d o = .ok (d.u64At o) := by
  rw [readU64, slice_eq_ok_iff.mpr ⟨near, inside, rfl⟩]
  rfl

/-! Once the length was compared, the checked readers of the fields below it cannot fail. -/

section long

variable {d : Bytes} {n o : Nat} (long : n ≤ d.length) (small : n < addressLimit)
include long small

theorem readU32_of_long (inside : o + 4 ≤ n) : readU32 d o = .ok (d.u32At o) :=
  readU32_of_inside (Nat.lt_of_le_of_lt inside small) (Nat.le_trans inside long)

theorem readU64_of_long (inside : o + 8 ≤ n) : readU64 d o = .ok (d.u64At o) :=
  readU64_of_inside (Nat.lt_of_le_of_lt inside small) (Nat.le_trans inside long)

end long

end Bytes

end NxContainer
