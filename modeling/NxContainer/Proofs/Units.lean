import Mathlib.Data.Nat.Bitwise
import NxContainer.Units

/-! Units in plain numbers. Block offsets are exact products, absent where the product is no 64-bit
word; the block sizes that a container may declare are the powers of two from 4096 to 65536. -/
namespace NxContainer

theorem word64?_eq_some_iff {n : Nat} {w : UInt64} : word64? n = some w ↔ w.toNat = n := by
  unfold word64?
  split
  · rename_i near
    have exactly : (UInt64.ofNat n).toNat = n := by
      rw [UInt64.toNat_ofNat']
      exact Nat.mod_eq_of_lt near
    constructor
    · rintro made
      cases made
      exact exactly
    · intro same
      exact congrArg some (UInt64.toNat_inj.mp (exactly.trans same.symm))
  · rename_i far
    exact ⟨nofun, fun same => absurd (same ▸ w.toNat_lt) far⟩

theorem word64?_eq_none_iff {n : Nat} : word64? n = none ↔ addressLimit ≤ n := by
  unfold word64?
  split
  · rename_i near
    exact ⟨nofun, fun far => absurd near (Nat.not_lt.mpr far)⟩
  · rename_i far
    exact ⟨fun _ => Nat.not_lt.mp far, fun _ => rfl⟩

theorem BlockNumber.toNat_ne {a b : BlockNumber} (other : a ≠ b) : a.value.toNat ≠ b.value.toNat :=
  fun same => other (congrArg BlockNumber.mk (UInt64.toNat_inj.mp same))

theorem ByteOffset.made_iff {n : Nat} {o : ByteOffset} :
    (word64? n).map ByteOffset.mk = some o ↔ o.value.toNat = n := by
  rw [Option.map_eq_some_iff]
  constructor
  · rintro ⟨w, exactly, rfl⟩
    exact word64?_eq_some_iff.mp exactly
  · intro exactly
    exact ⟨o.value, word64?_eq_some_iff.mpr exactly, rfl⟩

theorem ByteOffset.exists_toNat {n : Nat} (near : n < addressLimit) :
    ∃ o : ByteOffset, o.value.toNat = n :=
  ⟨⟨UInt64.ofNat n⟩, UInt64.toNat_ofNat_of_lt' near⟩

theorem ByteOffset.advance?_eq_some_iff {o p : ByteOffset} {n : UInt64} :
    o.advance? n = some p ↔ p.value.toNat = o.value.toNat + n.toNat :=
  made_iff

theorem BlockNumber.offset?_eq_some_iff {b : BlockNumber} {s : BlockSize} {o : ByteOffset} :
    b.offset? s = some o ↔ o.value.toNat = b.value.toNat * s.value.toNat :=
  ByteOffset.made_iff

theorem BlockNumber.offset?_eq_none_iff {b : BlockNumber} {s : BlockSize} :
    b.offset? s = none ↔ addressLimit ≤ b.value.toNat * s.value.toNat := by
  rw [offset?, Option.map_eq_none_iff, word64?_eq_none_iff]

namespace BlockSize

def Admissible (n : Nat) : Prop := n.isPowerOfTwo ∧ 4096 ≤ n ∧ n ≤ 65536

def refusal : DecodeError := .invalidField "block_size" "must be power of two in 4096..=65536"

theorem isPowerOfTwo_iff (w : UInt32) : isPowerOfTwo w = true ↔ w.toNat.isPowerOfTwo := by
  by_cases zero : w = 0
  · subst zero
    constructor
    · intro impossible
      cases impossible
    · rintro ⟨k, hk⟩
      exact absurd hk.symm (Nat.pos_iff_ne_zero.mp (Nat.two_pow_pos k))
  · have positive : w.toNat ≠ 0 := fun h => zero (UInt32.toNat_inj.mp h)
    have less : (w - 1).toNat = w.toNat - 1 := by
      rw [UInt32.toNat_sub_of_le w 1 (UInt32.le_iff_toNat_le.mpr (Nat.one_le_iff_ne_zero.mpr positive))]
      rfl
    rw [← Nat.and_sub_one_eq_zero_iff_isPowerOfTwo positive, ← less, ← UInt32.toNat_and]
    simp [isPowerOfTwo, zero, ← UInt32.toNat_inj]

theorem ofWord_conditions (w : UInt32) :
    (isPowerOfTwo w ∧ smallest ≤ w ∧ w ≤ largest) ↔ Admissible w.toNat := by
  rw [Admissible, isPowerOfTwo_iff, UInt32.le_iff_toNat_le, UInt32.le_iff_toNat_le]
  rfl

theorem ofWord_eq_ok_iff {w : UInt32} {s : BlockSize} :
    ofWord w = .ok s ↔ Admissible w.toNat ∧ s.value = w := by
  rw [ofWord, ← ofWord_conditions]
  split
  · rename_i holds
    constructor
    · intro made
      cases made
      exact ⟨holds, rfl⟩
    · rintro ⟨_, rfl⟩
      rfl
  · rename_i fails
    exact ⟨nofun, fun h => absurd h.1 fails⟩

theorem ofWord_eq_error_iff {w : UInt32} {e : DecodeError} :
    ofWord w = .error e ↔ ¬ Admissible w.toNat ∧ e = refusal := by
  rw [ofWord, ← ofWord_conditions]
  split
  · rename_i holds
    exact ⟨nofun, fun h => absurd holds h.1⟩
  · rename_i fails
    exact ⟨fun h => ⟨fails, (Except.error.inj h).symm⟩, fun h => congrArg Except.error h.2.symm⟩

theorem Admissible.four_dvd {n : Nat} (h : Admissible n) : 4 ∣ n := by
  obtain ⟨⟨k, rfl⟩, low, _⟩ := h
  have two : 2 ≤ k := (Nat.pow_le_pow_iff_right (by decide)).mp (Nat.le_trans (by decide) low)
  exact Nat.pow_dvd_pow 2 two

/-! Shifting by the zero bits of a power of two divides by it. -/

theorem shift_of_two_pow {s : BlockSize} {k : Nat} (power : s.value.toNat = 2 ^ k) : s.shift = k := by
  have word : 2 ^ k < 2 ^ 32 := power ▸ s.value.toNat_lt
  have near : k < 32 := (Nat.pow_lt_pow_iff_right (by decide)).mp word
  have first : (List.range 32).find? (2 ^ k).testBit = some k := by
    refine List.find?_range_eq_some.mpr ⟨?_, List.mem_range.mpr near, ?_⟩
    · exact Nat.testBit_two_pow_self
    · intro j below
      rw [Nat.testBit_two_pow_of_ne (Nat.ne_of_gt below)]
      rfl
  rw [shift, power, first, Option.getD_some]

theorem toNat_blockOf_eq_shifted (s : BlockSize) (o : UInt64) :
    (s.blockOf o).value.toNat = o.toNat / 2 ^ s.shift := by
  have below : o.toNat / 2 ^ s.shift < 2 ^ 64 :=
    Nat.lt_of_le_of_lt (Nat.div_le_self _ _) o.toNat_lt
  rw [blockOf, Nat.shiftRight_eq_div_pow, UInt64.toNat_ofNat', Nat.mod_eq_of_lt below]

theorem toNat_blockOf_of_two_pow {s : BlockSize} {k : Nat} (power : s.value.toNat = 2 ^ k)
    (o : UInt64) : (s.blockOf o).value.toNat = o.toNat / s.value.toNat := by
  rw [toNat_blockOf_eq_shifted, shift_of_two_pow power, power]

theorem toNat_blockOf {s : BlockSize} (h : Admissible s.value.toNat) (o : UInt64) :
    (s.blockOf o).value.toNat = o.toNat / s.value.toNat := by
  obtain ⟨k, power⟩ := h.1
  exact toNat_blockOf_of_two_pow power o

theorem shift_le (s : BlockSize) : s.shift ≤ 32 := by
  rw [shift]
  cases found : (List.range 32).find? s.value.toNat.testBit with
  | none => exact Nat.le_refl 32
  | some k => exact Nat.le_of_lt (List.mem_range.mp (List.mem_of_find?_eq_some found))

/-- Rounding down: the block of an offset has a first byte, and that is the offset less its place
in the block. -/
theorem exists_start_of_two_pow {s : BlockSize} {k : Nat} (power : s.value.toNat = 2 ^ k)
    (o : UInt64) : ∃ start, (s.blockOf o).offset? s = some start ∧
      start.value.toNat = o.toNat / s.value.toNat * s.value.toNat := by
  have below : o.toNat / s.value.toNat * s.value.toNat ≤ o.toNat := Nat.div_mul_le_self _ _
  obtain ⟨start, exactly⟩ := ByteOffset.exists_toNat (Nat.lt_of_le_of_lt below o.toNat_lt)
  refine ⟨start, ?_, exactly⟩
  rw [BlockNumber.offset?_eq_some_iff, exactly, toNat_blockOf_of_two_pow power]

theorem Admissible.at_least {n k : Nat} (h : Admissible n) (small : k ≤ 4096) : k ≤ n :=
  Nat.le_trans small h.2.1

theorem Admissible.positive {n : Nat} (h : Admissible n) : 0 < n := h.at_least (by decide)

theorem admissible_of_ofWord {w : UInt32} {s : BlockSize} (valid : ofWord w = .ok s) :
    Admissible s.value.toNat := by
  obtain ⟨conditions, rfl⟩ := ofWord_eq_ok_iff.mp valid
  exact conditions

theorem toNat_blockOf_behind {s : BlockSize} (h : Admissible s.value.toNat) {o : UInt64}
    {blocks rest : Nat} (place : o.toNat = blocks * s.value.toNat + rest) :
    (s.blockOf o).value.toNat = blocks + rest / s.value.toNat := by
  rw [toNat_blockOf h, place, Nat.mul_comm, Nat.mul_add_div h.positive]

end BlockSize

end NxContainer
