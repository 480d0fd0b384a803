import Mathlib.Order.Bounds.Defs
import NxContainer.Proofs.Units

/-! Blocks and bytes turned into each other. Placing a block is a checked product, finding the block
of a byte is a shift, and neither refers to the other. For the sizes that pass the test they are
adjoint. -/
namespace NxContainer.BlockSize

variable {s : BlockSize} {b : BlockNumber} {o : UInt64}

theorem Admissible.eq_two_pow_shift (h : Admissible s.value.toNat) :
    s.value.toNat = 2 ^ s.shift := by
  obtain ⟨k, power⟩ := h.1
  rw [shift_of_two_pow power, power]

theorem value_blockOf (s : BlockSize) (o : UInt64) :
    (s.blockOf o).value = o >>> UInt64.ofNat s.shift := by
  -- A shift of words takes its distance modulo 64, which the zero bits of a size never reach.
  have near : s.shift < 64 := Nat.lt_of_le_of_lt s.shift_le (by decide)
  have distance : (UInt64.ofNat s.shift).toNat = s.shift :=
    UInt64.toNat_ofNat_of_lt' (Nat.lt_trans near (by decide))
  apply UInt64.toNat_inj.mp
  rw [toNat_blockOf_eq_shifted, UInt64.toNat_shiftRight, distance, Nat.mod_eq_of_lt near,
    Nat.shiftRight_eq_div_pow]

theorem offset?_eq_some_iff_fits {start : ByteOffset} : b.offset? s = some start ↔
    b.value.toNat * s.value.toNat < 2 ^ 64 ∧
      start.value.toNat = b.value.toNat * s.value.toNat := by
  rw [BlockNumber.offset?_eq_some_iff]
  constructor
  · exact fun exactly => ⟨exactly ▸ start.value.toNat_lt, exactly⟩
  · exact And.right

theorem blockOf_of_offset? (h : Admissible s.value.toNat) {start : ByteOffset}
    (place : b.offset? s = some start) : s.blockOf start.value = b := by
  have number : (s.blockOf start.value).value.toNat = b.value.toNat := by
    rw [toNat_blockOf h, BlockNumber.offset?_eq_some_iff.mp place, Nat.mul_div_cancel _ h.positive]
  exact congrArg BlockNumber.mk (UInt64.toNat_inj.mp number)

theorem exists_start_isGreatest (h : Admissible s.value.toNat) (o : UInt64) :
    ∃ start, (s.blockOf o).offset? s = some start ∧
      IsGreatest {n | s.value.toNat ∣ n ∧ n ≤ o.toNat} start.value.toNat := by
  obtain ⟨start, place, exactly⟩ := exists_start_of_two_pow h.eq_two_pow_shift o
  refine ⟨start, place, ?_⟩
  rw [exactly]
  constructor
  · exact ⟨Nat.dvd_mul_left _ _, Nat.div_mul_le_self _ _⟩
  · rintro _ ⟨⟨blocks, rfl⟩, below⟩
    rw [Nat.mul_comm] at below ⊢
    exact Nat.mul_le_mul_right _ ((Nat.le_div_iff_mul_le h.positive).mpr below)

/-! Each direction is held against one condition in plain numbers, where no product runs over. -/

theorem le_blockOf_iff (h : Admissible s.value.toNat) :
    b.value ≤ (s.blockOf o).value ↔ b.value.toNat * s.value.toNat ≤ o.toNat := by
  rw [UInt64.le_iff_toNat_le, toNat_blockOf h, Nat.le_div_iff_mul_le h.positive]

theorem exists_offset?_le_iff : (∃ start, b.offset? s = some start ∧ start.value ≤ o) ↔
    b.value.toNat * s.value.toNat ≤ o.toNat := by
  constructor
  · rintro ⟨start, place, below⟩
    rw [← BlockNumber.offset?_eq_some_iff.mp place]
    exact UInt64.le_iff_toNat_le.mp below
  · intro below
    obtain ⟨start, exactly⟩ := ByteOffset.exists_toNat (Nat.lt_of_le_of_lt below o.toNat_lt)
    refine ⟨start, BlockNumber.offset?_eq_some_iff.mpr exactly, ?_⟩
    rwa [UInt64.le_iff_toNat_le, exactly]

/-- With a size that passes the test both conversions are exact for all words. The first byte of a
block leads back to it, the block of an offset starts at the last multiple of the size that is not
behind the offset, and the two conversions are adjoint. -/
theorem conversions_adjoint {w : UInt32} {s : BlockSize} (valid : ofWord w = .ok s) :
    (∀ (b : BlockNumber) start, b.offset? s = some start ↔
      b.value.toNat * s.value.toNat < 2 ^ 64 ∧
        start.value.toNat = b.value.toNat * s.value.toNat) ∧
    (∀ b : BlockNumber, b.offset? s = none ↔ 2 ^ 64 ≤ b.value.toNat * s.value.toNat) ∧
    (s.value.toNat = 2 ^ s.shift ∧ ∀ o, (s.blockOf o).value = o >>> UInt64.ofNat s.shift ∧
      (s.blockOf o).value.toNat = o.toNat / s.value.toNat) ∧
    (∀ (b : BlockNumber) start, b.offset? s = some start → s.blockOf start.value = b) ∧
    (∀ o, ∃ start, (s.blockOf o).offset? s = some start ∧
      IsGreatest {n | s.value.toNat ∣ n ∧ n ≤ o.toNat} start.value.toNat) ∧
    (∀ (b : BlockNumber) o, b.value ≤ (s.blockOf o).value ↔
      b.value.toNat * s.value.toNat ≤ o.toNat) ∧
    (∀ (b : BlockNumber) o, b.value ≤ (s.blockOf o).value ↔
      ∃ start, b.offset? s = some start ∧ start.value ≤ o) := by
  have admissible := admissible_of_ofWord valid
  refine ⟨?placed, ?absent, ⟨admissible.eq_two_pow_shift, ?quotient⟩, ?back, ?rounded, ?below,
    ?adjoint⟩
  case placed => exact fun b start => offset?_eq_some_iff_fits
  case absent => exact fun b => BlockNumber.offset?_eq_none_iff
  case quotient => exact fun o => ⟨value_blockOf s o, toNat_blockOf admissible o⟩
  case back => exact fun b start => blockOf_of_offset? admissible
  case rounded => exact exists_start_isGreatest admissible
  case below => exact fun b o => le_blockOf_iff admissible
  case adjoint =>
    intro b o
    rw [le_blockOf_iff admissible, exists_offset?_le_iff]

theorem last_block_of_4096 : ofWord 4096 = .ok ⟨4096⟩ ∧
    BlockNumber.offset? ⟨4503599627370495⟩ ⟨4096⟩ = some ⟨18446744073709547520⟩ ∧
    BlockNumber.offset? ⟨4503599627370496⟩ ⟨4096⟩ = none ∧
    blockOf ⟨4096⟩ 18446744073709547520 = ⟨4503599627370495⟩ ∧
    (∃ start, (blockOf ⟨4096⟩ 18446744073709551615).offset? ⟨4096⟩ = some start ∧
      IsGreatest {n | 4096 ∣ n ∧ n ≤ 18446744073709551615} start.value.toNat) ∧
    (blockOf ⟨4096⟩ 18446744073709551615).value < 4503599627370496 := by
  have valid : ofWord 4096 = .ok ⟨4096⟩ := by decide
  obtain ⟨placed, absent, _, back, rounded, below, _⟩ := conversions_adjoint valid
  have last := (placed ⟨4503599627370495⟩ ⟨18446744073709547520⟩).mpr (by decide)
  refine ⟨valid, last, (absent _).mpr (by decide), back _ _ last, rounded _, ?_⟩
  apply UInt64.not_le.mp
  rw [below ⟨4503599627370496⟩]
  decide

end NxContainer.BlockSize
