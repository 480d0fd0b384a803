import NxContainer.Device.Run
import NxContainer.Json.Forms
import NxContainer.Proofs.Json.Record
import NxContainer.Proofs.Units

/-! Block sizes and the arithmetic that rests on them: counting divides by the size where finding
the block of a byte shifts. The two agree for powers of two and for no other size. The test of a
size admits only such; reading one from a tree admits every word. -/
namespace NxContainer.BlockSize

/-- What blocks need of their size: a divisor, and shifts that divide by it. The block count of a
device and the offsets of its blocks then fit the blocks of its bytes. -/
structure Divides (s : BlockSize) : Prop where
  nonzero : s.value.toNat ≠ 0
  shifted : ∀ o, (s.blockOf o).value.toNat = o.toNat / s.value.toNat
  counted : ∀ bytes : ByteDevice, bytes.length < addressLimit →
    BlockDevice.blockCount ⟨bytes, s⟩ = (s.blockOf (UInt64.ofNat bytes.length)).value.toNat
  placed : ∀ o, ∃ start, (s.blockOf o).offset? s = some start ∧
    start.value.toNat ≤ o.toNat ∧ o.toNat < start.value.toNat + s.value.toNat

theorem eq_two_pow_of_shifted {s : BlockSize} (nonzero : s.value.toNat ≠ 0)
    (shifted : ∀ o, (s.blockOf o).value.toNat = o.toNat / s.value.toNat) :
    s.value.toNat = 2 ^ s.shift := by
  have step : 0 < 2 ^ s.shift := Nat.two_pow_pos s.shift
  have law (n : Nat) (near : n < 2 ^ 64) : n / 2 ^ s.shift = n / s.value.toNat := by
    rw [← UInt64.toNat_ofNat_of_lt' near, ← toNat_blockOf_eq_shifted, shifted]
  -- Byte `size` and byte `2 ^ shift` both lie in block 1, so neither number is above the other.
  have at_size : s.value.toNat / 2 ^ s.shift = 1 := by
    rw [law _ (Nat.lt_trans s.value.toNat_lt (by decide))]
    exact Nat.div_self (Nat.pos_of_ne_zero nonzero)
  have at_step : 2 ^ s.shift / s.value.toNat = 1 := by
    have near : 2 ^ s.shift < 2 ^ 64 :=
      Nat.pow_lt_pow_right (by decide) (Nat.lt_of_le_of_lt s.shift_le (by decide))
    rw [← law _ near]
    exact Nat.div_self step
  apply Nat.le_antisymm
  · exact (Nat.one_le_div_iff (Nat.pos_of_ne_zero nonzero)).mp (Nat.le_of_eq at_step.symm)
  · exact (Nat.one_le_div_iff step).mp (Nat.le_of_eq at_size.symm)

theorem divides_of_two_pow {s : BlockSize} {k : Nat} (power : s.value.toNat = 2 ^ k) :
    Divides s := by
  have shifted := toNat_blockOf_of_two_pow power
  have positive : 0 < s.value.toNat := power ▸ Nat.two_pow_pos k
  refine ⟨Nat.ne_of_gt positive, shifted, ?_, ?_⟩
  · intro bytes near
    rw [shifted, UInt64.toNat_ofNat_of_lt' near, BlockDevice.blockCount]
  · intro o
    obtain ⟨start, place, exactly⟩ := exists_start_of_two_pow power o
    refine ⟨start, place, ?_, ?_⟩
    · rw [exactly]
      exact Nat.div_mul_le_self _ _
    · rw [exactly]
      exact Nat.lt_div_mul_add positive

theorem divides_iff (s : BlockSize) : Divides s ↔ s.value.toNat.isPowerOfTwo := by
  constructor
  · exact fun h => ⟨s.shift, eq_two_pow_of_shifted h.nonzero h.shifted⟩
  · rintro ⟨k, power⟩
    exact divides_of_two_pow power

theorem ofJson?_eq_some_iff {j : Json} {s : BlockSize} :
    ofJson? j = some s ↔ ∃ n : Json.Number, j = .number n ∧ n.toNat? = some s.value.toNat := by
  cases j with
  | number n =>
    simp only [ofJson?, Json.word32?, Json.below?, Option.map_map, Option.map_eq_some_iff,
      Option.filter_eq_some_iff, decide_eq_true_eq, Json.number.injEq]
    constructor
    · rintro ⟨value, ⟨written, near⟩, rfl⟩
      refine ⟨n, rfl, written.trans (congrArg some ?_)⟩
      exact (UInt32.toNat_ofNat_of_lt' near).symm
    · rintro ⟨_, rfl, written⟩
      refine ⟨_, ⟨written, s.value.toNat_lt⟩, ?_⟩
      simp
  | null | bool | string | list | object => simp [ofJson?, Json.word32?, Json.below?]

/-- A size keeps the law, to be admissible and to divide, exactly if it can come from the test. The
powers of two divide as well, and no other size; but a tree gives any size at all. -/
theorem lawful_iff_tested (s : BlockSize) :
    (Admissible s.value.toNat ∧ Divides s ↔ ∃ w, ofWord w = .ok s) ∧
    (Divides s ↔ s.value.toNat.isPowerOfTwo) ∧
    (∀ j, ofJson? j = some s ↔
      ∃ n : Json.Number, j = .number n ∧ n.toNat? = some s.value.toNat) ∧
    ofJson? s.toJson = some s := by
  refine ⟨?_, divides_iff s, fun _ => ofJson?_eq_some_iff, by simp [ofJson?, toJson]⟩
  constructor
  · exact fun ⟨admissible, _⟩ => ⟨s.value, ofWord_eq_ok_iff.mpr ⟨admissible, rfl⟩⟩
  · rintro ⟨w, made⟩
    obtain ⟨admissible, rfl⟩ := ofWord_eq_ok_iff.mp made
    exact ⟨admissible, (divides_iff s).mpr admissible.1⟩

theorem size_512_read_untested : Divides ⟨512⟩ ∧ ofJson? (.ofNat 512) = some ⟨512⟩ ∧
    ¬ ∃ w, ofWord w = .ok ⟨512⟩ := by
  obtain ⟨lawful, divides, _, read⟩ := lawful_iff_tested ⟨512⟩
  refine ⟨divides.mpr ⟨9, rfl⟩, read, fun tested => ?_⟩
  exact absurd (lawful.mpr tested).1.2.1 (by decide)

/-- Sizes that are read need not be admissible, nor divide: with one of three times 4096 bytes,
byte 12288 is found in block 3, where dividing by the size gives 1. Zero is read as well. -/
theorem read_sizes_unsound :
    ofJson? (.ofNat 12288) = some ⟨12288⟩ ∧ ¬ Admissible 12288 ∧
      (blockOf ⟨12288⟩ 12288).value.toNat = 3 ∧ (12288 : UInt64).toNat / (12288 : UInt32).toNat = 1 ∧
      ofJson? (.ofNat 0) = some ⟨0⟩ ∧ ¬ Divides ⟨0⟩ := by
  have read (w : UInt32) : ofJson? (.ofNat w.toNat) = some ⟨w⟩ := by simp [ofJson?]
  refine ⟨read 12288, fun h => absurd h.1 (by decide), by decide +kernel, rfl, read 0, ?_⟩
  exact fun h => h.nonzero rfl

end NxContainer.BlockSize
