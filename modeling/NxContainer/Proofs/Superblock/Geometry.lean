import NxContainer.Proofs.Units
import NxContainer.ReadError
import NxContainer.Superblock

/-! What the judgement of a geometry can end in. It passes exactly the geometries that can be
trusted, and whatever it refuses it refuses as a field with an impossible value. -/
namespace NxContainer.Superblock

structure Sound (s : Superblock) : Prop where
  admissible : BlockSize.Admissible s.blockSize.toNat
  nonempty : s.numberOfBlocks ≠ 0
  objectMap : s.objectMapBlockNumber.value < s.numberOfBlocks
  descriptors : s.descriptorAreaIsContiguous = true →
    s.descriptorAreaEnd < addressLimit ∧ s.descriptorAreaEnd ≤ s.numberOfBlocks.toNat
  volumes : s.maxFileSystems.toNat ≤ slotCount

theorem validateDescriptorArea_eq_ok_iff {s : Superblock} : s.validateDescriptorArea = .ok () ↔
    s.descriptorAreaEnd < addressLimit ∧ s.descriptorAreaEnd ≤ s.numberOfBlocks.toNat := by
  rw [validateDescriptorArea, require_bind_eq_ok_iff, require_eq_ok_iff]

theorem exists_validBlockSize_iff {s : Superblock} :
    (∃ n, s.validBlockSize = .ok n) ↔ BlockSize.Admissible s.blockSize.toNat := by
  simp only [validBlockSize, BlockSize.ofWord_eq_ok_iff]
  constructor
  · rintro ⟨_, admissible, _⟩
    exact admissible
  · intro admissible
    exact ⟨⟨s.blockSize⟩, admissible, rfl⟩

theorem validate_eq_ok_iff {s : Superblock} : s.validate = .ok () ↔ Sound s := by
  rw [validate, bind_eq_ok_iff, exists_and_right, exists_validBlockSize_iff, require_bind_eq_ok_iff,
    require_bind_eq_ok_iff]
  by_cases contiguous : s.descriptorAreaIsContiguous = true
  · rw [if_pos contiguous, check_bind_eq_ok_iff, validateDescriptorArea_eq_ok_iff, require_eq_ok_iff]
    constructor
    · rintro ⟨admissible, nonempty, objectMap, area, volumes⟩
      exact ⟨admissible, nonempty, objectMap, fun _ => area, volumes⟩
    · rintro ⟨admissible, nonempty, objectMap, descriptors, volumes⟩
      exact ⟨admissible, nonempty, objectMap, descriptors contiguous, volumes⟩
  · rw [if_neg contiguous, require_eq_ok_iff]
    constructor
    · rintro ⟨admissible, nonempty, objectMap, volumes⟩
      exact ⟨admissible, nonempty, objectMap, fun h => absurd h contiguous, volumes⟩
    · rintro ⟨admissible, nonempty, objectMap, _, volumes⟩
      exact ⟨admissible, nonempty, objectMap, volumes⟩

def NamesField (e : DecodeError) : Prop := ∃ field reason, e = .invalidField field reason

theorem validBlockSize_failsWith (s : Superblock) : FailsWith NamesField s.validBlockSize := by
  intro e failed
  exact ⟨_, _, (BlockSize.ofWord_eq_error_iff.mp failed).2⟩

theorem validate_failsWith (s : Superblock) : FailsWith NamesField s.validate := by
  have field (p : Prop) [Decidable p] (name reason : String) :
      FailsWith NamesField (require p (.invalidField name reason)) :=
    .of_require ⟨name, reason, rfl⟩
  unfold validate
  refine (validBlockSize_failsWith s).bind fun _ => ?_
  refine (field _ _ _).bind fun _ => ?_
  refine (field _ _ _).bind fun _ => ?_
  split
  · have area : FailsWith NamesField s.validateDescriptorArea :=
      (field _ _ _).bind fun _ => field _ _ _
    exact area.bind fun _ => field _ _ _
  · exact field _ _ _

theorem NamesField.ofDecode {e : DecodeError} (h : NamesField e) (b : BlockNumber) :
    ReadError.ofDecode b e = .corruption b e.message := by
  obtain ⟨field, reason, rfl⟩ := h
  rfl

/-! The conditions in plain numbers. -/

theorem descriptorAreaIsContiguous_iff {s : Superblock} : s.descriptorAreaIsContiguous = true ↔
    s.checkpointDescriptorBlocks.toNat.testBit 31 = false := by
  have bit : (s.checkpointDescriptorBlocks &&& noncontiguousBit).toNat =
      (s.checkpointDescriptorBlocks.toNat.testBit 31).toNat * 2 ^ 31 := by
    rw [UInt32.toNat_and]
    exact Nat.and_two_pow _ 31
  rw [descriptorAreaIsContiguous, decide_eq_true_eq, ← UInt32.toNat_inj, bit]
  cases s.checkpointDescriptorBlocks.toNat.testBit 31 <;> simp

theorem toNat_descriptorBlockCount (s : Superblock) :
    s.descriptorBlockCount.toNat = s.checkpointDescriptorBlocks.toNat % 2 ^ 31 := by
  rw [descriptorBlockCount, UInt32.toNat_and]
  exact Nat.and_two_pow_sub_one_eq_mod _ 31

/-- An area that ends inside the container ends inside the address space as well, so the second of
its two conditions implies the first. -/
theorem descriptors_iff {s : Superblock} :
    (s.descriptorAreaIsContiguous = true →
      s.descriptorAreaEnd < addressLimit ∧ s.descriptorAreaEnd ≤ s.numberOfBlocks.toNat) ↔
    (s.checkpointDescriptorBlocks.toNat.testBit 31 = true ∨
      s.checkpointDescriptorBase.toNat + s.checkpointDescriptorBlocks.toNat % 2 ^ 31 ≤
        s.numberOfBlocks.toNat) := by
  rw [descriptorAreaIsContiguous_iff, descriptorAreaEnd, toNat_descriptorBlockCount]
  constructor
  · intro area
    cases scattered : s.checkpointDescriptorBlocks.toNat.testBit 31 with
    | true => exact Or.inl rfl
    | false => exact Or.inr (area scattered).2
  · rintro (scattered | inside) contiguous
    · rw [scattered] at contiguous
      cases contiguous
    · exact ⟨Nat.lt_of_le_of_lt inside s.numberOfBlocks.toNat_lt, inside⟩

theorem sound_iff {s : Superblock} : Sound s ↔
    BlockSize.Admissible s.blockSize.toNat ∧ 0 < s.numberOfBlocks.toNat ∧
      s.objectMapBlockNumber.value.toNat < s.numberOfBlocks.toNat ∧
      (s.checkpointDescriptorBlocks.toNat.testBit 31 = true ∨
        s.checkpointDescriptorBase.toNat + s.checkpointDescriptorBlocks.toNat % 2 ^ 31 ≤
          s.numberOfBlocks.toNat) ∧
      s.maxFileSystems.toNat ≤ 100 := by
  have nonempty : s.numberOfBlocks ≠ 0 ↔ 0 < s.numberOfBlocks.toNat := by
    rw [Nat.pos_iff_ne_zero, ne_eq, ← UInt64.toNat_inj]
    rfl
  rw [← descriptors_iff, ← nonempty, ← UInt64.lt_iff_toNat_lt]
  constructor
  · rintro ⟨admissible, nonempty, objectMap, descriptors, volumes⟩
    exact ⟨admissible, nonempty, objectMap, descriptors, volumes⟩
  · rintro ⟨admissible, nonempty, objectMap, descriptors, volumes⟩
    exact ⟨admissible, nonempty, objectMap, descriptors, volumes⟩

end NxContainer.Superblock
