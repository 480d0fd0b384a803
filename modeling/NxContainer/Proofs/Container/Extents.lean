import NxContainer.Proofs.Container.Resolution
import NxContainer.Proofs.FileExtent.Mapping

/-! Whether the blocks of an extent that was read can be read. The range check holds the first block
against the container and no other, so it is the length of the extent that decides. -/
namespace NxContainer.Container

variable {c : Container} {b : BlockNumber} {key value : Bytes} {extent : FileExtent}

theorem readFileExtent_eq_ok_iff : c.readFileExtent key value = .ok extent ↔
    ∃ k v, ExtentKey.decode key = .ok k ∧ ExtentValue.decode value = .ok v ∧
      extent = ⟨some k, some v⟩ ∧ (v.blockNumber.value ≠ 0 → v.blockNumber.value < c.blockCount) := by
  simp only [readFileExtent, bind_eq_ok_iff, mapError_eq_ok_iff, FileExtent.ofRecord_eq_ok_iff]
  constructor
  · rintro ⟨_, ⟨k, v, first, second, rfl⟩, checked⟩
    simp only [FileExtent.blockNumber?, Option.map_some] at checked
    split at checked
    · obtain ⟨inside, same⟩ := require_bind_eq_ok_iff.mp checked
      exact ⟨k, v, first, second, (pure_eq_ok_iff.mp same).symm, fun _ => inside⟩
    · rename_i sparse
      exact ⟨k, v, first, second, (pure_eq_ok_iff.mp checked).symm, fun dense => absurd dense sparse⟩
  · rintro ⟨k, v, first, second, rfl, inside⟩
    refine ⟨_, ⟨k, v, first, second, rfl⟩, ?_⟩
    simp only [FileExtent.blockNumber?, Option.map_some]
    split
    · rename_i dense
      exact require_bind_eq_ok_iff.mpr ⟨inside dense, rfl⟩
    · rfl

theorem readBlock_eq_outOfRange_iff {b' : BlockNumber} {n : Nat} :
    c.readBlock b = .error (.outOfRange b' n) ↔
      ¬ b.value < c.blockCount ∧ b' = b ∧ n = c.blockCount.toNat := by
  by_cases inside : b.value < c.blockCount
  · have pass : c.requireInside b = .ok () := require_pos inside
    refine ⟨?_, fun h => absurd inside h.1⟩
    intro failed
    by_cases present : b.value.toNat < c.blocks.blockCount
    · simp only [readBlock, pass, require_pos present, ok_bind] at failed
      exact absurd failed (BlockDevice.readBlock_ne_outOfRange present)
    · simp only [readBlock, pass, require_neg present, ok_bind] at failed
      cases failed
  · rw [readBlock_of_outside inside]
    constructor
    · intro failed
      cases failed
      exact ⟨inside, rfl, rfl⟩
    · rintro ⟨_, rfl, rfl⟩
      rfl

theorem admissible_of_opened {device : ByteDevice} {options : OpenOptions}
    (opened : (ofDevice device options).result = .ok c) :
    BlockSize.Admissible c.blockSize.value.toNat := by
  obtain ⟨front, read, _, _, made⟩ := ofDevice_eq_ok_iff.mp opened
  obtain ⟨_, _, _, valid, _, _⟩ := readFront_eq_ok_iff.mp read
  rw [made]
  exact BlockSize.admissible_of_ofWord valid

/-- An accepted extent leads to blocks of the container alone exactly if the last of its blocks is
one. The range check sees to the first. -/
theorem accepted_extent_inside_iff {device : ByteDevice} {options : OpenOptions}
    (opened : (ofDevice device options).result = .ok c)
    (accepted : c.readFileExtent key value = .ok extent) :
    ∃ m, extent.mapping? = some m ∧
      (m.isSparse = false → m.blockNumber.value < c.blockCount) ∧
      ((∀ o b, m.physicalBlockFor? o c.blockSize = some b →
          b.value < c.blockCount ∧ ∀ b' n, c.readBlock b ≠ .error (.outOfRange b' n)) ↔
        m.EndsBelow c.blockSize c.blockCount) := by
  have below (m : ExtentMapping) := m.blocks_below_iff (admissible_of_opened opened) (n := c.blockCount)
  obtain ⟨k, v, _, _, rfl, first⟩ := readFileExtent_eq_ok_iff.mp accepted
  refine ⟨_, rfl, ?_, ?_⟩
  · intro dense
    exact first (of_decide_eq_false dense)
  · rw [← below]
    constructor
    · exact fun inside o b leads => (inside o b leads).1
    · intro inside o b leads
      refine ⟨inside o b leads, ?_⟩
      intro b' n failed
      exact (readBlock_eq_outOfRange_iff.mp failed).1 (inside o b leads)

/-! An extent of the sample image from its last block on. -/

def sampleExtentKey : Bytes := ExtentKey.encode ⟨⟨119⟩, 4096⟩

def sampleExtentValue (size : UInt64) : Bytes := ExtentValue.encode ⟨size, 0, ⟨2⟩, 0⟩

def sampleExtent (size : UInt64) : FileExtent :=
  ⟨some ⟨⟨119⟩, 4096⟩, some ⟨size, 0, ⟨2⟩, 0⟩⟩

theorem sample_extent_inside :
    (ofDevice (.memory sample) ⟨true, false, ⟨0⟩⟩).result = .ok sampleLenient ∧
    sampleLenient.readFileExtent sampleExtentKey (sampleExtentValue 4096) =
      .ok (sampleExtent 4096) ∧
    ∃ m, (sampleExtent 4096).mapping? = some m ∧
      ∀ o b, m.physicalBlockFor? o sampleLenient.blockSize = some b →
        b.value < sampleLenient.blockCount := by
  have accepted : sampleLenient.readFileExtent sampleExtentKey (sampleExtentValue 4096) =
      .ok (sampleExtent 4096) :=
    readFileExtent_eq_ok_iff.mpr ⟨_, _, rfl, rfl, rfl, fun _ => by decide +kernel⟩
  obtain ⟨m, mapped, _, inside⟩ := accepted_extent_inside_iff sampleLenient_opened accepted
  cases mapped
  have ends := inside.mpr (by decide +kernel)
  exact ⟨sampleLenient_opened, accepted, _, rfl, fun o b leads => (ends o b leads).1⟩

theorem sample_extent_leads_outside :
    (ofDevice (.memory sample) ⟨true, false, ⟨0⟩⟩).result = .ok sampleLenient ∧
    sampleLenient.readFileExtent sampleExtentKey (sampleExtentValue 8192) =
      .ok (sampleExtent 8192) ∧
    ∃ m, (sampleExtent 8192).mapping? = some m ∧
      m.physicalBlockFor? 8192 sampleLenient.blockSize = some ⟨3⟩ ∧
      sampleLenient.blockCount = 3 ∧
      sampleLenient.readBlock ⟨3⟩ = .error (.outOfRange ⟨3⟩ 3) := by
  have count : sampleLenient.blockCount = 3 := by decide +kernel
  refine ⟨sampleLenient_opened, ?_, _, rfl, by decide +kernel, count, ?_⟩
  · exact readFileExtent_eq_ok_iff.mpr ⟨_, _, rfl, rfl, rfl, fun _ => by decide +kernel⟩
  · exact readBlock_eq_outOfRange_iff.mpr ⟨by rw [count]; decide, rfl, by rw [count]; rfl⟩

end NxContainer.Container
