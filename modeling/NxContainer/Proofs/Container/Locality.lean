import NxContainer.Proofs.Container.Devices
import NxContainer.Proofs.Container.Opening
import NxContainer.Proofs.Image

/-! Two images of one size under the same operations. Opening looks at the region at the front, and
at the block of the copy if the options ask for one; every other operation looks at its own block.
What the images hold elsewhere makes no difference. -/
namespace NxContainer.Container

def BlockAgrees (image image' : Image) (s : BlockSize) (b : BlockNumber) : Prop :=
  image.AgreesAt image' (b.value.toNat * s.value.toNat) s.value.toNat

structure SameAnswers (c : Container) (device : ByteDevice) (b : BlockNumber) : Prop where
  block : (c.onDevice device).readBlock b = c.readBlock b
  checkpointMap : (c.onDevice device).readCheckpointMap b = c.readCheckpointMap b
  superblockCopy : (c.onDevice device).readSuperblockCopy b = c.readSuperblockCopy b
  objectMap : b = c.superblock.objectMapBlockNumber →
    (c.onDevice device).readObjectMap = c.readObjectMap

variable {image image' : Image} {options : OpenOptions} {c : Container} {b : BlockNumber}
  {s : BlockSize}

theorem SameAnswers.of_sameAt {device : ByteDevice}
    (same : BlockDevice.SameAt c.blockSize b c.device device) : SameAnswers c device b where
  block := readBlock_onDevice same
  checkpointMap := readCheckpointMap_onDevice same
  superblockCopy := readSuperblockCopy_onDevice same
  objectMap := by
    rintro rfl
    exact readObjectMap_onDevice same

theorem blockAgrees_of_whole
    (whole : ∀ k < image.size / s.value.toNat * s.value.toNat, image'.byteAt k = image.byteAt k)
    (b : BlockNumber) : BlockAgrees image image' s b := by
  intro inside
  -- A whole block does not reach beyond the last whole one.
  have block : (b.value.toNat + 1) * s.value.toNat ≤ image.size := by
    rw [Nat.succ_mul]
    exact inside
  refine Image.agreesAt_of_byteAt ?_ inside
  intro k above below
  have positive : 0 < s.value.toNat := by omega
  have reach := Nat.mul_le_mul_right s.value.toNat ((Nat.le_div_iff_mul_le positive).mpr block)
  rw [Nat.succ_mul] at reach
  exact whole k (Nat.lt_of_lt_of_le below reach)

theorem sameAnswers_of_agrees (size : image'.size = image.size)
    (opened : (ofDevice (.memory image) options).result = .ok c)
    (agrees : BlockAgrees image image' c.blockSize b) : SameAnswers c (.memory image') b := by
  apply SameAnswers.of_sameAt
  rw [device_of_ofDevice opened]
  exact BlockDevice.sameAt_of_agreesAt size agrees

/-- Images of one size that agree on the region at the front, and on the block of the copy if it is
read, open alike, down to the error and the report. Each block of the container is then read alike
from both if they agree on this block, and all of them are if they agree below the end of the last
whole block. -/
theorem answers_are_local (size : image'.size = image.size) (front : image.AgreesAt image' 0 1408)
    (copy : ∀ primary s, Front image primary s → ReadsCopy options →
      BlockAgrees image image' s options.superblockBlock) :
    ofDevice (.memory image') options =
      (·.onDevice (.memory image')) <$> ofDevice (.memory image) options ∧
    ∀ c, (ofDevice (.memory image) options).result = .ok c →
      (∀ b, BlockAgrees image image' c.blockSize b → SameAnswers c (.memory image') b) ∧
      ((∀ k < image.size / c.blockSize.value.toNat * c.blockSize.value.toNat,
        image'.byteAt k = image.byteAt k) → ∀ b, SameAnswers c (.memory image') b) := by
  constructor
  · apply ofDevice_onDevice (ByteDevice.superblockRegion_memory_of_agreesAt size front)
    intro opened read reads
    exact BlockDevice.sameAt_of_agreesAt size (copy _ _ (front_of_readFront read) reads)
  · intro c opened
    constructor
    · intro b agrees
      exact sameAnswers_of_agrees size opened agrees
    · intro whole b
      exact sameAnswers_of_agrees size opened (blockAgrees_of_whole whole b)

theorem sample_opens_beside_change :
    (sample.overlay 4000 [1]).size = sample.size ∧
    (ofDevice (.memory (sample.overlay 4000 [1])) ⟨false, true, ⟨1⟩⟩).result =
      .ok (sampleStrict.onDevice (.memory (sample.overlay 4000 [1]))) ∧
    (sampleStrict.onDevice (.memory (sample.overlay 4000 [1]))).readCheckpointMap ⟨2⟩ =
      sampleStrict.readCheckpointMap ⟨2⟩ := by
  have beside (o n : Nat) (outside : 4000 < o ∨ o + n ≤ 4000) :
      sample.AgreesAt (sample.overlay 4000 [1]) o n :=
    fun _ => Image.window_overlay_of_outside 1 outside
  have copy (primary : Superblock) (s : BlockSize) (front : Front sample primary s)
      (_ : ReadsCopy ⟨false, true, ⟨1⟩⟩) :
      BlockAgrees sample (sample.overlay 4000 [1]) s ⟨1⟩ := by
    apply beside
    have wide : 4096 ≤ s.value.toNat := front.size ▸ front.admissible.2.1
    rw [show (⟨1⟩ : BlockNumber).value.toNat = 1 from rfl, Nat.one_mul]
    omega
  have size : (sample.overlay 4000 [1]).size = sample.size := rfl
  have opened := ofDevice_of_opened (by decide) sampleStrict_opened
  obtain ⟨outcome, answers⟩ := answers_are_local size (beside 0 1408 (by omega)) copy
  refine ⟨size, ?_, ?_⟩
  · rw [outcome, Traced.result_map, opened]
    rfl
  · exact ((answers sampleStrict opened).1 ⟨2⟩ (beside _ _ (by decide))).checkpointMap

end NxContainer.Container
