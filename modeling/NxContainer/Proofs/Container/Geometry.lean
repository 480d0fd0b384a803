import NxContainer.Proofs.Container.Extents
import NxContainer.Proofs.Container.Reads

/-! What a validated geometry is good for. A container whose superblock was validated keeps its
object map and its descriptor area inside itself, so reading them is never refused as out of range,
whatever becomes of the device. -/
namespace NxContainer

def ReadError.InRange (e : ReadError) : Prop := ∀ b n, e ≠ .outOfRange b n

theorem ReadError.ofDecode_inRange (b : BlockNumber) (fault : DecodeError) :
    (ofDecode b fault).InRange := by
  cases fault <;> nofun

namespace Container

open ReadError (InRange)

variable {c : Container} {b : BlockNumber}

theorem readBlock_inRange (inside : b.value < c.blockCount) : FailsWith InRange (c.readBlock b) := by
  rintro _ failed b' n rfl
  exact (readBlock_eq_outOfRange_iff.mp failed).1 inside

theorem readObject_inRange (inside : b.value < c.blockCount) :
    FailsWith InRange (c.readObject b).result := by
  have mismatch (stored computed : UInt64) : InRange (.checksumMismatch b stored computed) := by
    intro b' n same
    cases same
  simp only [readObject, Traced.result_bind]
  exact (readBlock_inRange inside).bind fun object =>
    (checkChecksum_failsWith c b object (ReadError.ofDecode_inRange b) mismatch).bind fun _ =>
      .ok object

theorem readObjectMap_inRange (inside : c.superblock.objectMapBlockNumber.value < c.blockCount) :
    FailsWith InRange c.readObjectMap.result := by
  rw [readObjectMap_result]
  exact (readObject_inRange inside).bind fun object => .of_mapError _ (ReadError.ofDecode_inRange _)

theorem sound_of_opened {device : ByteDevice} {options : OpenOptions}
    (validated : options.skipValidation = false)
    (opened : (ofDevice device options).result = .ok c) : c.superblock.Sound := by
  obtain ⟨front, read, _, judged, _⟩ := ofDevice_eq_ok_iff.mp opened
  obtain ⟨_, _, _, _, rfl, _⟩ := readFront_eq_ok_iff.mp read
  exact Superblock.validate_eq_ok_iff.mp (judge_eq_ok_iff.mp judged validated)

/-! The descriptor area. -/

theorem descriptorBlocks?_eq_none_iff : c.descriptorBlocks? = none ↔
    c.superblock.checkpointDescriptorBlocks.toNat.testBit 31 = true := by
  have marked : c.superblock.checkpointDescriptorBlocks.toNat.testBit 31 = true ↔
      ¬ c.superblock.descriptorAreaIsContiguous = true := by
    rw [Superblock.descriptorAreaIsContiguous_iff, Bool.not_eq_false]
  rw [marked, descriptorBlocks?]
  split
  · rename_i contiguous
    exact ⟨nofun, fun scattered => absurd contiguous scattered⟩
  · rename_i scattered
    exact ⟨fun _ => scattered, fun _ => rfl⟩

theorem descriptorBlocks?_of_sound (sound : c.superblock.Sound) {start stop : UInt64}
    (area : c.descriptorBlocks? = some (start, stop)) :
    start = c.superblock.checkpointDescriptorBase ∧
      stop.toNat = start.toNat + c.superblock.checkpointDescriptorBlocks.toNat % 2 ^ 31 ∧
      stop.toNat ≤ c.blockCount.toNat := by
  rw [descriptorBlocks?] at area
  split at area
  · rename_i contiguous
    obtain ⟨near, inside⟩ := sound.descriptors contiguous
    have word : word64? c.superblock.descriptorAreaEnd =
        some (UInt64.ofNat c.superblock.descriptorAreaEnd) := if_pos near
    have exactly := word64?_eq_some_iff.mp word
    rw [word] at area
    cases area
    rw [Option.getD_some, exactly, ← Superblock.toNat_descriptorBlockCount]
    exact ⟨rfl, rfl, inside⟩
  · cases area

/-- The declared geometry leads to no block outside the container. The number of blocks in the area
is the stored one without its highest bit. -/
structure SelfContained (c : Container) : Prop where
  objectMap : FailsWith InRange c.readObjectMap.result
  scattered : c.descriptorBlocks? = none ↔
    c.superblock.checkpointDescriptorBlocks.toNat.testBit 31 = true
  contiguous : ∀ start stop, c.descriptorBlocks? = some (start, stop) →
    start = c.superblock.checkpointDescriptorBase ∧
      stop.toNat = start.toNat + c.superblock.checkpointDescriptorBlocks.toNat % 2 ^ 31
  descriptors : ∀ start stop, c.descriptorBlocks? = some (start, stop) →
    ∀ b : BlockNumber, start ≤ b.value → b.value < stop →
      b.value < c.blockCount ∧ FailsWith InRange (c.readBlock b)

theorem selfContained_of_sound (sound : c.superblock.Sound) : SelfContained c where
  objectMap := readObjectMap_inRange sound.objectMap
  scattered := descriptorBlocks?_eq_none_iff
  contiguous start stop area := by
    obtain ⟨first, last, _⟩ := descriptorBlocks?_of_sound sound area
    exact ⟨first, last⟩
  descriptors start stop area b _ below := by
    obtain ⟨_, _, inside⟩ := descriptorBlocks?_of_sound sound area
    have declared : b.value < c.blockCount :=
      UInt64.lt_iff_toNat_lt.mpr (Nat.lt_of_lt_of_le (UInt64.lt_iff_toNat_lt.mp below) inside)
    exact ⟨declared, readBlock_inRange declared⟩

/-- A geometry passes exactly under its conditions in plain numbers, and a container that was opened
with a geometry that passed is self-contained, whatever device is behind it later. -/
theorem validated_geometry_suffices :
    (∀ s : Superblock, s.validate = .ok () ↔
      s.blockSize.toNat.isPowerOfTwo ∧ 4096 ≤ s.blockSize.toNat ∧ s.blockSize.toNat ≤ 65536 ∧
      0 < s.numberOfBlocks.toNat ∧
      s.objectMapBlockNumber.value.toNat < s.numberOfBlocks.toNat ∧
      (s.checkpointDescriptorBlocks.toNat.testBit 31 = true ∨
        s.checkpointDescriptorBase.toNat + s.checkpointDescriptorBlocks.toNat % 2 ^ 31 ≤
          s.numberOfBlocks.toNat) ∧
      s.maxFileSystems.toNat ≤ 100) ∧
    ∀ (device : ByteDevice) (options : OpenOptions) (c : Container),
      options.skipValidation = false → (ofDevice device options).result = .ok c →
      ∀ later : ByteDevice, SelfContained { c with device := later } := by
  constructor
  · intro s
    rw [Superblock.validate_eq_ok_iff, Superblock.sound_iff, BlockSize.Admissible, and_assoc,
      and_assoc]
  · intro device options c validated opened later
    have sound := sound_of_opened validated opened
    exact selfContained_of_sound (c := { c with device := later }) sound

/-! The sample image with a descriptor area of its last two blocks. -/

def areaImage : Image := (sample.overlay 104 [2]).overlay 112 [1]

def areaContainer : Container where
  superblock := Superblock.fields (areaImage.window 0 1408)
  blockSize := ⟨4096⟩
  options := .standard
  device := .memory areaImage

theorem areaContainer_sound : areaContainer.superblock.Sound where
  admissible := ⟨by decide +kernel, by decide +kernel, by decide +kernel⟩
  nonempty := by decide +kernel
  objectMap := by decide +kernel
  descriptors := by decide +kernel
  volumes := by decide +kernel

theorem areaContainer_opened :
    (ofDevice (.memory areaImage) .standard).result = .ok areaContainer := by
  have front : Front areaImage areaContainer.superblock ⟨4096⟩ :=
    ⟨by decide, Superblock.decode_of_accepted (by decide +kernel)
      ⟨by decide +kernel, by decide +kernel, by decide +kernel⟩, areaContainer_sound.admissible,
      by decide +kernel⟩
  exact ofDevice_of_front (by decide) front (by simp [ReadsCopy, OpenOptions.standard])
    fun _ => Superblock.validate_eq_ok_iff.mpr areaContainer_sound

theorem area_reaches_end :
    OpenOptions.standard.skipValidation = false ∧
    (ofDevice (.memory areaImage) .standard).result = .ok areaContainer ∧
    areaContainer.blockCount = 3 ∧ areaContainer.descriptorBlocks? = some (1, 3) ∧
    FailsWith InRange
      ({ areaContainer with device := .file 12288 (areaImage.resize 100) }.readBlock ⟨2⟩) := by
  have area : areaContainer.descriptorBlocks? = some (1, 3) := by decide +kernel
  have inside := validated_geometry_suffices.2 _ _ _ rfl areaContainer_opened
    (.file 12288 (areaImage.resize 100))
  exact ⟨rfl, areaContainer_opened, by decide +kernel, area,
    (inside.descriptors 1 3 area ⟨2⟩ (by decide) (by decide)).2⟩

end Container

end NxContainer
