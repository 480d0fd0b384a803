import NxContainer.Device.Run
import NxContainer.Proofs.Bytes.Window
import NxContainer.Proofs.Units

/-! What reading a device yields. Every successful read is a window of the contents behind the
device; a block of an image is read exactly if it is one of the whole blocks. -/
namespace NxContainer

namespace ByteDevice

def contents : ByteDevice → Image
  | memory image => image
  | file _ contents => contents

theorem read_eq_window {d : ByteDevice} {o : ByteOffset} {n : Nat} {bytes : Bytes}
    (made : d.read o n = .ok bytes) : d.contents.window o.value.toNat n = bytes := by
  rw [read, require_bind_eq_ok_iff] at made
  obtain ⟨_, fetched⟩ := made
  cases d with
  | memory image => exact Except.ok.inj fetched
  | file openedLength contents =>
    rw [fetch, require_bind_eq_ok_iff, pure_eq_ok_iff] at fetched
    exact fetched.2

theorem read_failsWith {d : ByteDevice} {o : ByteOffset} {n : Nat} :
    FailsWith (fun e => ∃ text, e = .shortRead text) (d.read o n) := by
  apply FailsWith.bind
  · exact FailsWith.of_require ⟨_, rfl⟩
  · intro _
    cases d with
    | memory image => exact FailsWith.ok _
    | file openedLength contents =>
      exact FailsWith.bind (FailsWith.of_require ⟨_, rfl⟩) fun _ => FailsWith.ok _

theorem superblockRegion_eq_window {d : ByteDevice} {region : Bytes}
    (made : d.superblockRegion = .ok region) : d.contents.window 0 1408 = region := by
  have start : ByteOffset.zero.value.toNat = 0 := rfl
  rw [superblockRegion, Superblock.size] at made
  rw [← read_eq_window made, start]

theorem read_memory_eq_ok_iff {image : Image} {o : ByteOffset} {n : Nat} {bytes : Bytes} :
    (memory image).read o n = .ok bytes ↔
      o.value.toNat + n ≤ image.size ∧ image.window o.value.toNat n = bytes := by
  rw [read, require_bind_eq_ok_iff, fetch, Except.ok.injEq]
  rfl

theorem superblockRegion_memory_eq_ok_iff {image : Image} {region : Bytes} :
    (memory image).superblockRegion = .ok region ↔
      1408 ≤ image.size ∧ image.window 0 1408 = region := by
  rw [superblockRegion, read_memory_eq_ok_iff, show ByteOffset.zero.value.toNat = 0 from rfl,
    Nat.zero_add, Superblock.size]

theorem read_memory_eq_error_iff {image : Image} {o : ByteOffset} {n : Nat} {e : ReadError} :
    (memory image).read o n = .error e ↔ image.size < o.value.toNat + n ∧
      e = .shortRead s!"short read: offset={o.text} len={n} device_len={image.size}" := by
  rw [read, check_bind_eq_error_iff, require_eq_error_iff, Nat.not_le, fetch]
  constructor
  · rintro (short | ⟨_, impossible⟩)
    · exact short
    · cases impossible
  · exact Or.inl

theorem superblockRegion_memory_eq_error_iff {image : Image} {e : ReadError} :
    (memory image).superblockRegion = .error e ↔ image.size < 1408 ∧
      e = .shortRead s!"short read: offset=0 len=1408 device_len={image.size}" := by
  rw [superblockRegion, read_memory_eq_error_iff, show ByteOffset.zero.value.toNat = 0 from rfl,
    Nat.zero_add, Superblock.size]
  rfl

end ByteDevice

namespace BlockDevice

theorem readBlock_eq_window {d : BlockDevice} {b : BlockNumber} {bytes : Bytes}
    (made : d.readBlock b = .ok bytes) : b.value.toNat < d.blockCount ∧
      d.bytes.contents.window (b.value.toNat * d.blockSize.value.toNat) d.blockSize.value.toNat =
        bytes := by
  rw [readBlock, bind_eq_ok_iff] at made
  obtain ⟨offset, found, read⟩ := made
  rw [offsetOf, require_bind_eq_ok_iff] at found
  obtain ⟨inside, place⟩ := found
  cases start : b.offset? d.blockSize with
  | none =>
    rw [start] at place
    cases place
  | some o =>
    rw [start] at place
    cases place
    have window := ByteDevice.read_eq_window read
    rw [BlockNumber.offset?_eq_some_iff.mp start] at window
    exact ⟨inside, window⟩

theorem readBlock_ne_outOfRange {d : BlockDevice} {b b' : BlockNumber} {n : Nat}
    (inside : b.value.toNat < d.blockCount) : d.readBlock b ≠ .error (.outOfRange b' n) := by
  intro failed
  rw [readBlock, offsetOf, require_pos inside, ok_bind] at failed
  cases start : b.offset? d.blockSize with
  | none =>
    rw [start] at failed
    cases failed
  | some o =>
    rw [start] at failed
    obtain ⟨_, short⟩ := ByteDevice.read_failsWith _ failed
    cases short

section memory

variable {image : Image} {s : BlockSize} {b : BlockNumber}

theorem block_inside (sized : image.size < addressLimit)
    (inside : b.value.toNat < image.size / s.value.toNat) :
    b.value.toNat * s.value.toNat < addressLimit ∧
      b.value.toNat * s.value.toNat + s.value.toNat ≤ image.size := by
  have whole : (b.value.toNat + 1) * s.value.toNat ≤ image.size :=
    Nat.le_trans (Nat.mul_le_mul_right _ inside) (Nat.div_mul_le_self _ _)
  rw [Nat.succ_mul] at whole
  exact ⟨Nat.lt_of_le_of_lt (Nat.le_of_add_right_le whole) sized, whole⟩

theorem offsetOf_memory_of_inside (sized : image.size < addressLimit)
    (inside : b.value.toNat < image.size / s.value.toNat) :
    ∃ o, (BlockDevice.mk (.memory image) s).offsetOf b = .ok o ∧
      o.value.toNat = b.value.toNat * s.value.toNat := by
  obtain ⟨o, place⟩ := ByteOffset.exists_toNat (block_inside sized inside).1
  have pass : require (b.value.toNat < (BlockDevice.mk (.memory image) s).blockCount)
      (ReadError.outOfRange b (BlockDevice.mk (.memory image) s).blockCount) = .ok () :=
    require_pos inside
  refine ⟨o, ?_, place⟩
  simp only [offsetOf, pass, ok_bind, BlockNumber.offset?_eq_some_iff.mpr place]
  rfl

theorem readBlock_memory (sized : image.size < addressLimit) :
    (BlockDevice.mk (.memory image) s).readBlock b =
      if b.value.toNat < image.size / s.value.toNat then
        .ok (image.window (b.value.toNat * s.value.toNat) s.value.toNat)
      else .error (.outOfRange b (image.size / s.value.toNat)) := by
  by_cases inside : b.value.toNat < image.size / s.value.toNat
  · obtain ⟨o, found, place⟩ := offsetOf_memory_of_inside sized inside
    rw [if_pos inside, readBlock, found, ok_bind, ByteDevice.read_memory_eq_ok_iff, place]
    exact ⟨(block_inside sized inside).2, rfl⟩
  · have stop : require (b.value.toNat < (BlockDevice.mk (.memory image) s).blockCount)
        (ReadError.outOfRange b (BlockDevice.mk (.memory image) s).blockCount) =
          .error (.outOfRange b (image.size / s.value.toNat)) := require_neg inside
    rw [if_neg inside]
    simp only [readBlock, offsetOf, stop]
    rfl

end memory

end BlockDevice

end NxContainer
