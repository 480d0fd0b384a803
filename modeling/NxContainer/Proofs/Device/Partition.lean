import NxContainer.Proofs.Device.Blocks
import NxContainer.Proofs.Image

/-! An image as a row of blocks, one behind the other from its first byte on, and a rest of less
than a block. A range is read exactly if it ends inside the image, whether its end is counted in
unbounded numbers or in 64-bit words. -/
namespace NxContainer

namespace Image

theorem length_toBytes (i : Image) : i.toBytes.length = i.size := length_window _ _ _

theorem window_toBytes {i : Image} {o n : Nat} (inside : o + n ≤ i.size) :
    i.toBytes.window o n = i.window o n := by
  rw [toBytes, window_window inside, Nat.zero_add]

theorem toBytes_split {i : Image} {n : Nat} (inside : n ≤ i.size) :
    i.toBytes = i.window 0 n ++ i.window n (i.size - n) := by
  have split := window_add i 0 n (i.size - n)
  rwa [Nat.zero_add, Nat.add_sub_cancel' inside] at split

end Image

namespace ByteDevice

def stop? (o : ByteOffset) (n : Nat) : Option ByteOffset := (word64? n).bind o.advance?

/-- Reads a string of bytes as a machine does: it compares a word with the length of the string and
then takes the bytes by their indices. Absent where an index would be out of bounds. -/
def readIndexed? (d : Bytes) (o : ByteOffset) (n : Nat) : Option (Except ReadError Bytes) :=
  match stop? o n with
  | some stop =>
    if stop.value.toNat ≤ d.length then (d.slice o.value.toNat n).toOption.map .ok
    else some (.error (.shortRead s!"short read: offset={o.text} len={n} device_len={d.length}"))
  | none => some (.error (.shortRead s!"short read: offset={o.text} len={n} device_len={d.length}"))

variable {image : Image} {o : ByteOffset} {n : Nat}

theorem stop?_eq_some_iff {stop : ByteOffset} :
    stop? o n = some stop ↔ stop.value.toNat = o.value.toNat + n := by
  simp only [stop?, Option.bind_eq_some_iff, word64?_eq_some_iff,
    ByteOffset.advance?_eq_some_iff]
  constructor
  · rintro ⟨w, rfl, sum⟩
    exact sum
  · intro sum
    have near : n < addressLimit :=
      Nat.lt_of_le_of_lt (Nat.le_add_left _ _) (sum ▸ stop.value.toNat_lt)
    have exactly := UInt64.toNat_ofNat_of_lt' near
    exact ⟨UInt64.ofNat n, exactly, by rw [sum, exactly]⟩

theorem readIndexed?_of_inside (sized : image.size < addressLimit)
    (inside : o.value.toNat + n ≤ image.size) :
    readIndexed? image.toBytes o n = some (.ok (image.window o.value.toNat n)) := by
  have near := Nat.lt_of_le_of_lt inside sized
  have exactly := UInt64.toNat_ofNat_of_lt' near
  have bounds : image.toBytes.slice o.value.toNat n = .ok (image.window o.value.toNat n) :=
    Bytes.slice_eq_ok_iff.mpr ⟨near, by rwa [Image.length_toBytes], Image.window_toBytes inside⟩
  have ends : stop? o n = some ⟨UInt64.ofNat (o.value.toNat + n)⟩ := stop?_eq_some_iff.mpr exactly
  simp only [readIndexed?, ends, exactly, Image.length_toBytes, inside, if_true, bounds]
  rfl

theorem readIndexed?_of_beyond (beyond : image.size < o.value.toNat + n) :
    readIndexed? image.toBytes o n = some (.error
      (.shortRead s!"short read: offset={o.text} len={n} device_len={image.size}")) := by
  unfold readIndexed?
  rw [Image.length_toBytes]
  cases ends : stop? o n with
  | none => rfl
  | some stop =>
    have past : ¬ stop.value.toNat ≤ image.size := by
      rw [stop?_eq_some_iff.mp ends]
      exact Nat.not_le.mpr beyond
    exact if_neg past

theorem readIndexed?_eq (sized : image.size < addressLimit) :
    readIndexed? image.toBytes o n = some ((memory image).read o n) := by
  by_cases inside : o.value.toNat + n ≤ image.size
  · rw [readIndexed?_of_inside sized inside, read_memory_eq_ok_iff.mpr ⟨inside, rfl⟩]
  · have beyond := Nat.not_le.mp inside
    rw [readIndexed?_of_beyond beyond, read_memory_eq_error_iff.mpr ⟨beyond, rfl⟩]

structure ReadsExactly (d : ByteDevice) (image : Image) : Prop where
  ok : ∀ o n bytes, d.read o n = .ok bytes ↔
    o.value.toNat + n ≤ image.size ∧ image.toBytes.window o.value.toNat n = bytes
  short : ∀ o n e, d.read o n = .error e ↔ image.size < o.value.toNat + n ∧
    e = .shortRead s!"short read: offset={o.text} len={n} device_len={image.size}"
  indexed : ∀ o n, readIndexed? image.toBytes o n = some (d.read o n)

theorem readsExactly (sized : image.size < addressLimit) : (memory image).ReadsExactly image where
  ok o n bytes := by
    rw [read_memory_eq_ok_iff]
    constructor
    · rintro ⟨inside, rfl⟩
      exact ⟨inside, Image.window_toBytes inside⟩
    · rintro ⟨inside, rfl⟩
      exact ⟨inside, (Image.window_toBytes inside).symm⟩
  short _ _ _ := read_memory_eq_error_iff
  indexed _ _ := readIndexed?_eq sized

end ByteDevice

namespace BlockDevice

def readFirst (d : BlockDevice) : Nat → Except ReadError Bytes
  | 0 => .ok []
  | n + 1 => do
    let before ← d.readFirst n
    let block ← d.readBlock ⟨UInt64.ofNat n⟩
    return before ++ block

section memory

variable {image : Image} {s : BlockSize}

theorem readFirst_succ (sized : image.size < addressLimit) {n : Nat}
    (inside : n < image.size / s.value.toNat)
    (before : (BlockDevice.mk (.memory image) s).readFirst n =
      .ok (image.window 0 (n * s.value.toNat))) :
    (BlockDevice.mk (.memory image) s).readFirst (n + 1) =
      .ok (image.window 0 ((n + 1) * s.value.toNat)) := by
  have near : n < addressLimit :=
    Nat.lt_of_lt_of_le inside (Nat.le_trans (Nat.div_le_self _ _) (Nat.le_of_lt sized))
  have number : (UInt64.ofNat n).toNat = n := UInt64.toNat_ofNat_of_lt' near
  have block : (BlockDevice.mk (.memory image) s).readBlock ⟨UInt64.ofNat n⟩ =
      .ok (image.window (n * s.value.toNat) s.value.toNat) := by
    rw [readBlock_memory sized, number, if_pos inside]
  -- The next block starts where the blocks before it end.
  rw [readFirst, before, ok_bind, block, Nat.succ_mul, Image.window_add, Nat.zero_add]
  rfl

theorem readFirst_memory (sized : image.size < addressLimit) {n : Nat}
    (inside : n ≤ image.size / s.value.toNat) :
    (BlockDevice.mk (.memory image) s).readFirst n = .ok (image.window 0 (n * s.value.toNat)) := by
  induction n with
  | zero => simp [readFirst, Image.window]
  | succ n ih => exact readFirst_succ sized inside (ih (Nat.le_of_lt inside))

/-- The blocks of a device are the whole blocks of an image, and no other block can be read. -/
structure Partitions (d : BlockDevice) (image : Image) : Prop where
  count : d.blockCount = image.size / d.blockSize.value.toNat
  inside : ∀ b, b.value.toNat < image.size / d.blockSize.value.toNat →
    (∃ o, d.offsetOf b = .ok o ∧ o.value.toNat = b.value.toNat * d.blockSize.value.toNat) ∧
    ∃ bytes, d.readBlock b = .ok bytes ∧ bytes.length = d.blockSize.value.toNat ∧
      bytes = image.toBytes.window (b.value.toNat * d.blockSize.value.toNat)
        d.blockSize.value.toNat
  outside : ∀ b, image.size / d.blockSize.value.toNat ≤ b.value.toNat →
    d.readBlock b = .error (.outOfRange b (image.size / d.blockSize.value.toNat))
  whole : ∃ front rest, d.readFirst d.blockCount = .ok front ∧ image.toBytes = front ++ rest ∧
    front.length = d.blockCount * d.blockSize.value.toNat ∧ rest.length < d.blockSize.value.toNat

theorem partitions (sized : image.size < addressLimit) (positive : 0 < s.value.toNat) :
    (BlockDevice.mk (.memory image) s).Partitions image where
  count := rfl
  inside b inside := by
    obtain ⟨_, room⟩ := block_inside sized inside
    refine ⟨offsetOf_memory_of_inside sized inside, _, ?_, ?_, (Image.window_toBytes room).symm⟩
    · rw [readBlock_memory sized, if_pos inside]
    · exact Image.length_window _ _ _
  outside b outside := by
    rw [readBlock_memory sized]
    exact if_neg (Nat.not_lt.mpr outside)
  whole := by
    have fits := Nat.div_mul_le_self image.size s.value.toNat
    have short : image.size - image.size / s.value.toNat * s.value.toNat < s.value.toNat := by
      rw [← Nat.mod_eq_sub_div_mul]
      exact Nat.mod_lt _ positive
    refine ⟨_, _, readFirst_memory sized (Nat.le_refl _), Image.toBytes_split fits, ?_, ?_⟩
    · exact Image.length_window _ _ _
    · rw [Image.length_window]
      exact short

end memory

theorem image_partitioned {image : Image} {w : UInt32} {s : BlockSize}
    (sized : image.size < addressLimit) (valid : BlockSize.ofWord w = .ok s) :
    (BlockDevice.mk (.memory image) s).Partitions image ∧
      (ByteDevice.memory image).ReadsExactly image :=
  ⟨partitions sized (BlockSize.admissible_of_ofWord valid).positive,
    ByteDevice.readsExactly sized⟩

def tailedImage : Image := ⟨10000, UInt8.ofNat⟩

theorem tailedImage_partitioned : tailedImage.size < addressLimit ∧
    BlockSize.ofWord 4096 = .ok ⟨4096⟩ ∧
    (∃ bytes, (BlockDevice.mk (.memory tailedImage) ⟨4096⟩).readBlock ⟨1⟩ = .ok bytes ∧
      bytes.length = 4096 ∧ bytes = tailedImage.toBytes.window 4096 4096) ∧
    (BlockDevice.mk (.memory tailedImage) ⟨4096⟩).readBlock ⟨2⟩ = .error (.outOfRange ⟨2⟩ 2) ∧
    (∃ front rest, (BlockDevice.mk (.memory tailedImage) ⟨4096⟩).readFirst 2 = .ok front ∧
      tailedImage.toBytes = front ++ rest ∧ front.length = 8192 ∧ rest.length < 4096) ∧
    (ByteDevice.memory tailedImage).read ⟨18446744073709551615⟩ 2 = .error
      (.shortRead "short read: offset=18446744073709551615 len=2 device_len=10000") := by
  have sized : tailedImage.size < addressLimit := by decide
  have valid : BlockSize.ofWord 4096 = .ok ⟨4096⟩ := by decide
  obtain ⟨blocks, reads⟩ := image_partitioned sized valid
  refine ⟨sized, valid, (blocks.inside ⟨1⟩ (by decide)).2, blocks.outside ⟨2⟩ (by decide),
    blocks.whole, (reads.short _ _ _).mpr ⟨by decide, ?_⟩⟩
  rfl

end BlockDevice

end NxContainer
