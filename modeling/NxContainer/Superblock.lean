import NxContainer.Object.Header

/-! The container superblock. Decoding checks the length, the object type and the magic word in
this order and then reads every field at its offset; the geometry that it declares is judged apart.
In the stored form the identifiers of volumes may stand in any of the slots. -/
namespace NxContainer

abbrev Uuid := Vector UInt8 16

structure Superblock where
  header : ObjectHeader
  magic : UInt32
  blockSize : UInt32
  numberOfBlocks : UInt64
  features : UInt64
  readonlyCompatibleFeatures : UInt64
  incompatibleFeatures : UInt64
  uuid : Uuid
  nextObjectId : ObjectId
  nextTransactionId : TransactionId
  /-- The highest bit marks a descriptor area that is not contiguous. -/
  checkpointDescriptorBlocks : UInt32
  checkpointDataBlocks : UInt32
  checkpointDescriptorBase : UInt64
  checkpointDataBase : UInt64
  checkpointDescriptorNext : UInt32
  checkpointDataNext : UInt32
  checkpointDescriptorIndex : UInt32
  checkpointDescriptorLength : UInt32
  checkpointDataIndex : UInt32
  checkpointDataLength : UInt32
  spaceManagerObjectId : ObjectId
  objectMapBlockNumber : BlockNumber
  reaperObjectId : ObjectId
  maxFileSystems : UInt32
  /-- The identifiers in the volume slots that are in use, in slot order. -/
  volumeObjectIds : List ObjectId
deriving DecidableEq

namespace Superblock

def size : Nat := 1408

def magicWord : UInt32 := 0x4253584E

def slotCount : Nat := 100

def slotsOffset : Nat := 184

def slots (d : Bytes) : List ObjectId :=
  (List.range slotCount).map fun i => ⟨d.u64At (slotsOffset + 8 * i)⟩

def fields (d : Bytes) : Superblock where
  header := ObjectHeader.fields d
  magic := d.u32At 32
  blockSize := d.u32At 36
  numberOfBlocks := d.u64At 40
  features := d.u64At 48
  readonlyCompatibleFeatures := d.u64At 56
  incompatibleFeatures := d.u64At 64
  uuid := Vector.ofFn fun i => d.getD (72 + i) 0
  nextObjectId := ⟨d.u64At 88⟩
  nextTransactionId := ⟨d.u64At 96⟩
  checkpointDescriptorBlocks := d.u32At 104
  checkpointDataBlocks := d.u32At 108
  checkpointDescriptorBase := d.u64At 112
  checkpointDataBase := d.u64At 120
  checkpointDescriptorNext := d.u32At 128
  checkpointDataNext := d.u32At 132
  checkpointDescriptorIndex := d.u32At 136
  checkpointDescriptorLength := d.u32At 140
  checkpointDataIndex := d.u32At 144
  checkpointDataLength := d.u32At 148
  spaceManagerObjectId := ⟨d.u64At 152⟩
  objectMapBlockNumber := ⟨d.u64At 160⟩
  reaperObjectId := ⟨d.u64At 168⟩
  maxFileSystems := d.u32At 180
  volumeObjectIds := (slots d).filter ObjectId.isValid

def readUuid (d : Bytes) : Except DecodeError Uuid := do
  let bytes ← d.slice 72 16
  return Vector.ofFn fun i => bytes.getD i 0

def readVolumes (d : Bytes) : Except DecodeError (List ObjectId) := do
  let slots ← (List.range slotCount).mapM fun i => ObjectId.mk <$> d.readU64 (slotsOffset + 8 * i)
  return slots.filter ObjectId.isValid

section long

variable {d : Bytes} (long : size ≤ d.length)
include long

theorem readUuid_of_long : readUuid d = .ok (Vector.ofFn fun i => d.getD (72 + i) 0) := by
  have whole : d.slice 72 16 = .ok (d.window 72 16) :=
    Bytes.slice_eq_ok_iff.mpr ⟨by decide, Nat.le_trans (by decide) long, rfl⟩
  have byte (i : Fin 16) : (d.window 72 16).getD i 0 = d.getD (72 + i) 0 :=
    Bytes.getD_window i.isLt
  simp only [readUuid, whole, ok_bind, byte]
  rfl

theorem readVolumes_of_long : readVolumes d = .ok ((slots d).filter ObjectId.isValid) := by
  have slot : ∀ i ∈ List.range slotCount, ObjectId.mk <$> d.readU64 (slotsOffset + 8 * i) =
      .ok ⟨d.u64At (slotsOffset + 8 * i)⟩ := by
    intro i member
    have few : i < 100 := List.mem_range.mp member
    have inside : slotsOffset + 8 * i + 8 ≤ size := by
      rw [slotsOffset, size]
      omega
    rw [Bytes.readU64_of_long long (by decide) inside]
    rfl
  rw [readVolumes, mapM_eq_ok slot]
  rfl

end long

def decode (d : Bytes) : Except DecodeError Superblock := do
  Bytes.requireLength d.length size
  let header ← ObjectHeader.decode d
  header.expectType ObjectType.superblock
  let magic ← d.readU32 32
  require (magic = magicWord) (.invalidMagic magicWord.toUInt64 magic.toUInt64)
  let volumeObjectIds ← readVolumes d
  return {
    header
    magic
    blockSize := ← d.readU32 36
    numberOfBlocks := ← d.readU64 40
    features := ← d.readU64 48
    readonlyCompatibleFeatures := ← d.readU64 56
    incompatibleFeatures := ← d.readU64 64
    uuid := ← readUuid d
    nextObjectId := ⟨← d.readU64 88⟩
    nextTransactionId := ⟨← d.readU64 96⟩
    checkpointDescriptorBlocks := ← d.readU32 104
    checkpointDataBlocks := ← d.readU32 108
    checkpointDescriptorBase := ← d.readU64 112
    checkpointDataBase := ← d.readU64 120
    checkpointDescriptorNext := ← d.readU32 128
    checkpointDataNext := ← d.readU32 132
    checkpointDescriptorIndex := ← d.readU32 136
    checkpointDescriptorLength := ← d.readU32 140
    checkpointDataIndex := ← d.readU32 144
    checkpointDataLength := ← d.readU32 148
    spaceManagerObjectId := ⟨← d.readU64 152⟩
    objectMapBlockNumber := ⟨← d.readU64 160⟩
    reaperObjectId := ⟨← d.readU64 168⟩
    maxFileSystems := ← d.readU32 180
    volumeObjectIds
  }

theorem decode_eq (d : Bytes) : decode d = (do
    Bytes.requireLength d.length size
    let header ← ObjectHeader.decode d
    header.expectType ObjectType.superblock
    require (d.u32At 32 = magicWord)
      (.invalidMagic magicWord.toUInt64 (d.u32At 32).toUInt64)
    return fields d) := by
  refine Bytes.requireLength_bind_congr fun long => bind_congr_of_ok fun header made => ?_
  obtain ⟨_, rfl⟩ := ObjectHeader.decode_eq_ok_iff.mp made
  simp (disch := decide) only [Bytes.readU32_of_long long, Bytes.readU64_of_long long, ok_bind,
    readUuid_of_long long, readVolumes_of_long long, fields]

/-! Geometry. Sums are taken over natural numbers, so no condition is lost to wrapping. -/

def noncontiguousBit : UInt32 := 0x80000000

def validBlockSize (s : Superblock) : Except DecodeError BlockSize := BlockSize.ofWord s.blockSize

def descriptorAreaIsContiguous (s : Superblock) : Bool :=
  s.checkpointDescriptorBlocks &&& noncontiguousBit = 0

def descriptorBlockCount (s : Superblock) : UInt32 :=
  s.checkpointDescriptorBlocks &&& ~~~noncontiguousBit

def descriptorAreaEnd (s : Superblock) : Nat :=
  s.checkpointDescriptorBase.toNat + s.descriptorBlockCount.toNat

def validateDescriptorArea (s : Superblock) : Except DecodeError Unit := do
  require (s.descriptorAreaEnd < addressLimit)
    (.invalidField "checkpoint_descriptor_base" "descriptor area overflows")
  require (s.descriptorAreaEnd ≤ s.numberOfBlocks.toNat)
    (.invalidField "checkpoint_descriptor_base" "descriptor area extends past container")

def validate (s : Superblock) : Except DecodeError Unit := do
  let _ ← s.validBlockSize
  require (s.numberOfBlocks ≠ 0) (.invalidField "number_of_blocks" "container has no blocks")
  require (s.objectMapBlockNumber.value < s.numberOfBlocks)
    (.invalidField "object_map_block_number" "beyond container block count")
  if s.descriptorAreaIsContiguous then s.validateDescriptorArea
  require (s.maxFileSystems.toNat ≤ slotCount)
    (.invalidField "max_file_systems" "exceeds volume slot array")

/-- What a stored superblock holds beside its fields. -/
structure Placement where
  reserved : UInt32
  slots : Vector ObjectId 100
  trailing : Bytes

def encode (s : Superblock) (p : Placement) : Bytes :=
  s.header.encode ++ Bytes.toLE 4 s.magic.toNat ++ Bytes.toLE 4 s.blockSize.toNat ++
    Bytes.toLE 8 s.numberOfBlocks.toNat ++ Bytes.toLE 8 s.features.toNat ++
    Bytes.toLE 8 s.readonlyCompatibleFeatures.toNat ++
    Bytes.toLE 8 s.incompatibleFeatures.toNat ++ s.uuid.toList ++
    Bytes.toLE 8 s.nextObjectId.value.toNat ++ Bytes.toLE 8 s.nextTransactionId.value.toNat ++
    Bytes.toLE 4 s.checkpointDescriptorBlocks.toNat ++
    Bytes.toLE 4 s.checkpointDataBlocks.toNat ++
    Bytes.toLE 8 s.checkpointDescriptorBase.toNat ++ Bytes.toLE 8 s.checkpointDataBase.toNat ++
    Bytes.toLE 4 s.checkpointDescriptorNext.toNat ++ Bytes.toLE 4 s.checkpointDataNext.toNat ++
    Bytes.toLE 4 s.checkpointDescriptorIndex.toNat ++
    Bytes.toLE 4 s.checkpointDescriptorLength.toNat ++
    Bytes.toLE 4 s.checkpointDataIndex.toNat ++ Bytes.toLE 4 s.checkpointDataLength.toNat ++
    Bytes.toLE 8 s.spaceManagerObjectId.value.toNat ++
    Bytes.toLE 8 s.objectMapBlockNumber.value.toNat ++
    Bytes.toLE 8 s.reaperObjectId.value.toNat ++ Bytes.toLE 4 p.reserved.toNat ++
    Bytes.toLE 4 s.maxFileSystems.toNat ++
    p.slots.toList.flatMap (fun o => Bytes.toLE 8 o.value.toNat) ++ p.trailing

end Superblock

end NxContainer
