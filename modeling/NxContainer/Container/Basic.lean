import NxContainer.CheckpointMap
import NxContainer.Container.Event
import NxContainer.Device.Run
import NxContainer.FileExtent
import NxContainer.Object.Checksum
import NxContainer.ObjectMap
import NxContainer.Superblock

/-! An opened container. Opening starts from the superblock at the front of the device, which alone
fixes the block size, and may go on to a copy of it. Nothing is cached: every read goes to the
device. -/
namespace NxContainer

structure OpenOptions where
  /-- Leaves the geometry of the superblock unjudged. The block size must still be valid. -/
  skipValidation : Bool
  /-- Refuses objects whose checksum does not match; otherwise a mismatch is only reported. -/
  verifyChecksums : Bool
  /-- The block of the superblock copy to start from. -/
  superblockBlock : BlockNumber
deriving DecidableEq

def OpenOptions.standard : OpenOptions := ⟨false, false, ⟨0⟩⟩

structure Container where
  superblock : Superblock
  blockSize : BlockSize
  options : OpenOptions
  device : ByteDevice

namespace Container

def blocks (c : Container) : BlockDevice := ⟨c.device, c.blockSize⟩

/-- The size in blocks that the superblock declares. The device may be shorter or longer. -/
def blockCount (c : Container) : UInt64 := c.superblock.numberOfBlocks

/-- The blocks of a contiguous checkpoint descriptor area, from the first to behind the last. The
end stays in the 64-bit words. -/
def descriptorBlocks? (c : Container) : Option (UInt64 × UInt64) :=
  if c.superblock.descriptorAreaIsContiguous then
    let stop := (word64? c.superblock.descriptorAreaEnd).getD (UInt64.ofNat (addressLimit - 1))
    some (c.superblock.checkpointDescriptorBase, stop)
  else none

def requireInside (c : Container) (b : BlockNumber) : Except ReadError Unit :=
  require (b.value < c.blockCount) (.outOfRange b c.blockCount.toNat)

def readBlock (c : Container) (b : BlockNumber) : Except ReadError Bytes := do
  c.requireInside b
  let count := c.blocks.blockCount
  require (b.value.toNat < count)
    (.shortRead s!"short read: block {b.text} past device end ({count} blocks)")
  c.blocks.readBlock b

def checkChecksum (c : Container) (b : BlockNumber) (object : Bytes) : Traced Unit := do
  match ← Traced.decoded b (Checksum.verify object) with
  | .matching => return ()
  | .mismatch stored computed =>
    if c.options.verifyChecksums then
      Traced.ofExcept (.error (.checksumMismatch b stored computed))
    else Traced.emit (.checksumMismatchIgnored b stored computed)

def readObject (c : Container) (b : BlockNumber) : Traced Bytes := do
  let object ← c.readBlock b
  c.checkChecksum b object
  return object

/-- The superblock copy in a block. The primary may not be trusted yet, so only the device bounds
the block. -/
def readSuperblockCopy (c : Container) (b : BlockNumber) : Traced Superblock := do
  let object ← c.blocks.readBlock b
  c.checkChecksum b object
  Traced.decoded b (Superblock.decode object)

def readObjectMap (c : Container) : Traced ObjectMap := do
  let b := c.superblock.objectMapBlockNumber
  let object ← c.readObject b
  let map ← Traced.decoded b (ObjectMap.decode object)
  Traced.emit (.objectMapRead b map.treeBlockNumber map.snapshotCount)
  return map

def readCheckpointMap (c : Container) (b : BlockNumber) : Traced CheckpointMap := do
  let object ← c.readObject b
  let map ← Traced.decoded b (CheckpointMap.decode object)
  Traced.emit (.checkpointMapRead b map.entries.length map.isLast)
  return map

/-- The block of an ephemeral object, absent if the map does not name the object. The look-up is
reported before the block is held against the container. -/
def resolveEphemeral (c : Container) (map : CheckpointMap) (o : ObjectId) :
    Traced (Option BlockNumber) := do
  let block := map.addressOf? o
  Traced.emit (.resolveEphemeral o block)
  match block with
  | none => return none
  | some b =>
    c.requireInside b
    return some b

def readFileExtent (c : Container) (key value : Bytes) : Except ReadError FileExtent := do
  let extent ← (FileExtent.ofRecord key value).mapError (ReadError.ofDecode ⟨0⟩)
  match extent.blockNumber? with
  | some b => if b.value ≠ 0 then c.requireInside b
  | none => pure ()
  return extent

def startingCopy (c : Container) (b : BlockNumber) : Traced Superblock := do
  let superblock ← c.readSuperblockCopy b
  let size ← Traced.decoded b superblock.validBlockSize
  require (size = c.blockSize) (ReadError.corruption b
    s!"superblock copy block size {size.text} differs from primary {c.blockSize.text}")
  return superblock

def ofDevice (device : ByteDevice) (options : OpenOptions) : Traced Container := do
  let region ← device.superblockRegion
  let primary ← Traced.decoded ⟨0⟩ (Superblock.decode region)
  let blockSize ← Traced.decoded ⟨0⟩ primary.validBlockSize
  let front : Container := ⟨primary, blockSize, options, device⟩
  let target := options.superblockBlock
  let superblock ←
    if target.value ≠ 0 ∨ options.verifyChecksums then front.startingCopy target
    else pure primary
  unless options.skipValidation do Traced.decoded target superblock.validate
  Traced.emit (.containerOpen blockSize superblock.numberOfBlocks target
    superblock.header.transactionId superblock.objectMapBlockNumber)
  return { front with superblock }

end Container

end NxContainer
