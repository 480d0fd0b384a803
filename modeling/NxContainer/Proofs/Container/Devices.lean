import NxContainer.Container.Session
import NxContainer.Proofs.Container.Stages
import NxContainer.Proofs.Device.Alike

/-! How a container depends on the device behind it. Only the reading of blocks goes to the device,
so an operation on a block is the same on two devices that hold this block alike. Opening depends on
the region at the front, and on the block of the copy if it reads one. -/
namespace NxContainer

namespace Container

def onDevice (c : Container) (device : ByteDevice) : Container := { c with device }

variable {c : Container} {b : BlockNumber} {d d' : ByteDevice} {options : OpenOptions}

/-! Operations on one block. -/

theorem readBlock_onDevice (same : BlockDevice.SameAt c.blockSize b c.device d) :
    (c.onDevice d).readBlock b = c.readBlock b := by
  have count : (c.onDevice d).blocks.blockCount = c.blocks.blockCount :=
    congrArg (· / c.blockSize.value.toNat) same.length
  have block : (c.onDevice d).blocks.readBlock b = c.blocks.readBlock b := same.block
  rw [readBlock, readBlock, block, count]
  rfl

theorem readObject_onDevice (same : BlockDevice.SameAt c.blockSize b c.device d) :
    (c.onDevice d).readObject b = c.readObject b := by
  rw [readObject, readObject, readBlock_onDevice same]
  rfl

theorem readCheckpointMap_onDevice (same : BlockDevice.SameAt c.blockSize b c.device d) :
    (c.onDevice d).readCheckpointMap b = c.readCheckpointMap b := by
  rw [readCheckpointMap, readCheckpointMap, readObject_onDevice same]

theorem readObjectMap_onDevice
    (same : BlockDevice.SameAt c.blockSize c.superblock.objectMapBlockNumber c.device d) :
    (c.onDevice d).readObjectMap = c.readObjectMap := by
  have object : (c.onDevice d).readObject (c.onDevice d).superblock.objectMapBlockNumber =
    c.readObject c.superblock.objectMapBlockNumber := readObject_onDevice same
  rw [readObjectMap, readObjectMap, object]
  rfl

theorem readSuperblockCopy_onDevice (same : BlockDevice.SameAt c.blockSize b c.device d) :
    (c.onDevice d).readSuperblockCopy b = c.readSuperblockCopy b := by
  have block : (c.onDevice d).blocks.readBlock b = c.blocks.readBlock b := same.block
  rw [readSuperblockCopy, readSuperblockCopy, block]
  rfl

theorem startingCopy_onDevice (same : BlockDevice.SameAt c.blockSize b c.device d) :
    (c.onDevice d).startingCopy b = c.startingCopy b := by
  rw [startingCopy, startingCopy, readSuperblockCopy_onDevice same]
  rfl

/-! Opening. -/

theorem readFront_onDevice (region : d'.superblockRegion = d.superblockRegion) :
    readFront d' options = (·.onDevice d') <$> readFront d options := by
  simp only [readFront, region, map_bind, map_pure]
  rfl

theorem select_onDevice {front : Container}
    (copy : front.options.superblockBlock.value ≠ 0 ∨ front.options.verifyChecksums = true →
      BlockDevice.SameAt front.blockSize front.options.superblockBlock front.device d) :
    (front.onDevice d).select = front.select := by
  have options : (front.onDevice d).options = front.options := rfl
  by_cases reads : front.options.superblockBlock.value ≠ 0 ∨ front.options.verifyChecksums = true
  · rw [select, select, options, if_pos reads, if_pos reads, startingCopy_onDevice (copy reads)]
  · rw [select, select, options, if_neg reads, if_neg reads]
    rfl

/-- Devices with the same region at the front, and with the same copy where it is read, open as the
same container or fail alike, and report the same. -/
theorem ofDevice_onDevice (region : d'.superblockRegion = d.superblockRegion)
    (copy : ∀ front, (readFront d options).result = .ok front →
      options.superblockBlock.value ≠ 0 ∨ options.verifyChecksums = true →
      BlockDevice.SameAt front.blockSize options.superblockBlock d d') :
    ofDevice d' options = (·.onDevice d') <$> ofDevice d options := by
  rw [ofDevice_eq_stages, ofDevice_eq_stages, readFront_onDevice region]
  simp only [map_bind, bind_map_left, map_pure]
  apply Traced.bind_congr_ok
  intro front read
  obtain ⟨_, _, _, _, same, behind⟩ := readFront_eq_ok_iff.mp read
  have selected : (front.onDevice d').select = front.select := by
    apply select_onDevice
    rw [same, behind]
    exact copy front read
  rw [selected]
  rfl

theorem ofDevice_of_alike (alike : d.Alike d') (options : OpenOptions) :
    ofDevice d' options = (·.onDevice d') <$> ofDevice d options :=
  ofDevice_onDevice (alike.read _ _) fun _ _ _ => BlockDevice.sameAt_of_alike alike _ _

end Container

namespace Session

def Request.newLength? : Request → Option Nat
  | .setFileLength n => some n
  | .readBlock _ | .readObjectMap | .readCheckpointMap _ | .resolve _ | .readSuperblockCopy _
  | .readFileExtent _ _ | .readDevice _ _ | .describe => none

def onDevice (s : Session) (device : ByteDevice) : Session :=
  { s with container := s.container.onDevice device }

def mapAfter (s : Session) (a : Traced Answer) : Option CheckpointMap :=
  match a.result with
  | .ok (.checkpointMap map) => some map
  | _ => s.map

variable {s : Session} {r : Request} {d : ByteDevice}

theorem next_of_keeping (keeping : r.newLength? = none) (a : Traced Answer) :
    s.next r a = { s with map := s.mapAfter a } := by
  obtain ⟨log, result⟩ := a
  cases r with
  | setFileLength n => cases keeping
  | _ =>
    cases result with
    | error e => rfl
    | ok answer => cases answer <;> rfl

theorem next_onDevice (keeping : r.newLength? = none) (a : Traced Answer) :
    (s.onDevice d).next r a = (s.next r a).onDevice d := by
  rw [next_of_keeping keeping, next_of_keeping keeping]
  rfl

theorem answer_onDevice (alike : s.container.device.Alike d) :
    (s.onDevice d).answer r = s.answer r := by
  have same (b : BlockNumber) : BlockDevice.SameAt s.container.blockSize b s.container.device d :=
    BlockDevice.sameAt_of_alike alike _ b
  cases r with
  | readBlock b => simp only [answer, onDevice, Container.readBlock_onDevice (same b)]
  | readObjectMap => simp only [answer, onDevice, Container.readObjectMap_onDevice (same _)]
  | readCheckpointMap b =>
    simp only [answer, onDevice, Container.readCheckpointMap_onDevice (same b)]
  | readSuperblockCopy b =>
    simp only [answer, onDevice, Container.readSuperblockCopy_onDevice (same b)]
  | readDevice o n => simp only [answer, onDevice, Container.onDevice, alike.read]
  | describe =>
    simp only [answer, onDevice, Container.onDevice, Container.description, alike.length]
  -- None of these looks at the device.
  | resolve o => rfl
  | readFileExtent key value => rfl
  | setFileLength n => rfl

end Session

end NxContainer
