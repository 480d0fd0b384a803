import NxContainer.Image
import NxContainer.ReadError
import NxContainer.Superblock

/-! Devices that are read at byte offsets, and runs of requests to devices that are read block by
block. A file may change behind a device: the device keeps the length that it saw when the file was
opened, while the bytes are those the file holds at the time of the read. -/
namespace NxContainer

inductive ByteDevice where
  | memory (image : Image)
  | file (openedLength : Nat) (contents : Image)

namespace ByteDevice

def openFile (contents : Option Image) : Except ReadError ByteDevice :=
  match contents with
  | some image => .ok (.file image.size image)
  | none => .error (.io (.os 2))

def length : ByteDevice → Nat
  | memory image => image.size
  | file openedLength _ => openedLength

/-- Truncates or extends the file behind a device. Memory has no file behind it. -/
def setFileLength (d : ByteDevice) (n : Nat) : ByteDevice :=
  match d with
  | memory image => .memory image
  | file openedLength contents => .file openedLength (contents.resize n)

/-- The bytes at the range, which lies inside the length that the device goes by. -/
def fetch (d : ByteDevice) (o n : Nat) : Except ReadError Bytes :=
  match d with
  | memory image => .ok (image.window o n)
  | file _ contents => do
    require (n = 0 ∨ o + n ≤ contents.size) (.shortRead "failed to fill whole buffer")
    return contents.window o n

def read (d : ByteDevice) (o : ByteOffset) (n : Nat) : Except ReadError Bytes := do
  require (o.value.toNat + n ≤ d.length)
    (.shortRead s!"short read: offset={o.text} len={n} device_len={d.length}")
  d.fetch o.value.toNat n

def superblockRegion (d : ByteDevice) : Except ReadError Bytes := d.read .zero Superblock.size

end ByteDevice

/-! Bytes behind the last whole block have no address. What a request leaves behind is the device
itself, so a failed read cannot spoil a later one. -/

structure BlockDevice where
  bytes : ByteDevice
  blockSize : BlockSize

namespace BlockDevice

def blockCount (d : BlockDevice) : Nat := d.bytes.length / d.blockSize.value.toNat

def offsetOf (d : BlockDevice) (b : BlockNumber) : Except ReadError ByteOffset := do
  require (b.value.toNat < d.blockCount) (.outOfRange b d.blockCount)
  match b.offset? d.blockSize with
  | some offset => return offset
  | none => throw (.sizeOutOfBounds "block offset overflow")

def readBlock (d : BlockDevice) (b : BlockNumber) : Except ReadError Bytes := do
  let offset ← d.offsetOf b
  d.bytes.read offset d.blockSize.value.toNat

inductive Request where
  | readBlock (block : BlockNumber)
  | read (offset : ByteOffset) (length : Nat)
  | superblockRegion
  | setFileLength (length : Nat)

inductive Answer where
  | bytes (data : Bytes)
  | lengths (bytes blocks : Nat)

def next (d : BlockDevice) : Request → BlockDevice
  | .setFileLength n => { d with bytes := d.bytes.setFileLength n }
  | .readBlock _ | .read _ _ | .superblockRegion => d

def answer (d : BlockDevice) : Request → Except ReadError Answer
  | .readBlock b => Answer.bytes <$> d.readBlock b
  | .read o n => Answer.bytes <$> d.bytes.read o n
  | .superblockRegion => Answer.bytes <$> d.bytes.superblockRegion
  | .setFileLength n =>
    let changed := d.next (.setFileLength n)
    .ok (.lengths changed.bytes.length changed.blockCount)

def run (d : BlockDevice) : List Request → List (Except ReadError Answer)
  | [] => []
  | r :: rest => d.answer r :: (d.next r).run rest

end BlockDevice

end NxContainer
