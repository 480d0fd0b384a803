import NxContainer.Bytes.Cursor
import NxContainer.Object.Header

/-! The checkpoint map, which binds ephemeral objects straight to block addresses. Entries keep
their stored order, and a look-up takes the first one that names the object. However a map was
obtained, it has at most `maxEntries` of them. -/
namespace NxContainer

namespace CheckpointMap

structure Entry where
  objectType : UInt32
  objectSubtype : UInt32
  objectSize : UInt32
  /-- The volume that owns the object, zero for objects of the container. -/
  fileSystemObjectId : ObjectId
  objectId : ObjectId
  physicalAddress : BlockNumber
deriving DecidableEq

namespace Entry

def size : Nat := 40

def fields (d : Bytes) : Entry where
  objectType := d.u32At 0
  objectSubtype := d.u32At 4
  objectSize := d.u32At 8
  fileSystemObjectId := ⟨d.u64At 16⟩
  objectId := ⟨d.u64At 24⟩
  physicalAddress := ⟨d.u64At 32⟩

def decode (d : Bytes) : Except DecodeError Entry := do
  Bytes.requireExactLength d.length size
  return {
    objectType := ← d.readU32 0
    objectSubtype := ← d.readU32 4
    objectSize := ← d.readU32 8
    fileSystemObjectId := ⟨← d.readU64 16⟩
    objectId := ⟨← d.readU64 24⟩
    physicalAddress := ⟨← d.readU64 32⟩
  }

theorem decode_eq (d : Bytes) : decode d = (do
    Bytes.requireExactLength d.length size
    return fields d) := by
  refine bind_congr_of_ok fun _ checked => ?_
  have long : size ≤ d.length := Nat.le_of_eq (Bytes.requireExactLength_eq_ok_iff.mp checked).1.symm
  simp (disch := decide) only [Bytes.readU32_of_long long, Bytes.readU64_of_long long, ok_bind, fields]

def encode (e : Entry) (padding : UInt32) : Bytes :=
  Bytes.toLE 4 e.objectType.toNat ++ Bytes.toLE 4 e.objectSubtype.toNat ++
    Bytes.toLE 4 e.objectSize.toNat ++ Bytes.toLE 4 padding.toNat ++
    Bytes.toLE 8 e.fileSystemObjectId.value.toNat ++ Bytes.toLE 8 e.objectId.value.toNat ++
    Bytes.toLE 8 e.physicalAddress.value.toNat

def storageClass (e : Entry) : StorageClass := ObjectType.storageClass e.objectType

end Entry

end CheckpointMap

structure CheckpointMap where
  header : ObjectHeader
  flags : UInt32
  entries : List CheckpointMap.Entry
deriving DecidableEq

namespace CheckpointMap

def headerSize : Nat := 40

/-- A block of 4096 bytes holds the header and this many entries. -/
def maxEntries : Nat := 101

def lastFlag : UInt32 := 1

def requireEntryCount (n : Nat) : Except DecodeError Unit :=
  require (n ≤ maxEntries) (.outOfBounds "number_of_entries" n maxEntries)

/-- Takes `n` records from the cursor. The first failure discards the entries before it. -/
def decodeEntries (c : Cursor) : Nat → Except DecodeError (List Entry)
  | 0 => .ok []
  | n + 1 => do
    let (record, next) ← c.take Entry.size
    let entry ← Entry.decode record
    let rest ← decodeEntries next n
    return entry :: rest

def decode (d : Bytes) : Except DecodeError CheckpointMap := do
  Bytes.requireLength d.length headerSize
  let header ← ObjectHeader.decode d
  header.expectType ObjectType.checkpointMap
  let flags ← d.readU32 32
  let count := (← d.readU32 36).toNat
  requireEntryCount count
  let start ← Cursor.startAt d headerSize
  let entries ← decodeEntries start count
  return ⟨header, flags, entries⟩

theorem decode_eq (d : Bytes) : decode d = (do
    Bytes.requireLength d.length headerSize
    let header ← ObjectHeader.decode d
    header.expectType ObjectType.checkpointMap
    requireEntryCount (d.u32At 36).toNat
    let start ← Cursor.startAt d headerSize
    let entries ← decodeEntries start (d.u32At 36).toNat
    return ⟨header, d.u32At 32, entries⟩) := by
  refine Bytes.requireLength_bind_congr fun long => ?_
  simp (disch := decide) only [Bytes.readU32_of_long long, ok_bind]

def encode (header : ObjectHeader) (flags : UInt32) (entries : List (Entry × UInt32))
    (trailing : Bytes) : Bytes :=
  header.encode ++ Bytes.toLE 4 flags.toNat ++ Bytes.toLE 4 entries.length ++
    entries.flatMap (fun (e, padding) => e.encode padding) ++ trailing

def isLast (m : CheckpointMap) : Bool := m.flags &&& lastFlag ≠ 0

def entryFor? (m : CheckpointMap) (o : ObjectId) : Option Entry :=
  m.entries.find? (·.objectId = o)

def addressOf? (m : CheckpointMap) (o : ObjectId) : Option BlockNumber :=
  (m.entryFor? o).map Entry.physicalAddress

end CheckpointMap

end NxContainer
