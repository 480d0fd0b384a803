import NxContainer.Object.Header

/-! The header of the container object map. It locates the tree of virtual objects; the tree itself
is not read here. -/
namespace NxContainer

structure ObjectMap where
  header : ObjectHeader
  flags : UInt32
  snapshotCount : UInt32
  treeType : UInt32
  snapshotTreeType : UInt32
  treeBlockNumber : BlockNumber
  snapshotTreeBlockNumber : BlockNumber
  mostRecentSnapshot : TransactionId
  pendingRevertMin : TransactionId
  pendingRevertMax : TransactionId
deriving DecidableEq

namespace ObjectMap

def size : Nat := 88

def fields (d : Bytes) : ObjectMap where
  header := ObjectHeader.fields d
  flags := d.u32At 32
  snapshotCount := d.u32At 36
  treeType := d.u32At 40
  snapshotTreeType := d.u32At 44
  treeBlockNumber := ⟨d.u64At 48⟩
  snapshotTreeBlockNumber := ⟨d.u64At 56⟩
  mostRecentSnapshot := ⟨d.u64At 64⟩
  pendingRevertMin := ⟨d.u64At 72⟩
  pendingRevertMax := ⟨d.u64At 80⟩

def decode (d : Bytes) : Except DecodeError ObjectMap := do
  Bytes.requireLength d.length size
  let header ← ObjectHeader.decode d
  header.expectType ObjectType.objectMap
  return {
    header
    flags := ← d.readU32 32
    snapshotCount := ← d.readU32 36
    treeType := ← d.readU32 40
    snapshotTreeType := ← d.readU32 44
    treeBlockNumber := ⟨← d.readU64 48⟩
    snapshotTreeBlockNumber := ⟨← d.readU64 56⟩
    mostRecentSnapshot := ⟨← d.readU64 64⟩
    pendingRevertMin := ⟨← d.readU64 72⟩
    pendingRevertMax := ⟨← d.readU64 80⟩
  }

theorem decode_eq (d : Bytes) : decode d = (do
    Bytes.requireLength d.length size
    let header ← ObjectHeader.decode d
    header.expectType ObjectType.objectMap
    return fields d) := by
  refine Bytes.requireLength_bind_congr fun long => bind_congr_of_ok fun header made => ?_
  obtain ⟨_, rfl⟩ := ObjectHeader.decode_eq_ok_iff.mp made
  simp (disch := decide) only [Bytes.readU32_of_long long, Bytes.readU64_of_long long, ok_bind, fields]

def hasSnapshots (m : ObjectMap) : Bool := m.snapshotCount ≠ 0

end ObjectMap

end NxContainer
