import NxContainer.ReadError

/-! What a container reports while it is read. A traced computation carries its report beside its
result, and the report of a failed step is kept. -/
namespace NxContainer

inductive Event where
  | containerOpen (blockSize : BlockSize) (blockCount : UInt64) (superblockBlock : BlockNumber)
      (transactionId : TransactionId) (objectMapBlock : BlockNumber)
  | checksumMismatchIgnored (block : BlockNumber) (stored computed : UInt64)
  | objectMapRead (block treeBlock : BlockNumber) (snapshots : UInt32)
  | checkpointMapRead (block : BlockNumber) (entries : Nat) (last : Bool)
  | resolveEphemeral (object : ObjectId) (block : Option BlockNumber)
deriving DecidableEq

namespace Event

inductive Level where
  | trace
  | debug
  | warn
deriving DecidableEq

def Level.name : Level → String
  | .trace => "TRACE"
  | .debug => "DEBUG"
  | .warn => "WARN"

def level : Event → Level
  | checksumMismatchIgnored _ _ _ => .warn
  | resolveEphemeral _ _ => .trace
  | containerOpen _ _ _ _ _ | objectMapRead _ _ _ | checkpointMapRead _ _ _ => .debug

def message : Event → String
  | containerOpen _ _ _ _ _ => "container_open"
  | checksumMismatchIgnored _ _ _ => "object_checksum_mismatch_ignored"
  | objectMapRead _ _ _ => "object_map_read"
  | checkpointMapRead _ _ _ => "physical_map_read"
  | resolveEphemeral _ _ => "resolve_ephemeral"

inductive Datum where
  | number (n : Nat)
  | flag (b : Bool)
deriving DecidableEq

def data : Event → List (String × Datum)
  | containerOpen blockSize blockCount superblockBlock transactionId objectMapBlock =>
    [("block_size", .number blockSize.value.toNat), ("block_count", .number blockCount.toNat),
      ("superblock_block", .number superblockBlock.value.toNat),
      ("transaction_id", .number transactionId.value.toNat),
      ("object_map_block", .number objectMapBlock.value.toNat)]
  | checksumMismatchIgnored block stored computed =>
    [("block", .number block.value.toNat), ("stored", .number stored.toNat),
      ("computed", .number computed.toNat)]
  | objectMapRead block treeBlock snapshots =>
    [("block", .number block.value.toNat), ("tree_block", .number treeBlock.value.toNat),
      ("snapshots", .number snapshots.toNat)]
  | checkpointMapRead block entries last =>
    [("block", .number block.value.toNat), ("entries", .number entries), ("last", .flag last)]
  | resolveEphemeral object block =>
    ("oid", .number object.value.toNat) ::
      (block.map fun b => ("block", .number b.value.toNat)).toList

end Event

structure Traced (α : Type) where
  log : List Event
  result : Except ReadError α

namespace Traced

def pure {α : Type} (a : α) : Traced α := ⟨[], .ok a⟩

/-- The second computation reports behind the first one, and only if that one succeeded. -/
def bind {α β : Type} (x : Traced α) (f : α → Traced β) : Traced β :=
  match x.result with
  | .ok a =>
    let y := f a
    ⟨x.log ++ y.log, y.result⟩
  | .error e => ⟨x.log, .error e⟩

instance : Monad Traced where
  pure := Traced.pure
  bind := Traced.bind

def ofExcept {α : Type} (x : Except ReadError α) : Traced α := ⟨[], x⟩

instance : MonadLift (Except ReadError) Traced := ⟨ofExcept⟩

def emit (e : Event) : Traced Unit := ⟨[e], .ok ()⟩

def decoded {α : Type} (block : BlockNumber) (x : Except DecodeError α) : Traced α :=
  ofExcept (x.mapError (ReadError.ofDecode block))

end Traced

end NxContainer
