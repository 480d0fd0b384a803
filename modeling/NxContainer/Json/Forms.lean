import NxContainer.CheckpointMap
import NxContainer.Container.Basic
import NxContainer.Json.Record
import NxContainer.ObjectMap

/-! The JSON forms of what is read from a container, each with a writer and a reader. A reader does
not repeat the checks of a decoder, with one exception: a checkpoint map keeps to its entry limit in
either way of obtaining it. -/
namespace NxContainer

open Json (field field? record ofMembers ofList ofNat ofOption)

inductive Mismatch where
  | shape
  | refused (cause : DecodeError)
deriving DecidableEq

/-! ### Numbers with a unit -/

def BlockNumber.toJson (b : BlockNumber) : Json := ofNat b.value.toNat

def BlockNumber.ofJson? (j : Json) : Option BlockNumber := j.word64?.map BlockNumber.mk

def ObjectId.toJson (o : ObjectId) : Json := ofNat o.value.toNat

def ObjectId.ofJson? (j : Json) : Option ObjectId := j.word64?.map ObjectId.mk

def TransactionId.toJson (t : TransactionId) : Json := ofNat t.value.toNat

def TransactionId.ofJson? (j : Json) : Option TransactionId := j.word64?.map TransactionId.mk

def ByteOffset.toJson (o : ByteOffset) : Json := ofNat o.value.toNat

def ByteOffset.ofJson? (j : Json) : Option ByteOffset := j.word64?.map ByteOffset.mk

def BlockSize.toJson (s : BlockSize) : Json := ofNat s.value.toNat

/-- Any 32-bit word is read; whether it is a valid size is not asked here. -/
def BlockSize.ofJson? (j : Json) : Option BlockSize := j.word32?.map BlockSize.mk

/-! ### Objects -/

def StorageClass.toJson (s : StorageClass) : Json := .ofText s.name

/-- A name, or an object whose one member has that name and null for its value. -/
def StorageClass.ofJson? : Json → Option StorageClass
  | .string name => (Json.Piece.join name).bind StorageClass.ofName?
  | .object [(name, .null)] => (Json.Piece.join name).bind StorageClass.ofName?
  | _ => none

def ObjectHeader.toJson (h : ObjectHeader) : Json := ofMembers [
  ("checksum", ofNat h.checksum.toNat),
  ("object_id", h.objectId.toJson),
  ("transaction_id", h.transactionId.toJson),
  ("object_type", ofNat h.objectType.toNat),
  ("object_subtype", ofNat h.objectSubtype.toNat)]

def ObjectHeader.ofJson? : Json → Option ObjectHeader := record do
  let checksum ← field "checksum" Json.word64?
  let objectId ← field "object_id" ObjectId.ofJson?
  let transactionId ← field "transaction_id" TransactionId.ofJson?
  let objectType ← field "object_type" Json.word32?
  let objectSubtype ← field "object_subtype" Json.word32?
  return { checksum, objectId, transactionId, objectType, objectSubtype }

def Uuid.toJson (u : Uuid) : Json := ofList (ofNat ·.toNat) u.toList

def Uuid.ofJson? (j : Json) : Option Uuid := do
  let bytes ← j.list? Json.word8?
  if h : bytes.toArray.size = 16 then return ⟨bytes.toArray, h⟩ else none

def Superblock.toJson (s : Superblock) : Json := ofMembers [
  ("header", s.header.toJson),
  ("magic", ofNat s.magic.toNat),
  ("block_size", ofNat s.blockSize.toNat),
  ("number_of_blocks", ofNat s.numberOfBlocks.toNat),
  ("features", ofNat s.features.toNat),
  ("readonly_compatible_features", ofNat s.readonlyCompatibleFeatures.toNat),
  ("incompatible_features", ofNat s.incompatibleFeatures.toNat),
  ("uuid", Uuid.toJson s.uuid),
  ("next_object_id", s.nextObjectId.toJson),
  ("next_transaction_id", s.nextTransactionId.toJson),
  ("checkpoint_descriptor_blocks", ofNat s.checkpointDescriptorBlocks.toNat),
  ("checkpoint_data_blocks", ofNat s.checkpointDataBlocks.toNat),
  ("checkpoint_descriptor_base", ofNat s.checkpointDescriptorBase.toNat),
  ("checkpoint_data_base", ofNat s.checkpointDataBase.toNat),
  ("checkpoint_descriptor_next", ofNat s.checkpointDescriptorNext.toNat),
  ("checkpoint_data_next", ofNat s.checkpointDataNext.toNat),
  ("checkpoint_descriptor_index", ofNat s.checkpointDescriptorIndex.toNat),
  ("checkpoint_descriptor_length", ofNat s.checkpointDescriptorLength.toNat),
  ("checkpoint_data_index", ofNat s.checkpointDataIndex.toNat),
  ("checkpoint_data_length", ofNat s.checkpointDataLength.toNat),
  ("space_manager_object_id", s.spaceManagerObjectId.toJson),
  ("object_map_block_number", s.objectMapBlockNumber.toJson),
  ("reaper_object_id", s.reaperObjectId.toJson),
  ("max_file_systems", ofNat s.maxFileSystems.toNat),
  ("volume_object_ids", ofList ObjectId.toJson s.volumeObjectIds)]

def Superblock.ofJson? : Json → Option Superblock := record do
  let header ← field "header" ObjectHeader.ofJson?
  let magic ← field "magic" Json.word32?
  let blockSize ← field "block_size" Json.word32?
  let numberOfBlocks ← field "number_of_blocks" Json.word64?
  let features ← field "features" Json.word64?
  let readonlyCompatibleFeatures ← field "readonly_compatible_features" Json.word64?
  let incompatibleFeatures ← field "incompatible_features" Json.word64?
  let uuid ← field "uuid" Uuid.ofJson?
  let nextObjectId ← field "next_object_id" ObjectId.ofJson?
  let nextTransactionId ← field "next_transaction_id" TransactionId.ofJson?
  let checkpointDescriptorBlocks ← field "checkpoint_descriptor_blocks" Json.word32?
  let checkpointDataBlocks ← field "checkpoint_data_blocks" Json.word32?
  let checkpointDescriptorBase ← field "checkpoint_descriptor_base" Json.word64?
  let checkpointDataBase ← field "checkpoint_data_base" Json.word64?
  let checkpointDescriptorNext ← field "checkpoint_descriptor_next" Json.word32?
  let checkpointDataNext ← field "checkpoint_data_next" Json.word32?
  let checkpointDescriptorIndex ← field "checkpoint_descriptor_index" Json.word32?
  let checkpointDescriptorLength ← field "checkpoint_descriptor_length" Json.word32?
  let checkpointDataIndex ← field "checkpoint_data_index" Json.word32?
  let checkpointDataLength ← field "checkpoint_data_length" Json.word32?
  let spaceManagerObjectId ← field "space_manager_object_id" ObjectId.ofJson?
  let objectMapBlockNumber ← field "object_map_block_number" BlockNumber.ofJson?
  let reaperObjectId ← field "reaper_object_id" ObjectId.ofJson?
  let maxFileSystems ← field "max_file_systems" Json.word32?
  let volumeObjectIds ← field "volume_object_ids" (Json.list? ObjectId.ofJson?)
  return {
    header, magic, blockSize, numberOfBlocks, features, readonlyCompatibleFeatures,
    incompatibleFeatures, uuid, nextObjectId, nextTransactionId, checkpointDescriptorBlocks,
    checkpointDataBlocks, checkpointDescriptorBase, checkpointDataBase, checkpointDescriptorNext,
    checkpointDataNext, checkpointDescriptorIndex, checkpointDescriptorLength,
    checkpointDataIndex, checkpointDataLength, spaceManagerObjectId, objectMapBlockNumber,
    reaperObjectId, maxFileSystems, volumeObjectIds }

def ObjectMap.toJson (m : ObjectMap) : Json := ofMembers [
  ("header", m.header.toJson),
  ("flags", ofNat m.flags.toNat),
  ("snapshot_count", ofNat m.snapshotCount.toNat),
  ("tree_type", ofNat m.treeType.toNat),
  ("snapshot_tree_type", ofNat m.snapshotTreeType.toNat),
  ("object_map_btree_block_number", m.treeBlockNumber.toJson),
  ("snapshot_tree_block_number", m.snapshotTreeBlockNumber.toJson),
  ("most_recent_snapshot", m.mostRecentSnapshot.toJson),
  ("pending_revert_min", m.pendingRevertMin.toJson),
  ("pending_revert_max", m.pendingRevertMax.toJson)]

def ObjectMap.ofJson? : Json → Option ObjectMap := record do
  let header ← field "header" ObjectHeader.ofJson?
  let flags ← field "flags" Json.word32?
  let snapshotCount ← field "snapshot_count" Json.word32?
  let treeType ← field "tree_type" Json.word32?
  let snapshotTreeType ← field "snapshot_tree_type" Json.word32?
  let treeBlockNumber ← field "object_map_btree_block_number" BlockNumber.ofJson?
  let snapshotTreeBlockNumber ← field "snapshot_tree_block_number" BlockNumber.ofJson?
  let mostRecentSnapshot ← field "most_recent_snapshot" TransactionId.ofJson?
  let pendingRevertMin ← field "pending_revert_min" TransactionId.ofJson?
  let pendingRevertMax ← field "pending_revert_max" TransactionId.ofJson?
  return {
    header, flags, snapshotCount, treeType, snapshotTreeType, treeBlockNumber,
    snapshotTreeBlockNumber, mostRecentSnapshot, pendingRevertMin, pendingRevertMax }

/-! ### Checkpoint maps -/

def CheckpointMap.Entry.toJson (e : CheckpointMap.Entry) : Json := ofMembers [
  ("object_type", ofNat e.objectType.toNat),
  ("object_subtype", ofNat e.objectSubtype.toNat),
  ("object_size", ofNat e.objectSize.toNat),
  ("file_system_object_identifier", e.fileSystemObjectId.toJson),
  ("object_identifier", e.objectId.toJson),
  ("physical_address", e.physicalAddress.toJson)]

def CheckpointMap.Entry.ofJson? : Json → Option CheckpointMap.Entry := record do
  let objectType ← field "object_type" Json.word32?
  let objectSubtype ← field "object_subtype" Json.word32?
  let objectSize ← field "object_size" Json.word32?
  let fileSystemObjectId ← field "file_system_object_identifier" ObjectId.ofJson?
  let objectId ← field "object_identifier" ObjectId.ofJson?
  let physicalAddress ← field "physical_address" BlockNumber.ofJson?
  return {
    objectType, objectSubtype, objectSize, fileSystemObjectId, objectId, physicalAddress }

def CheckpointMap.toJson (m : CheckpointMap) : Json := ofMembers [
  ("header", m.header.toJson),
  ("flags", ofNat m.flags.toNat),
  ("entries", ofList CheckpointMap.Entry.toJson m.entries)]

def CheckpointMap.members? : Json → Option CheckpointMap := record do
  let header ← field "header" ObjectHeader.ofJson?
  let flags ← field "flags" Json.word32?
  let entries ← field "entries" (Json.list? CheckpointMap.Entry.ofJson?)
  return { header, flags, entries }

def CheckpointMap.ofJson (j : Json) : Except Mismatch CheckpointMap :=
  match CheckpointMap.members? j with
  | none => .error .shape
  | some map => do
    (CheckpointMap.requireEntryCount map.entries.length).mapError .refused
    return map

/-! ### File extents -/

def ExtentKey.toJson (k : ExtentKey) : Json := ofMembers [
  ("object_id", k.objectId.toJson),
  ("logical_offset", ofNat k.logicalOffset.toNat)]

def ExtentKey.ofJson? : Json → Option ExtentKey := record do
  let objectId ← field "object_id" ObjectId.ofJson?
  let logicalOffset ← field "logical_offset" Json.word64?
  return { objectId, logicalOffset }

def ExtentValue.toJson (v : ExtentValue) : Json := ofMembers [
  ("data_size", ofNat v.dataSize.toNat),
  ("flags", ofNat v.flags.toNat),
  ("block_number", v.blockNumber.toJson),
  ("crypto_id", ofNat v.cryptoId.toNat)]

def ExtentValue.ofJson? : Json → Option ExtentValue := record do
  let dataSize ← field "data_size" Json.word64?
  let flags ← field "flags" Json.word8?
  let blockNumber ← field "block_number" BlockNumber.ofJson?
  let cryptoId ← field "crypto_id" Json.word64?
  return { dataSize, flags, blockNumber, cryptoId }

def FileExtent.toJson (e : FileExtent) : Json := ofMembers [
  ("key", ofOption ExtentKey.toJson e.key),
  ("value", ofOption ExtentValue.toJson e.value)]

def FileExtent.ofJson? : Json → Option FileExtent := record do
  let key ← field? "key" ExtentKey.ofJson?
  let value ← field? "value" ExtentValue.ofJson?
  return { key, value }

def ExtentMapping.toJson (m : ExtentMapping) : Json := ofMembers [
  ("object_id", m.objectId.toJson),
  ("logical_offset", ofNat m.logicalOffset.toNat),
  ("block_number", m.blockNumber.toJson),
  ("data_size", ofNat m.dataSize.toNat)]

def ExtentMapping.ofJson? : Json → Option ExtentMapping := record do
  let objectId ← field "object_id" ObjectId.ofJson?
  let logicalOffset ← field "logical_offset" Json.word64?
  let blockNumber ← field "block_number" BlockNumber.ofJson?
  let dataSize ← field "data_size" Json.word64?
  return { objectId, logicalOffset, blockNumber, dataSize }

/-! ### Options -/

def OpenOptions.toJson (o : OpenOptions) : Json := ofMembers [
  ("skip_validation", .bool o.skipValidation),
  ("verify_checksums", .bool o.verifyChecksums),
  ("superblock_block", o.superblockBlock.toJson)]

def OpenOptions.ofJson? : Json → Option OpenOptions := record do
  let skipValidation ← field "skip_validation" Json.bool?
  let verifyChecksums ← field "verify_checksums" Json.bool?
  let superblockBlock ← field "superblock_block" BlockNumber.ofJson?
  return { skipValidation, verifyChecksums, superblockBlock }

end NxContainer
