import NxContainer.Container.Basic

/-! A container written out on one line for diagnosis: every field by name, numbers with a unit
inside the name of the unit, and a final mark for what is not shown. -/
namespace NxContainer

namespace Description

def fields (parts : List (String × String)) : String :=
  ", ".intercalate (parts.map fun (name, value) => s!"{name}: {value}")

def record (name : String) (parts : List (String × String)) : String :=
  s!"{name} \x7b {fields parts} \x7d"

/-- A record of which not everything is shown. -/
def openRecord (name : String) (parts : List (String × String)) : String :=
  s!"{name} \x7b {fields parts}, .. \x7d"

def unit (name : String) (n : Nat) : String := s!"{name}({n})"

def list (items : List String) : String :=
  let inner := ", ".intercalate items
  s!"[{inner}]"

end Description

open Description

def BlockNumber.description (b : BlockNumber) : String := unit "BlockNumber" b.value.toNat

def ObjectId.description (o : ObjectId) : String := unit "ObjectId" o.value.toNat

def TransactionId.description (t : TransactionId) : String := unit "TransactionId" t.value.toNat

def BlockSize.description (s : BlockSize) : String := unit "BlockSize" s.value.toNat

def ObjectHeader.description (h : ObjectHeader) : String :=
  record "ObjectHeader" [
    ("checksum", h.checksum.toNat.repr),
    ("object_id", h.objectId.description),
    ("transaction_id", h.transactionId.description),
    ("object_type", h.objectType.toNat.repr),
    ("object_subtype", h.objectSubtype.toNat.repr)]

def Superblock.description (s : Superblock) : String :=
  record "ContainerSuperblock" [
    ("header", s.header.description),
    ("magic", s.magic.toNat.repr),
    ("block_size", s.blockSize.toNat.repr),
    ("number_of_blocks", s.numberOfBlocks.toNat.repr),
    ("features", s.features.toNat.repr),
    ("readonly_compatible_features", s.readonlyCompatibleFeatures.toNat.repr),
    ("incompatible_features", s.incompatibleFeatures.toNat.repr),
    ("uuid", list (s.uuid.toList.map (·.toNat.repr))),
    ("next_object_id", s.nextObjectId.description),
    ("next_transaction_id", s.nextTransactionId.description),
    ("checkpoint_descriptor_blocks", s.checkpointDescriptorBlocks.toNat.repr),
    ("checkpoint_data_blocks", s.checkpointDataBlocks.toNat.repr),
    ("checkpoint_descriptor_base", s.checkpointDescriptorBase.toNat.repr),
    ("checkpoint_data_base", s.checkpointDataBase.toNat.repr),
    ("checkpoint_descriptor_next", s.checkpointDescriptorNext.toNat.repr),
    ("checkpoint_data_next", s.checkpointDataNext.toNat.repr),
    ("checkpoint_descriptor_index", s.checkpointDescriptorIndex.toNat.repr),
    ("checkpoint_descriptor_length", s.checkpointDescriptorLength.toNat.repr),
    ("checkpoint_data_index", s.checkpointDataIndex.toNat.repr),
    ("checkpoint_data_length", s.checkpointDataLength.toNat.repr),
    ("space_manager_object_id", s.spaceManagerObjectId.description),
    ("object_map_block_number", s.objectMapBlockNumber.description),
    ("reaper_object_id", s.reaperObjectId.description),
    ("max_file_systems", s.maxFileSystems.toNat.repr),
    ("volume_object_ids", list (s.volumeObjectIds.map ObjectId.description))]

def OpenOptions.description (o : OpenOptions) : String :=
  record "OpenOptions" [
    ("skip_validation", toString o.skipValidation),
    ("verify_checksums", toString o.verifyChecksums),
    ("superblock_block", o.superblockBlock.description)]

def Container.description (c : Container) : String :=
  openRecord "OpenContainer" [
    ("superblock", c.superblock.description),
    ("block_size", c.blockSize.description),
    ("options", c.options.description),
    ("dev_len", c.device.length.repr)]

end NxContainer
