/-! The type word of an object: the kind in the low half, storage class and flags in the high
half. -/
namespace NxContainer

inductive StorageClass where
  | virtual
  | ephemeral
  | physical
  /-- Both storage bits are set; no object of a sound container is stored this way. -/
  | reserved
deriving DecidableEq

namespace StorageClass

def name : StorageClass → String
  | .virtual => "Virtual"
  | .ephemeral => "Ephemeral"
  | .physical => "Physical"
  | .reserved => "Reserved"

def all : List StorageClass := [.virtual, .ephemeral, .physical, .reserved]

def ofName? (text : String) : Option StorageClass := all.find? (·.name = text)

end StorageClass

namespace ObjectType

def kindMask : UInt32 := 0x0000FFFF

def flagsMask : UInt32 := 0xFFFF0000

def storageMask : UInt32 := 0xC0000000

def virtualBits : UInt32 := 0x00000000

def ephemeralBits : UInt32 := 0x80000000

def physicalBits : UInt32 := 0x40000000

def superblockKind : UInt32 := 0x0001

def objectMapKind : UInt32 := 0x000B

def checkpointMapKind : UInt32 := 0x000C

def superblock : UInt32 := ephemeralBits ||| superblockKind

def objectMap : UInt32 := physicalBits ||| objectMapKind

def checkpointMap : UInt32 := physicalBits ||| checkpointMapKind

def storageClass (word : UInt32) : StorageClass :=
  let bits := word &&& storageMask
  if bits = virtualBits then .virtual
  else if bits = ephemeralBits then .ephemeral
  else if bits = physicalBits then .physical
  else .reserved

end ObjectType

end NxContainer
