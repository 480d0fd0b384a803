import NxContainer.Require
import NxContainer.Units

/-! File extent records. The key and the value of a record arrive apart and in either order, so an
extent has two halves, each of which is filled at most once. A step that fails changes nothing. -/
namespace NxContainer

structure ExtentKey where
  objectId : ObjectId
  logicalOffset : UInt64
deriving DecidableEq

namespace ExtentKey

def size : Nat := 16

def recordKind : UInt64 := 8

def kindShift : UInt64 := 60

def objectIdMask : UInt64 := 0x0FFFFFFFFFFFFFFF

def decode (d : Bytes) : Except DecodeError ExtentKey := do
  Bytes.requireLength d.length size
  let word ← d.readU64 0
  require (word >>> kindShift = recordKind)
    (.invalidField "obj_id_and_type" "record kind is not a file extent")
  return ⟨⟨word &&& objectIdMask⟩, ← d.readU64 8⟩

theorem decode_eq (d : Bytes) : decode d = (do
    Bytes.requireLength d.length size
    require (d.u64At 0 >>> kindShift = recordKind)
      (.invalidField "obj_id_and_type" "record kind is not a file extent")
    return ⟨⟨d.u64At 0 &&& objectIdMask⟩, d.u64At 8⟩) := by
  refine Bytes.requireLength_bind_congr fun long => ?_
  simp (disch := decide) only [Bytes.readU64_of_long long, ok_bind]

def encode (k : ExtentKey) : Bytes :=
  Bytes.toLE 8 ((recordKind <<< kindShift) ||| k.objectId.value).toNat ++
    Bytes.toLE 8 k.logicalOffset.toNat

end ExtentKey

structure ExtentValue where
  dataSize : UInt64
  flags : UInt8
  /-- The first block, zero for an extent without blocks. -/
  blockNumber : BlockNumber
  cryptoId : UInt64
deriving DecidableEq

namespace ExtentValue

def size : Nat := 24

/-- The low 56 bits of the first word are the size, the rest are the flags. -/
def flagShift : UInt64 := 56

def sizeMask : UInt64 := 0x00FFFFFFFFFFFFFF

def decode (d : Bytes) : Except DecodeError ExtentValue := do
  Bytes.requireLength d.length size
  let word ← d.readU64 0
  let high := word >>> flagShift
  require (high.toNat < UInt8.size) (.integerConversion "flags")
  return ⟨word &&& sizeMask, high.toUInt8, ⟨← d.readU64 8⟩, ← d.readU64 16⟩

theorem decode_eq (d : Bytes) : decode d = (do
    Bytes.requireLength d.length size
    require ((d.u64At 0 >>> flagShift).toNat < UInt8.size) (.integerConversion "flags")
    return ⟨d.u64At 0 &&& sizeMask, (d.u64At 0 >>> flagShift).toUInt8, ⟨d.u64At 8⟩, d.u64At 16⟩) := by
  refine Bytes.requireLength_bind_congr fun long => ?_
  simp (disch := decide) only [Bytes.readU64_of_long long, ok_bind]

def encode (v : ExtentValue) : Bytes :=
  Bytes.toLE 8 ((v.flags.toUInt64 <<< flagShift) ||| v.dataSize).toNat ++
    Bytes.toLE 8 v.blockNumber.value.toNat ++ Bytes.toLE 8 v.cryptoId.toNat

end ExtentValue

structure FileExtent where
  key : Option ExtentKey
  value : Option ExtentValue
deriving DecidableEq

namespace FileExtent

def empty : FileExtent := ⟨none, none⟩

def readKey (e : FileExtent) (d : Bytes) : Except DecodeError FileExtent := do
  require (e.key = none) (.alreadySet "extent key")
  return { e with key := some (← ExtentKey.decode d) }

def readValue (e : FileExtent) (d : Bytes) : Except DecodeError FileExtent := do
  require (e.value = none) (.alreadySet "extent value")
  return { e with value := some (← ExtentValue.decode d) }

/-- Both halves of one record. The key decides the error when neither can be decoded. -/
def ofRecord (key value : Bytes) : Except DecodeError FileExtent := do
  let e ← empty.readKey key
  e.readValue value

def objectId? (e : FileExtent) : Option ObjectId := e.key.map ExtentKey.objectId

def logicalOffset? (e : FileExtent) : Option UInt64 := e.key.map ExtentKey.logicalOffset

def dataSize? (e : FileExtent) : Option UInt64 := e.value.map ExtentValue.dataSize

def blockNumber? (e : FileExtent) : Option BlockNumber := e.value.map ExtentValue.blockNumber

def isComplete (e : FileExtent) : Bool := e.key.isSome && e.value.isSome

inductive Step where
  | key (data : Bytes)
  | value (data : Bytes)
  | record (key value : Bytes)
  | reset

def step (e : FileExtent) : Step → Except DecodeError FileExtent
  | .key data => e.readKey data
  | .value data => e.readValue data
  | .record key value => ofRecord key value
  | .reset => .ok empty

def run (e : FileExtent) : List Step → List (Except DecodeError Unit × FileExtent)
  | [] => []
  | s :: rest =>
    match e.step s with
    | .ok next => (.ok (), next) :: next.run rest
    | .error fault => (.error fault, e) :: e.run rest

def final (e : FileExtent) (steps : List Step) : FileExtent :=
  steps.foldl (fun e s => (e.step s).toOption.getD e) e

end FileExtent

structure ExtentMapping where
  objectId : ObjectId
  logicalOffset : UInt64
  blockNumber : BlockNumber
  dataSize : UInt64
deriving DecidableEq

def FileExtent.mapping? (e : FileExtent) : Option ExtentMapping := do
  let key ← e.key
  let value ← e.value
  return ⟨key.objectId, key.logicalOffset, value.blockNumber, value.dataSize⟩

namespace ExtentMapping

/-- A sparse extent has no blocks and reads as zeros. -/
def isSparse (m : ExtentMapping) : Bool := m.blockNumber.value = 0

def containsLogical (m : ExtentMapping) (o : UInt64) : Bool :=
  m.logicalOffset ≤ o && o - m.logicalOffset < m.dataSize

def physicalRange? (m : ExtentMapping) (s : BlockSize) : Option (ByteOffset × ByteOffset) :=
  if m.isSparse then none
  else do
    let start ← m.blockNumber.offset? s
    let stop ← start.advance? m.dataSize
    return (start, stop)

/-- The block that stores the byte at logical offset `o`. -/
def physicalBlockFor? (m : ExtentMapping) (o : UInt64) (s : BlockSize) : Option BlockNumber :=
  if m.isSparse || !m.containsLogical o then none
  else
    let blocks := (s.blockOf (o - m.logicalOffset)).value
    (word64? (m.blockNumber.value.toNat + blocks.toNat)).map BlockNumber.mk

end ExtentMapping

end NxContainer
