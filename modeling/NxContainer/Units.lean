import NxContainer.Bytes.LittleEndian

/-! Numbers that carry their unit: block addresses, object and transaction identifiers, byte
offsets and block sizes. Conversions between blocks and bytes are exact or absent. -/
namespace NxContainer

structure BlockNumber where
  value : UInt64
deriving DecidableEq

structure ObjectId where
  value : UInt64
deriving DecidableEq

structure TransactionId where
  value : UInt64
deriving DecidableEq

structure ByteOffset where
  value : UInt64
deriving DecidableEq

/-- The number of bytes in a block. The constructor admits any word; `BlockSize.ofWord` admits the
sizes that a container may declare. -/
structure BlockSize where
  value : UInt32
deriving DecidableEq

def BlockNumber.text (b : BlockNumber) : String := s!"{b.value.toNat}"

def TransactionId.text (t : TransactionId) : String := s!"{t.value.toNat}"

namespace ObjectId

/-- Zero names no object. -/
def invalid : ObjectId := ⟨0⟩

def isValid (o : ObjectId) : Bool := o ≠ invalid

def text (o : ObjectId) : String := Hex.minimal o.value.toNat

end ObjectId

namespace ByteOffset

def zero : ByteOffset := ⟨0⟩

def advance? (o : ByteOffset) (n : UInt64) : Option ByteOffset :=
  (word64? (o.value.toNat + n.toNat)).map ByteOffset.mk

def text (o : ByteOffset) : String := s!"{o.value.toNat}"

end ByteOffset

namespace BlockSize

def smallest : UInt32 := 4096

def largest : UInt32 := 65536

def isPowerOfTwo (w : UInt32) : Bool := w ≠ 0 && w &&& (w - 1) = 0

def ofWord (w : UInt32) : Except DecodeError BlockSize :=
  if isPowerOfTwo w ∧ smallest ≤ w ∧ w ≤ largest then .ok ⟨w⟩
  else .error (.invalidField "block_size" "must be power of two in 4096..=65536")

/-- The number of zero bits below the lowest set bit, 32 if no bit is set. -/
def shift (s : BlockSize) : Nat :=
  ((List.range 32).find? s.value.toNat.testBit).getD 32

def blockOf (s : BlockSize) (o : UInt64) : BlockNumber :=
  ⟨UInt64.ofNat (o.toNat >>> s.shift)⟩

def text (s : BlockSize) : String := s!"{s.value.toNat}"

end BlockSize

def BlockNumber.offset? (b : BlockNumber) (s : BlockSize) : Option ByteOffset :=
  (word64? (b.value.toNat * s.value.toNat)).map ByteOffset.mk

end NxContainer
