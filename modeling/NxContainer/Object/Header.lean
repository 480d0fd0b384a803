import NxContainer.ObjectType
import NxContainer.Units

/-! The header that every stored object begins with. -/
namespace NxContainer

structure ObjectHeader where
  checksum : UInt64
  objectId : ObjectId
  transactionId : TransactionId
  objectType : UInt32
  objectSubtype : UInt32
deriving DecidableEq

namespace ObjectHeader

def size : Nat := 32

def fields (d : Bytes) : ObjectHeader where
  checksum := d.u64At 0
  objectId := ⟨d.u64At 8⟩
  transactionId := ⟨d.u64At 16⟩
  objectType := d.u32At 24
  objectSubtype := d.u32At 28

def decode (d : Bytes) : Except DecodeError ObjectHeader := do
  require (size ≤ d.length) (.insufficientData size 0 d.length)
  return {
    checksum := ← d.readU64 0
    objectId := ⟨← d.readU64 8⟩
    transactionId := ⟨← d.readU64 16⟩
    objectType := ← d.readU32 24
    objectSubtype := ← d.readU32 28
  }

theorem decode_eq (d : Bytes) : decode d = (do
    require (size ≤ d.length) (.insufficientData size 0 d.length)
    return fields d) := by
  refine bind_congr_of_ok fun _ checked => ?_
  have long : size ≤ d.length := require_eq_ok_iff.mp checked
  simp (disch := decide) only [Bytes.readU32_of_long long, Bytes.readU64_of_long long, ok_bind, fields]

theorem decode_eq_ok_iff {d : Bytes} {h : ObjectHeader} :
    decode d = .ok h ↔ 32 ≤ d.length ∧ fields d = h := by
  rw [decode_eq, require_bind_eq_ok_iff, pure_eq_ok_iff, size]

theorem decode_eq_error_iff {d : Bytes} {e : DecodeError} :
    decode d = .error e ↔ d.length < 32 ∧ e = .insufficientData 32 0 d.length := by
  simp only [decode_eq, bind_eq_error_iff, require_eq_error_iff, Nat.not_le]
  constructor
  · rintro (short | ⟨_, _, impossible⟩)
    · exact short
    · cases impossible
  · exact Or.inl

def encode (h : ObjectHeader) : Bytes :=
  Bytes.toLE 8 h.checksum.toNat ++ Bytes.toLE 8 h.objectId.value.toNat ++
    Bytes.toLE 8 h.transactionId.value.toNat ++ Bytes.toLE 4 h.objectType.toNat ++
    Bytes.toLE 4 h.objectSubtype.toNat

def kind (h : ObjectHeader) : UInt32 := h.objectType &&& ObjectType.kindMask

def typeFlags (h : ObjectHeader) : UInt32 := h.objectType &&& ObjectType.flagsMask

def storageClass (h : ObjectHeader) : StorageClass := ObjectType.storageClass h.objectType

def expectType (h : ObjectHeader) (expected : UInt32) : Except DecodeError Unit :=
  require (h.objectType = expected) (.invalidObjectType expected h.objectType)

end ObjectHeader

end NxContainer
