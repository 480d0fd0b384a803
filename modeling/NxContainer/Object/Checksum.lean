import NxContainer.Object.Header

/-! The Fletcher-64 checksum of a stored object. Two running sums over the 32-bit words behind the
checksum field are kept modulo 2^32 - 1; the result is the pair of words that, appended to the
object, would close both sums to zero. The checksum field itself is never summed. -/
namespace NxContainer.Checksum

def fieldSize : Nat := 8

def modulus : UInt64 := 0xFFFFFFFF

def words : Bytes → List UInt32
  | a :: b :: c :: d :: rest => UInt32.ofNat (Bytes.ofLE [a, b, c, d]) :: words rest
  | _ => []

structure Sums where
  first : UInt64
  second : UInt64
deriving DecidableEq

def Sums.add (s : Sums) (word : UInt32) : Sums :=
  let first := (s.first + word.toUInt64) % modulus
  ⟨first, (s.second + first) % modulus⟩

def sums (ws : List UInt32) : Sums := ws.foldl Sums.add ⟨0, 0⟩

def Sums.close (s : Sums) : UInt64 :=
  let low := modulus - (s.first + s.second) % modulus
  let high := modulus - (s.first + low) % modulus
  (high <<< 32) ||| low

def compute (object : Bytes) : Except DecodeError UInt64 := do
  require (ObjectHeader.size ≤ object.length)
    (.insufficientData ObjectHeader.size 0 object.length)
  require ((object.length - fieldSize) % 4 = 0)
    (.invalidField "object_length" "checksummed region is not a multiple of 4 bytes")
  return (sums (words (object.drop fieldSize))).close

inductive Verdict where
  | matching
  | mismatch (stored computed : UInt64)
deriving DecidableEq

def verify (object : Bytes) : Except DecodeError Verdict := do
  let stored ← object.readU64 0
  let computed ← compute object
  return if stored = computed then .matching else .mismatch stored computed

/-! An object of the shape of a block has a whole number of words, no fewer than a header takes. On
such an object the check itself never fails. -/

def fletcher64 (object : Bytes) : UInt64 := (sums (words (object.drop fieldSize))).close

structure Summable (object : Bytes) : Prop where
  long : 32 ≤ object.length
  whole : object.length % 4 = 0

theorem compute_eq_fletcher64 {object : Bytes} (h : Summable object) :
    compute object = .ok (fletcher64 object) := by
  have long := h.long
  have whole := h.whole
  have rest : (object.length - fieldSize) % 4 = 0 := by
    rw [fieldSize]
    omega
  rw [compute, require_pos (p := ObjectHeader.size ≤ object.length) long, require_pos rest]
  rfl

theorem verify_eq_verdict {object : Bytes} (h : Summable object) :
    verify object = .ok (if object.u64At 0 = fletcher64 object then .matching
      else .mismatch (object.u64At 0) (fletcher64 object)) := by
  have inside : 0 + 8 ≤ object.length := Nat.le_trans (by decide) h.long
  have field : object.readU64 0 = .ok (object.u64At 0) :=
    Bytes.readU64_of_inside (by decide) inside
  rw [verify, field, compute_eq_fletcher64 h]
  rfl

end NxContainer.Checksum
