import NxContainer.DecodeError
import NxContainer.Require

/-! Byte strings and the checked window on them. A window that does not fit is an error and never a
shorter window. Offsets and lengths are natural numbers; the address space of 2^64 bytes enters only
as the bound that an end offset must stay below. -/
namespace NxContainer

abbrev Bytes := List UInt8

/-- The end of every window lies below this many bytes. -/
def addressLimit : Nat := 18446744073709551616

namespace Bytes

/-- The longest byte string a decoder accepts: the largest signed 64-bit number of bytes. -/
def maxLength : Nat := 9223372036854775807

def window (d : Bytes) (o n : Nat) : Bytes := (d.drop o).take n

def slice (d : Bytes) (o n : Nat) : Except DecodeError Bytes :=
  if addressLimit ≤ o + n then .error (.invalidField "offset" "overflow")
  else if d.length < o + n then .error (.insufficientData n o (d.length - o))
  else .ok (d.window o n)

/-- A length must lie between the structural minimum and the longest accepted string. -/
def requireLength (length minimum : Nat) : Except DecodeError Unit := do
  require (length ≤ maxLength) (.outOfBounds "data_size" length maxLength)
  require (minimum ≤ length) (.insufficientData minimum 0 length)

def requireExactLength (length size : Nat) : Except DecodeError Unit := do
  requireLength length size
  require (length = size) (.outOfBounds "record_size" length size)

theorem length_window (d : Bytes) (o n : Nat) : (d.window o n).length = min n (d.length - o) := by
  simp [window]

theorem getD_window {d : Bytes} {o n k : Nat} (inside : k < n) :
    (d.window o n).getD k 0 = d.getD (o + k) 0 := by
  simp only [window, List.getD_eq_getElem?_getD, List.getElem?_take, inside, if_true,
    List.getElem?_drop]

theorem slice_eq_ok_iff {d : Bytes} {o n : Nat} {p : Bytes} :
    d.slice o n = .ok p ↔ o + n < addressLimit ∧ o + n ≤ d.length ∧ d.window o n = p := by
  unfold slice
  split
  · rename_i far
    exact ⟨nofun, fun h => absurd h.1 (Nat.not_lt.mpr far)⟩
  · rename_i near
    split
    · rename_i short
      exact ⟨nofun, fun h => absurd h.2.1 (Nat.not_le.mpr short)⟩
    · rename_i fits
      exact ⟨fun h => ⟨Nat.not_le.mp near, Nat.not_lt.mp fits, Except.ok.inj h⟩,
        fun h => congrArg Except.ok h.2.2⟩

theorem slice_eq_error_iff {d : Bytes} {o n : Nat} {e : DecodeError} :
    d.slice o n = .error e ↔
      (addressLimit ≤ o + n ∧ e = .invalidField "offset" "overflow") ∨
      (o + n < addressLimit ∧ d.length < o + n ∧ e = .insufficientData n o (d.length - o)) := by
  unfold slice
  split
  · rename_i far
    constructor
    · exact fun h => Or.inl ⟨far, (Except.error.inj h).symm⟩
    · rintro (⟨_, rfl⟩ | ⟨near, _⟩)
      · rfl
      · exact absurd near (Nat.not_lt.mpr far)
  · rename_i near
    split
    · rename_i short
      constructor
      · exact fun h => Or.inr ⟨Nat.not_le.mp near, short, (Except.error.inj h).symm⟩
      · rintro (⟨far, _⟩ | ⟨_, _, rfl⟩)
        · exact absurd far near
        · rfl
    · rename_i fits
      constructor
      · nofun
      · rintro (⟨far, _⟩ | ⟨_, short, _⟩)
        · exact absurd far near
        · exact absurd short fits

theorem requireLength_eq_ok_iff {length minimum : Nat} :
    requireLength length minimum = .ok () ↔ minimum ≤ length ∧ length ≤ maxLength := by
  rw [requireLength, require_bind_eq_ok_iff, require_eq_ok_iff]
  exact and_comm

/-- Behind the check there are the bytes that were asked for. -/
theorem requireLength_bind_congr {α : Type} {length minimum : Nat} {f g : Unit → Except DecodeError α}
    (same : minimum ≤ length → f () = g ()) :
    requireLength length minimum >>= f = requireLength length minimum >>= g :=
  bind_congr_of_ok fun _ checked => same (requireLength_eq_ok_iff.mp checked).1

theorem requireLength_eq_error_iff {length minimum : Nat} {e : DecodeError}
    (bounded : length ≤ maxLength) :
    requireLength length minimum = .error e ↔
      length < minimum ∧ e = .insufficientData minimum 0 length := by
  simp only [requireLength, bind_eq_error_iff, require_eq_error_iff, require_eq_ok_iff, Nat.not_le]
  constructor
  · rintro (⟨long, _⟩ | ⟨_, _, short, he⟩)
    · exact absurd bounded (Nat.not_le.mpr long)
    · exact ⟨short, he⟩
  · exact fun h => Or.inr ⟨(), bounded, h⟩

theorem requireExactLength_eq_ok_iff {length size : Nat} :
    requireExactLength length size = .ok () ↔ length = size ∧ length ≤ maxLength := by
  rw [requireExactLength, check_bind_eq_ok_iff, requireLength_eq_ok_iff, require_eq_ok_iff]
  constructor
  · rintro ⟨⟨_, bounded⟩, exactly⟩
    exact ⟨exactly, bounded⟩
  · rintro ⟨exactly, bounded⟩
    exact ⟨⟨Nat.le_of_eq exactly.symm, bounded⟩, exactly⟩

theorem requireExactLength_of_longer {length size : Nat} (bounded : length ≤ maxLength)
    (longer : size < length) :
    requireExactLength length size = .error (.outOfBounds "record_size" length size) := by
  rw [requireExactLength, requireLength_eq_ok_iff.mpr ⟨Nat.le_of_lt longer, bounded⟩, ok_bind,
    require_neg (Nat.ne_of_gt longer)]

end Bytes

end NxContainer
