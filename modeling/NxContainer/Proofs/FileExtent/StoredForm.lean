import NxContainer.FileExtent
import NxContainer.Proofs.Bytes.Packed
import NxContainer.Proofs.Bytes.Window

/-! The stored form of the two halves of an extent. The first word of either half is packed, the
identifier below the record kind and the size below the flags. -/
namespace NxContainer

/-- Of the values in range, the decoder reads back what is laid out, with anything behind it. It gives
no other values, and it refuses exactly the buffers that it should. -/
structure StoredForm {α : Type} (decode : Bytes → Except DecodeError α) (encode : α → Bytes)
    (size : Nat) (InRange : α → Prop) (Refused : Bytes → DecodeError → Prop) : Prop where
  length : ∀ x, (encode x).length = size
  laidOut : ∀ x rest, InRange x → (encode x ++ rest).length ≤ Bytes.maxLength →
    decode (encode x ++ rest) = .ok x
  readBack : ∀ d x, decode d = .ok x → InRange x ∧ encode x = d.window 0 size
  refused : ∀ d e, d.length ≤ Bytes.maxLength → (decode d = .error e ↔ Refused d e)

namespace ExtentKey

theorem packed : Packed kindShift objectIdMask := ⟨by decide, rfl⟩

def InRange (k : ExtentKey) : Prop := k.objectId.value.toNat < 2 ^ 60

instance (k : ExtentKey) : Decidable k.InRange := inferInstanceAs (Decidable (_ < _))

inductive Refused (d : Bytes) : DecodeError → Prop where
  | short (short : d.length < 16) : Refused d (.insufficientData 16 0 d.length)
  | kind (long : 16 ≤ d.length) (other : (d.u64At 0).toNat / 2 ^ 60 ≠ 8) :
      Refused d (.invalidField "obj_id_and_type" "record kind is not a file extent")

def word (k : ExtentKey) : UInt64 := (recordKind <<< kindShift) ||| k.objectId.value

theorem kind_iff (w : UInt64) : w >>> kindShift = recordKind ↔ w.toNat / 2 ^ 60 = 8 := by
  rw [← UInt64.toNat_inj, packed.toNat_high]
  rfl

theorem toNat_word {k : ExtentKey} (inRange : k.InRange) :
    k.word.toNat = 8 * 2 ^ 60 + k.objectId.value.toNat :=
  packed.toNat_join (by decide) inRange

theorem decode_eq_ok_iff {d : Bytes} {k : ExtentKey} : decode d = .ok k ↔
    (16 ≤ d.length ∧ d.length ≤ Bytes.maxLength) ∧ d.u64At 0 >>> kindShift = recordKind ∧
      (⟨⟨d.u64At 0 &&& objectIdMask⟩, d.u64At 8⟩ : ExtentKey) = k := by
  rw [decode_eq, check_bind_eq_ok_iff, Bytes.requireLength_eq_ok_iff, require_bind_eq_ok_iff,
    pure_eq_ok_iff, size]

theorem decode_eq_error_iff {d : Bytes} {e : DecodeError} (bounded : d.length ≤ Bytes.maxLength) :
    decode d = .error e ↔ Refused d e := by
  simp only [decode_eq, check_bind_eq_error_iff, Bytes.requireLength_eq_error_iff bounded,
    Bytes.requireLength_eq_ok_iff, require_eq_error_iff, size, kind_iff]
  constructor
  · rintro (⟨short, rfl⟩ | ⟨⟨long, _⟩, ⟨other, rfl⟩ | ⟨_, impossible⟩⟩)
    · exact .short short
    · exact .kind long other
    · cases impossible
  · intro refused
    cases refused with
    | short short => exact Or.inl ⟨short, rfl⟩
    | kind long other => exact Or.inr ⟨⟨long, bounded⟩, Or.inl ⟨other, rfl⟩⟩

theorem length_encode (k : ExtentKey) : k.encode.length = 16 := by
  simp [encode, Bytes.length_toLE]

theorem decode_encode {k : ExtentKey} {rest : Bytes} (inRange : k.InRange)
    (bounded : (k.encode ++ rest).length ≤ Bytes.maxLength) : decode (k.encode ++ rest) = .ok k := by
  have first : Bytes.u64At (k.encode ++ rest) 0 = k.word := by
    simp only [encode, List.append_assoc]
    exact Bytes.u64At_toLE k.word _
  have second : Bytes.u64At (k.encode ++ rest) 8 = k.logicalOffset := by
    simp [encode, Bytes.u64At_append_right, Bytes.u64At_toLE, Bytes.length_toLE]
  have long : 16 ≤ (k.encode ++ rest).length := by simp [length_encode]
  refine decode_eq_ok_iff.mpr ⟨⟨long, bounded⟩, ?_, ?_⟩
  · rw [first]
    exact packed.high_join (by decide) inRange
  · rw [first, second, word, packed.low_join (by decide) inRange]

theorem encode_of_decode {d : Bytes} {k : ExtentKey} (made : decode d = .ok k) :
    k.InRange ∧ k.encode = d.window 0 16 := by
  obtain ⟨⟨long, _⟩, kind, rfl⟩ := decode_eq_ok_iff.mp made
  have whole := packed.join_parts (d.u64At 0)
  rw [kind] at whole
  constructor
  · exact packed.low_lt (d.u64At 0)
  · simp (disch := omega) only [encode, whole, Bytes.toLE_u64At, Bytes.window_zero_append,
      Nat.reduceAdd]

theorem storedForm : StoredForm decode encode 16 InRange Refused where
  length := length_encode
  laidOut _ _ := decode_encode
  readBack _ _ := encode_of_decode
  refused _ _ := decode_eq_error_iff

end ExtentKey

namespace ExtentValue

theorem packed : Packed flagShift sizeMask := ⟨by decide, rfl⟩

def InRange (v : ExtentValue) : Prop := v.dataSize.toNat < 2 ^ 56

instance (v : ExtentValue) : Decidable v.InRange := inferInstanceAs (Decidable (_ < _))

inductive Refused (d : Bytes) : DecodeError → Prop where
  | short (short : d.length < 24) : Refused d (.insufficientData 24 0 d.length)

def word (v : ExtentValue) : UInt64 := (v.flags.toUInt64 <<< flagShift) ||| v.dataSize

theorem flags_fit (v : ExtentValue) : v.flags.toUInt64.toNat < 2 ^ (64 - flagShift.toNat) := by
  rw [UInt8.toNat_toUInt64]
  exact v.flags.toNat_lt

theorem toNat_word {v : ExtentValue} (inRange : v.InRange) :
    v.word.toNat = v.flags.toNat * 2 ^ 56 + v.dataSize.toNat := by
  have joined := packed.toNat_join v.flags_fit inRange
  rw [UInt8.toNat_toUInt64, Nat.mul_comm] at joined
  exact joined

/-- Eight bits are left of a word above the size, so narrowing them to a byte never fails. -/
theorem narrow (w : UInt64) : (w >>> flagShift).toNat < UInt8.size := packed.high_fits w

theorem widen_narrow (w : UInt64) : (w >>> flagShift).toUInt8.toUInt64 = w >>> flagShift := by
  apply UInt64.toNat_inj.mp
  rw [UInt8.toNat_toUInt64, UInt64.toNat_toUInt8]
  exact Nat.mod_eq_of_lt (narrow w)

theorem decode_eq_ok_iff {d : Bytes} {v : ExtentValue} : decode d = .ok v ↔
    (24 ≤ d.length ∧ d.length ≤ Bytes.maxLength) ∧
      (⟨d.u64At 0 &&& sizeMask, (d.u64At 0 >>> flagShift).toUInt8, ⟨d.u64At 8⟩, d.u64At 16⟩ :
        ExtentValue) = v := by
  rw [decode_eq, check_bind_eq_ok_iff, Bytes.requireLength_eq_ok_iff, require_pos (narrow _), ok_bind,
    pure_eq_ok_iff, size]

theorem decode_eq_error_iff {d : Bytes} {e : DecodeError} (bounded : d.length ≤ Bytes.maxLength) :
    decode d = .error e ↔ Refused d e := by
  simp only [decode_eq, require_pos (narrow _), ok_bind, check_bind_eq_error_iff,
    Bytes.requireLength_eq_error_iff bounded, size]
  constructor
  · rintro (⟨short, rfl⟩ | ⟨_, impossible⟩)
    · exact .short short
    · cases impossible
  · intro refused
    cases refused with
    | short short => exact Or.inl ⟨short, rfl⟩

theorem decode_ne_integerConversion (d : Bytes) :
    FailsWith (fun e => ∀ field, e ≠ .integerConversion field) (decode d) := by
  rw [decode_eq, require_pos (narrow _)]
  refine FailsWith.bind ?_ fun _ => .ok _
  exact (FailsWith.of_require nofun).bind fun _ => .of_require nofun

theorem length_encode (v : ExtentValue) : v.encode.length = 24 := by
  simp [encode, Bytes.length_toLE]

theorem decode_encode {v : ExtentValue} {rest : Bytes} (inRange : v.InRange)
    (bounded : (v.encode ++ rest).length ≤ Bytes.maxLength) : decode (v.encode ++ rest) = .ok v := by
  have first : Bytes.u64At (v.encode ++ rest) 0 = v.word := by
    simp only [encode, List.append_assoc]
    exact Bytes.u64At_toLE v.word _
  have second : Bytes.u64At (v.encode ++ rest) 8 = v.blockNumber.value := by
    simp [encode, Bytes.u64At_append_right, Bytes.u64At_toLE, Bytes.length_toLE]
  have third : Bytes.u64At (v.encode ++ rest) 16 = v.cryptoId := by
    simp [encode, Bytes.u64At_append_right, Bytes.u64At_toLE, Bytes.length_toLE]
  have long : 24 ≤ (v.encode ++ rest).length := by simp [length_encode]
  refine decode_eq_ok_iff.mpr ⟨⟨long, bounded⟩, ?_⟩
  rw [first, second, third, word, packed.low_join v.flags_fit inRange,
    packed.high_join v.flags_fit inRange, UInt8.toUInt8_toUInt64]

theorem encode_of_decode {d : Bytes} {v : ExtentValue} (made : decode d = .ok v) :
    v.InRange ∧ v.encode = d.window 0 24 := by
  obtain ⟨⟨long, _⟩, rfl⟩ := decode_eq_ok_iff.mp made
  constructor
  · exact packed.low_lt (d.u64At 0)
  · simp (disch := omega) only [encode, widen_narrow, packed.join_parts, Bytes.toLE_u64At,
      Bytes.window_zero_append, Nat.reduceAdd]

theorem storedForm : StoredForm decode encode 24 InRange Refused where
  length := length_encode
  laidOut _ _ := decode_encode
  readBack _ _ := encode_of_decode
  refused _ _ := decode_eq_error_iff

end ExtentValue

namespace FileExtent

/-- Each half has one stored form. Its first word adds the packed numbers at their places, a shorter
buffer or another record kind is refused, and the flags of a value always fit. -/
theorem halves_stored_bijectively :
    StoredForm ExtentKey.decode ExtentKey.encode 16 ExtentKey.InRange ExtentKey.Refused ∧
    (∀ k : ExtentKey, k.InRange → k.encode =
      Bytes.toLE 8 (8 * 2 ^ 60 + k.objectId.value.toNat) ++ Bytes.toLE 8 k.logicalOffset.toNat) ∧
    StoredForm ExtentValue.decode ExtentValue.encode 24 ExtentValue.InRange ExtentValue.Refused ∧
    (∀ v : ExtentValue, v.InRange → v.encode =
      Bytes.toLE 8 (v.flags.toNat * 2 ^ 56 + v.dataSize.toNat) ++
        Bytes.toLE 8 v.blockNumber.value.toNat ++ Bytes.toLE 8 v.cryptoId.toNat) ∧
    ∀ d field, ExtentValue.decode d ≠ .error (.integerConversion field) := by
  refine ⟨ExtentKey.storedForm, ?_, ExtentValue.storedForm, ?_, ?_⟩
  · intro k inRange
    rw [← ExtentKey.toNat_word inRange]
    rfl
  · intro v inRange
    rw [← ExtentValue.toNat_word inRange]
    rfl
  · intro d field failed
    exact ExtentValue.decode_ne_integerConversion d _ failed field rfl

theorem largest_halves_stored :
    (ExtentKey.mk ⟨1152921504606846975⟩ 18446744073709551615).InRange ∧
    (ExtentValue.mk 72057594037927935 255 ⟨18446744073709551615⟩ 0).InRange ∧
    ExtentKey.decode (List.replicate 7 255 ++ [143] ++ List.replicate 8 255 ++ [1, 2, 3]) =
      .ok ⟨⟨1152921504606846975⟩, 18446744073709551615⟩ ∧
    ExtentValue.decode (List.replicate 16 255 ++ List.replicate 8 0 ++ [1, 2, 3]) =
      .ok ⟨72057594037927935, 255, ⟨18446744073709551615⟩, 0⟩ ∧
    ExtentKey.decode (List.replicate 16 255) =
      .error (.invalidField "obj_id_and_type" "record kind is not a file extent") ∧
    ExtentValue.decode (List.replicate 23 0) = .error (.insufficientData 24 0 23) := by
  obtain ⟨key, _, value, _, _⟩ := halves_stored_bijectively
  refine ⟨by decide, by decide, ?_, ?_, ?_, ?_⟩
  · exact key.laidOut ⟨⟨1152921504606846975⟩, 18446744073709551615⟩ [1, 2, 3] (by decide) (by decide)
  · exact value.laidOut ⟨72057594037927935, 255, ⟨18446744073709551615⟩, 0⟩ [1, 2, 3] (by decide)
      (by decide)
  · exact (key.refused _ _ (by decide)).mpr (.kind (by decide) (by decide))
  · exact (value.refused _ _ (by decide)).mpr (.short (by decide))

end FileExtent

end NxContainer
