import NxContainer.Object.Header
import NxContainer.Proofs.Bytes.Window

/-! The object header as the first 32 bytes of an object: decoding depends on them alone, they are
determined by the decoded fields, and the stored form decodes to the header it was made from. -/
namespace NxContainer.ObjectHeader

/-- A decoder of typed objects that checks the length first has only the type left to check. -/
theorem typed_of_long {α : Type} {d : Bytes} {minimum : Nat} {expected : UInt32}
    {rest : ObjectHeader → Except DecodeError α} (covers : 32 ≤ minimum)
    (bounded : d.length ≤ Bytes.maxLength) (long : minimum ≤ d.length) :
    (do
      Bytes.requireLength d.length minimum
      let header ← decode d
      header.expectType expected
      rest header) = (do
      require (d.u32At 24 = expected) (.invalidObjectType expected (d.u32At 24))
      rest (fields d)) := by
  have length : Bytes.requireLength d.length minimum = .ok () :=
    Bytes.requireLength_eq_ok_iff.mpr ⟨long, bounded⟩
  have header : decode d = .ok (fields d) :=
    decode_eq_ok_iff.mpr ⟨Nat.le_trans covers long, rfl⟩
  simp only [length, header, ok_bind]
  rfl

theorem length_encode (h : ObjectHeader) : h.encode.length = 32 := by
  simp only [encode, List.length_append, Bytes.length_toLE]

theorem fields_encode (h : ObjectHeader) (rest : Bytes) : fields (h.encode ++ rest) = h := by
  simp [fields, encode, Bytes.u32At_toLE, Bytes.u64At_toLE, Bytes.u32At_append_right,
    Bytes.u64At_append_right, Bytes.length_toLE]

theorem fields_window {d : Bytes} {n : Nat} (whole : 32 ≤ n) : fields (d.window 0 n) = fields d := by
  simp (disch := omega) only [fields, Bytes.u64At_window, Bytes.u32At_window, Nat.zero_add]

theorem encode_fields {d : Bytes} (long : 32 ≤ d.length) : (fields d).encode = d.window 0 32 := by
  simp (disch := omega) only [fields, encode, Bytes.toLE_u64At, Bytes.toLE_u32At,
    Bytes.window_zero_append, Nat.reduceAdd]

theorem window_eq_of_fields_eq {d e : Bytes} (same : fields d = fields e)
    (left : 32 ≤ d.length) (right : 32 ≤ e.length) : d.window 0 32 = e.window 0 32 := by
  rw [← encode_fields left, same, encode_fields right]

end NxContainer.ObjectHeader
