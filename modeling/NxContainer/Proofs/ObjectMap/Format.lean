import NxContainer.ObjectMap
import NxContainer.Proofs.Object.Header

/-! The byte strings that decode to an object map, and why the others do not. Only the first 88 bytes
count. -/
namespace NxContainer.ObjectMap

structure Accepted (d : Bytes) : Prop where
  long : 88 ≤ d.length
  kind : d.u32At 24 = 0x4000000B

inductive Refused (d : Bytes) : DecodeError → Prop where
  | short (short : d.length < 88) : Refused d (.insufficientData 88 0 d.length)
  | kind (long : 88 ≤ d.length) (other : d.u32At 24 ≠ 0x4000000B) :
      Refused d (.invalidObjectType 0x4000000B (d.u32At 24))

theorem decode_of_long {d : Bytes} (bounded : d.length ≤ Bytes.maxLength) (long : 88 ≤ d.length) :
    decode d = (do
      require (d.u32At 24 = 0x4000000B) (.invalidObjectType 0x4000000B (d.u32At 24))
      return fields d) :=
  (decode_eq d).trans (ObjectHeader.typed_of_long (by decide) bounded long)

theorem decode_of_accepted {d : Bytes} (bounded : d.length ≤ Bytes.maxLength) (h : Accepted d) :
    decode d = .ok (fields d) := by
  rw [decode_of_long bounded h.long, require_pos h.kind]
  rfl

theorem decode_of_refused {d : Bytes} {e : DecodeError} (bounded : d.length ≤ Bytes.maxLength)
    (h : Refused d e) : decode d = .error e := by
  cases h with
  | short short =>
    have length := (Bytes.requireLength_eq_error_iff bounded).mpr ⟨short, rfl⟩
    rw [decode, size, length]
    rfl
  | kind long other =>
    rw [decode_of_long bounded long, require_neg other]
    rfl

theorem accepted_or_refused (d : Bytes) :
    (∃ m, Accepted d ∧ fields d = m) ∨ ∃ e, Refused d e := by
  by_cases long : 88 ≤ d.length
  · by_cases kind : d.u32At 24 = 0x4000000B
    · exact Or.inl ⟨_, ⟨long, kind⟩, rfl⟩
    · exact Or.inr ⟨_, .kind long kind⟩
  · exact Or.inr ⟨_, .short (Nat.not_le.mp long)⟩

theorem decode_decided {d : Bytes} (bounded : d.length ≤ Bytes.maxLength) :
    (∀ m, decode d = .ok m ↔ Accepted d ∧ fields d = m) ∧
      (∀ e, decode d = .error e ↔ Refused d e) :=
  decided (fun _ ⟨h, made⟩ => made ▸ decode_of_accepted bounded h)
    (fun _ => decode_of_refused bounded) (accepted_or_refused d)

theorem bounded_of_decode {d : Bytes} {m : ObjectMap} (made : decode d = .ok m) :
    d.length ≤ Bytes.maxLength := by
  rw [decode, check_bind_eq_ok_iff, Bytes.requireLength_eq_ok_iff] at made
  exact made.1.2

theorem fields_of_decode {d : Bytes} {m : ObjectMap} (made : decode d = .ok m) :
    Accepted d ∧ fields d = m :=
  ((decode_decided (bounded_of_decode made)).1 m).mp made

theorem fields_window {d : Bytes} {n : Nat} (whole : 88 ≤ n) : fields (d.window 0 n) = fields d := by
  simp (disch := omega) only [fields, Bytes.u32At_window, Bytes.u64At_window, Nat.zero_add,
    ObjectHeader.fields_window]

theorem decode_of_front {d e : Bytes} {m : ObjectMap} (made : decode d = .ok m)
    (bounded : e.length ≤ Bytes.maxLength) (long : 88 ≤ e.length)
    (front : e.window 0 88 = d.window 0 88) : decode e = .ok m := by
  obtain ⟨⟨_, kind⟩, rfl⟩ := fields_of_decode made
  have word : e.u32At 24 = d.u32At 24 :=
    Bytes.u32At_eq_of_window_eq (Bytes.window_eq_of_window_eq front (Nat.zero_le 24) (by decide))
  rw [decode_of_accepted bounded ⟨long, word.trans kind⟩, ← fields_window (Nat.le_refl 88), front,
    fields_window (Nat.le_refl 88)]

theorem decode_append {d rest : Bytes} {m : ObjectMap} (made : decode d = .ok m)
    (bounded : (d ++ rest).length ≤ Bytes.maxLength) : decode (d ++ rest) = .ok m := by
  have long := (fields_of_decode made).1.long
  have whole : 88 ≤ (d ++ rest).length := by rw [List.length_append]; omega
  exact decode_of_front made bounded whole (Bytes.window_append_left long)

end NxContainer.ObjectMap
