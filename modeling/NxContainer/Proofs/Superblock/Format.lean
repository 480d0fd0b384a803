import NxContainer.Proofs.Object.Header
import NxContainer.ReadError
import NxContainer.Superblock

/-! The byte strings that decode to a superblock, and why the others do not. Only the first 1408
bytes count, so a superblock that is read from the front of a device and from a whole block is the
same one. -/
namespace NxContainer.Superblock

structure Accepted (d : Bytes) : Prop where
  long : 1408 ≤ d.length
  kind : d.u32At 24 = 0x80000001
  magic : d.u32At 32 = 0x4253584E

inductive Refused (d : Bytes) : DecodeError → Prop where
  | short (short : d.length < 1408) : Refused d (.insufficientData 1408 0 d.length)
  | kind (long : 1408 ≤ d.length) (other : d.u32At 24 ≠ 0x80000001) :
      Refused d (.invalidObjectType 0x80000001 (d.u32At 24))
  | magic (long : 1408 ≤ d.length) (kind : d.u32At 24 = 0x80000001)
      (other : d.u32At 32 ≠ 0x4253584E) :
      Refused d (.invalidMagic 0x4253584E (d.u32At 32).toUInt64)

theorem decode_of_long {d : Bytes} (bounded : d.length ≤ Bytes.maxLength) (long : 1408 ≤ d.length) :
    decode d = (do
      require (d.u32At 24 = 0x80000001) (.invalidObjectType 0x80000001 (d.u32At 24))
      require (d.u32At 32 = 0x4253584E) (.invalidMagic 0x4253584E (d.u32At 32).toUInt64)
      return fields d) :=
  (decode_eq d).trans (ObjectHeader.typed_of_long (by decide) bounded long)

theorem decode_of_accepted {d : Bytes} (bounded : d.length ≤ Bytes.maxLength) (h : Accepted d) :
    decode d = .ok (fields d) := by
  rw [decode_of_long bounded h.long, require_pos h.kind, require_pos h.magic]
  rfl

theorem decode_of_refused {d : Bytes} {e : DecodeError} (bounded : d.length ≤ Bytes.maxLength)
    (h : Refused d e) : decode d = .error e := by
  cases h with
  | short short =>
    have length := (Bytes.requireLength_eq_error_iff bounded).mpr ⟨short, rfl⟩
    rw [decode, size, length]
    rfl
  | kind long other =>
    rw [decode_of_long bounded long, require_neg other]
    rfl
  | magic long kind other =>
    rw [decode_of_long bounded long, require_pos kind, require_neg other]
    rfl

theorem accepted_or_refused (d : Bytes) :
    (∃ s, Accepted d ∧ fields d = s) ∨ ∃ e, Refused d e := by
  by_cases long : 1408 ≤ d.length
  · by_cases kind : d.u32At 24 = 0x80000001
    · by_cases magic : d.u32At 32 = 0x4253584E
      · exact Or.inl ⟨_, ⟨long, kind, magic⟩, rfl⟩
      · exact Or.inr ⟨_, .magic long kind magic⟩
    · exact Or.inr ⟨_, .kind long kind⟩
  · exact Or.inr ⟨_, .short (Nat.not_le.mp long)⟩

theorem decode_decided {d : Bytes} (bounded : d.length ≤ Bytes.maxLength) :
    (∀ s, decode d = .ok s ↔ Accepted d ∧ fields d = s) ∧
      (∀ e, decode d = .error e ↔ Refused d e) :=
  decided (fun _ ⟨h, made⟩ => made ▸ decode_of_accepted bounded h)
    (fun _ => decode_of_refused bounded) (accepted_or_refused d)

theorem bounded_of_decode {d : Bytes} {s : Superblock} (made : decode d = .ok s) :
    d.length ≤ Bytes.maxLength := by
  rw [decode, check_bind_eq_ok_iff, Bytes.requireLength_eq_ok_iff] at made
  exact made.1.2

theorem fields_of_decode {d : Bytes} {s : Superblock} (made : decode d = .ok s) :
    Accepted d ∧ fields d = s :=
  ((decode_decided (bounded_of_decode made)).1 s).mp made

theorem ofDecode_of_refused {d : Bytes} {e : DecodeError} (b : BlockNumber) (long : 1408 ≤ d.length)
    (h : Refused d e) : ReadError.ofDecode b e = .unsupportedFormat e.message := by
  cases h with
  | short short => exact absurd long (Nat.not_le.mpr short)
  | kind => rfl
  | magic => rfl

theorem fields_window {d : Bytes} {n : Nat} (whole : 1408 ≤ n) : fields (d.window 0 n) = fields d := by
  -- The identifier of the container is read byte by byte, everything else by words.
  have byte (i : Fin 16) : (d.window 0 n).getD (72 + i) 0 = d.getD (72 + i) 0 := by
    rw [Bytes.getD_window (by omega), Nat.zero_add]
  have slot : slots (d.window 0 n) = slots d := by
    apply List.map_congr_left
    intro i member
    have few := List.mem_range.mp member
    rw [slotCount] at few
    rw [slotsOffset, Bytes.u64At_window (by omega), Nat.zero_add]
  simp (disch := omega) only [fields, Bytes.u32At_window, Bytes.u64At_window, Nat.zero_add, byte,
    slot, ObjectHeader.fields_window]

theorem decode_of_front {d e : Bytes} {s : Superblock} (made : decode d = .ok s)
    (bounded : e.length ≤ Bytes.maxLength) (long : 1408 ≤ e.length)
    (front : e.window 0 1408 = d.window 0 1408) : decode e = .ok s := by
  obtain ⟨⟨_, kind, magic⟩, rfl⟩ := fields_of_decode made
  have word (o : Nat) (inside : o + 4 ≤ 1408) : e.u32At o = d.u32At o :=
    Bytes.u32At_eq_of_window_eq (Bytes.window_eq_of_window_eq front (Nat.zero_le o) (by omega))
  have accepted : Accepted e :=
    ⟨long, (word 24 (by decide)).trans kind, (word 32 (by decide)).trans magic⟩
  rw [decode_of_accepted bounded accepted, ← fields_window (Nat.le_refl 1408), front,
    fields_window (Nat.le_refl 1408)]

end NxContainer.Superblock
