import NxContainer.CheckpointMap
import NxContainer.Proofs.Object.Header

/-! The stored form of a checkpoint map, said without the decoder: a header, flags, a count, and as
many records as the count declares. Decoding accepts exactly the byte strings of this form, yields
what they store, and refuses the others by the first condition that fails. -/
namespace NxContainer.CheckpointMap

def storedEntry (d : Bytes) (o : Nat) : Entry where
  objectType := d.u32At o
  objectSubtype := d.u32At (o + 4)
  objectSize := d.u32At (o + 8)
  fileSystemObjectId := ⟨d.u64At (o + 16)⟩
  objectId := ⟨d.u64At (o + 24)⟩
  physicalAddress := ⟨d.u64At (o + 32)⟩

def storedEntries (d : Bytes) (o n : Nat) : List Entry :=
  (List.range n).map fun i => storedEntry d (o + 40 * i)

def declaredCount (d : Bytes) : Nat := (d.u32At 36).toNat

def stored (d : Bytes) : CheckpointMap :=
  ⟨ObjectHeader.fields d, d.u32At 32, storedEntries d 40 (declaredCount d)⟩

structure Accepted (d : Bytes) : Prop where
  long : 40 ≤ d.length
  kind : d.u32At 24 = 0x4000000C
  few : declaredCount d ≤ 101
  room : 40 + 40 * declaredCount d ≤ d.length

def wholeRecords (d : Bytes) : Nat := (d.length - 40) / 40

inductive Refused (d : Bytes) : DecodeError → Prop where
  | short (short : d.length < 40) : Refused d (.insufficientData 40 0 d.length)
  | kind (long : 40 ≤ d.length) (other : d.u32At 24 ≠ 0x4000000C) :
      Refused d (.invalidObjectType 0x4000000C (d.u32At 24))
  | many (long : 40 ≤ d.length) (kind : d.u32At 24 = 0x4000000C) (many : 101 < declaredCount d) :
      Refused d (.outOfBounds "number_of_entries" (declaredCount d) 101)
  | truncated (long : 40 ≤ d.length) (kind : d.u32At 24 = 0x4000000C)
      (few : declaredCount d ≤ 101) (cut : d.length < 40 + 40 * declaredCount d) :
      Refused d (.insufficientData 40 (40 + 40 * wholeRecords d)
        (d.length - 40 - 40 * wholeRecords d))

/-- The two byte strings differ at most in the padding of records and behind the last record. -/
def SameContent (d e : Bytes) : Prop :=
  d.window 0 40 = e.window 0 40 ∧
    ∀ i < declaredCount d, d.window (40 + 40 * i) 12 = e.window (40 + 40 * i) 12 ∧
      d.window (40 + 40 * i + 16) 24 = e.window (40 + 40 * i + 16) 24

/-! One record. -/

theorem fields_window (d : Bytes) (o : Nat) : Entry.fields (d.window o 40) = storedEntry d o := by
  simp (disch := omega) only [Entry.fields, storedEntry, Bytes.u32At_window, Bytes.u64At_window,
    Nat.add_zero]

theorem decode_window {d : Bytes} {o : Nat} (inside : o + 40 ≤ d.length) :
    Entry.decode (d.window o 40) = .ok (storedEntry d o) := by
  have size : (d.window o 40).length = 40 := by rw [Bytes.length_window]; omega
  rw [Entry.decode_eq, size, ← fields_window]
  rfl

theorem take_of_room {d : Bytes} {o : Nat} (bounded : d.length ≤ Bytes.maxLength)
    (inside : o + 40 ≤ d.length) :
    Cursor.take ⟨d, o⟩ Entry.size = .ok (d.window o 40, ⟨d, o + 40⟩) := by
  have near : o + 40 < addressLimit := Nat.lt_of_le_of_lt (Nat.le_trans inside bounded) (by decide)
  have whole : d.slice o Entry.size = .ok (d.window o 40) :=
    Bytes.slice_eq_ok_iff.mpr ⟨near, inside, rfl⟩
  simp only [Cursor.take, whole]
  rfl

theorem take_of_short {d : Bytes} {o : Nat} (bounded : d.length ≤ Bytes.maxLength)
    (start : o ≤ d.length) (cut : d.length < o + 40) :
    Cursor.take ⟨d, o⟩ Entry.size = .error (.insufficientData 40 o (d.length - o)) := by
  have near : ¬ addressLimit ≤ o + 40 := by
    have far : Bytes.maxLength + 40 < addressLimit := by decide
    omega
  have part : d.slice o Entry.size = .error (.insufficientData 40 o (d.length - o)) := by
    simp only [Bytes.slice, Entry.size, near, cut, if_true, if_false]
  simp only [Cursor.take, part]
  rfl

/-! The run over the records. -/

theorem storedEntries_succ (d : Bytes) (o n : Nat) :
    storedEntries d o (n + 1) = storedEntry d o :: storedEntries d (o + 40) n := by
  have next (i : Nat) : o + 40 * (i + 1) = o + 40 + 40 * i := by omega
  simp only [storedEntries, List.range_succ_eq_map, List.map_cons, List.map_map, Nat.mul_zero,
    Nat.add_zero, Function.comp_def, Nat.succ_eq_add_one, next]

theorem decodeEntries_of_room {d : Bytes} (bounded : d.length ≤ Bytes.maxLength) (n o : Nat)
    (room : o + 40 * n ≤ d.length) :
    decodeEntries ⟨d, o⟩ n = .ok (storedEntries d o n) := by
  induction n generalizing o with
  | zero => rfl
  | succ n ih =>
    have inside : o + 40 ≤ d.length := by omega
    have rest := ih (o + 40) (by omega)
    rw [storedEntries_succ, decodeEntries, take_of_room bounded inside]
    simp only [ok_bind, decode_window inside, rest]
    rfl

theorem length_storedEntries (d : Bytes) (o n : Nat) : (storedEntries d o n).length = n := by
  simp only [storedEntries, List.length_map, List.length_range]

/-- The record at which a run over too few bytes stops is the first one that is not whole. -/
theorem decodeEntries_of_short {d : Bytes} (bounded : d.length ≤ Bytes.maxLength) (n o : Nat)
    (start : o ≤ d.length) (cut : d.length < o + 40 * n) :
    decodeEntries ⟨d, o⟩ n = .error (.insufficientData 40 (o + 40 * ((d.length - o) / 40))
      (d.length - o - 40 * ((d.length - o) / 40))) := by
  induction n generalizing o with
  | zero => omega
  | succ n ih =>
    rw [decodeEntries]
    -- A whole record moves the start by 40 and leaves one whole record less behind it.
    by_cases inside : o + 40 ≤ d.length
    · have stop := ih (o + 40) inside (by omega)
      have step : (d.length - o) / 40 = (d.length - (o + 40)) / 40 + 1 := by omega
      have place : o + 40 * ((d.length - o) / 40) = o + 40 + 40 * ((d.length - (o + 40)) / 40) := by
        omega
      have left : d.length - o - 40 * ((d.length - o) / 40) =
          d.length - (o + 40) - 40 * ((d.length - (o + 40)) / 40) := by omega
      rw [take_of_room bounded inside, place, left]
      simp only [ok_bind, decode_window inside, stop]
      rfl
    · have first : (d.length - o) / 40 = 0 := by omega
      rw [take_of_short bounded start (by omega), first]
      rfl

/-! The whole map. -/

theorem startAt_of_long {d : Bytes} (long : 40 ≤ d.length) :
    Cursor.startAt d headerSize = .ok ⟨d, 40⟩ :=
  Cursor.startAt_eq_ok_iff.mpr ⟨long, rfl⟩

theorem decode_of_long {d : Bytes} (bounded : d.length ≤ Bytes.maxLength) (long : 40 ≤ d.length) :
    decode d = (do
      require (d.u32At 24 = 0x4000000C) (.invalidObjectType 0x4000000C (d.u32At 24))
      require (declaredCount d ≤ 101) (.outOfBounds "number_of_entries" (declaredCount d) 101)
      let entries ← decodeEntries ⟨d, 40⟩ (declaredCount d)
      return ⟨ObjectHeader.fields d, d.u32At 32, entries⟩) := by
  have checked : decode d = _ :=
    (decode_eq d).trans (ObjectHeader.typed_of_long (by decide) bounded long)
  rw [checked, startAt_of_long long]
  rfl

theorem decode_of_accepted {d : Bytes} (bounded : d.length ≤ Bytes.maxLength) (h : Accepted d) :
    decode d = .ok (stored d) := by
  have entries := decodeEntries_of_room bounded (declaredCount d) 40 h.room
  simp only [decode_of_long bounded h.long, require, h.kind, h.few, entries, if_true, ok_bind]
  rfl

theorem decode_of_refused {d : Bytes} {e : DecodeError} (bounded : d.length ≤ Bytes.maxLength)
    (h : Refused d e) : decode d = .error e := by
  cases h with
  | short short =>
    have length := (Bytes.requireLength_eq_error_iff bounded).mpr ⟨short, rfl⟩
    rw [decode, headerSize, length]
    rfl
  | kind long other =>
    simp only [decode_of_long bounded long, require, if_neg other]
    rfl
  | many long kind many =>
    simp only [decode_of_long bounded long, require, kind, if_true, if_neg (Nat.not_le.mpr many)]
    rfl
  | truncated long kind few cut =>
    have stop := decodeEntries_of_short bounded (declaredCount d) 40 long cut
    simp only [decode_of_long bounded long, require, kind, few, if_true, ok_bind, stop]
    rfl

theorem accepted_or_refused (d : Bytes) :
    (∃ m, Accepted d ∧ stored d = m) ∨ ∃ e, Refused d e := by
  by_cases long : 40 ≤ d.length
  · by_cases kind : d.u32At 24 = 0x4000000C
    · by_cases few : declaredCount d ≤ 101
      · by_cases room : 40 + 40 * declaredCount d ≤ d.length
        · exact Or.inl ⟨_, ⟨long, kind, few, room⟩, rfl⟩
        · exact Or.inr ⟨_, .truncated long kind few (Nat.not_le.mp room)⟩
      · exact Or.inr ⟨_, .many long kind (Nat.not_le.mp few)⟩
    · exact Or.inr ⟨_, .kind long kind⟩
  · exact Or.inr ⟨_, .short (Nat.not_le.mp long)⟩

theorem decode_decided {d : Bytes} (bounded : d.length ≤ Bytes.maxLength) :
    (∀ m, decode d = .ok m ↔ Accepted d ∧ stored d = m) ∧
      (∀ e, decode d = .error e ↔ Refused d e) :=
  decided (fun _ ⟨h, made⟩ => made ▸ decode_of_accepted bounded h)
    (fun _ => decode_of_refused bounded) (accepted_or_refused d)

theorem bounded_of_decode {d : Bytes} {m : CheckpointMap} (made : decode d = .ok m) :
    d.length ≤ Bytes.maxLength := by
  rw [decode, check_bind_eq_ok_iff, Bytes.requireLength_eq_ok_iff] at made
  exact made.1.2

theorem stored_of_decode {d : Bytes} {m : CheckpointMap} (made : decode d = .ok m) :
    Accepted d ∧ stored d = m :=
  ((decode_decided (bounded_of_decode made)).1 m).mp made

end NxContainer.CheckpointMap
