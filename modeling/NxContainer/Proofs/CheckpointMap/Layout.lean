import NxContainer.Proofs.CheckpointMap.Format

/-! The stored form of a checkpoint map as a layout. Two accepted byte strings decode to one map
exactly if they differ in nothing but the padding and what stands behind the last record. -/
namespace NxContainer.CheckpointMap

/-! Laying out and reading back. -/

theorem length_encode_entry (e : Entry) (padding : UInt32) : (e.encode padding).length = 40 := by
  simp only [Entry.encode, List.length_append, Bytes.length_toLE]

theorem storedEntry_encode (e : Entry) (padding : UInt32) (rest : Bytes) :
    storedEntry (e.encode padding ++ rest) 0 = e := by
  simp [storedEntry, Entry.encode, Bytes.u32At_toLE, Bytes.u64At_toLE, Bytes.u32At_append_right,
    Bytes.u64At_append_right, Bytes.length_toLE]

theorem storedEntry_append (before rest : Bytes) :
    storedEntry (before ++ rest) before.length = storedEntry rest 0 := by
  rw [← fields_window, ← fields_window]
  exact congrArg Entry.fields (Bytes.window_append before rest 0 40)

theorem storedEntries_records (entries : List (Entry × UInt32)) (before trailing : Bytes) :
    storedEntries (before ++ (entries.flatMap (fun (e, padding) => e.encode padding) ++ trailing))
      before.length entries.length = entries.map Prod.fst := by
  -- Each record that was read counts among the bytes before the next one.
  induction entries generalizing before with
  | nil => rfl
  | cons head tail ih =>
    obtain ⟨e, padding⟩ := head
    have place : before.length + 40 = (before ++ e.encode padding).length := by
      rw [List.length_append, length_encode_entry]
    have rest := ih (before ++ e.encode padding)
    simp only [List.append_assoc] at rest
    simp only [List.flatMap_cons, List.append_assoc, List.length_cons, List.map_cons]
    rw [storedEntries_succ, storedEntry_append, storedEntry_encode, place, rest]

section encode

variable (header : ObjectHeader) (flags : UInt32) (entries : List (Entry × UInt32))
  (trailing : Bytes)

def front : Bytes := header.encode ++ (Bytes.toLE 4 flags.toNat ++ Bytes.toLE 4 entries.length)

theorem length_front : (front header flags entries).length = 40 := by
  simp only [front, List.length_append, Bytes.length_toLE, ObjectHeader.length_encode]

theorem encode_eq_front : encode header flags entries trailing = front header flags entries ++
    (entries.flatMap (fun (e, padding) => e.encode padding) ++ trailing) := by
  simp only [encode, front, List.append_assoc]

theorem length_records :
    (entries.flatMap fun (e, padding) => e.encode padding).length = 40 * entries.length := by
  induction entries with
  | nil => rfl
  | cons head tail ih =>
    simp only [List.flatMap_cons, List.length_append, length_encode_entry, ih, List.length_cons]
    omega

theorem length_encode : (encode header flags entries trailing).length =
    40 + 40 * entries.length + trailing.length := by
  rw [encode_eq_front, List.length_append, List.length_append, length_front, length_records,
    Nat.add_assoc]

theorem fields_encode : ObjectHeader.fields (encode header flags entries trailing) = header := by
  rw [encode_eq_front, front, List.append_assoc]
  exact ObjectHeader.fields_encode header _

theorem flags_encode : (encode header flags entries trailing).u32At 32 = flags := by
  have behind := Bytes.window_append header.encode
    (Bytes.toLE 4 flags.toNat ++ (Bytes.toLE 4 entries.length ++
      (entries.flatMap (fun (e, padding) => e.encode padding) ++ trailing))) 0 4
  rw [ObjectHeader.length_encode] at behind
  rw [encode_eq_front, front, List.append_assoc, List.append_assoc, Bytes.u32At, behind]
  exact Bytes.u32At_toLE flags _

variable {entries}

theorem declaredCount_encode (few : entries.length ≤ 101) :
    declaredCount (encode header flags entries trailing) = entries.length := by
  have small : (UInt32.ofNat entries.length).toNat = entries.length := by
    rw [UInt32.toNat_ofNat', Nat.mod_eq_of_lt (by omega)]
  have behind := Bytes.window_append header.encode
    (Bytes.toLE 4 flags.toNat ++ (Bytes.toLE 4 (UInt32.ofNat entries.length).toNat ++
      (entries.flatMap (fun (e, padding) => e.encode padding) ++ trailing))) 4 4
  rw [ObjectHeader.length_encode, small, Bytes.window_toLE_append (Nat.le_refl 4)] at behind
  rw [declaredCount, encode_eq_front, front, List.append_assoc, List.append_assoc, Bytes.u32At,
    behind]
  have count := Bytes.u32At_toLE (UInt32.ofNat entries.length)
    (entries.flatMap (fun (e, padding) => e.encode padding) ++ trailing)
  rw [small] at count
  exact (congrArg UInt32.toNat count).trans small

theorem stored_encode (few : entries.length ≤ 101) :
    stored (encode header flags entries trailing) = ⟨header, flags, entries.map Prod.fst⟩ := by
  have records := storedEntries_records entries (front header flags entries) trailing
  rw [length_front, ← encode_eq_front] at records
  rw [stored, fields_encode, flags_encode, declaredCount_encode header flags trailing few, records]

theorem accepted_encode (kind : header.objectType = 0x4000000C) (few : entries.length ≤ 101) :
    Accepted (encode header flags entries trailing) := by
  have count := declaredCount_encode header flags trailing few
  have objectType := congrArg ObjectHeader.objectType (fields_encode header flags entries trailing)
  refine ⟨?_, ?_, ?_, ?_⟩
  · rw [length_encode]
    omega
  · exact objectType.trans kind
  · rw [count]
    exact few
  · rw [count, length_encode]
    omega

end encode

/-! What two accepted byte strings have in common. -/

theorem storedEntry_eq_iff {d e : Bytes} {o : Nat} (left : o + 40 ≤ d.length)
    (right : o + 40 ≤ e.length) : storedEntry d o = storedEntry e o ↔
      d.window o 12 = e.window o 12 ∧ d.window (o + 16) 24 = e.window (o + 16) 24 := by
  constructor
  · intro same
    simp only [storedEntry, Entry.mk.injEq, ObjectId.mk.injEq, BlockNumber.mk.injEq] at same
    obtain ⟨objectType, objectSubtype, objectSize, fileSystem, objectId, address⟩ := same
    have low (x : Bytes) : x.window o 12 = x.window o 4 ++ x.window (o + 4) 4 ++ x.window (o + 8) 4 := by
      rw [x.window_add o 8 4, x.window_add o 4 4]
    have high (x : Bytes) : x.window (o + 16) 24 =
        x.window (o + 16) 8 ++ x.window (o + 24) 8 ++ x.window (o + 32) 8 := by
      rw [x.window_add (o + 16) 16 8, x.window_add (o + 16) 8 8]
    constructor
    · rw [low d, low e, Bytes.window_eq_of_u32At_eq objectType (by omega) (by omega),
        Bytes.window_eq_of_u32At_eq objectSubtype (by omega) (by omega),
        Bytes.window_eq_of_u32At_eq objectSize (by omega) (by omega)]
    · rw [high d, high e, Bytes.window_eq_of_u64At_eq fileSystem (by omega) (by omega),
        Bytes.window_eq_of_u64At_eq objectId (by omega) (by omega),
        Bytes.window_eq_of_u64At_eq address (by omega) (by omega)]
  · rintro ⟨low, high⟩
    have u32 (k : Nat) (above : o ≤ k) (inside : k + 4 ≤ o + 12) : d.u32At k = e.u32At k :=
      Bytes.u32At_eq_of_window_eq (Bytes.window_eq_of_window_eq low above inside)
    have u64 (k : Nat) (above : o + 16 ≤ k) (inside : k + 8 ≤ o + 16 + 24) :
        d.u64At k = e.u64At k :=
      Bytes.u64At_eq_of_window_eq (Bytes.window_eq_of_window_eq high above inside)
    simp only [storedEntry, u32 o (by omega) (by omega), u32 (o + 4) (by omega) (by omega),
      u32 (o + 8) (by omega) (by omega), u64 (o + 16) (by omega) (by omega),
      u64 (o + 24) (by omega) (by omega), u64 (o + 32) (by omega) (by omega)]

theorem storedEntries_eq_iff {d e : Bytes} {o n : Nat} :
    storedEntries d o n = storedEntries e o n ↔
      ∀ i < n, storedEntry d (o + 40 * i) = storedEntry e (o + 40 * i) := by
  simp only [storedEntries, List.map_inj_left, List.mem_range]

theorem front_eq_iff {d e : Bytes} (left : 40 ≤ d.length) (right : 40 ≤ e.length) :
    d.window 0 40 = e.window 0 40 ↔ ObjectHeader.fields d = ObjectHeader.fields e ∧
      d.u32At 32 = e.u32At 32 ∧ declaredCount d = declaredCount e := by
  constructor
  · intro same
    have part {k m : Nat} (inside : k + m ≤ 0 + 40) : d.window k m = e.window k m :=
      Bytes.window_eq_of_window_eq same (Nat.zero_le k) inside
    refine ⟨?_, Bytes.u32At_eq_of_window_eq (part (by decide)), ?_⟩
    · rw [← ObjectHeader.fields_window (Nat.le_refl 32), part (by decide),
        ObjectHeader.fields_window (Nat.le_refl 32)]
    · exact congrArg UInt32.toNat (Bytes.u32At_eq_of_window_eq (part (by decide)))
  · rintro ⟨header, flags, count⟩
    have split (x : Bytes) :
        x.window 0 40 = x.window 0 32 ++ x.window 32 4 ++ x.window 36 4 := by
      rw [x.window_add 0 36 4, x.window_add 0 32 4]
    rw [split d, split e, ObjectHeader.window_eq_of_fields_eq header (by omega) (by omega),
      Bytes.window_eq_of_u32At_eq flags (by omega) (by omega),
      Bytes.window_eq_of_u32At_eq (UInt32.toNat_inj.mp count) (by omega) (by omega)]

theorem stored_eq_iff_sameContent {d e : Bytes} (left : Accepted d) (right : Accepted e) :
    stored d = stored e ↔ SameContent d e := by
  have records (counts : declaredCount d = declaredCount e) {i : Nat} (inside : i < declaredCount d) :=
    storedEntry_eq_iff (d := d) (e := e) (o := 40 + 40 * i)
      (by have := left.room; omega) (by have := right.room; omega)
  constructor
  · intro same
    simp only [stored, CheckpointMap.mk.injEq] at same
    obtain ⟨header, flags, entries⟩ := same
    have counts : declaredCount d = declaredCount e := by
      simpa only [length_storedEntries] using congrArg List.length entries
    rw [← counts, storedEntries_eq_iff] at entries
    exact ⟨(front_eq_iff left.long right.long).mpr ⟨header, flags, counts⟩,
      fun i inside => (records counts inside).mp (entries i inside)⟩
  · rintro ⟨first, behind⟩
    obtain ⟨header, flags, counts⟩ := (front_eq_iff left.long right.long).mp first
    have entries : storedEntries d 40 (declaredCount d) = storedEntries e 40 (declaredCount d) :=
      storedEntries_eq_iff.mpr fun i inside => (records counts inside).mpr (behind i inside)
    rw [stored, stored, header, flags, entries, counts]

theorem decode_record {d : Bytes} (h : Accepted d) {i : Nat} (inside : i < (stored d).entries.length) :
    Entry.decode (d.window (40 + 40 * i) 40) = .ok (stored d).entries[i] := by
  have few : i < declaredCount d := by simpa only [stored, length_storedEntries] using inside
  have room := h.room
  rw [decode_window (by omega)]
  simp only [stored, storedEntries, List.getElem_map, List.getElem_range]

/-- Decoding accepts exactly the stored form, refuses by the first condition that fails, inverts the
layout, and forgets nothing but the padding and the bytes behind the last record. -/
theorem decode_iff_stored_form :
    (∀ d : Bytes, d.length ≤ Bytes.maxLength →
      (∀ m, decode d = .ok m ↔ Accepted d ∧ stored d = m) ∧
      (∀ e, decode d = .error e ↔ Refused d e)) ∧
    (∀ d m, decode d = .ok m → m.entries.length = declaredCount d ∧
      ∀ i (inside : i < m.entries.length),
        Entry.decode (d.window (40 + 40 * i) 40) = .ok m.entries[i]) ∧
    (∀ header flags entries trailing, header.objectType = 0x4000000C → entries.length ≤ 101 →
      (encode header flags entries trailing).length ≤ Bytes.maxLength →
      decode (encode header flags entries trailing) = .ok ⟨header, flags, entries.map Prod.fst⟩) ∧
    (∀ d e m m', decode d = .ok m → decode e = .ok m' → (m = m' ↔ SameContent d e)) := by
  refine ⟨fun d bounded => decode_decided bounded, ?_, ?_, ?_⟩
  · intro d m made
    obtain ⟨h, rfl⟩ := stored_of_decode made
    exact ⟨length_storedEntries d 40 _, fun i inside => decode_record h inside⟩
  · intro header flags entries trailing kind few bounded
    rw [decode_of_accepted bounded (accepted_encode header flags trailing kind few),
      stored_encode header flags trailing few]
  · intro d e m m' left right
    obtain ⟨accepted, rfl⟩ := stored_of_decode left
    obtain ⟨accepted', rfl⟩ := stored_of_decode right
    exact stored_eq_iff_sameContent accepted accepted'

def sampleHeader : ObjectHeader := ⟨7, ⟨1⟩, ⟨2⟩, 0x4000000C, 0⟩

def sampleEntries : List (Entry × UInt32) :=
  [(⟨1, 2, 3, ⟨0⟩, ⟨1024⟩, ⟨12⟩⟩, 0xFFFFFFFF), (⟨1, 2, 3, ⟨0⟩, ⟨1024⟩, ⟨13⟩⟩, 1)]

def sampleBytes : Bytes := encode sampleHeader lastFlag sampleEntries [9, 9]

theorem sampleBytes_decodes : sampleBytes.length ≤ Bytes.maxLength ∧
    decode sampleBytes = .ok ⟨sampleHeader, lastFlag, sampleEntries.map Prod.fst⟩ ∧
    decode (sampleBytes.take 100) = .error (.insufficientData 40 80 20) := by
  obtain ⟨decided, _, inverse, _⟩ := decode_iff_stored_form
  have bounded : sampleBytes.length ≤ Bytes.maxLength := by decide +kernel
  have cut : Refused (sampleBytes.take 100) _ :=
    .truncated (by decide +kernel) (by decide +kernel) (by decide +kernel) (by decide +kernel)
  have place : 40 + 40 * wholeRecords (sampleBytes.take 100) = 80 := by decide +kernel
  have left : (sampleBytes.take 100).length - 40 - 40 * wholeRecords (sampleBytes.take 100) = 20 := by
    decide +kernel
  rw [place, left] at cut
  refine ⟨bounded, inverse sampleHeader lastFlag sampleEntries [9, 9] rfl (by decide) bounded, ?_⟩
  exact ((decided _ (by decide +kernel)).2 _).mpr cut

end NxContainer.CheckpointMap
