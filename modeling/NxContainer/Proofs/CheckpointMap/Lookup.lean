import NxContainer.Proofs.CheckpointMap.Layout

/-! Looking an object up in the map that bytes store, said on the bytes. Among the declared records
the first one that names the object decides, whatever stands in later ones or behind the last. -/
namespace NxContainer.CheckpointMap

def namedAt (d : Bytes) (i : Nat) : ObjectId := ⟨d.u64At (40 + 40 * i + 24)⟩

def addressAt (d : Bytes) (i : Nat) : BlockNumber := ⟨d.u64At (40 + 40 * i + 32)⟩

/-- The index of the first declared record that names the object, or none if there is no such
record. -/
def FirstNaming (d : Bytes) (o : ObjectId) : Option Nat → Prop
  | none => ∀ i < declaredCount d, namedAt d i ≠ o
  | some i => i < declaredCount d ∧ namedAt d i = o ∧ ∀ j < i, namedAt d j ≠ o

def findNaming (d : Bytes) (o : ObjectId) : Option Nat :=
  (List.range (declaredCount d)).find? fun i => namedAt d i = o

theorem findNaming_eq_iff {d : Bytes} {o : ObjectId} {place : Option Nat} :
    findNaming d o = place ↔ FirstNaming d o place := by
  cases place with
  | none =>
    rw [findNaming, List.find?_range_eq_none]
    simp only [FirstNaming, Bool.not_eq_true', decide_eq_false_iff_not, ne_eq]
  | some i =>
    rw [findNaming, List.find?_range_eq_some]
    simp only [FirstNaming, List.mem_range, Bool.not_eq_true', decide_eq_false_iff_not, ne_eq,
      decide_eq_true_eq]
    exact and_left_comm

theorem entryFor?_stored (d : Bytes) (o : ObjectId) :
    (stored d).entryFor? o = (findNaming d o).map fun i => storedEntry d (40 + 40 * i) := by
  simp only [entryFor?, stored, storedEntries, findNaming, List.find?_map]
  rfl

theorem addressOf?_stored (d : Bytes) (o : ObjectId) :
    (stored d).addressOf? o = (findNaming d o).map (addressAt d) := by
  rw [addressOf?, entryFor?_stored, Option.map_map]
  rfl

/-! Bytes behind the last record. -/

section behind

variable {d e : Bytes}

theorem window_eq_of_records_eq
    (records : d.window 0 (40 + 40 * declaredCount d) = e.window 0 (40 + 40 * declaredCount d))
    {k n : Nat} (inside : k + n ≤ 40 + 40 * declaredCount d) : d.window k n = e.window k n :=
  Bytes.window_eq_of_window_eq records (Nat.zero_le k) (by rwa [Nat.zero_add])

theorem accepted_of_records_eq (h : Accepted d)
    (records : d.window 0 (40 + 40 * declaredCount d) = e.window 0 (40 + 40 * declaredCount d)) :
    Accepted e := by
  have whole := h.room
  have size := congrArg List.length records
  simp only [Bytes.length_window, Nat.sub_zero] at size
  have kind : d.u32At 24 = e.u32At 24 :=
    Bytes.u32At_eq_of_window_eq (window_eq_of_records_eq records (by omega))
  have count : declaredCount d = declaredCount e := congrArg UInt32.toNat
    (Bytes.u32At_eq_of_window_eq (window_eq_of_records_eq records (by omega)))
  exact ⟨by omega, kind ▸ h.kind, count ▸ h.few, by omega⟩

theorem sameContent_of_records_eq
    (records : d.window 0 (40 + 40 * declaredCount d) = e.window 0 (40 + 40 * declaredCount d)) :
    SameContent d e := by
  refine ⟨window_eq_of_records_eq records (Nat.le_add_right 40 _), ?_⟩
  intro i inside
  exact ⟨window_eq_of_records_eq records (by omega), window_eq_of_records_eq records (by omega)⟩

theorem decode_of_records_eq {m : CheckpointMap} (made : decode d = .ok m)
    (bounded : e.length ≤ Bytes.maxLength)
    (records : d.window 0 (40 + 40 * declaredCount d) = e.window 0 (40 + 40 * declaredCount d)) :
    decode e = .ok m := by
  obtain ⟨h, rfl⟩ := stored_of_decode made
  have accepted := accepted_of_records_eq h records
  rw [decode_of_accepted bounded accepted]
  exact congrArg Except.ok
    ((stored_eq_iff_sameContent h accepted).mpr (sameContent_of_records_eq records)).symm

theorem decode_append {rest : Bytes} {m : CheckpointMap} (made : decode d = .ok m)
    (bounded : (d ++ rest).length ≤ Bytes.maxLength) : decode (d ++ rest) = .ok m := by
  have room := (stored_of_decode made).1.room
  refine decode_of_records_eq made bounded ?_
  rw [Bytes.window_append_left (by omega)]

end behind

end NxContainer.CheckpointMap
