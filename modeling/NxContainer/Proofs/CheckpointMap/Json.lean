import NxContainer.Json.Forms
import NxContainer.Proofs.CheckpointMap.Format
import NxContainer.Proofs.Json.Record

/-! Checkpoint maps and their JSON form. Written down, a map is read back as it was, and an object
with the members of a map is read exactly up to the number of entries that a map may have. -/
namespace NxContainer

open Json (Holds ReadAs field_bind_eq_some_iff pure_eq_some_iff record_ofMembers_eq_some_iff
  readAs_map list?_eq_some_iff)

@[simp] theorem ObjectId.ofJson?_toJson (o : ObjectId) : ObjectId.ofJson? o.toJson = some o := by
  simp [ofJson?, toJson]

@[simp] theorem TransactionId.ofJson?_toJson (t : TransactionId) :
    TransactionId.ofJson? t.toJson = some t := by
  simp [ofJson?, toJson]

@[simp] theorem BlockNumber.ofJson?_toJson (b : BlockNumber) :
    BlockNumber.ofJson? b.toJson = some b := by
  simp [ofJson?, toJson]

@[simp] theorem ObjectHeader.ofJson?_toJson (h : ObjectHeader) :
    ObjectHeader.ofJson? h.toJson = some h := by
  rw [ofJson?, toJson, record_ofMembers_eq_some_iff]
  simp only [field_bind_eq_some_iff, pure_eq_some_iff]
  simp [Holds, Json.valuesOf]

namespace CheckpointMap

@[simp] theorem Entry.ofJson?_toJson (e : Entry) : Entry.ofJson? e.toJson = some e := by
  rw [ofJson?, toJson, record_ofMembers_eq_some_iff]
  simp only [field_bind_eq_some_iff, pure_eq_some_iff]
  simp [Holds, Json.valuesOf]

/-- The members of a map, in any order and among others. Their number of entries is not limited. -/
structure Describes (members : List (String × Json)) (m : CheckpointMap) : Prop where
  header : Holds members "header" ObjectHeader.ofJson? m.header
  flags : Holds members "flags" Json.word32? m.flags
  entries : ∃ items, Json.valuesOf "entries" members = [.list items] ∧
    ReadAs Entry.ofJson? items m.entries

theorem holds_list_iff {α : Type} {members : List (String × Json)} {name : String}
    {read : Json → Option α} {as : List α} : Holds members name (Json.list? read) as ↔
      ∃ items, Json.valuesOf name members = [.list items] ∧ ReadAs read items as := by
  constructor
  · rintro ⟨j, only, made⟩
    cases j with
    | list items => exact ⟨items, only, list?_eq_some_iff.mp made⟩
    | null | bool | number | string | object => cases made
  · rintro ⟨items, only, made⟩
    exact ⟨_, only, list?_eq_some_iff.mpr made⟩

theorem members?_eq_some_iff {members : List (String × Json)} {m : CheckpointMap} :
    members? (Json.ofMembers members) = some m ↔ Describes members m := by
  rw [members?, record_ofMembers_eq_some_iff]
  simp only [field_bind_eq_some_iff, pure_eq_some_iff, holds_list_iff]
  constructor
  · rintro ⟨_, header, hh, flags, hf, entries, he, made⟩
    cases made
    exact ⟨hh, hf, he⟩
  · rintro ⟨hh, hf, he⟩
    exact ⟨_, _, hh, _, hf, _, he, rfl⟩

theorem ofJson_of_describes {members : List (String × Json)} {m : CheckpointMap}
    (h : Describes members m) : ofJson (Json.ofMembers members) =
      if m.entries.length ≤ 101 then .ok m
      else .error (.refused (.outOfBounds "number_of_entries" m.entries.length 101)) := by
  rw [ofJson, members?_eq_some_iff.mpr h]
  by_cases few : m.entries.length ≤ 101
  · simp [requireEntryCount, require, maxEntries, few]
  · simp [requireEntryCount, require, maxEntries, few]

theorem length_le_of_ofJson {j : Json} {m : CheckpointMap} (made : ofJson j = .ok m) :
    m.entries.length ≤ 101 := by
  rw [ofJson] at made
  split at made
  · cases made
  · rename_i map _
    rw [check_bind_eq_ok_iff, mapError_eq_ok_iff, requireEntryCount, require_eq_ok_iff] at made
    obtain ⟨few, same⟩ := made
    cases same
    exact few

theorem length_le_of_decode {d : Bytes} {m : CheckpointMap} (made : decode d = .ok m) :
    m.entries.length ≤ 101 := by
  obtain ⟨accepted, rfl⟩ := stored_of_decode made
  simpa only [stored, length_storedEntries] using accepted.few

theorem describes_toJson (m : CheckpointMap) :
    ∃ members, m.toJson = Json.ofMembers members ∧ Describes members m := by
  refine ⟨_, rfl, ?_, ?_, _, ?_, readAs_map Entry.ofJson?_toJson m.entries⟩
  · simp [Holds, Json.valuesOf]
  · simp [Holds, Json.valuesOf]
  · simp [Json.valuesOf, Json.ofList]

theorem ofJson_toJson {m : CheckpointMap} (few : m.entries.length ≤ 101) :
    ofJson m.toJson = .ok m := by
  obtain ⟨members, same, describes⟩ := describes_toJson m
  rw [same, ofJson_of_describes describes, if_pos few]

inductive Obtained (m : CheckpointMap) : Prop where
  | decoded (d : Bytes) (made : decode d = .ok m)
  | read (j : Json) (made : ofJson j = .ok m)

theorem Obtained.few {m : CheckpointMap} (h : Obtained m) : m.entries.length ≤ 101 := by
  cases h with
  | decoded d made => exact length_le_of_decode made
  | read j made => exact length_le_of_ofJson made

/-- A map keeps to the entry limit however it was obtained, and its written form is read back as the
same map, with the same answers to every look-up. An object with the members of a map is read, as
exactly that map, up to the limit, and what is written has that form. -/
theorem limited_and_read_back :
    (∀ m, Obtained m → m.entries.length ≤ 101) ∧
    (∀ m, Obtained m → ofJson m.toJson = .ok m) ∧
    (∀ members m, Describes members m → ofJson (Json.ofMembers members) =
      if m.entries.length ≤ 101 then .ok m
      else .error (.refused (.outOfBounds "number_of_entries" m.entries.length 101))) ∧
    (∀ m : CheckpointMap, ∃ members, m.toJson = Json.ofMembers members ∧ Describes members m) ∧
    (∀ m m', Obtained m → ofJson m.toJson = .ok m' → ∀ o,
      m'.addressOf? o = m.addressOf? o ∧ m'.entryFor? o = m.entryFor? o) := by
  refine ⟨fun _ h => h.few, fun _ h => ofJson_toJson h.few, fun _ _ => ofJson_of_describes,
    describes_toJson, ?_⟩
  intro m m' h made o
  have same : m = m' := Except.ok.inj ((ofJson_toJson h.few).symm.trans made)
  rw [same]
  exact ⟨rfl, rfl⟩

def extremeEntry : Entry :=
  ⟨0xFFFFFFFF, 0, 4096, ⟨0⟩, ⟨0xFFFFFFFFFFFFFFFF⟩, ⟨0x8000000000000001⟩⟩

def repeating (n : Nat) : CheckpointMap :=
  ⟨⟨0xFFFFFFFFFFFFFFFF, ⟨1⟩, ⟨2⟩, 0x4000000C, 0⟩, 1, List.replicate n extremeEntry⟩

theorem full_map_read_back : Obtained (repeating 101) ∧
    ofJson (repeating 101).toJson = .ok (repeating 101) ∧
    ofJson (repeating 102).toJson =
      .error (.refused (.outOfBounds "number_of_entries" 102 101)) := by
  obtain ⟨_, read_back, limited, form, _⟩ := limited_and_read_back
  have admitted (n : Nat) : ofJson (repeating n).toJson = if n ≤ 101 then .ok (repeating n)
      else .error (.refused (.outOfBounds "number_of_entries" n 101)) := by
    obtain ⟨members, same, describes⟩ := form (repeating n)
    have entries : (repeating n).entries.length = n := List.length_replicate
    rw [same, limited members _ describes, entries]
  have full : Obtained (repeating 101) := .read _ (admitted 101)
  exact ⟨full, read_back _ full, admitted 102⟩

end CheckpointMap

end NxContainer
