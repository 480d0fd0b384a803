import NxContainer.Proofs.Superblock.Format
import NxContainer.Superblock

/-! The stored form of a superblock as a layout. Identifiers may stand in any of the slots as long
as their order is kept, so a superblock has many stored forms, each of which decodes to it. -/
namespace NxContainer.Superblock

/-! Identifiers in slots. -/

/-- The identifiers stand in the slots in their order, and every other slot is zero. -/
inductive Placed : List ObjectId → List ObjectId → Prop where
  | nil : Placed [] []
  | free {ids slots : List ObjectId} (rest : Placed ids slots) : Placed ids (⟨0⟩ :: slots)
  | used {ids slots : List ObjectId} (o : ObjectId) (rest : Placed ids slots) :
      Placed (o :: ids) (o :: slots)

theorem isValid_iff (o : ObjectId) : o.isValid = true ↔ o ≠ ⟨0⟩ :=
  decide_eq_true_iff

theorem filter_of_placed {ids slots : List ObjectId} (placed : Placed ids slots)
    (named : ∀ o ∈ ids, o ≠ ⟨0⟩) : slots.filter ObjectId.isValid = ids := by
  induction placed with
  | nil => rfl
  | free rest ih => exact ih named
  | used o rest ih =>
    have valid : o.isValid = true := (isValid_iff o).mpr (named o List.mem_cons_self)
    rw [List.filter_cons_of_pos valid, ih fun o member => named o (List.mem_cons_of_mem _ member)]

theorem placed_filter (slots : List ObjectId) : Placed (slots.filter ObjectId.isValid) slots := by
  induction slots with
  | nil => exact .nil
  | cons o slots ih =>
    by_cases valid : o.isValid = true
    · rw [List.filter_cons_of_pos valid]
      exact .used o ih
    · have zero : o = ⟨0⟩ := Decidable.not_not.mp fun other => valid ((isValid_iff o).mpr other)
      rw [List.filter_cons_of_neg valid, zero]
      exact .free ih

theorem placed_replicate (n : Nat) : Placed [] (List.replicate n ⟨0⟩) := by
  induction n with
  | zero => exact .nil
  | succ n ih => exact .free ih

theorem exists_placed (ids : List ObjectId) {n : Nat} (few : ids.length ≤ n) :
    ∃ slots : Vector ObjectId n, Placed ids slots.toList := by
  have front (free : Nat) : Placed ids (ids ++ List.replicate free ⟨0⟩) := by
    clear few
    induction ids with
    | nil => exact placed_replicate free
    | cons o ids ih => exact .used o ih
  have full : (ids ++ List.replicate (n - ids.length) (ObjectId.mk 0)).toArray.size = n := by
    rw [List.size_toArray, List.length_append, List.length_replicate]
    omega
  exact ⟨⟨_, full⟩, front (n - ids.length)⟩

/-! The slots in the bytes. -/

def slotBytes (slots : List ObjectId) : Bytes := slots.flatMap fun o => Bytes.toLE 8 o.value.toNat

theorem length_slotBytes (slots : List ObjectId) : (slotBytes slots).length = 8 * slots.length := by
  induction slots with
  | nil => rfl
  | cons o slots ih =>
    rw [slotBytes] at ih ⊢
    simp only [List.flatMap_cons, List.length_append, Bytes.length_toLE, ih, List.length_cons]
    omega

theorem u64At_slotBytes (slots : List ObjectId) (before trailing : Bytes) :
    ((List.range slots.length).map fun i => ObjectId.mk
      ((before ++ (slotBytes slots ++ trailing)).u64At (before.length + 8 * i))) = slots := by
  -- Each slot that was read counts among the bytes before the next one.
  induction slots generalizing before with
  | nil => rfl
  | cons o slots ih =>
    have place (i : Nat) : before.length + 8 * (i + 1) =
        (before ++ Bytes.toLE 8 o.value.toNat).length + 8 * i := by
      rw [List.length_append, Bytes.length_toLE]
      omega
    have first : (before ++ (Bytes.toLE 8 o.value.toNat ++ (slotBytes slots ++ trailing))).u64At
        before.length = o.value := by
      rw [Bytes.u64At_append_right (Nat.le_refl _), Nat.sub_self, Bytes.u64At_toLE]
    have rest := ih (before ++ Bytes.toLE 8 o.value.toNat)
    simp only [List.append_assoc] at rest
    have split : slotBytes (o :: slots) = Bytes.toLE 8 o.value.toNat ++ slotBytes slots := rfl
    simp only [split, List.append_assoc, List.length_cons, List.range_succ_eq_map, List.map_cons,
      List.map_map, Function.comp_def, Nat.succ_eq_add_one, place, Nat.mul_zero, Nat.add_zero, first,
      rest]

theorem window_slots {d : Bytes} {o : Nat} (n : Nat) (inside : o + 8 * n ≤ d.length) :
    slotBytes ((List.range n).map fun i => ⟨d.u64At (o + 8 * i)⟩) = d.window o (8 * n) := by
  induction n with
  | zero => simp [slotBytes, Bytes.window]
  | succ n ih =>
    have next := Bytes.toLE_u64At (d := d) (o := o + 8 * n) (by omega)
    have before := ih (by omega)
    rw [slotBytes] at before ⊢
    rw [List.range_succ, List.map_append, List.flatMap_append, before, Nat.mul_succ, d.window_add]
    simpa only [List.map_cons, List.map_nil, List.flatMap_cons, List.flatMap_nil, List.append_nil,
      List.append_cancel_left_eq] using next

/-! The whole superblock. -/

section encode

variable (s : Superblock) (p : Placement)

theorem encode_eq_before : ∃ before : Bytes, before.length = 184 ∧
    encode s p = before ++ (slotBytes p.slots.toList ++ p.trailing) := by
  unfold encode
  refine ⟨_, ?_, List.append_assoc _ _ _⟩
  simp only [List.length_append, ObjectHeader.length_encode, Bytes.length_toLE,
    Vector.length_toList]

theorem length_encode : (encode s p).length = 984 + p.trailing.length := by
  obtain ⟨before, size, split⟩ := encode_eq_before s p
  rw [split, List.length_append, List.length_append, size, length_slotBytes, Vector.length_toList,
    ← Nat.add_assoc]

theorem slots_encode : slots (encode s p) = p.slots.toList := by
  obtain ⟨before, size, split⟩ := encode_eq_before s p
  have read := u64At_slotBytes p.slots.toList before p.trailing
  rwa [← split, size, Vector.length_toList] at read

theorem uuid_encode : (encode s p).window 72 16 = s.uuid.toList := by
  have whole := Bytes.window_zero_length s.uuid.toList
  rw [Vector.length_toList] at whole
  unfold encode
  simp [Bytes.window_append_right, Bytes.window_append_left, ObjectHeader.length_encode,
    Bytes.length_toLE, whole]

theorem getD_uuid (i : Fin 16) : (encode s p).getD (72 + i) 0 = s.uuid[i] := by
  have inside : i.val < 16 := i.isLt
  rw [← Bytes.getD_window inside, uuid_encode, List.getD_eq_getElem?_getD]
  simp

theorem fields_encode (s : Superblock) (p : Placement) (named : ∀ o ∈ s.volumeObjectIds, o ≠ ⟨0⟩)
    (placed : Placed s.volumeObjectIds p.slots.toList) : fields (encode s p) = s := by
  have header : ObjectHeader.fields (encode s p) = s.header := by
    unfold encode
    simp only [List.append_assoc]
    exact ObjectHeader.fields_encode _ _
  have uuid : (Vector.ofFn fun i : Fin 16 => (encode s p).getD (72 + i) 0) = s.uuid := by
    simp only [getD_uuid]
    exact Vector.ext fun i inside => by simp
  have volumes : (slots (encode s p)).filter ObjectId.isValid = s.volumeObjectIds := by
    rw [slots_encode, filter_of_placed placed named]
  simp only [fields, header, uuid, volumes]
  unfold encode
  simp [Bytes.u32At_append_right, Bytes.u64At_append_right, Bytes.u32At_toLE, Bytes.u64At_toLE,
    Bytes.length_toLE, ObjectHeader.length_encode]

end encode

def placementIn (d : Bytes) : Placement where
  reserved := d.u32At 176
  slots := Vector.ofFn fun i : Fin 100 => ⟨d.u64At (184 + 8 * i)⟩
  trailing := d.drop 984

theorem toList_slots_placementIn (d : Bytes) : (placementIn d).slots.toList = slots d := by
  apply List.ext_getElem
  · simp [placementIn, slots, slotCount]
  · intro i left right
    simp [placementIn, slots, slotsOffset]

theorem toList_uuid_fields {d : Bytes} (long : 1408 ≤ d.length) :
    (fields d).uuid.toList = d.window 72 16 := by
  apply List.ext_getElem
  · rw [Vector.length_toList, Bytes.length_window]
    omega
  · intro i left right
    rw [Vector.length_toList] at left
    have inside : 72 + i < d.length := by omega
    simp [fields, Bytes.window, List.getD_eq_getElem?_getD, inside]

theorem encode_fields {d : Bytes} (long : 1408 ≤ d.length) :
    encode (fields d) (placementIn d) = d := by
  have header := ObjectHeader.encode_fields (d := d) (by omega)
  have volumes := window_slots (d := d) (o := 184) 100 (by omega)
  unfold encode
  rw [← slotBytes, toList_slots_placementIn, slots, slotCount, slotsOffset, volumes,
    toList_uuid_fields long]
  simp (disch := omega) only [fields, placementIn, header, Bytes.toLE_u64At, Bytes.toLE_u32At,
    Bytes.window_zero_append, Bytes.window_append_drop, Nat.reduceAdd, Nat.reduceMul]

theorem accepted_of_fields {d : Bytes} (long : 1408 ≤ d.length)
    (kind : (fields d).header.objectType = 0x80000001) (magic : (fields d).magic = 0x4253584E) :
    Accepted d := ⟨long, kind, magic⟩

/-- Decoding accepts exactly the stored form, refuses by the first condition that fails, yields the
identifiers in the slots that are in use, and inverts the layout in both directions, wherever the
identifiers stand and whatever stands in the bytes that no field uses. -/
theorem decode_iff_placed_form :
    (∀ d : Bytes, d.length ≤ Bytes.maxLength →
      (∀ s, decode d = .ok s ↔ Accepted d ∧ fields d = s) ∧
      (∀ e, decode d = .error e ↔ Refused d e)) ∧
    (∀ d s, decode d = .ok s →
      s.volumeObjectIds = ((List.range 100).map fun i => ⟨d.u64At (184 + 8 * i)⟩).filter (· ≠ ⟨0⟩) ∧
      s.volumeObjectIds.length ≤ 100 ∧ ∀ o ∈ s.volumeObjectIds, o ≠ ⟨0⟩) ∧
    (∀ s p, s.header.objectType = 0x80000001 → s.magic = 0x4253584E →
      (∀ o ∈ s.volumeObjectIds, o ≠ ⟨0⟩) → Placed s.volumeObjectIds p.slots.toList →
      1408 ≤ (encode s p).length → (encode s p).length ≤ Bytes.maxLength →
      decode (encode s p) = .ok s) ∧
    (∀ ids : List ObjectId, ids.length ≤ 100 →
      ∃ slots : Vector ObjectId 100, Placed ids slots.toList) ∧
    (∀ d s, decode d = .ok s →
      ∃ p, Placed s.volumeObjectIds p.slots.toList ∧ encode s p = d) := by
  refine ⟨fun d bounded => decode_decided bounded, ?_, ?_, fun ids few => exists_placed ids few, ?_⟩
  · intro d s made
    obtain ⟨_, rfl⟩ := fields_of_decode made
    have few : (slots d).length = 100 := by rw [slots, List.length_map, List.length_range, slotCount]
    refine ⟨rfl, ?_, ?_⟩
    · exact few ▸ List.length_filter_le _ _
    · intro o member
      exact (isValid_iff o).mp (List.mem_filter.mp member).2
  · intro s p kind magic named placed long bounded
    have same := fields_encode s p named placed
    have accepted : Accepted (encode s p) := by
      apply accepted_of_fields long
      · rw [same]
        exact kind
      · rw [same]
        exact magic
    rw [decode_of_accepted bounded accepted, same]
  · intro d s made
    obtain ⟨accepted, rfl⟩ := fields_of_decode made
    refine ⟨placementIn d, ?_, encode_fields accepted.long⟩
    rw [toList_slots_placementIn]
    exact placed_filter (slots d)

def sampleVolumes : Superblock where
  header := ⟨1, ⟨2⟩, ⟨3⟩, 0x80000001, 5⟩
  magic := 0x4253584E
  blockSize := 4096
  numberOfBlocks := 6
  features := 7
  readonlyCompatibleFeatures := 8
  incompatibleFeatures := 9
  uuid := Vector.ofFn fun i => UInt8.ofNat (10 + i)
  nextObjectId := ⟨30⟩
  nextTransactionId := ⟨31⟩
  checkpointDescriptorBlocks := 32
  checkpointDataBlocks := 33
  checkpointDescriptorBase := 34
  checkpointDataBase := 35
  checkpointDescriptorNext := 36
  checkpointDataNext := 37
  checkpointDescriptorIndex := 38
  checkpointDescriptorLength := 39
  checkpointDataIndex := 40
  checkpointDataLength := 41
  spaceManagerObjectId := ⟨42⟩
  objectMapBlockNumber := ⟨43⟩
  reaperObjectId := ⟨44⟩
  maxFileSystems := 45
  volumeObjectIds := [⟨1026⟩, ⟨1030⟩, ⟨1026⟩]

def samplePlacement : Placement where
  reserved := 0xFFFFFFFF
  slots := Vector.ofFn fun i : Fin 100 =>
    if i = 2 ∨ i = 99 then ⟨1026⟩ else if i = 50 then ⟨1030⟩ else ⟨0⟩
  trailing := List.replicate 424 9

theorem sampleVolumes_placed :
    Placed sampleVolumes.volumeObjectIds samplePlacement.slots.toList := by
  have named : samplePlacement.slots.toList.filter ObjectId.isValid =
      sampleVolumes.volumeObjectIds := by decide +kernel
  rw [← named]
  exact placed_filter _

theorem sampleVolumes_decodes : (encode sampleVolumes samplePlacement).length = 1408 ∧
    decode (encode sampleVolumes samplePlacement) = .ok sampleVolumes ∧
    decode ((encode sampleVolumes samplePlacement).take 1407) =
      .error (.insufficientData 1408 0 1407) := by
  obtain ⟨decided, _, inverse, _⟩ := decode_iff_placed_form
  have size : (encode sampleVolumes samplePlacement).length = 1408 := by
    simp only [length_encode, samplePlacement, List.length_replicate]
  have cut : ((encode sampleVolumes samplePlacement).take 1407).length = 1407 := by
    rw [List.length_take, size]
    exact Nat.min_eq_left (by decide)
  have short : Refused ((encode sampleVolumes samplePlacement).take 1407) _ :=
    .short (by rw [cut]; decide)
  rw [cut] at short
  refine ⟨size, ?_, ((decided _ (by rw [cut]; decide)).2 _).mpr short⟩
  exact inverse sampleVolumes samplePlacement rfl rfl (by decide) sampleVolumes_placed
    (Nat.le_of_eq size.symm) (by rw [size]; decide)

end NxContainer.Superblock
