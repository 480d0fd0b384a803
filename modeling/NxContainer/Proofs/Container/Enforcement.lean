import NxContainer.Proofs.Container.Reads
import NxContainer.Proofs.Container.Reports

/-! What verifying checksums changes. A read that verifies them and one that does not are the same
unless a stored checksum is wrong. Then the first fails with the mismatch and the second reports it,
once and with the same values, whatever it ends in. -/
namespace NxContainer.Container

open Traced

def lenient (c : Container) : Container :=
  { c with options := { c.options with verifyChecksums := false } }

variable {c : Container}

/-! Failures of plain reads. -/

theorem unrelated_read (d : ByteDevice) (o : ByteOffset) (n : Nat) :
    FailsWith ReadError.Unrelated (d.read o n) := by
  refine (FailsWith.of_require nofun).bind fun _ => ?_
  cases d with
  | memory image => exact .ok _
  | file openedLength contents => exact (FailsWith.of_require nofun).bind fun _ => .ok _

theorem unrelated_readDeviceBlock (d : BlockDevice) (b : BlockNumber) :
    FailsWith ReadError.Unrelated (d.readBlock b) := by
  have place : FailsWith ReadError.Unrelated (d.offsetOf b) := by
    refine (FailsWith.of_require nofun).bind fun _ => ?_
    cases b.offset? d.blockSize with
    | none => exact .error nofun
    | some o => exact .ok o
  exact place.bind fun o => unrelated_read d.bytes o _

theorem unrelated_requireInside (c : Container) (b : BlockNumber) :
    FailsWith ReadError.Unrelated (c.requireInside b) := .of_require nofun

theorem unrelated_readBlock (c : Container) (b : BlockNumber) :
    FailsWith ReadError.Unrelated (c.readBlock b) := by
  refine (unrelated_requireInside c b).bind fun _ => ?_
  exact (FailsWith.of_require nofun).bind fun _ => unrelated_readDeviceBlock c.blocks b

/-! Operations that read objects. -/

theorem checkChecksum_enforces (verifies : c.options.verifyChecksums = true) (b : BlockNumber)
    (object : Bytes) : Enforces (c.checkChecksum b object) (c.lenient.checkChecksum b object) := by
  refine Enforces.after (plain_decoded b _) fun verdict => ?_
  cases verdict with
  | matching => exact .agree rfl (plain_pure ())
  | mismatch stored computed =>
    simp only [verifies, lenient, if_true, Bool.false_eq_true, if_false]
    exact .refuse rfl rfl rfl (.ok ())

theorem readObject_enforces (verifies : c.options.verifyChecksums = true) (b : BlockNumber) :
    Enforces (c.readObject b) (c.lenient.readObject b) :=
  Enforces.after (plain_lift (unrelated_readBlock c b)) fun object =>
    (checkChecksum_enforces verifies b object).bind fun _ => plain_pure object

theorem readSuperblockCopy_enforces (verifies : c.options.verifyChecksums = true)
    (b : BlockNumber) : Enforces (c.readSuperblockCopy b) (c.lenient.readSuperblockCopy b) :=
  Enforces.after (plain_lift (unrelated_readDeviceBlock c.blocks b)) fun object =>
    (checkChecksum_enforces verifies b object).bind fun _ => plain_decoded b _

theorem readObjectMap_enforces (verifies : c.options.verifyChecksums = true) :
    Enforces c.readObjectMap c.lenient.readObjectMap := by
  refine (readObject_enforces verifies c.superblock.objectMapBlockNumber).bind fun object => ?_
  refine plain_bind (plain_decoded _ _) fun map => ?_
  exact plain_bind (plain_emit (by simp [Event.message])) fun _ => plain_pure map

theorem readCheckpointMap_enforces (verifies : c.options.verifyChecksums = true)
    (b : BlockNumber) : Enforces (c.readCheckpointMap b) (c.lenient.readCheckpointMap b) := by
  refine (readObject_enforces verifies b).bind fun object => ?_
  refine plain_bind (plain_decoded _ _) fun map => ?_
  exact plain_bind (plain_emit (by simp [Event.message])) fun _ => plain_pure map

theorem plain_resolveEphemeral (c : Container) (map : CheckpointMap) (o : ObjectId) :
    Plain (c.resolveEphemeral map o) := by
  refine plain_bind (plain_emit (by simp [Event.message])) fun _ => ?_
  cases map.addressOf? o with
  | none => exact plain_pure none
  | some b => exact plain_bind (plain_lift (unrelated_requireInside c b)) fun _ => plain_pure (some b)

theorem startingCopy_enforces (verifies : c.options.verifyChecksums = true) (b : BlockNumber) :
    Enforces (c.startingCopy b) (c.lenient.startingCopy b) := by
  refine (readSuperblockCopy_enforces verifies b).bind fun superblock => ?_
  refine plain_bind (plain_decoded _ _) fun size => ?_
  exact plain_bind (plain_lift (.of_require nofun)) fun _ => plain_pure superblock

/-! Opening. -/

theorem plain_readFront (device : ByteDevice) (options : OpenOptions) :
    Plain (readFront device options) := by
  refine plain_bind (plain_lift (unrelated_read device _ _)) fun region => ?_
  refine plain_bind (plain_decoded _ _) fun primary => ?_
  exact plain_bind (plain_decoded _ _) fun size => plain_pure _

theorem quiet_select {front : Container} (verifies : front.options.verifyChecksums = true) :
    Quiet front.select := by
  unfold select
  split
  · exact (startingCopy_enforces verifies _).quiet_strict
  · exact (plain_pure _).quiet

theorem plain_judge (front : Container) (superblock : Superblock) :
    Plain (front.judge superblock) := by
  unfold judge
  split
  · exact plain_pure ()
  · exact plain_decoded _ _

/-- Of the stages of an opening only the selection of the superblock reports mismatches. -/
theorem ignored_ofDevice {device : ByteDevice} {options : OpenOptions} {front : Container}
    (read : (readFront device options).result = .ok front) :
    (ofDevice device options).ignored = front.select.ignored := by
  rw [ofDevice_eq_stages, ignored_bind_of_ok _ read, (plain_readFront device options).quiet,
    List.nil_append]
  refine ignored_bind_of_quiet _ fun superblock => Plain.quiet ?_
  refine plain_bind (plain_judge front superblock) fun _ => ?_
  exact plain_bind (plain_emit (by simp [Event.message])) fun _ => plain_pure _

theorem quiet_ofDevice_of_select {device : ByteDevice} {options : OpenOptions}
    (select : ∀ front : Container, front.options = options → Quiet front.select) :
    Quiet (ofDevice device options) := by
  cases read : (readFront device options).result with
  | error e =>
    rw [ofDevice_eq_stages]
    exact (ignored_bind_of_error _ read).trans (plain_readFront _ _).quiet
  | ok front => exact (ignored_ofDevice read).trans (select front (options_of_readFront read))

theorem quiet_ofDevice (device : ByteDevice) (skip : Bool) (target : BlockNumber) :
    Quiet (ofDevice device ⟨skip, true, target⟩) := by
  apply quiet_ofDevice_of_select
  intro front same
  exact quiet_select (by rw [same])

theorem readFront_lenient {device : ByteDevice} {skip : Bool} {target : BlockNumber}
    {front : Container} (read : (readFront device ⟨skip, true, target⟩).result = .ok front) :
    (readFront device ⟨skip, false, target⟩).result = .ok front.lenient := by
  obtain ⟨region, fetched, parsed, size, options, behind⟩ := readFront_eq_ok_iff.mp read
  exact readFront_eq_ok_iff.mpr ⟨region, fetched, parsed, size, by rw [lenient, options], behind⟩

theorem parsed_of_startingCopy {b : BlockNumber} {superblock : Superblock}
    (made : (c.startingCopy b).result = .ok superblock) :
    ∃ bytes, c.blocks.readBlock b = .ok bytes ∧ Superblock.decode bytes = .ok superblock := by
  simp only [startingCopy, readSuperblockCopy, result_bind, result_lift, result_decoded,
    result_pure, bind_eq_ok_iff, mapError_eq_ok_iff] at made
  obtain ⟨copy, ⟨bytes, read, _, _, parsed⟩, _, _, _, _, same⟩ := made
  cases same
  exact ⟨bytes, read, parsed⟩

/-- The copy at the front of a device is the superblock that is read there first, since the block
goes on where the region ends. -/
theorem superblock_of_startingCopy_zero {device : ByteDevice} {options : OpenOptions}
    {front : Container} (read : (readFront device options).result = .ok front)
    {superblock : Superblock} (made : (front.startingCopy ⟨0⟩).result = .ok superblock) :
    superblock = front.superblock := by
  obtain ⟨region, fetched, primary, size, _, behind⟩ := readFront_eq_ok_iff.mp read
  obtain ⟨bytes, block, copy⟩ := parsed_of_startingCopy made
  obtain ⟨admissible, agrees⟩ := BlockSize.ofWord_eq_ok_iff.mp size
  have wide : 0 + 1408 ≤ front.blockSize.value.toNat := by
    rw [agrees]
    exact admissible.at_least (by decide)
  have start := ByteDevice.superblockRegion_eq_window fetched
  have whole := (BlockDevice.readBlock_eq_window block).2
  simp only [blocks, behind, UInt64.toNat_zero, Nat.zero_mul] at whole
  have front_eq : bytes.window 0 1408 = region := by
    rw [← whole, Image.window_window wide, ← start]
  calc superblock = Superblock.fields bytes := (Superblock.fields_of_decode copy).2.symm
    _ = Superblock.fields (bytes.window 0 1408) := (Superblock.fields_window (by decide)).symm
    _ = Superblock.fields region := by rw [front_eq]
    _ = front.superblock := (Superblock.fields_of_decode primary).2

theorem ofDevice_lenient {device : ByteDevice} {skip : Bool} {target : BlockNumber}
    (opened : (ofDevice device ⟨skip, true, target⟩).result = .ok c) :
    (ofDevice device ⟨skip, false, target⟩).result = .ok c.lenient := by
  obtain ⟨front, read, selected, judged, made⟩ := ofDevice_eq_ok_iff.mp opened
  have verifies : front.options.verifyChecksums = true := by rw [options_of_readFront read]
  rw [select, if_pos (Or.inr verifies)] at selected
  have select_lenient : front.lenient.select.result = .ok c.superblock := by
    unfold select
    split
    · exact (startingCopy_enforces verifies _).result_of_ok selected
    · -- Only here do the two read differently: the whole first block, or just its region.
      rename_i stays
      have zero : front.options.superblockBlock = ⟨0⟩ :=
        congrArg BlockNumber.mk (Decidable.not_not.mp fun other => stays (Or.inl other))
      rw [zero] at selected
      rw [superblock_of_startingCopy_zero read selected]
      rfl
  exact ofDevice_eq_ok_iff.mpr
    ⟨_, readFront_lenient read, select_lenient, judged, by rw [made]; rfl⟩

/-- Verifying checksums only takes successes away. A device that opens with verification opens
without it as well, and every operation of the two containers is the same, or else the verifying one
refuses a mismatch that the other one reports. -/
theorem verifying_refuses_what_is_reported (device : ByteDevice) (skip : Bool)
    (target : BlockNumber) :
    (ofDevice device ⟨skip, true, target⟩).ignored = [] ∧
    ∀ c, (ofDevice device ⟨skip, true, target⟩).result = .ok c →
      ∃ c', (ofDevice device ⟨skip, false, target⟩).result = .ok c' ∧
        c'.superblock = c.superblock ∧ c'.blockSize = c.blockSize ∧
        (∀ b, Enforces (ofExcept (c.readBlock b)) (ofExcept (c'.readBlock b))) ∧
        Enforces c.readObjectMap c'.readObjectMap ∧
        (∀ b, Enforces (c.readCheckpointMap b) (c'.readCheckpointMap b)) ∧
        (∀ b, Enforces (c.readSuperblockCopy b) (c'.readSuperblockCopy b)) ∧
        (∀ map o, Enforces (c.resolveEphemeral map o) (c'.resolveEphemeral map o)) := by
  refine ⟨quiet_ofDevice device skip target, ?_⟩
  intro c opened
  have verifies : c.options.verifyChecksums = true := by
    obtain ⟨front, read, _, _, made⟩ := ofDevice_eq_ok_iff.mp opened
    obtain ⟨_, _, _, _, options, _⟩ := readFront_eq_ok_iff.mp read
    rw [made, options]
  refine ⟨c.lenient, ofDevice_lenient opened, rfl, rfl, ?_, readObjectMap_enforces verifies,
    readCheckpointMap_enforces verifies, readSuperblockCopy_enforces verifies, ?_⟩
  · intro b
    exact .agree rfl (plain_lift (unrelated_readBlock c b))
  · intro map o
    exact .agree rfl (plain_resolveEphemeral c.lenient map o)

theorem sample_opens_leniently :
    (ofDevice (.memory sample) ⟨false, true, ⟨1⟩⟩).result = .ok sampleStrict ∧
    ∃ c', (ofDevice (.memory sample) ⟨false, false, ⟨1⟩⟩).result = .ok c' ∧
      c'.superblock = sampleStrict.superblock ∧
      Enforces (sampleStrict.readCheckpointMap ⟨2⟩) (c'.readCheckpointMap ⟨2⟩) ∧
      (sampleStrict.readCheckpointMap ⟨2⟩).result =
        .error (.checksumMismatch ⟨2⟩ 0 9232343769341237279) ∧
      (c'.readCheckpointMap ⟨2⟩).ignored =
        [.checksumMismatchIgnored ⟨2⟩ 0 9232343769341237279] := by
  have opened := ofDevice_of_opened (by decide) sampleStrict_opened
  obtain ⟨_, lenient⟩ := verifying_refuses_what_is_reported (.memory sample) false ⟨1⟩
  obtain ⟨c', opened', superblock, _, _, _, maps, _⟩ := lenient sampleStrict opened
  have reported := (maps ⟨2⟩).ignored_of_mismatch sampleMap_reported
  exact ⟨opened, c', opened', superblock, maps ⟨2⟩, sampleMap_reported, reported⟩

end NxContainer.Container
