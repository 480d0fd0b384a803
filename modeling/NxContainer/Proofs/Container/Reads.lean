import NxContainer.Proofs.CheckpointMap.Format
import NxContainer.Proofs.Container.Opening
import NxContainer.Proofs.ObjectMap.Format

/-! What reading an object of an opened container ends in. The block is held against the container,
against the image and against its checksum, then its type is looked at, and last the number of its
entries. Nothing else can fail. -/
namespace NxContainer.Container

section conditions

variable (image : Image) (c : Container) (b : BlockNumber)

structure Legible : Prop where
  declared : b.value < c.superblock.numberOfBlocks
  inside : b.value.toNat < image.size / c.blockSize.value.toNat
  matching : c.options.verifyChecksums = true →
    (blockBytes image c.blockSize b).u64At 0 =
      Checksum.fletcher64 (blockBytes image c.blockSize b)

inductive Illegible : ReadError → Prop where
  | outside (outside : ¬ b.value < c.superblock.numberOfBlocks) :
      Illegible (.outOfRange b c.superblock.numberOfBlocks.toNat)
  | short (declared : b.value < c.superblock.numberOfBlocks)
      (short : ¬ b.value.toNat < image.size / c.blockSize.value.toNat) :
      Illegible (.shortRead
        s!"short read: block {b.text} past device end ({image.size / c.blockSize.value.toNat} blocks)")
  | checksum (declared : b.value < c.superblock.numberOfBlocks)
      (inside : b.value.toNat < image.size / c.blockSize.value.toNat)
      (verifies : c.options.verifyChecksums = true)
      (mismatch : (blockBytes image c.blockSize b).u64At 0 ≠
        Checksum.fletcher64 (blockBytes image c.blockSize b)) :
      Illegible (.checksumMismatch b ((blockBytes image c.blockSize b).u64At 0)
        (Checksum.fletcher64 (blockBytes image c.blockSize b)))

structure Typed (expected : UInt32) : Prop where
  legible : Legible image c b
  kind : (blockBytes image c.blockSize b).u32At 24 = expected

inductive Untyped (expected : UInt32) : ReadError → Prop where
  | illegible {e : ReadError} (illegible : Illegible image c b e) : Untyped expected e
  | kind (legible : Legible image c b)
      (other : (blockBytes image c.blockSize b).u32At 24 ≠ expected) :
      Untyped expected (.unsupportedFormat (DecodeError.invalidObjectType expected
        ((blockBytes image c.blockSize b).u32At 24)).message)

inductive CheckpointMapRefused : ReadError → Prop where
  | untyped {e : ReadError} (untyped : Untyped image c b 0x4000000C e) : CheckpointMapRefused e
  | many (typed : Typed image c b 0x4000000C)
      (many : 101 < CheckpointMap.declaredCount (blockBytes image c.blockSize b)) :
      CheckpointMapRefused (.sizeOutOfBounds (DecodeError.outOfBounds "number_of_entries"
        (CheckpointMap.declaredCount (blockBytes image c.blockSize b)) 101).message)

end conditions

variable {image : Image} {c : Container} {b : BlockNumber}

/-! The block. -/

theorem readBlock_of_counted (declared : b.value < c.superblock.numberOfBlocks)
    (counted : b.value.toNat < c.blocks.blockCount) : c.readBlock b = c.blocks.readBlock b := by
  have first : c.requireInside b = .ok () := require_pos declared
  simp only [readBlock, first, require_pos counted, ok_bind]

theorem readBlock_of_inside (on : c.LiesOn image) (declared : b.value < c.superblock.numberOfBlocks)
    (inside : b.value.toNat < image.size / c.blockSize.value.toNat) :
    c.readBlock b = .ok (blockBytes image c.blockSize b) := by
  have counted : b.value.toNat < c.blocks.blockCount := by
    rw [blocks, on.memory]
    exact inside
  rw [readBlock_of_counted declared counted, on.readBlock_eq b, if_pos inside]

theorem readBlock_of_outside (outside : ¬ b.value < c.superblock.numberOfBlocks) :
    c.readBlock b = .error (.outOfRange b c.superblock.numberOfBlocks.toNat) := by
  have stop : c.requireInside b =
    .error (.outOfRange b c.superblock.numberOfBlocks.toNat) := require_neg outside
  rw [readBlock, stop, error_bind]

theorem readBlock_of_short (on : c.LiesOn image) (declared : b.value < c.superblock.numberOfBlocks)
    (short : ¬ b.value.toNat < image.size / c.blockSize.value.toNat) :
    c.readBlock b = .error (.shortRead
      s!"short read: block {b.text} past device end ({image.size / c.blockSize.value.toNat} blocks)") := by
  have first : c.requireInside b = .ok () := require_pos declared
  have count : c.blocks.blockCount = image.size / c.blockSize.value.toNat := by
    rw [blocks, on.memory]
    rfl
  simp only [readBlock, first, count, require_neg short, ok_bind, error_bind]

theorem readObject_of_legible (on : c.LiesOn image) (h : Legible image c b) :
    (c.readObject b).result = .ok (blockBytes image c.blockSize b) := by
  have read := readBlock_of_inside on h.declared h.inside
  have pass := checkChecksum_result_of_matching b (on.summable b) h.matching
  simp [readObject, read, pass, -bind_pure_comp]

theorem readObject_of_illegible (on : c.LiesOn image) {e : ReadError}
    (h : Illegible image c b e) : (c.readObject b).result = .error e := by
  cases h with
  | outside outside =>
    simp [readObject, readBlock_of_outside outside, -bind_pure_comp]
  | short declared short =>
    simp [readObject, readBlock_of_short on declared short, -bind_pure_comp]
  | checksum declared inside verifies mismatch =>
    have read := readBlock_of_inside on declared inside
    simp [readObject, read, checkChecksum_eq (on.summable b), mismatch, verifies, -bind_pure_comp]

theorem legible_or_illegible (image : Image) (c : Container) (b : BlockNumber) :
    Legible image c b ∨ ∃ e, Illegible image c b e := by
  by_cases declared : b.value < c.superblock.numberOfBlocks
  · by_cases inside : b.value.toNat < image.size / c.blockSize.value.toNat
    · by_cases matching : c.options.verifyChecksums = true →
        (blockBytes image c.blockSize b).u64At 0 =
          Checksum.fletcher64 (blockBytes image c.blockSize b)
      · exact Or.inl ⟨declared, inside, matching⟩
      · obtain ⟨verifies, mismatch⟩ := Classical.not_imp.mp matching
        exact Or.inr ⟨_, .checksum declared inside verifies mismatch⟩
    · exact Or.inr ⟨_, .short declared inside⟩
  · exact Or.inr ⟨_, .outside declared⟩

theorem typed_or_untyped (image : Image) (c : Container) (b : BlockNumber) (expected : UInt32) :
    Typed image c b expected ∨ ∃ e, Untyped image c b expected e := by
  rcases legible_or_illegible image c b with legible | ⟨e, illegible⟩
  · by_cases kind : (blockBytes image c.blockSize b).u32At 24 = expected
    · exact Or.inl ⟨legible, kind⟩
    · exact Or.inr ⟨_, .kind legible kind⟩
  · exact Or.inr ⟨e, .illegible illegible⟩

/-! The object in it. -/

/-- What reading and decoding the object in a block ends in, without the reports. -/
def readDecoded {α : Type} (c : Container) (b : BlockNumber)
    (decode : Bytes → Except DecodeError α) : Except ReadError α := do
  let object ← (c.readObject b).result
  (decode object).mapError (ReadError.ofDecode b)

theorem readCheckpointMap_result (c : Container) (b : BlockNumber) :
    (c.readCheckpointMap b).result = c.readDecoded b CheckpointMap.decode := by
  simp only [readCheckpointMap, Traced.result_bind, Traced.result_decoded, Traced.result_emit,
    Traced.result_pure, ok_bind]
  exact congrArg _ (funext fun object => bind_pure _)

theorem readObjectMap_result (c : Container) : c.readObjectMap.result =
    c.readDecoded c.superblock.objectMapBlockNumber ObjectMap.decode := by
  simp only [readObjectMap, Traced.result_bind, Traced.result_decoded, Traced.result_emit,
    Traced.result_pure, ok_bind]
  exact congrArg _ (funext fun object => bind_pure _)

theorem readDecoded_of_legible {α : Type} {decode : Bytes → Except DecodeError α}
    (on : c.LiesOn image) (h : Legible image c b) : c.readDecoded b decode =
      (decode (blockBytes image c.blockSize b)).mapError (ReadError.ofDecode b) := by
  rw [readDecoded, readObject_of_legible on h, ok_bind]

theorem readDecoded_of_illegible {α : Type} {decode : Bytes → Except DecodeError α}
    (on : c.LiesOn image) {e : ReadError} (h : Illegible image c b e) :
    c.readDecoded b decode = .error e := by
  rw [readDecoded, readObject_of_illegible on h, error_bind]

theorem LiesOn.wide (on : c.LiesOn image) (b : BlockNumber) :
    4096 ≤ (blockBytes image c.blockSize b).length := by
  rw [length_blockBytes]
  exact on.admissible.2.1

theorem readDecoded_of_untyped {α : Type} {decode : Bytes → Except DecodeError α} {expected : UInt32}
    (on : c.LiesOn image) (refuses : (blockBytes image c.blockSize b).u32At 24 ≠ expected →
      decode (blockBytes image c.blockSize b) =
        .error (.invalidObjectType expected ((blockBytes image c.blockSize b).u32At 24)))
    {e : ReadError} (h : Untyped image c b expected e) : c.readDecoded b decode = .error e := by
  cases h with
  | illegible illegible => exact readDecoded_of_illegible on illegible
  | kind legible other =>
    rw [readDecoded_of_legible on legible, refuses other]
    rfl

theorem readCheckpointMap_of_typed (on : c.LiesOn image) (h : Typed image c b 0x4000000C)
    (few : CheckpointMap.declaredCount (blockBytes image c.blockSize b) ≤ 101) :
    (c.readCheckpointMap b).result =
      .ok (CheckpointMap.stored (blockBytes image c.blockSize b)) := by
  have wide := on.wide b
  have accepted : CheckpointMap.Accepted (blockBytes image c.blockSize b) :=
    ⟨by omega, h.kind, few, by omega⟩
  rw [readCheckpointMap_result, readDecoded_of_legible on h.legible,
    CheckpointMap.decode_of_accepted (on.bounded b) accepted]
  rfl

theorem readCheckpointMap_of_refused (on : c.LiesOn image) {e : ReadError}
    (h : CheckpointMapRefused image c b e) : (c.readCheckpointMap b).result = .error e := by
  have wide := on.wide b
  rw [readCheckpointMap_result]
  cases h with
  | untyped untyped =>
    exact readDecoded_of_untyped on (fun other => CheckpointMap.decode_of_refused (on.bounded b)
      (.kind (Nat.le_trans (by decide) wide) other)) untyped
  | many typed many =>
    rw [readDecoded_of_legible on typed.legible,
      CheckpointMap.decode_of_refused (on.bounded b)
        (.many (Nat.le_trans (by decide) wide) typed.kind many)]
    rfl

theorem readObjectMap_of_typed (on : c.LiesOn image)
    (h : Typed image c c.superblock.objectMapBlockNumber 0x4000000B) :
    c.readObjectMap.result =
      .ok (ObjectMap.fields (blockBytes image c.blockSize c.superblock.objectMapBlockNumber)) := by
  have wide := on.wide c.superblock.objectMapBlockNumber
  rw [readObjectMap_result, readDecoded_of_legible on h.legible,
    ObjectMap.decode_of_accepted (on.bounded _) ⟨Nat.le_trans (by decide) wide, h.kind⟩]
  rfl

theorem readObjectMap_of_untyped (on : c.LiesOn image) {e : ReadError}
    (h : Untyped image c c.superblock.objectMapBlockNumber 0x4000000B e) :
    c.readObjectMap.result = .error e := by
  have wide := on.wide c.superblock.objectMapBlockNumber
  rw [readObjectMap_result]
  exact readDecoded_of_untyped on (fun other => ObjectMap.decode_of_refused (on.bounded _)
    (.kind (Nat.le_trans (by decide) wide) other)) h

theorem readCheckpointMap_decided (on : c.LiesOn image) (b : BlockNumber) :
    (∀ map, (c.readCheckpointMap b).result = .ok map ↔ Typed image c b 0x4000000C ∧
      CheckpointMap.declaredCount (blockBytes image c.blockSize b) ≤ 101 ∧
      CheckpointMap.stored (blockBytes image c.blockSize b) = map) ∧
    (∀ e, (c.readCheckpointMap b).result = .error e ↔ CheckpointMapRefused image c b e) := by
  refine decided ?_ (fun _ => readCheckpointMap_of_refused on) ?_
  · rintro map ⟨typed, few, rfl⟩
    exact readCheckpointMap_of_typed on typed few
  · rcases typed_or_untyped image c b 0x4000000C with typed | ⟨e, untyped⟩
    · by_cases few : CheckpointMap.declaredCount (blockBytes image c.blockSize b) ≤ 101
      · exact Or.inl ⟨_, typed, few, rfl⟩
      · exact Or.inr ⟨_, .many typed (Nat.not_le.mp few)⟩
    · exact Or.inr ⟨e, .untyped untyped⟩

theorem readObjectMap_decided (on : c.LiesOn image) :
    (∀ map, c.readObjectMap.result = .ok map ↔
      Typed image c c.superblock.objectMapBlockNumber 0x4000000B ∧
      ObjectMap.fields (blockBytes image c.blockSize c.superblock.objectMapBlockNumber) = map) ∧
    (∀ e, c.readObjectMap.result = .error e ↔
      Untyped image c c.superblock.objectMapBlockNumber 0x4000000B e) := by
  refine decided ?_ (fun _ => readObjectMap_of_untyped on) ?_
  · rintro map ⟨typed, rfl⟩
    exact readObjectMap_of_typed on typed
  · rcases typed_or_untyped image c c.superblock.objectMapBlockNumber 0x4000000B with
      typed | ⟨e, untyped⟩
    · exact Or.inl ⟨_, typed, rfl⟩
    · exact Or.inr ⟨e, untyped⟩

/-! What the errors are like. -/

/-- The error says that something is wrong with the shape of a block: with its length, with a field
outside its range, or with memory for its entries. -/
def Structural : ReadError → Prop
  | .sizeOutOfBounds detail => ∃ needed offset actual,
      detail = (DecodeError.insufficientData needed offset actual).message
  | .corruption _ _ | .allocation _ | .invalidArgument _ => True
  | .io _ | .unsupportedFormat _ | .checksumMismatch _ _ _ | .outOfRange _ _ => False

/-- The container declares the block, but the image does not hold it. -/
def PastEnd (image : Image) (c : Container) (b : BlockNumber) : Prop :=
  b.value < c.superblock.numberOfBlocks ∧ ¬ b.value.toNat < image.size / c.blockSize.value.toNat

theorem many_ne_insufficientData (count needed offset actual : Nat) :
    (DecodeError.outOfBounds "number_of_entries" count 101).message ≠
      (DecodeError.insufficientData needed offset actual).message := by
  intro same
  have first := congrArg (fun text => text.toList.take 1) same
  unfold DecodeError.message at first
  simp only [String.toList_append, List.append_assoc] at first
  have many (rest : List Char) : ((toString "number_of_entries").toList ++ rest).take 1 = ['n'] := rfl
  have insufficient (rest : List Char) :
    ((toString "insufficient data: need ").toList ++ rest).take 1 = ['i'] := rfl
  rw [many, insufficient] at first
  cases first

theorem not_structural_of_untyped {expected : UInt32} {e : ReadError}
    (h : Untyped image c b expected e) : ¬ Structural e := by
  cases h with
  | illegible illegible => cases illegible <;> exact id
  | kind => exact id

theorem not_structural_of_refused {e : ReadError} (h : CheckpointMapRefused image c b e) :
    ¬ Structural e := by
  cases h with
  | untyped untyped => exact not_structural_of_untyped untyped
  | many typed many =>
    rintro ⟨needed, offset, actual, same⟩
    exact many_ne_insufficientData _ needed offset actual same

theorem isTransient_of_untyped {expected : UInt32} {e : ReadError}
    (h : Untyped image c b expected e) : e.isTransient = true ↔ PastEnd image c b := by
  cases h with
  | illegible illegible =>
    cases illegible with
    | outside outside => exact ⟨nofun, fun past => absurd past.1 outside⟩
    | short declared short => exact ⟨fun _ => ⟨declared, short⟩, fun _ => rfl⟩
    | checksum declared inside => exact ⟨nofun, fun past => absurd inside past.2⟩
  | kind legible => exact ⟨nofun, fun past => absurd legible.inside past.2⟩

theorem isTransient_of_refused {e : ReadError} (h : CheckpointMapRefused image c b e) :
    e.isTransient = true ↔ PastEnd image c b := by
  cases h with
  | untyped untyped => exact isTransient_of_untyped untyped
  | many typed => exact ⟨nofun, fun past => absurd typed.legible.inside past.2⟩

/-- Reading an object of an opened container succeeds exactly with what the bytes of its block store,
and fails with the error of the first condition that does not hold. Of the failures only a block
that the image is too short to hold may pass when it is read again. -/
theorem reads_of_opened {options : OpenOptions} (sized : image.size < addressLimit)
    (opened : (ofDevice (.memory image) options).result = .ok c) :
    (∀ b, (∀ map, (c.readCheckpointMap b).result = .ok map ↔ Typed image c b 0x4000000C ∧
        CheckpointMap.declaredCount (blockBytes image c.blockSize b) ≤ 101 ∧
        CheckpointMap.stored (blockBytes image c.blockSize b) = map) ∧
      (∀ map, (c.readCheckpointMap b).result = .ok map →
        map.entries.length = CheckpointMap.declaredCount (blockBytes image c.blockSize b)) ∧
      (∀ e, (c.readCheckpointMap b).result = .error e ↔ CheckpointMapRefused image c b e) ∧
      (∀ e, (c.readCheckpointMap b).result = .error e →
        ¬ Structural e ∧ (e.isTransient = true ↔ PastEnd image c b))) ∧
    (∀ map, c.readObjectMap.result = .ok map ↔
      Typed image c c.superblock.objectMapBlockNumber 0x4000000B ∧
      ObjectMap.fields (blockBytes image c.blockSize c.superblock.objectMapBlockNumber) = map) ∧
    (∀ e, c.readObjectMap.result = .error e ↔
      Untyped image c c.superblock.objectMapBlockNumber 0x4000000B e) ∧
    (∀ e, c.readObjectMap.result = .error e → ¬ Structural e ∧
      (e.isTransient = true ↔ PastEnd image c c.superblock.objectMapBlockNumber)) := by
  have on := liesOn_of_opened sized opened
  obtain ⟨mapSuccess, mapFailure⟩ := readObjectMap_decided on
  refine ⟨?_, mapSuccess, mapFailure, ?_⟩
  · intro b
    obtain ⟨success, failure⟩ := readCheckpointMap_decided on b
    refine ⟨success, ?_, failure, ?_⟩
    · intro map made
      obtain ⟨_, _, rfl⟩ := (success map).mp made
      exact CheckpointMap.length_storedEntries _ _ _
    · intro e failed
      have refused := (failure e).mp failed
      exact ⟨not_structural_of_refused refused, isTransient_of_refused refused⟩
  · intro e failed
    have untyped := (mapFailure e).mp failed
    exact ⟨not_structural_of_untyped untyped, isTransient_of_untyped untyped⟩

theorem sampleMap_reported : (sampleStrict.readCheckpointMap ⟨2⟩).result =
    .error (.checksumMismatch ⟨2⟩ 0 9232343769341237279) := by
  have stored : (blockBytes sample sampleStrict.blockSize ⟨2⟩).u64At 0 = 0 := by decide +kernel
  have computed : Checksum.fletcher64 (blockBytes sample sampleStrict.blockSize ⟨2⟩) =
      9232343769341237279 := by decide +kernel
  have mismatch : Illegible sample sampleStrict ⟨2⟩ _ :=
    .checksum (by decide +kernel) (by decide) rfl (by rw [stored, computed]; decide)
  rw [readCheckpointMap_result,
    readDecoded_of_illegible (sampleStrict_opened.liesOn (by decide)) mismatch, stored, computed]

theorem sample_reads_refused :
    (ofDevice (.memory sample) ⟨false, true, ⟨1⟩⟩).result = .ok sampleStrict ∧
    (sampleStrict.readCheckpointMap ⟨3⟩).result = .error (.outOfRange ⟨3⟩ 3) ∧
    (sampleStrict.readCheckpointMap ⟨2⟩).result = .error (.checksumMismatch ⟨2⟩ 0
      (Checksum.fletcher64 (blockBytes sample ⟨4096⟩ ⟨2⟩))) ∧
    sampleStrict.readObjectMap.result = .error (.unsupportedFormat
      (DecodeError.invalidObjectType 0x4000000B 0x80000001).message) := by
  have opened := ofDevice_of_opened (by decide) sampleStrict_opened
  obtain ⟨maps, _, objectMap, _⟩ := reads_of_opened (by decide) opened
  have count : sampleStrict.superblock.numberOfBlocks.toNat = 3 := by decide +kernel
  have stored : (blockBytes sample ⟨4096⟩ ⟨2⟩).u64At 0 = 0 := by decide +kernel
  have place : sampleStrict.superblock.objectMapBlockNumber = ⟨0⟩ := by decide +kernel
  have kind : (blockBytes sample ⟨4096⟩ ⟨0⟩).u32At 24 = 0x80000001 := by decide +kernel
  have outside : CheckpointMapRefused sample sampleStrict ⟨3⟩ _ :=
    .untyped (.illegible (.outside (by decide +kernel)))
  have mismatch : CheckpointMapRefused sample sampleStrict ⟨2⟩ (.checksumMismatch ⟨2⟩
      ((blockBytes sample ⟨4096⟩ ⟨2⟩).u64At 0)
      (Checksum.fletcher64 (blockBytes sample ⟨4096⟩ ⟨2⟩))) :=
    .untyped (.illegible (.checksum (by decide +kernel) (by decide) rfl (by decide +kernel)))
  have untyped : Untyped sample sampleStrict ⟨0⟩ 0x4000000B (.unsupportedFormat
      (DecodeError.invalidObjectType 0x4000000B
        ((blockBytes sample ⟨4096⟩ ⟨0⟩).u32At 24)).message) :=
    .kind ⟨by decide +kernel, by decide, fun _ => by decide +kernel⟩ (by decide +kernel)
  rw [count] at outside
  rw [stored] at mismatch
  rw [kind, ← place] at untyped
  exact ⟨opened, ((maps ⟨3⟩).2.2.1 _).mpr outside, ((maps ⟨2⟩).2.2.1 _).mpr mismatch,
    (objectMap _).mpr untyped⟩

end NxContainer.Container
