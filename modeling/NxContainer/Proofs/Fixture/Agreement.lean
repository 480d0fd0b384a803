import NxContainer.Proofs.CheckpointMap.Lookup
import NxContainer.Proofs.Container.Reads
import NxContainer.Proofs.Fixture.Placement

/-! Fixtures that are valid on their own, and a container on the image that is made of them. The
decoders do not look at what stands behind an object, so the container reads from a block what its
fixture says. -/
namespace NxContainer

namespace FixtureSource

variable {source : FixtureSource}

theorem superblock_eq_ok_iff {s : Superblock} : source.superblock = .ok s ↔
    ∃ fixture, source.load = .ok fixture ∧ Superblock.decode fixture.toBytes = .ok s ∧
      s.validate = .ok () := by
  simp only [superblock, bind_eq_ok_iff, mapError_eq_ok_iff, pure_eq_ok_iff]
  constructor
  · rintro ⟨fixture, loaded, s, parsed, _, valid, rfl⟩
    exact ⟨fixture, loaded, parsed, valid⟩
  · rintro ⟨fixture, loaded, parsed, valid⟩
    exact ⟨fixture, loaded, s, parsed, (), valid, rfl⟩

theorem objectMap_eq_ok_iff {map : ObjectMap} : source.objectMap = .ok map ↔
    ∃ fixture, source.load = .ok fixture ∧ ObjectMap.decode fixture.toBytes = .ok map := by
  simp only [objectMap, bind_eq_ok_iff, mapError_eq_ok_iff]

theorem checkpointMap_eq_ok_iff {map : CheckpointMap} : source.checkpointMap = .ok map ↔
    ∃ fixture, source.load = .ok fixture ∧ CheckpointMap.decode fixture.toBytes = .ok map := by
  simp only [checkpointMap, bind_eq_ok_iff, mapError_eq_ok_iff]

def written (name : String) (f : Fixture) : FixtureSource := ⟨name, some f.toJson.text⟩

theorem load_written {name : String} {f : Fixture} {image : Image}
    (read : (Json.Reading.skimmed.parse f.toJson.text).bind Fixture.ofJson? = some f)
    (made : f.image = .ok image) : (written name f).load = .ok image := by
  simp only [load, fixture, written, read, ok_bind, made]

end FixtureSource

namespace FixturePlacement

def padded (blockSize : Nat) (fixture : Image) : Bytes :=
  fixture.toBytes ++ List.replicate (blockSize - fixture.size) 0

/-- What the container answers is what the fixtures in its blocks say. -/
structure Agrees (blockCount : Nat) (placements : List FixturePlacement) (c : Container) : Prop where
  objectMap : ∀ p ∈ placements, p.block = c.superblock.objectMapBlockNumber.value.toNat →
    ∀ map, p.source.objectMap = .ok map → c.readObjectMap.result = .ok map
  checkpointMap : ∀ p ∈ placements, ∀ b : BlockNumber, p.block = b.value.toNat →
    b.value < c.superblock.numberOfBlocks →
    ∀ map, p.source.checkpointMap = .ok map → (c.readCheckpointMap b).result = .ok map
  placed : ∀ p ∈ placements, ∀ b : BlockNumber, p.block = b.value.toNat →
    b.value < c.superblock.numberOfBlocks →
    ∀ fixture, p.source.load = .ok fixture →
      c.readBlock b = .ok (padded c.blockSize.value.toNat fixture)
  free : ∀ b : BlockNumber, (∀ p ∈ placements, p.block ≠ b.value.toNat) →
    b.value.toNat < blockCount → b.value < c.superblock.numberOfBlocks →
    c.readBlock b = .ok (List.replicate c.blockSize.value.toNat 0)

variable {blockSize : BlockSize} {blockCount : Nat} {placements : List FixturePlacement}
  {p : FixturePlacement} {image fixture : Image} {c : Container} {b : BlockNumber} {s : Superblock}

/-! The image. -/

abbrev Made (blockSize : BlockSize) (blockCount : Nat) (placements : List FixturePlacement)
    (image : Image) : Prop :=
  Laid blockSize.value.toNat placements (Image.zeros (blockSize.value.toNat * blockCount)) image

theorem blockBytes_of_placed (made : Made blockSize blockCount placements image)
    (member : p ∈ placements) (here : p.block = b.value.toNat)
    (loaded : p.source.load = .ok fixture) :
    Container.blockBytes image blockSize b = padded blockSize.value.toNat fixture := by
  rw [Container.blockBytes, ← here, (made.placed p member fixture loaded).2, Image.window_zeros]
  rfl

theorem blockBytes_of_free (made : Made blockSize blockCount placements image)
    (free : ∀ p ∈ placements, p.block ≠ b.value.toNat) :
    Container.blockBytes image blockSize b = List.replicate blockSize.value.toNat 0 := by
  rw [Container.blockBytes, made.free _ free, Image.window_zeros]

theorem front_of_superblock (made : Made blockSize blockCount placements image)
    (member : p ∈ placements) (first : p.block = 0) (present : 0 < blockCount)
    (valid : p.source.superblock = .ok s) (size : s.blockSize = blockSize.value) :
    Container.Front image s blockSize := by
  obtain ⟨fixture, loaded, parsed, judged⟩ := FixtureSource.superblock_eq_ok_iff.mp valid
  have admissible := (Superblock.validate_eq_ok_iff.mp judged).admissible
  have wide : 4096 ≤ blockSize.value.toNat := size ▸ admissible.2.1
  have long : 1408 ≤ image.size := by
    have whole := Nat.le_mul_of_pos_right blockSize.value.toNat present
    rw [made.size]
    exact Nat.le_trans (Nat.le_trans (by decide) wide) whole
  have block : image.window 0 blockSize.value.toNat = padded blockSize.value.toNat fixture := by
    have bytes := blockBytes_of_placed (b := ⟨0⟩) made member first loaded
    rwa [Container.blockBytes, UInt64.toNat_zero, Nat.zero_mul] at bytes
  -- Opening decodes the region at the front alone, and the fixture may reach beyond it.
  have region : (image.window 0 1408).window 0 1408 = fixture.toBytes.window 0 1408 := by
    calc (image.window 0 1408).window 0 1408
        = (image.window 0 blockSize.value.toNat).window 0 1408 := by
          rw [Image.window_window (Nat.le_refl 1408), Image.window_window (by omega)]
      _ = fixture.toBytes.window 0 1408 := by
          rw [block, padded,
            Bytes.window_append_left (Superblock.fields_of_decode parsed).1.long]
  have length := Image.length_window image 0 1408
  refine ⟨long, ?_, admissible, size.symm⟩
  exact Superblock.decode_of_front parsed (by rw [length]; decide) (Nat.le_of_eq length.symm) region

/-! Reading from it. -/

section reading

variable (on : c.LiesOn image) (made : Made c.blockSize blockCount placements image)
include on made

theorem blockCount_of_made : image.size / c.blockSize.value.toNat = blockCount := by
  have wide := on.admissible.2.1
  rw [made.size]
  exact Nat.mul_div_cancel_left blockCount (by omega)

variable (member : p ∈ placements) (inside : p.block < blockCount) (here : p.block = b.value.toNat)
  (declared : b.value < c.superblock.numberOfBlocks)
include member inside here declared

theorem readBlock_of_placed (loaded : p.source.load = .ok fixture) :
    c.readBlock b = .ok (padded c.blockSize.value.toNat fixture) := by
  rw [here, ← blockCount_of_made on made] at inside
  rw [Container.readBlock_of_inside on declared inside, blockBytes_of_placed made member here loaded]

/-- What is decoded from the fixture is decoded from its block, if the decoder does not look at what
stands behind the object. -/
theorem decode_of_placed {α : Type} {decode : Bytes → Except DecodeError α} {a : α}
    (loose : c.options.verifyChecksums = false)
    (append : ∀ rest, (fixture.toBytes ++ rest).length ≤ Bytes.maxLength →
      decode (fixture.toBytes ++ rest) = .ok a)
    (loaded : p.source.load = .ok fixture) :
    (do
      let object ← (c.readObject b).result
      (decode object).mapError (ReadError.ofDecode b)) = .ok a := by
  have block := blockBytes_of_placed made member here loaded
  have bounded := on.bounded b
  rw [here, ← blockCount_of_made on made] at inside
  rw [block, padded] at bounded
  have legible : Container.Legible image c b := by
    refine ⟨declared, inside, ?_⟩
    rw [loose]
    nofun
  rw [Container.readObject_of_legible on legible, ok_bind, block, padded, append _ bounded]
  rfl

end reading

theorem agrees_of_made (on : c.LiesOn image) (made : Made c.blockSize blockCount placements image)
    (inside : ∀ p ∈ placements, p.block < blockCount) (loose : c.options.verifyChecksums = false)
    (objectMap : c.superblock.objectMapBlockNumber.value < c.superblock.numberOfBlocks) :
    Agrees blockCount placements c where
  objectMap p member here map valid := by
    obtain ⟨fixture, loaded, parsed⟩ := FixtureSource.objectMap_eq_ok_iff.mp valid
    rw [Container.readObjectMap_result]
    exact decode_of_placed on made member (inside p member) here objectMap loose
      (fun _ => ObjectMap.decode_append parsed) loaded
  checkpointMap p member b here declared map valid := by
    obtain ⟨fixture, loaded, parsed⟩ := FixtureSource.checkpointMap_eq_ok_iff.mp valid
    rw [Container.readCheckpointMap_result]
    exact decode_of_placed on made member (inside p member) here declared loose
      (fun _ => CheckpointMap.decode_append parsed) loaded
  placed p member b here declared fixture loaded :=
    readBlock_of_placed on made member (inside p member) here declared loaded
  free b free within declared := by
    rw [← blockCount_of_made on made] at within
    rw [Container.readBlock_of_inside on declared within, blockBytes_of_free made free]

/-- Fixtures in distinct blocks open as a container if the one in the first block is a valid superblock
of that block size. The container has this superblock, and what is read from its blocks is what the
fixtures say. -/
theorem valid_fixtures_open (arranged : Arranged blockSize.value.toNat blockCount placements)
    (member : p ∈ placements) (first : p.block = 0) (valid : p.source.superblock = .ok s)
    (size : s.blockSize = blockSize.value) :
    ∃ c, (openContainer blockSize blockCount placements .standard).2 = .ok c ∧
      c.superblock = s ∧ c.blockSize = blockSize ∧ Agrees blockCount placements c := by
  obtain ⟨image, laid, made⟩ := imageOf_of_arranged arranged
  obtain ⟨_, _, _, judged⟩ := FixtureSource.superblock_eq_ok_iff.mp valid
  have present : 0 < blockCount := first ▸ arranged.inside p member
  have front := front_of_superblock made member first present valid size
  have sized : image.size < addressLimit := by
    rw [made.size]
    exact arranged.sized
  have stays : ¬ Container.ReadsCopy .standard := by
    simp [Container.ReadsCopy, OpenOptions.standard]
  have opened := Container.ofDevice_of_front sized front stays fun _ => judged
  refine ⟨⟨s, blockSize, .standard, .memory image⟩, ?_, rfl, rfl, ?_⟩
  · simp only [openContainer, laid, opened, mapError_ok]
  · exact agrees_of_made (front.liesOn sized _) made arranged.inside rfl
      (Superblock.validate_eq_ok_iff.mp judged).objectMap

/-! Two fixtures in an image of four blocks. -/

def sampleSuperblock : Fixture :=
  ⟨1408, [⟨24, "01000080"⟩, ⟨32, "4e58534200100000"⟩, ⟨40, "04"⟩, ⟨160, "02"⟩]⟩

def sampleObjectMap : Fixture := ⟨88, [⟨24, "0b000040"⟩, ⟨48, "03"⟩]⟩

def samplePlacements : List FixturePlacement :=
  [⟨2, .written "object map" sampleObjectMap⟩, ⟨0, .written "superblock" sampleSuperblock⟩]

def sampleSuperblockImage : Image :=
  (((Image.zeros 1408).overlay 24 [1, 0, 0, 0x80]).overlay 32
    [0x4E, 0x58, 0x53, 0x42, 0, 0x10, 0, 0]).overlay 40 [4] |>.overlay 160 [2]

def sampleObjectMapImage : Image :=
  ((Image.zeros 88).overlay 24 [0x0B, 0, 0, 0x40]).overlay 48 [3]

theorem sampleSuperblock_load (name : String) :
    (FixtureSource.written name sampleSuperblock).load = .ok sampleSuperblockImage :=
  FixtureSource.load_written (by decide +kernel) rfl

theorem sampleObjectMap_load (name : String) :
    (FixtureSource.written name sampleObjectMap).load = .ok sampleObjectMapImage :=
  FixtureSource.load_written (by decide +kernel) rfl

theorem sampleSuperblock_sound :
    Superblock.Sound (Superblock.fields sampleSuperblockImage.toBytes) where
  admissible := ⟨by decide +kernel, by decide +kernel, by decide +kernel⟩
  nonempty := by decide +kernel
  objectMap := by decide +kernel
  descriptors := by decide +kernel
  volumes := by decide +kernel

theorem samplePlacements_arranged : Arranged 4096 4 samplePlacements where
  sized := by decide
  apart := by decide
  inside := by decide
  loads := by
    simp only [samplePlacements, List.forall_mem_cons, List.not_mem_nil, false_imp_iff,
      implies_true, and_true]
    exact ⟨⟨_, sampleObjectMap_load _, by decide⟩, ⟨_, sampleSuperblock_load _, by decide⟩⟩

theorem sample_fixtures_open : Arranged 4096 4 samplePlacements ∧
    (FixtureSource.written "superblock" sampleSuperblock).superblock =
      .ok (Superblock.fields sampleSuperblockImage.toBytes) ∧
    ∃ c, (openContainer ⟨4096⟩ 4 samplePlacements .standard).2 = .ok c ∧
      c.superblock = Superblock.fields sampleSuperblockImage.toBytes ∧
      c.readObjectMap.result = .ok (ObjectMap.fields sampleObjectMapImage.toBytes) ∧
      c.readBlock ⟨3⟩ = .ok (List.replicate 4096 0) := by
  have valid : (FixtureSource.written "superblock" sampleSuperblock).superblock =
      .ok (Superblock.fields sampleSuperblockImage.toBytes) :=
    FixtureSource.superblock_eq_ok_iff.mpr ⟨_, sampleSuperblock_load _,
      Superblock.decode_of_accepted (by decide +kernel)
        ⟨by decide +kernel, by decide +kernel, by decide +kernel⟩,
      Superblock.validate_eq_ok_iff.mpr sampleSuperblock_sound⟩
  have map : (FixtureSource.written "object map" sampleObjectMap).objectMap =
      .ok (ObjectMap.fields sampleObjectMapImage.toBytes) :=
    FixtureSource.objectMap_eq_ok_iff.mpr ⟨_, sampleObjectMap_load _,
      ObjectMap.decode_of_accepted (by decide +kernel) ⟨by decide +kernel, by decide +kernel⟩⟩
  have size : (Superblock.fields sampleSuperblockImage.toBytes).blockSize = 4096 := by
    decide +kernel
  have place : (Superblock.fields sampleSuperblockImage.toBytes).objectMapBlockNumber = ⟨2⟩ := by
    decide +kernel
  have count : (Superblock.fields sampleSuperblockImage.toBytes).numberOfBlocks = 4 := by
    decide +kernel
  have arranged : Arranged (⟨4096⟩ : BlockSize).value.toNat 4 samplePlacements :=
    samplePlacements_arranged
  obtain ⟨c, opened, superblock, blocks, agrees⟩ :=
    valid_fixtures_open arranged (List.mem_cons_of_mem _ List.mem_cons_self) rfl valid size
  have declared : (⟨3⟩ : BlockNumber).value < c.superblock.numberOfBlocks := by
    rw [superblock, count]
    decide
  have free := agrees.free ⟨3⟩ (by decide) (by decide) declared
  rw [blocks] at free
  refine ⟨samplePlacements_arranged, valid, c, opened, superblock, ?_, free⟩
  exact agrees.objectMap _ List.mem_cons_self (by rw [superblock, place]; rfl) _ map

end FixturePlacement

end NxContainer
