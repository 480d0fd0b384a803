import NxContainer.Proofs.Container.Stages

/-! Blocks of an image and the superblock copy in one of them. The copy is read from a whole block
under the block size of the primary, so its own block size can only agree or be refused. -/
namespace NxContainer.Container

def blockBytes (image : Image) (s : BlockSize) (b : BlockNumber) : Bytes :=
  image.window (b.value.toNat * s.value.toNat) s.value.toNat

section conditions

variable (image : Image) (options : OpenOptions) (s : BlockSize)

structure Readable : Prop where
  inside : options.superblockBlock.value.toNat < image.size / s.value.toNat
  matching : options.verifyChecksums = true →
    (blockBytes image s options.superblockBlock).u64At 0 =
      Checksum.fletcher64 (blockBytes image s options.superblockBlock)

structure Copy (superblock : Superblock) : Prop where
  readable : Readable image options s
  parsed : Superblock.decode (blockBytes image s options.superblockBlock) = .ok superblock
  size : superblock.blockSize = s.value

inductive CopyRefused : ReadError → Prop where
  | outside (outside : ¬ options.superblockBlock.value.toNat < image.size / s.value.toNat) :
      CopyRefused (.outOfRange options.superblockBlock (image.size / s.value.toNat))
  | checksum (inside : options.superblockBlock.value.toNat < image.size / s.value.toNat)
      (verifies : options.verifyChecksums = true)
      (mismatch : (blockBytes image s options.superblockBlock).u64At 0 ≠
        Checksum.fletcher64 (blockBytes image s options.superblockBlock)) :
      CopyRefused (.checksumMismatch options.superblockBlock
        ((blockBytes image s options.superblockBlock).u64At 0)
        (Checksum.fletcher64 (blockBytes image s options.superblockBlock)))
  | format (readable : Readable image options s) {fault : DecodeError}
      (refused : Superblock.decode (blockBytes image s options.superblockBlock) = .error fault) :
      CopyRefused (.unsupportedFormat fault.message)
  | inadmissible (readable : Readable image options s) {superblock : Superblock}
      (parsed : Superblock.decode (blockBytes image s options.superblockBlock) = .ok superblock)
      (inadmissible : ¬ BlockSize.Admissible superblock.blockSize.toNat) :
      CopyRefused (.corruption options.superblockBlock BlockSize.refusal.message)
  | otherSize (readable : Readable image options s) {superblock : Superblock}
      (parsed : Superblock.decode (blockBytes image s options.superblockBlock) = .ok superblock)
      (admissible : BlockSize.Admissible superblock.blockSize.toNat)
      (other : superblock.blockSize ≠ s.value) :
      CopyRefused (.corruption options.superblockBlock
        s!"superblock copy block size {superblock.blockSize.toNat} differs from primary {s.value.toNat}")

end conditions

/-! Reading a block. -/

/-- The container lies on an image that fits the address space, in blocks of an admissible size. -/
structure LiesOn (c : Container) (image : Image) : Prop where
  memory : c.device = .memory image
  sized : image.size < addressLimit
  admissible : BlockSize.Admissible c.blockSize.value.toNat

theorem length_blockBytes (image : Image) (s : BlockSize) (b : BlockNumber) :
    (blockBytes image s b).length = s.value.toNat := Image.length_window _ _ _

variable {c : Container} {image : Image}

namespace LiesOn

theorem summable (h : c.LiesOn image) (b : BlockNumber) :
    Checksum.Summable (blockBytes image c.blockSize b) := by
  refine ⟨?_, ?_⟩
  · rw [length_blockBytes]
    exact h.admissible.at_least (by decide)
  · rw [length_blockBytes]
    exact Nat.mod_eq_zero_of_dvd h.admissible.four_dvd

theorem long (h : c.LiesOn image) (b : BlockNumber) :
    1408 ≤ (blockBytes image c.blockSize b).length := by
  rw [length_blockBytes]
  exact h.admissible.at_least (by decide)

theorem bounded (h : c.LiesOn image) (b : BlockNumber) :
    (blockBytes image c.blockSize b).length ≤ Bytes.maxLength := by
  rw [length_blockBytes]
  exact Nat.le_trans h.admissible.2.2 (by decide)

theorem readBlock_eq (h : c.LiesOn image) (b : BlockNumber) :
    c.blocks.readBlock b = if b.value.toNat < image.size / c.blockSize.value.toNat then
        .ok (blockBytes image c.blockSize b)
      else .error (.outOfRange b (image.size / c.blockSize.value.toNat)) := by
  rw [blocks, h.memory]
  exact BlockDevice.readBlock_memory h.sized

end LiesOn

/-! The copy. -/

theorem readSuperblockCopy_of_readable (on : c.LiesOn image)
    (h : Readable image c.options c.blockSize) :
    (c.readSuperblockCopy c.options.superblockBlock).result =
      (Superblock.decode (blockBytes image c.blockSize c.options.superblockBlock)).mapError
        (ReadError.ofDecode c.options.superblockBlock) := by
  have read := on.readBlock_eq c.options.superblockBlock
  rw [if_pos h.inside] at read
  have pass := checkChecksum_result_of_matching c.options.superblockBlock (on.summable _) h.matching
  simp [readSuperblockCopy, read, pass]

theorem readSuperblockCopy_of_short (on : c.LiesOn image) {b : BlockNumber}
    (short : ¬ b.value.toNat < image.size / c.blockSize.value.toNat) :
    (c.readSuperblockCopy b).result =
      .error (.outOfRange b (image.size / c.blockSize.value.toNat)) := by
  have read := on.readBlock_eq b
  rw [if_neg short] at read
  simp [readSuperblockCopy, read]

theorem startingCopy_of_parsed {b : BlockNumber} {superblock : Superblock}
    (made : (c.readSuperblockCopy b).result = .ok superblock) :
    (c.startingCopy b).result = (do
      let size ← superblock.validBlockSize.mapError (ReadError.ofDecode b)
      require (size = c.blockSize) (ReadError.corruption b
        s!"superblock copy block size {size.text} differs from primary {c.blockSize.text}")
      return superblock) := by
  simp only [startingCopy, Traced.result_bind, Traced.result_lift, Traced.result_decoded,
    Traced.result_pure, made, ok_bind]
  rfl

theorem startingCopy_of_failed {b : BlockNumber} {e : ReadError}
    (failed : (c.readSuperblockCopy b).result = .error e) :
    (c.startingCopy b).result = .error e := by
  simp [startingCopy, failed]

theorem startingCopy_of_copy (on : c.LiesOn image) {superblock : Superblock}
    (h : Copy image c.options c.blockSize superblock) :
    (c.startingCopy c.options.superblockBlock).result = .ok superblock := by
  have made := readSuperblockCopy_of_readable on h.readable
  rw [h.parsed] at made
  have size : superblock.validBlockSize = .ok c.blockSize :=
    BlockSize.ofWord_eq_ok_iff.mpr ⟨h.size ▸ on.admissible, h.size.symm⟩
  rw [startingCopy_of_parsed made, size]
  simp only [mapError_ok, ok_bind, require_pos]
  rfl

theorem startingCopy_of_refused (on : c.LiesOn image) {e : ReadError}
    (h : CopyRefused image c.options c.blockSize e) :
    (c.startingCopy c.options.superblockBlock).result = .error e := by
  have read := on.readBlock_eq c.options.superblockBlock
  cases h with
  | outside outside => exact startingCopy_of_failed (readSuperblockCopy_of_short on outside)
  | checksum inside verifies mismatch =>
    rw [if_pos inside] at read
    apply startingCopy_of_failed
    simp [readSuperblockCopy, read, checkChecksum_eq (on.summable _), mismatch, verifies]
  | @format readable fault refused =>
    have kind := ((Superblock.decode_decided (on.bounded _)).2 fault).mp refused
    have failed := readSuperblockCopy_of_readable on readable
    rw [refused, mapError_error, Superblock.ofDecode_of_refused _ (on.long _) kind] at failed
    exact startingCopy_of_failed failed
  | @inadmissible readable superblock parsed inadmissible =>
    have made := readSuperblockCopy_of_readable on readable
    rw [parsed] at made
    have size : superblock.validBlockSize = .error BlockSize.refusal :=
      BlockSize.ofWord_eq_error_iff.mpr ⟨inadmissible, rfl⟩
    rw [startingCopy_of_parsed made, size]
    rfl
  | @otherSize readable superblock parsed valid other =>
    have made := readSuperblockCopy_of_readable on readable
    rw [parsed] at made
    have size : superblock.validBlockSize = .ok ⟨superblock.blockSize⟩ :=
      BlockSize.ofWord_eq_ok_iff.mpr ⟨valid, rfl⟩
    have differs : ¬ BlockSize.mk superblock.blockSize = c.blockSize :=
      fun same => other (congrArg BlockSize.value same)
    rw [startingCopy_of_parsed made, size]
    simp only [mapError_ok, ok_bind, require_neg differs]
    rfl

theorem copy_or_refused (image : Image) (options : OpenOptions) (s : BlockSize) :
    (∃ superblock, Copy image options s superblock) ∨ ∃ e, CopyRefused image options s e := by
  by_cases inside : options.superblockBlock.value.toNat < image.size / s.value.toNat
  · by_cases matching : options.verifyChecksums = true →
      (blockBytes image s options.superblockBlock).u64At 0 =
        Checksum.fletcher64 (blockBytes image s options.superblockBlock)
    · have readable : Readable image options s := ⟨inside, matching⟩
      cases parsed : Superblock.decode (blockBytes image s options.superblockBlock) with
      | error fault => exact Or.inr ⟨_, .format readable parsed⟩
      | ok superblock =>
        by_cases size : superblock.blockSize = s.value
        · exact Or.inl ⟨superblock, readable, parsed, size⟩
        · by_cases valid : BlockSize.Admissible superblock.blockSize.toNat
          · exact Or.inr ⟨_, .otherSize readable parsed valid size⟩
          · exact Or.inr ⟨_, .inadmissible readable parsed valid⟩
    · obtain ⟨verifies, mismatch⟩ := Classical.not_imp.mp matching
      exact Or.inr ⟨_, .checksum inside verifies mismatch⟩
  · exact Or.inr ⟨_, .outside inside⟩

end NxContainer.Container
