import NxContainer.Proofs.Container.Resolution
import NxContainer.Proofs.Image

/-! Which failures on an image too short for a block may pass when the read is repeated. A block
that the container declares is a short read, which may; the block of a superblock copy is out of
range there, which never passes. -/
namespace NxContainer

theorem ReadError.isTransient_ofDecode (b : BlockNumber) (fault : DecodeError) :
    (ofDecode b fault).isTransient = false := by
  cases fault <;> rfl

namespace Container

variable {image : Image} {options : OpenOptions} {c : Container} {b : BlockNumber}

theorem isTransient_of_copyRefused {s : BlockSize} {e : ReadError}
    (h : CopyRefused image options s e) : e.isTransient = false := by
  cases h <;> rfl

theorem Refused.isTransient_iff {e : ReadError} (h : Refused image options e) :
    e.isTransient = true ↔ image.size < 1408 := by
  have long_of_front {primary : Superblock} {s : BlockSize} (front : Front image primary s) :
      ¬ image.size < 1408 := Nat.not_lt.mpr front.long
  cases h with
  | short short => exact ⟨fun _ => short, fun _ => rfl⟩
  | format long => exact ⟨nofun, fun short => absurd short (Nat.not_lt.mpr long)⟩
  | blockSize long => exact ⟨nofun, fun short => absurd short (Nat.not_lt.mpr long)⟩
  | copy front reads refused =>
    rw [isTransient_of_copyRefused refused]
    exact ⟨nofun, fun short => absurd short (long_of_front front)⟩
  | geometry front => exact ⟨nofun, fun short => absurd short (long_of_front front)⟩

theorem ofDevice_of_short (sized : image.size < addressLimit) {primary : Superblock} {s : BlockSize}
    (front : Front image primary s) (reads : ReadsCopy options)
    (short : image.size / s.value.toNat ≤ options.superblockBlock.value.toNat) :
    (ofDevice (.memory image) options).result =
      .error (.outOfRange options.superblockBlock (image.size / s.value.toNat)) :=
  ofDevice_of_refused sized (.copy front reads (.outside (Nat.not_lt.mpr short)))

theorem LiesOn.readBlock_transient_iff (on : c.LiesOn image) :
    (∃ e, c.readBlock b = .error e ∧ e.isTransient = true) ↔ PastEnd image c b := by
  by_cases declared : b.value < c.superblock.numberOfBlocks
  · by_cases inside : b.value.toNat < image.size / c.blockSize.value.toNat
    · rw [readBlock_of_inside on declared inside]
      exact ⟨nofun, fun past => absurd inside past.2⟩
    · exact ⟨fun _ => ⟨declared, inside⟩, fun _ => ⟨_, readBlock_of_short on declared inside, rfl⟩⟩
  · rw [readBlock_of_outside declared]
    constructor
    · rintro ⟨e, failed, transient⟩
      cases failed
      cases transient
    · exact fun past => absurd past.1 declared

theorem LiesOn.readSuperblockCopy_permanent (on : c.LiesOn image) (b : BlockNumber) :
    FailsWith (fun e => e.isTransient = false) (c.readSuperblockCopy b).result := by
  have block : FailsWith (fun e => e.isTransient = false) (c.blocks.readBlock b) := by
    rw [on.readBlock_eq b]
    split
    · exact .ok _
    · exact .error rfl
  have decoding := ReadError.isTransient_ofDecode b
  simp only [readSuperblockCopy, Traced.result_bind, Traced.result_lift, Traced.result_decoded]
  exact block.bind fun object =>
    (checkChecksum_failsWith c b object decoding fun _ _ => rfl).bind fun _ =>
      .of_mapError _ decoding

/-- On an image that holds the region at its front, opening fails for good, also if the image is too
short for the block of the copy. In an opened container a block fails as a short read exactly if it
is declared and the image is too short for it, while the superblock copy in it fails for good: it is
then out of range, also where the container declares it. -/
theorem copies_fail_for_good (image : Image) (options : OpenOptions)
    (sized : image.size < addressLimit) :
    (∀ e, (ofDevice (.memory image) options).result = .error e →
      (e.isTransient = true ↔ image.size < 1408)) ∧
    (∀ primary s, Front image primary s → ReadsCopy options →
      image.size / s.value.toNat ≤ options.superblockBlock.value.toNat →
      (ofDevice (.memory image) options).result =
        .error (.outOfRange options.superblockBlock (image.size / s.value.toNat))) ∧
    ∀ c, (ofDevice (.memory image) options).result = .ok c → ∀ b,
      ((∃ e, c.readBlock b = .error e ∧ e.isTransient = true) ↔ PastEnd image c b) ∧
      (PastEnd image c b → c.readBlock b = .error (.shortRead
        s!"short read: block {b.text} past device end ({image.size / c.blockSize.value.toNat} blocks)")) ∧
      (∀ e, (c.readSuperblockCopy b).result = .error e → e.isTransient = false) ∧
      (image.size / c.blockSize.value.toNat ≤ b.value.toNat → (c.readSuperblockCopy b).result =
        .error (.outOfRange b (image.size / c.blockSize.value.toNat))) := by
  refine ⟨?_, ?_, ?_⟩
  · intro e failed
    exact (((ofDevice_decided options sized).2 e).mp failed).isTransient_iff
  · intro primary s front reads short
    exact ofDevice_of_short sized front reads short
  · intro c opened b
    have on := liesOn_of_opened sized opened
    refine ⟨on.readBlock_transient_iff, ?_, on.readSuperblockCopy_permanent b, ?_⟩
    · intro past
      exact readBlock_of_short on past.1 past.2
    · intro short
      exact readSuperblockCopy_of_short on (Nat.not_lt.mpr short)

/-! The sample image cut off: in its first block, or behind the second of the three that it
declares. -/

theorem cut_front {size : Nat} (long : 1408 ≤ size) :
    Front (sample.resize size) sampleLenient.superblock ⟨4096⟩ :=
  sample_front.transfer long (Image.window_resize size sample_front.long)

def cutContainer : Container := { sampleLenient with device := .memory (sample.resize 8192) }

theorem cutContainer_opened :
    (ofDevice (.memory (sample.resize 8192)) ⟨true, false, ⟨0⟩⟩).result = .ok cutContainer :=
  ofDevice_of_front (by decide) (cut_front (by decide)) (by simp [ReadsCopy]) nofun

theorem cutContainer_past_end : PastEnd (sample.resize 8192) cutContainer ⟨2⟩ :=
  ⟨by decide +kernel, by decide⟩

theorem cut_copy_fails_for_good : (sample.resize 8192).size < addressLimit ∧
    (ofDevice (.memory (sample.resize 8192)) ⟨true, false, ⟨0⟩⟩).result = .ok cutContainer ∧
    (∃ e, cutContainer.readBlock ⟨2⟩ = .error e ∧ e.isTransient = true) ∧
    (cutContainer.readSuperblockCopy ⟨2⟩).result = .error (.outOfRange ⟨2⟩ 2) := by
  have sized : (sample.resize 8192).size < addressLimit := by decide
  obtain ⟨_, _, reads⟩ := copies_fail_for_good (sample.resize 8192) ⟨true, false, ⟨0⟩⟩ sized
  obtain ⟨transient, _, _, copy⟩ := reads _ cutContainer_opened ⟨2⟩
  exact ⟨sized, cutContainer_opened, transient.mpr cutContainer_past_end, copy (by decide)⟩

theorem cut_misses_declared_block :
    (Front (sample.resize 2000) sampleLenient.superblock ⟨4096⟩ ∧
      sampleLenient.superblock.numberOfBlocks = 3 ∧
      (ofDevice (.memory (sample.resize 2000)) ⟨false, true, ⟨0⟩⟩).result =
        .error (.outOfRange ⟨0⟩ 0) ∧
      (ReadError.outOfRange ⟨0⟩ 0).isTransient = false) ∧
    (ofDevice (.memory (sample.resize 8192)) ⟨true, false, ⟨0⟩⟩).result = .ok cutContainer ∧
    (⟨2⟩ : BlockNumber).value < cutContainer.blockCount ∧
    cutContainer.readBlock ⟨2⟩ = .error (.shortRead "short read: block 2 past device end (2 blocks)") ∧
    (cutContainer.readSuperblockCopy ⟨2⟩).result = .error (.outOfRange ⟨2⟩ 2) := by
  have front : Front (sample.resize 2000) sampleLenient.superblock ⟨4096⟩ := cut_front (by decide)
  have strict : (ofDevice (.memory (sample.resize 2000)) ⟨false, true, ⟨0⟩⟩).result = _ :=
    ofDevice_of_short (by decide) front (Or.inr rfl) (by decide)
  have on := liesOn_of_opened (by decide) cutContainer_opened
  have short := cutContainer_past_end
  exact ⟨⟨front, by decide +kernel, strict, rfl⟩, cutContainer_opened, short.1,
    readBlock_of_short on short.1 short.2, readSuperblockCopy_of_short on short.2⟩

end Container

end NxContainer
