import NxContainer.Proofs.Container.Enforcement
import NxContainer.Proofs.Container.Tampering
import NxContainer.Proofs.Object.Stamp

/-! Repairing a checksum. A read that fails for a mismatch names the word that is stored and the one
that should be. With the second one written over the first, the same read ends in what a container
without verification reads; any other word is a mismatch again. -/
namespace NxContainer.Container

open Checksum

def restamped (image : Image) (s : BlockSize) (b : BlockNumber) (w : UInt64) : Image :=
  image.overlay (b.value.toNat * s.value.toNat) (Bytes.toLE 8 w.toNat)

variable {image : Image} {options : OpenOptions} {c : Container} {b : BlockNumber} {s : BlockSize}
  {α : Type} {decode : Bytes → Except DecodeError α} {stamp : UInt64 → α → α}

/-! The image. -/

section image

variable (wide : 8 ≤ s.value.toNat) (w : UInt64)
include wide

theorem window_restamped_of_apart {o n : Nat} (apart : o + n ≤ b.value.toNat * s.value.toNat ∨
    b.value.toNat * s.value.toNat + s.value.toNat ≤ o) :
    (restamped image s b w).window o n = image.window o n := by
  apply Image.window_overlay_of_apart
  rw [Bytes.length_toLE]
  omega

theorem blockBytes_restamped :
    blockBytes (restamped image s b w) s b = stamped (blockBytes image s b) w := by
  have fits : (Bytes.toLE 8 w.toNat).length ≤ s.value.toNat := by rwa [Bytes.length_toLE]
  simp only [blockBytes, restamped, Image.window_overlay_front fits, Bytes.length_toLE, stamped,
    Image.drop_window _ _ wide]

theorem stored_restamped : (blockBytes (restamped image s b w) s b).u64At 0 = w := by
  rw [blockBytes_restamped wide, u64At_stamped_zero]

theorem computed_restamped : fletcher64 (blockBytes (restamped image s b w) s b) =
    fletcher64 (blockBytes image s b) := by
  rw [blockBytes_restamped wide, fletcher64_stamped]

end image

theorem Opened.restamped (h : Opened image options c) (wide : 8 ≤ c.blockSize.value.toNat)
    (away : b ≠ ⟨0⟩) (other : b ≠ options.superblockBlock) (w : UInt64) :
    Opened (restamped image c.blockSize b w) options
      (c.onImage (restamped image c.blockSize b w)) :=
  h.reopened rfl away other fun _ _ => window_restamped_of_apart wide w

/-! The read. -/

structure Verified (image : Image) (c : Container) (b : BlockNumber) : Prop where
  on : c.LiesOn image
  declared : b.value < c.superblock.numberOfBlocks
  inside : b.value.toNat < image.size / c.blockSize.value.toNat
  verifies : c.options.verifyChecksums = true

theorem verified_of_mismatch (on : c.LiesOn image) {b' : BlockNumber} {stored computed : UInt64}
    (failed : c.readDecoded b decode = .error (.checksumMismatch b' stored computed)) :
    Verified image c b ∧ stored ≠ computed ∧ (blockBytes image c.blockSize b).u64At 0 = stored ∧
      fletcher64 (blockBytes image c.blockSize b) = computed := by
  rcases legible_or_illegible image c b with legible | ⟨e, illegible⟩
  · -- Decoding reports no mismatch.
    rw [readDecoded_of_legible on legible] at failed
    exact absurd rfl (Traced.unrelated_decoded b _ _ failed b' stored computed)
  · rw [readDecoded_of_illegible on illegible] at failed
    cases failed
    cases illegible with
    | checksum declared inside verifies mismatch =>
      exact ⟨⟨on, declared, inside, verifies⟩, mismatch, rfl, rfl⟩

namespace Verified

variable (h : Verified image c b)
include h

theorem long : 8 ≤ (blockBytes image c.blockSize b).length := Nat.le_trans (by decide) (h.on.long b)

theorem wide : 8 ≤ c.blockSize.value.toNat := by
  rw [← length_blockBytes image c.blockSize b]
  exact h.long

theorem reported (decode : Bytes → Except DecodeError α) {stored computed : UInt64}
    (there : (blockBytes image c.blockSize b).u64At 0 = stored)
    (own : fletcher64 (blockBytes image c.blockSize b) = computed) (mismatch : stored ≠ computed) :
    c.readDecoded b decode = .error (.checksumMismatch b stored computed) := by
  subst there own
  exact readDecoded_of_illegible h.on (.checksum h.declared h.inside h.verifies mismatch)

theorem restamped (w : UInt64) : Verified (restamped image c.blockSize b w)
    (c.onImage (restamped image c.blockSize b w)) b :=
  ⟨⟨rfl, h.on.sized, h.on.admissible⟩, h.declared, h.inside, h.verifies⟩

theorem lenient_read : c.lenient.readDecoded b decode =
    (decode (blockBytes image c.blockSize b)).mapError (ReadError.ofDecode b) := by
  have lies : c.lenient.LiesOn image := ⟨h.on.memory, h.on.sized, h.on.admissible⟩
  exact readDecoded_of_legible lies ⟨h.declared, h.inside, nofun⟩

theorem lenient_kept (carried : CarriedBy decode stamp) {x : α}
    (made : c.lenient.readDecoded b decode = .ok x) :
    stamp ((blockBytes image c.blockSize b).u64At 0) x = x := by
  rw [h.lenient_read, mapError_eq_ok_iff] at made
  exact carried.stamp_stored h.long (h.on.bounded b) made

theorem repaired (carried : CarriedBy decode stamp) :
    (c.onImage (Container.restamped image c.blockSize b
      (fletcher64 (blockBytes image c.blockSize b)))).readDecoded b decode =
        stamp (fletcher64 (blockBytes image c.blockSize b)) <$> c.lenient.readDecoded b decode := by
  have after := h.restamped (fletcher64 (blockBytes image c.blockSize b))
  have legible : Legible _ _ b := ⟨after.declared, after.inside, fun _ =>
    (stored_restamped h.wide _).trans (computed_restamped h.wide _).symm⟩
  have bytes := carried _ (fletcher64 (blockBytes image c.blockSize b)) h.long (h.on.bounded b)
  rw [← blockBytes_restamped h.wide] at bytes
  rw [readDecoded_of_legible after.on legible, h.lenient_read]
  calc (decode (blockBytes (Container.restamped image c.blockSize b _) c.blockSize b)).mapError _
      = (stamp _ <$> decode (blockBytes image c.blockSize b)).mapError _ := by rw [bytes]
    _ = stamp _ <$> (decode (blockBytes image c.blockSize b)).mapError _ := by
      cases decode (blockBytes image c.blockSize b) <;> rfl

theorem unrelated_iff (carried : CarriedBy decode stamp) (w : UInt64) :
    FailsWith ReadError.Unrelated
      ((c.onImage (Container.restamped image c.blockSize b w)).readDecoded b decode) ↔
        w = fletcher64 (blockBytes image c.blockSize b) := by
  constructor
  · intro unrelated
    refine Decidable.byContradiction fun other => ?_
    -- Any other word is a mismatch again.
    have failed := (h.restamped w).reported decode (stored_restamped h.wide w)
      (computed_restamped h.wide w) other
    exact unrelated _ failed b _ _ rfl
  · rintro rfl
    rw [h.repaired carried, h.lenient_read]
    have plain := Traced.unrelated_decoded b (decode (blockBytes image c.blockSize b))
    cases outcome : (decode (blockBytes image c.blockSize b)).mapError (ReadError.ofDecode b) with
    | ok x => exact .ok _
    | error e => exact .error (plain e outcome)

end Verified

/-! The repair. -/

/-- What holds behind a reported mismatch. `read` is the operation that reported it, and `stamp` puts
a checksum into the header of what it reads. -/
structure Repairable (image : Image) (skip : Bool) (target : BlockNumber) (c : Container)
    (b : BlockNumber) (read : Container → Except ReadError α) (stamp : UInt64 → α → α)
    (stored computed : UInt64) : Prop where
  there : image.window (b.value.toNat * c.blockSize.value.toNat) 8 = Bytes.toLE 8 stored.toNat
  differ : stored ≠ computed
  reopens : ∀ w, (ofDevice (.memory (restamped image c.blockSize b w)) ⟨skip, true, target⟩).result =
    .ok (c.onImage (restamped image c.blockSize b w))
  lenient : (ofDevice (.memory image) ⟨skip, false, target⟩).result = .ok c.lenient
  kept : ∀ x, read c.lenient = .ok x → stamp stored x = x
  repaired : read (c.onImage (restamped image c.blockSize b computed)) =
    stamp computed <$> read c.lenient
  /-- The computed word is the only one under which the read reports no mismatch. -/
  only : ∀ w, FailsWith ReadError.Unrelated (read (c.onImage (restamped image c.blockSize b w))) ↔
    w = computed

theorem repairable {skip : Bool} {target : BlockNumber} (sized : image.size < addressLimit)
    (opened : (ofDevice (.memory image) ⟨skip, true, target⟩).result = .ok c)
    (away : b ≠ ⟨0⟩) (other : b ≠ target) (carried : CarriedBy decode stamp)
    {read : Container → Except ReadError α}
    (reads : ∀ c' : Container, c'.superblock = c.superblock → read c' = c'.readDecoded b decode)
    {stored computed : UInt64} (failed : read c = .error (.checksumMismatch b stored computed)) :
    Repairable image skip target c b read stamp stored computed := by
  have conditions := ((ofDevice_decided _ sized).1 c).mp opened
  have lenient : read c.lenient = c.lenient.readDecoded b decode := reads _ rfl
  have after (w : UInt64) : read (c.onImage (restamped image c.blockSize b w)) =
    (c.onImage (restamped image c.blockSize b w)).readDecoded b decode := reads _ rfl
  rw [reads c rfl] at failed
  obtain ⟨verified, mismatch, rfl, rfl⟩ := verified_of_mismatch (conditions.liesOn sized) failed
  refine ⟨?_, mismatch, ?_, ofDevice_lenient opened, ?_, ?_, ?_⟩
  · have field := Bytes.toLE_u64At verified.long
    rw [field, blockBytes, Image.window_window verified.wide, Nat.add_zero]
  · intro w
    have resized : (restamped image c.blockSize b w).size < addressLimit := sized
    exact ofDevice_of_opened resized (conditions.restamped verified.wide away other w)
  · intro x made
    rw [lenient] at made
    exact verified.lenient_kept carried made
  · rw [after, lenient]
    exact verified.repaired carried
  · intro w
    rw [after]
    exact verified.unrelated_iff carried w

/-- A mismatch that a container with verification reports, in a block that opening does not look at,
is repaired by writing the computed word, and by no other. -/
theorem mismatch_repaired {skip : Bool} {target : BlockNumber} (sized : image.size < addressLimit)
    (opened : (ofDevice (.memory image) ⟨skip, true, target⟩).result = .ok c) :
    (∀ b stored computed, b ≠ ⟨0⟩ → b ≠ target →
      (c.readCheckpointMap b).result = .error (.checksumMismatch b stored computed) →
      Repairable image skip target c b (fun c => (c.readCheckpointMap b).result) CheckpointMap.stamp
        stored computed) ∧
    (∀ b stored computed, b ≠ ⟨0⟩ → b ≠ target → b = c.superblock.objectMapBlockNumber →
      c.readObjectMap.result = .error (.checksumMismatch b stored computed) →
      Repairable image skip target c b (fun c => c.readObjectMap.result) ObjectMap.stamp
        stored computed) := by
  constructor
  · intro b stored computed away other failed
    exact repairable sized opened away other CheckpointMap.carried
      (fun c' _ => readCheckpointMap_result c' b) failed
  · rintro b stored computed away other rfl failed
    refine repairable sized opened away other ObjectMap.carried (fun c' same => ?_) failed
    rw [readObjectMap_result, same]

/-- The object map of this image has lost its checksum; the map of the sample image never had one. -/
def unsealedImage : Image := restamped sealedImage ⟨4096⟩ ⟨2⟩ 0

theorem unsealedImage_opened : Opened unsealedImage ⟨true, true, ⟨0⟩⟩
    (sealedStrict.onImage unsealedImage) :=
  sealedStrict_opened.restamped (by decide) (by decide) (by decide) 0

theorem unsealedObjectMap_reported : (sealedStrict.onImage unsealedImage).readObjectMap.result =
    .error (.checksumMismatch ⟨2⟩ 0 9223460668873617231) := by
  have verified : Verified sealedImage sealedStrict ⟨2⟩ :=
    ⟨sealedStrict_opened.liesOn (by decide), by decide +kernel, by decide, rfl⟩
  have sealed : fletcher64 (blockBytes sealedImage ⟨4096⟩ ⟨2⟩) = 9223460668873617231 :=
    (sealedObjectMap_typed.legible.matching rfl).symm.trans (by decide +kernel)
  have place : (sealedStrict.onImage unsealedImage).superblock.objectMapBlockNumber = ⟨2⟩ := by
    decide +kernel
  rw [readObjectMap_result, place]
  exact (verified.restamped 0).reported _ (stored_restamped verified.wide 0)
    ((computed_restamped verified.wide 0).trans sealed) (by decide)

theorem sample_map_repaired :
    sample.size < addressLimit ∧ unsealedImage.size < addressLimit ∧
    (ofDevice (.memory sample) ⟨false, true, ⟨1⟩⟩).result = .ok sampleStrict ∧
    (ofDevice (.memory unsealedImage) ⟨true, true, ⟨0⟩⟩).result =
      .ok (sealedStrict.onImage unsealedImage) ∧
    (sampleStrict.readCheckpointMap ⟨2⟩).result =
      .error (.checksumMismatch ⟨2⟩ 0 9232343769341237279) ∧
    (sealedStrict.onImage unsealedImage).readObjectMap.result =
      .error (.checksumMismatch ⟨2⟩ 0 9223460668873617231) ∧
    Repairable sample false ⟨1⟩ sampleStrict ⟨2⟩ (fun c => (c.readCheckpointMap ⟨2⟩).result)
      CheckpointMap.stamp 0 9232343769341237279 ∧
    Repairable unsealedImage true ⟨0⟩ (sealedStrict.onImage unsealedImage) ⟨2⟩
      (fun c => c.readObjectMap.result) ObjectMap.stamp 0 9223460668873617231 := by
  have sized : sample.size < addressLimit := by decide
  have unsealed : unsealedImage.size < addressLimit := by decide
  have opened := ofDevice_of_opened sized sampleStrict_opened
  have opened' := ofDevice_of_opened unsealed unsealedImage_opened
  obtain ⟨maps, _⟩ := mismatch_repaired sized opened
  obtain ⟨_, objectMaps⟩ := mismatch_repaired unsealed opened'
  exact ⟨sized, unsealed, opened, opened', sampleMap_reported, unsealedObjectMap_reported,
    maps ⟨2⟩ _ _ (by decide) (by decide) sampleMap_reported,
    objectMaps ⟨2⟩ _ _ (by decide) (by decide) (by decide +kernel) unsealedObjectMap_reported⟩

end NxContainer.Container
