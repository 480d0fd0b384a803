import NxContainer.Proofs.Container.Reads
import NxContainer.Proofs.Image
import NxContainer.Proofs.Object.Fletcher

/-! One changed byte of the image of a container that verifies checksums. In the first block it
keeps the image from opening, unless it is one of the block size, by which the block itself is cut
out. In the block of an object it is found when that object is read again. -/
namespace NxContainer.Container

def onImage (c : Container) (image : Image) : Container := { c with device := .memory image }

def Covers (s : BlockSize) (b : BlockNumber) (k : Nat) : Prop :=
  b.value.toNat * s.value.toNat ≤ k ∧ k < b.value.toNat * s.value.toNat + s.value.toNat

instance (s : BlockSize) (b : BlockNumber) (k : Nat) : Decidable (Covers s b k) :=
  inferInstanceAs (Decidable (_ ∧ _))

variable {image image' : Image} {options : OpenOptions} {c : Container} {b : BlockNumber}
  {s : BlockSize} {k : Nat} {v : UInt8}

/-! What opening looks at. -/

/-- Opening looks at the size of the image, at the superblock at its front, and at the block of the
copy. -/
theorem Opened.transfer (h : Opened image options c) (size : image'.size = image.size)
    (region : image'.window 0 1408 = image.window 0 1408)
    (copy : blockBytes image' c.blockSize options.superblockBlock =
      blockBytes image c.blockSize options.superblockBlock) :
    Opened image' options (c.onImage image') := by
  cases h with
  | intro front selected valid =>
    have long : 1408 ≤ image'.size := by
      rw [size]
      exact front.long
    refine .intro (front.transfer long region) ⟨?_, selected.2⟩ valid
    intro reads
    obtain ⟨⟨inside, matching⟩, parsed, agrees⟩ := selected.1 reads
    rw [← copy] at matching parsed
    rw [← size] at inside
    exact ⟨⟨inside, matching⟩, parsed, agrees⟩

theorem Opened.options_eq (h : Opened image options c) : c.options = options := by
  cases h
  rfl

theorem Opened.front (h : Opened image options c) :
    ∃ primary, Front image primary c.blockSize := by
  cases h with
  | intro front selected valid => exact ⟨_, front⟩

theorem Front.blockSize_eq {primary : Superblock} {s : BlockSize} (h : Front image primary s) :
    s.value = (image.window 36 4).u32At 0 := by
  have same := (Superblock.fields_of_decode h.parsed).2
  calc s.value = primary.blockSize := h.size
    _ = (Superblock.fields (image.window 0 1408)).blockSize := by rw [same]
    _ = (image.window 36 4).u32At 0 := by
      simp only [Superblock.fields, Bytes.u32At, Image.window_window, Nat.reduceAdd, Nat.reduceLeDiff,
        Nat.zero_add, Nat.le_refl]

/-- A block that is neither the first one nor the one of the copy may hold anything. -/
theorem Opened.reopened (h : Opened image options c) (size : image'.size = image.size)
    (away : b ≠ ⟨0⟩) (other : b ≠ options.superblockBlock)
    (beside : ∀ o n, o + n ≤ b.value.toNat * c.blockSize.value.toNat ∨
        b.value.toNat * c.blockSize.value.toNat + c.blockSize.value.toNat ≤ o →
      image'.window o n = image.window o n) : Opened image' options (c.onImage image') := by
  obtain ⟨_, front⟩ := h.front
  have wide : 1408 ≤ c.blockSize.value.toNat := by
    rw [front.size]
    exact front.admissible.at_least (by decide)
  have behind : c.blockSize.value.toNat ≤ b.value.toNat * c.blockSize.value.toNat :=
    Nat.le_mul_of_pos_left _ (Nat.pos_of_ne_zero (BlockNumber.toNat_ne away))
  apply h.transfer size
  · apply beside
    omega
  · apply beside
    exact Image.blocks_apart _ (BlockNumber.toNat_ne other.symm)

/-! Blocks under a changed byte. -/

theorem blockBytes_overlay_of_covers (h : Covers s b k) : blockBytes (image.overlay k [v]) s b =
    (blockBytes image s b).set (k - b.value.toNat * s.value.toNat) v :=
  Image.window_overlay_of_covered v h.1

theorem mismatch_of_overlay (on : c.LiesOn image)
    (matching : (blockBytes image c.blockSize b).u64At 0 =
      Checksum.fletcher64 (blockBytes image c.blockSize b))
    (covered : Covers c.blockSize b k) (changed : v ≠ image.byteAt k) :
    (blockBytes (image.overlay k [v]) c.blockSize b).u64At 0 ≠
      Checksum.fletcher64 (blockBytes (image.overlay k [v]) c.blockSize b) := by
  have inside : k - b.value.toNat * c.blockSize.value.toNat <
      (blockBytes image c.blockSize b).length := by
    rw [length_blockBytes]
    exact Nat.sub_lt_left_of_lt_add covered.1 covered.2
  rw [blockBytes_overlay_of_covers covered]
  refine Checksum.mismatch_of_changed (on.summable b) matching inside ?_
  have place : b.value.toNat * c.blockSize.value.toNat +
      (k - b.value.toNat * c.blockSize.value.toNat) = k := Nat.add_sub_cancel' covered.1
  simpa only [blockBytes, Image.window, List.getElem_map, List.getElem_range, place] using changed

/-! The first block. -/

structure Strict (image : Image) (options : OpenOptions) (c : Container) : Prop where
  opened : Opened image options c
  verifies : options.verifyChecksums = true
  first : options.superblockBlock = ⟨0⟩

namespace Strict

variable (h : Strict image options c)
include h

theorem copy : Copy image options c.blockSize c.superblock := by
  cases h.opened with
  | intro front selected valid => exact selected.1 (Or.inr h.verifies)

theorem matching : (blockBytes image c.blockSize ⟨0⟩).u64At 0 =
    Checksum.fletcher64 (blockBytes image c.blockSize ⟨0⟩) := by
  have right := h.copy.readable.matching h.verifies
  rwa [h.first] at right

theorem kind : (blockBytes image c.blockSize ⟨0⟩).u32At 24 = 0x80000001 := by
  have parsed := h.copy.parsed
  rw [h.first] at parsed
  exact (Superblock.fields_of_decode parsed).1.kind

/-- Whatever opens on the changed image has the same block size, so it has read the changed block
as a whole. -/
theorem not_opened_of_changed (sized : image.size < addressLimit) (covered : Covers c.blockSize ⟨0⟩ k)
    (beside : ¬ (36 ≤ k ∧ k < 40)) (changed : v ≠ image.byteAt k) (c' : Container) :
    ¬ Opened (image.overlay k [v]) options c' := by
  intro reopened
  obtain ⟨_, front⟩ := h.opened.front
  obtain ⟨_, front'⟩ := reopened.front
  have size : c'.blockSize = c.blockSize := by
    have word : c'.blockSize.value = c.blockSize.value := by
      rw [front.blockSize_eq, front'.blockSize_eq, Image.window_overlay_of_outside v (by omega)]
    exact congrArg BlockSize.mk word
  have after := (Strict.mk reopened h.verifies h.first).matching
  rw [size] at after
  exact mismatch_of_overlay (h.opened.liesOn sized) h.matching covered changed after

theorem ne_of_typed {expected : UInt32} (typed : Typed image c b expected)
    (other : expected ≠ 0x80000001) : b ≠ ⟨0⟩ := by
  rintro rfl
  exact other (typed.kind.symm.trans h.kind)

end Strict

/-! The block of an object. -/

theorem Strict.reopened (h : Strict image options c) (covered : Covers c.blockSize b k)
    (away : b ≠ ⟨0⟩) : Opened (image.overlay k [v]) options (c.onImage (image.overlay k [v])) := by
  refine h.opened.reopened rfl away (h.first ▸ away) fun o n apart => ?_
  obtain ⟨above, below⟩ := covered
  exact Image.window_overlay_of_outside v (by omega)

/-- The read of the block fails on the changed image because the checksum that is stored in it is not
the one that it has. -/
def Detected {α : Type} (image : Image) (s : BlockSize) (b : BlockNumber) (read : Except ReadError α) :
    Prop :=
  ∃ stored computed, stored ≠ computed ∧ (blockBytes image s b).u64At 0 = stored ∧
    Checksum.fletcher64 (blockBytes image s b) = computed ∧
    read = .error (.checksumMismatch b stored computed)

theorem Typed.detected {expected : UInt32} (typed : Typed image c b expected) (on : c.LiesOn image)
    (verifies : c.options.verifyChecksums = true) (covered : Covers c.blockSize b k)
    (changed : v ≠ image.byteAt k) {α : Type} {read : Except ReadError α}
    (refuses : ∀ e, Untyped (image.overlay k [v]) (c.onImage (image.overlay k [v])) b expected e →
      read = .error e) :
    Detected (image.overlay k [v]) c.blockSize b read := by
  have mismatch := mismatch_of_overlay on (typed.legible.matching verifies) covered changed
  exact ⟨_, _, mismatch, rfl, rfl, refuses _ (.illegible
    (.checksum typed.legible.declared typed.legible.inside verifies mismatch))⟩

/-- A changed byte of the first block keeps the image from opening, unless it is one of the block
size. A changed byte in the block of a checkpoint map or of the object map that was read leaves the
opening as it was, and reading the map again fails for the checksum of that block. -/
theorem strict_tamper_evident {skip : Bool} (sized : image.size < addressLimit)
    (opened : (ofDevice (.memory image) ⟨skip, true, ⟨0⟩⟩).result = .ok c) :
    (∀ k v, Covers c.blockSize ⟨0⟩ k → ¬ (36 ≤ k ∧ k < 40) → v ≠ image.byteAt k →
      ∃ e, (ofDevice (.memory (image.overlay k [v])) ⟨skip, true, ⟨0⟩⟩).result = .error e) ∧
    (∀ b map, (c.readCheckpointMap b).result = .ok map →
      ∀ k v, Covers c.blockSize b k → v ≠ image.byteAt k →
        (ofDevice (.memory (image.overlay k [v])) ⟨skip, true, ⟨0⟩⟩).result =
            .ok (c.onImage (image.overlay k [v])) ∧
          Detected (image.overlay k [v]) c.blockSize b
            ((c.onImage (image.overlay k [v])).readCheckpointMap b).result) ∧
    (∀ map, c.readObjectMap.result = .ok map →
      ∀ k v, Covers c.blockSize c.superblock.objectMapBlockNumber k → v ≠ image.byteAt k →
        (ofDevice (.memory (image.overlay k [v])) ⟨skip, true, ⟨0⟩⟩).result =
            .ok (c.onImage (image.overlay k [v])) ∧
          Detected (image.overlay k [v]) c.blockSize c.superblock.objectMapBlockNumber
            (c.onImage (image.overlay k [v])).readObjectMap.result) := by
  have strict : Strict image ⟨skip, true, ⟨0⟩⟩ c :=
    ⟨((ofDevice_decided _ sized).1 c).mp opened, rfl, rfl⟩
  have on := strict.opened.liesOn sized
  have verifies : c.options.verifyChecksums = true := by rw [strict.opened.options_eq]
  have resized (k : Nat) (v : UInt8) : (image.overlay k [v]).size < addressLimit := by
    rwa [Image.size_overlay]
  refine ⟨?_, ?_, ?_⟩
  · intro k v covered beside changed
    rcases opened_or_refused (image.overlay k [v]) ⟨skip, true, ⟨0⟩⟩ with ⟨c', after⟩ | ⟨e, refused⟩
    · exact absurd after (strict.not_opened_of_changed sized covered beside changed c')
    · exact ⟨e, ofDevice_of_refused (resized k v) refused⟩
  · intro b map made k v covered changed
    have typed := ((readCheckpointMap_decided on b).1 map).mp made |>.1
    have after := strict.reopened (v := v) covered (strict.ne_of_typed typed (by decide))
    have on' := after.liesOn (resized k v)
    exact ⟨ofDevice_of_opened (resized k v) after, typed.detected on verifies covered changed
      fun _ untyped => readCheckpointMap_of_refused on' (.untyped untyped)⟩
  · intro map made k v covered changed
    have typed := ((readObjectMap_decided on).1 map).mp made |>.1
    have after := strict.reopened (v := v) covered (strict.ne_of_typed typed (by decide))
    have on' := after.liesOn (resized k v)
    exact ⟨ofDevice_of_opened (resized k v) after, typed.detected on verifies covered changed
      fun _ untyped => readObjectMap_of_untyped on' untyped⟩

/-! A small image whose three objects all have their checksum: a superblock, a checkpoint map
without entries, and the object map. -/

def sealedSuperblock : Bytes :=
  [161, 119, 166, 2, 2, 32, 6, 59, 1, 0, 0, 0, 0, 0, 0, 0, 7, 0, 0, 0, 0, 0, 0, 0,
    1, 0, 0, 0x80, 0, 0, 0, 0, 0x4E, 0x58, 0x53, 0x42, 0, 16, 0, 0, 3]

def sealedMap : Bytes :=
  [92, 163, 255, 63, 140, 92, 0, 128, 3, 0, 0, 0, 0, 0, 0, 0, 7, 0, 0, 0, 0, 0, 0, 0,
    12, 0, 0, 0x40, 0, 0, 0, 0, 1, 0, 0, 0]

def sealedObjectMap : Bytes :=
  [79, 175, 255, 63, 156, 80, 0, 128, 2, 0, 0, 0, 0, 0, 0, 0, 7, 0, 0, 0, 0, 0, 0, 0,
    11, 0, 0, 0x40]

def sealedImage : Image where
  size := 3 * 4096
  byteAt k :=
    let used := match k / 4096 with
      | 0 => sealedSuperblock
      | 1 => sealedMap
      | _ => sealedObjectMap
    if k = 160 then 2 else if k % 4096 < used.length then used.getD (k % 4096) 0 else 0

def sealedStrict : Container where
  superblock := Superblock.fields (blockBytes sealedImage ⟨4096⟩ ⟨0⟩)
  blockSize := ⟨4096⟩
  options := ⟨true, true, ⟨0⟩⟩
  device := .memory sealedImage

theorem sealedStrict_opened : Opened sealedImage ⟨true, true, ⟨0⟩⟩ sealedStrict := by
  have front : Front sealedImage (Superblock.fields (sealedImage.window 0 1408)) ⟨4096⟩ := by
    refine ⟨by decide, Superblock.decode_of_accepted (by decide +kernel) ?_, ?_, by decide +kernel⟩
    · exact ⟨by decide +kernel, by decide +kernel, by decide +kernel⟩
    · exact ⟨by decide +kernel, by decide +kernel, by decide +kernel⟩
  have copy : Copy sealedImage ⟨true, true, ⟨0⟩⟩ ⟨4096⟩ sealedStrict.superblock := by
    refine ⟨⟨by decide, fun _ => by decide +kernel⟩, Superblock.decode_of_accepted ?_ ?_, ?_⟩
    · decide +kernel
    · exact ⟨by decide +kernel, by decide +kernel, by decide +kernel⟩
    · decide +kernel
  exact .intro front ⟨fun _ => copy, fun stays => absurd (Or.inr rfl) stays⟩ nofun

theorem sealedMap_typed : Typed sealedImage sealedStrict ⟨1⟩ 0x4000000C where
  legible := ⟨by decide +kernel, by decide, fun _ => by decide +kernel⟩
  kind := by decide +kernel

theorem sealedObjectMap_typed : Typed sealedImage sealedStrict ⟨2⟩ 0x4000000B where
  legible := ⟨by decide +kernel, by decide, fun _ => by decide +kernel⟩
  kind := by decide +kernel

theorem sealed_tamper_evident :
    sealedImage.size < addressLimit ∧
    (ofDevice (.memory sealedImage) ⟨true, true, ⟨0⟩⟩).result = .ok sealedStrict ∧
    (∃ e, (ofDevice (.memory (sealedImage.overlay 4095 [1])) ⟨true, true, ⟨0⟩⟩).result = .error e) ∧
    Detected (sealedImage.overlay 4096 [1]) ⟨4096⟩ ⟨1⟩
      ((sealedStrict.onImage (sealedImage.overlay 4096 [1])).readCheckpointMap ⟨1⟩).result ∧
    Detected (sealedImage.overlay 12000 [1]) ⟨4096⟩ ⟨2⟩
      (sealedStrict.onImage (sealedImage.overlay 12000 [1])).readObjectMap.result := by
  have sized : sealedImage.size < addressLimit := by decide
  have opened := ofDevice_of_opened sized sealedStrict_opened
  have on := sealedStrict_opened.liesOn sized
  have place : sealedStrict.superblock.objectMapBlockNumber = ⟨2⟩ := by decide +kernel
  have map := readCheckpointMap_of_typed on sealedMap_typed (by decide +kernel)
  have objectMap := readObjectMap_of_typed on (place.symm ▸ sealedObjectMap_typed)
  obtain ⟨first, maps, objectMaps⟩ := strict_tamper_evident sized opened
  have last := objectMaps _ objectMap 12000 1
  rw [place] at last
  exact ⟨sized, opened, first 4095 1 (by decide) (by omega) (by decide),
    (maps ⟨1⟩ _ map 4096 1 (by decide) (by decide)).2, (last (by decide) (by decide +kernel)).2⟩

end NxContainer.Container
