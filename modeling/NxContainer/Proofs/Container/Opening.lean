import NxContainer.Proofs.Container.Copy

/-! When a container opens on an image, and what it is then; when it does not, and why. Conditions
are said on the bytes of the image in the order in which they are looked at, so that each refusal
carries all conditions before the one that fails. -/
namespace NxContainer.Container

structure Front (image : Image) (primary : Superblock) (s : BlockSize) : Prop where
  long : 1408 ≤ image.size
  parsed : Superblock.decode (image.window 0 1408) = .ok primary
  admissible : BlockSize.Admissible primary.blockSize.toNat
  size : s.value = primary.blockSize

def ReadsCopy (options : OpenOptions) : Prop :=
  options.superblockBlock.value ≠ 0 ∨ options.verifyChecksums = true

section opening

variable (image : Image) (options : OpenOptions)

/-- The superblock that the options select. -/
def Selected (primary : Superblock) (s : BlockSize) (superblock : Superblock) : Prop :=
  (ReadsCopy options → Copy image options s superblock) ∧
    (¬ ReadsCopy options → superblock = primary)

inductive Opened : Container → Prop where
  | intro {primary superblock : Superblock} {s : BlockSize} (front : Front image primary s)
      (selected : Selected image options primary s superblock)
      (valid : options.skipValidation = false → superblock.validate = .ok ()) :
      Opened ⟨superblock, s, options, .memory image⟩

inductive Refused : ReadError → Prop where
  | short (short : image.size < 1408) :
      Refused (.shortRead s!"short read: offset=0 len=1408 device_len={image.size}")
  | format (long : 1408 ≤ image.size) {fault : DecodeError}
      (refused : Superblock.decode (image.window 0 1408) = .error fault) :
      Refused (.unsupportedFormat fault.message)
  | blockSize (long : 1408 ≤ image.size) {primary : Superblock}
      (parsed : Superblock.decode (image.window 0 1408) = .ok primary)
      (inadmissible : ¬ BlockSize.Admissible primary.blockSize.toNat) :
      Refused (.corruption ⟨0⟩ BlockSize.refusal.message)
  | copy {primary : Superblock} {s : BlockSize} (front : Front image primary s)
      (reads : ReadsCopy options) {e : ReadError} (refused : CopyRefused image options s e) :
      Refused e
  | geometry {primary superblock : Superblock} {s : BlockSize} (front : Front image primary s)
      (selected : Selected image options primary s superblock)
      (judged : options.skipValidation = false) {fault : DecodeError}
      (refused : superblock.validate = .error fault) :
      Refused (.corruption options.superblockBlock fault.message)

end opening

/-! The front of the device. -/

section stages

variable {image : Image} {options : OpenOptions} {c : Container}

theorem Front.transfer {image' : Image} {primary : Superblock} {s : BlockSize}
    (h : Front image primary s) (long : 1408 ≤ image'.size)
    (region : image'.window 0 1408 = image.window 0 1408) : Front image' primary s := by
  refine ⟨long, ?_, h.admissible, h.size⟩
  rw [region]
  exact h.parsed

theorem readFront_of_front {primary : Superblock} {s : BlockSize} (h : Front image primary s) :
    (readFront (.memory image) options).result = .ok ⟨primary, s, options, .memory image⟩ := by
  have region := ByteDevice.superblockRegion_memory_eq_ok_iff.mpr ⟨h.long, rfl⟩
  have size : primary.validBlockSize = .ok s :=
    BlockSize.ofWord_eq_ok_iff.mpr ⟨h.admissible, h.size⟩
  exact readFront_eq_ok_iff.mpr ⟨_, region, h.parsed, size, rfl, rfl⟩

theorem front_of_readFront {front : Container}
    (read : (readFront (.memory image) options).result = .ok front) :
    Front image front.superblock front.blockSize := by
  obtain ⟨region, fetched, parsed, size, _, _⟩ := readFront_eq_ok_iff.mp read
  obtain ⟨long, window⟩ := ByteDevice.superblockRegion_memory_eq_ok_iff.mp fetched
  obtain ⟨admissible, agrees⟩ := BlockSize.ofWord_eq_ok_iff.mp size
  rw [← window] at parsed
  exact ⟨long, parsed, admissible, agrees⟩

theorem readFront_of_short (short : image.size < 1408) :
    (readFront (.memory image) options).result =
      .error (.shortRead s!"short read: offset=0 len=1408 device_len={image.size}") := by
  have region := ByteDevice.superblockRegion_memory_eq_error_iff.mpr ⟨short, rfl⟩
  simp [readFront, region]

theorem readFront_of_format (long : 1408 ≤ image.size) {fault : DecodeError}
    (refused : Superblock.decode (image.window 0 1408) = .error fault) :
    (readFront (.memory image) options).result = .error (.unsupportedFormat fault.message) := by
  have region := ByteDevice.superblockRegion_memory_eq_ok_iff.mpr ⟨long, rfl⟩
  have size : (image.window 0 1408).length = 1408 := Image.length_window _ _ _
  have kind := (Superblock.decode_decided (by rw [size]; decide)).2 fault |>.mp refused
  have said := Superblock.ofDecode_of_refused ⟨0⟩ (Nat.le_of_eq size.symm) kind
  simp [readFront, region, refused, said]

theorem readFront_of_blockSize (long : 1408 ≤ image.size) {primary : Superblock}
    (parsed : Superblock.decode (image.window 0 1408) = .ok primary)
    (inadmissible : ¬ BlockSize.Admissible primary.blockSize.toNat) :
    (readFront (.memory image) options).result =
      .error (.corruption ⟨0⟩ BlockSize.refusal.message) := by
  have region := ByteDevice.superblockRegion_memory_eq_ok_iff.mpr ⟨long, rfl⟩
  have size : primary.validBlockSize = .error BlockSize.refusal :=
    BlockSize.ofWord_eq_error_iff.mpr ⟨inadmissible, rfl⟩
  simp [readFront, region, parsed, size, ReadError.ofDecode, BlockSize.refusal, -bind_pure_comp]

/-! The whole opening. -/

theorem select_of_selected {front : Container} (on : front.LiesOn image) {superblock : Superblock}
    (h : Selected image front.options front.superblock front.blockSize superblock) :
    front.select.result = .ok superblock := by
  unfold select
  split
  · rename_i reads
    exact startingCopy_of_copy on (h.1 reads)
  · rename_i stays
    rw [h.2 stays]
    rfl

theorem select_of_refused {front : Container} (on : front.LiesOn image)
    (reads : ReadsCopy front.options) {e : ReadError}
    (h : CopyRefused image front.options front.blockSize e) : front.select.result = .error e := by
  unfold select
  split
  · exact startingCopy_of_refused on h
  · rename_i stays
    exact absurd reads stays

theorem Front.liesOn {primary : Superblock} {s : BlockSize} (h : Front image primary s)
    (sized : image.size < addressLimit) (superblock : Superblock) :
    (Container.mk superblock s options (.memory image)).LiesOn image :=
  ⟨rfl, sized, h.size ▸ h.admissible⟩

theorem ofDevice_of_opened (sized : image.size < addressLimit) (h : Opened image options c) :
    (ofDevice (.memory image) options).result = .ok c := by
  obtain ⟨front, selected, valid⟩ := h
  exact ofDevice_eq_ok_iff.mpr ⟨_, readFront_of_front front,
    select_of_selected (front.liesOn sized _) selected, judge_eq_ok_iff.mpr valid, rfl⟩

theorem ofDevice_of_front (sized : image.size < addressLimit) {primary : Superblock} {s : BlockSize}
    (h : Front image primary s) (stays : ¬ ReadsCopy options)
    (valid : options.skipValidation = false → primary.validate = .ok ()) :
    (ofDevice (.memory image) options).result = .ok ⟨primary, s, options, .memory image⟩ :=
  ofDevice_of_opened sized (.intro h ⟨fun reads => absurd reads stays, fun _ => rfl⟩ valid)

theorem Opened.liesOn (sized : image.size < addressLimit) (h : Opened image options c) :
    c.LiesOn image := by
  obtain ⟨front, selected, valid⟩ := h
  exact front.liesOn sized _

theorem ofDevice_of_refused (sized : image.size < addressLimit) {e : ReadError}
    (h : Refused image options e) : (ofDevice (.memory image) options).result = .error e := by
  apply ofDevice_eq_error_iff.mpr
  cases h with
  | short short => exact Or.inl (readFront_of_short short)
  | format long refused => exact Or.inl (readFront_of_format long refused)
  | blockSize long parsed inadmissible =>
    exact Or.inl (readFront_of_blockSize long parsed inadmissible)
  | copy front reads refused =>
    exact Or.inr ⟨_, readFront_of_front front,
      Or.inl (select_of_refused (front.liesOn sized _) reads refused)⟩
  | geometry front selected judged refused =>
    exact Or.inr ⟨_, readFront_of_front front,
      Or.inr ⟨_, select_of_selected (front.liesOn sized _) selected,
        judge_eq_error_iff.mpr ⟨judged, _, refused, rfl⟩⟩⟩

theorem front_or_refused (image : Image) (options : OpenOptions) :
    (∃ primary s, Front image primary s) ∨ ∃ e, Refused image options e := by
  by_cases long : 1408 ≤ image.size
  · cases parsed : Superblock.decode (image.window 0 1408) with
    | error fault => exact Or.inr ⟨_, .format long parsed⟩
    | ok primary =>
      by_cases admissible : BlockSize.Admissible primary.blockSize.toNat
      · exact Or.inl ⟨primary, ⟨primary.blockSize⟩, long, parsed, admissible, rfl⟩
      · exact Or.inr ⟨_, .blockSize long parsed admissible⟩
  · exact Or.inr ⟨_, .short (Nat.not_le.mp long)⟩

theorem selected_or_refused (options : OpenOptions) {primary : Superblock} {s : BlockSize}
    (front : Front image primary s) :
    (∃ superblock, Selected image options primary s superblock) ∨ ∃ e, Refused image options e := by
  by_cases reads : ReadsCopy options
  · rcases copy_or_refused image options s with ⟨superblock, copy⟩ | ⟨e, refused⟩
    · exact Or.inl ⟨superblock, fun _ => copy, fun stays => absurd reads stays⟩
    · exact Or.inr ⟨e, .copy front reads refused⟩
  · exact Or.inl ⟨primary, fun h => absurd h reads, fun _ => rfl⟩

theorem opened_or_refused (image : Image) (options : OpenOptions) :
    (∃ c, Opened image options c) ∨ ∃ e, Refused image options e := by
  rcases front_or_refused image options with ⟨primary, s, front⟩ | refused
  · rcases selected_or_refused options front with ⟨superblock, selected⟩ | refused
    · cases judgement : superblock.validate with
      | ok u => exact Or.inl ⟨_, .intro front selected fun _ => judgement⟩
      | error fault =>
        cases judged : options.skipValidation with
        | false => exact Or.inr ⟨_, .geometry front selected judged judgement⟩
        | true => exact Or.inl ⟨_, .intro front selected (by rw [judged]; nofun)⟩
    · exact Or.inr refused
  · exact Or.inr refused

theorem ofDevice_decided (options : OpenOptions) (sized : image.size < addressLimit) :
    (∀ c, (ofDevice (.memory image) options).result = .ok c ↔ Opened image options c) ∧
    (∀ e, (ofDevice (.memory image) options).result = .error e ↔ Refused image options e) :=
  decided (fun _ => ofDevice_of_opened sized) (fun _ => ofDevice_of_refused sized)
    (opened_or_refused image options)

theorem liesOn_of_opened (sized : image.size < addressLimit)
    (opened : (ofDevice (.memory image) options).result = .ok c) : c.LiesOn image :=
  (((ofDevice_decided options sized).1 c).mp opened).liesOn sized

end stages

/-- An image opens exactly under the conditions of `Opened`, as the container that they describe,
and fails with the error of the first condition that does not hold. -/
theorem ofDevice_iff_opened (image : Image) (options : OpenOptions)
    (sized : image.size < addressLimit) :
    (∀ c, (ofDevice (.memory image) options).result = .ok c ↔ Opened image options c) ∧
    (∀ e, (ofDevice (.memory image) options).result = .error e ↔ Refused image options e) ∧
    (∀ c, (ofDevice (.memory image) options).result = .ok c →
      c.superblock.blockSize = c.blockSize.value ∧
      c.blocks.blockCount = image.size / c.blockSize.value.toNat ∧
      c.options = options ∧ c.device = .memory image) := by
  obtain ⟨success, failure⟩ := ofDevice_decided options sized
  refine ⟨success, failure, ?_⟩
  intro c made
  obtain ⟨front, selected, _⟩ := (success c).mp made
  refine ⟨?_, rfl, rfl, rfl⟩
  by_cases reads : ReadsCopy options
  · exact (selected.1 reads).size
  · rw [selected.2 reads]
    exact front.size.symm

/-! A small image: a superblock, a copy of it, and a checkpoint map. -/

def sampleSuperblock : Bytes :=
  [83, 127, 166, 2, 82, 24, 6, 59, 1, 0, 0, 0, 0, 0, 0, 0, 7, 0, 0, 0, 0, 0, 0, 0,
    1, 0, 0, 0x80, 0, 0, 0, 0, 0x4E, 0x58, 0x53, 0x42, 0, 16, 0, 0, 3, 0, 0, 0, 0, 0, 0, 0]

/-- The used bytes of a map that names object 1024 twice, first outside the container. -/
def sampleMap : Bytes :=
  [0, 0, 0, 0, 0, 0, 0, 0, 2, 0, 0, 0, 0, 0, 0, 0, 7, 0, 0, 0, 0, 0, 0, 0,
    12, 0, 0, 0x40, 0, 0, 0, 0, 1, 0, 0, 0, 2, 0, 0, 0,
    0, 0, 0, 0, 0, 0, 0, 0, 0, 0, 0, 0, 0, 0, 0, 0, 0, 0, 0, 0, 0, 0, 0, 0,
    0, 4, 0, 0, 0, 0, 0, 0, 9, 0, 0, 0, 0, 0, 0, 0,
    0, 0, 0, 0, 0, 0, 0, 0, 0, 0, 0, 0, 0, 0, 0, 0, 0, 0, 0, 0, 0, 0, 0, 0,
    0, 4, 0, 0, 0, 0, 0, 0, 1, 0, 0, 0, 0, 0, 0, 0]

def sample : Image where
  size := 3 * 4096
  byteAt k :=
    let used := if k / 4096 < 2 then sampleSuperblock else sampleMap
    if k % 4096 < used.length then used.getD (k % 4096) 0 else 0

theorem sample_front : Front sample (Superblock.fields (sample.window 0 1408)) ⟨4096⟩ where
  long := by decide
  parsed := Superblock.decode_of_accepted (by decide +kernel)
    ⟨by decide +kernel, by decide +kernel, by decide +kernel⟩
  admissible := ⟨by decide +kernel, by decide +kernel, by decide +kernel⟩
  size := by decide +kernel

theorem sample_copy : Copy sample ⟨false, true, ⟨1⟩⟩ ⟨4096⟩
    (Superblock.fields (blockBytes sample ⟨4096⟩ ⟨1⟩)) where
  readable := ⟨by decide, fun _ => by decide +kernel⟩
  parsed := Superblock.decode_of_accepted (by decide +kernel)
    ⟨by decide +kernel, by decide +kernel, by decide +kernel⟩
  size := by decide +kernel

theorem sample_sound : Superblock.Sound (Superblock.fields (blockBytes sample ⟨4096⟩ ⟨1⟩)) where
  admissible := ⟨by decide +kernel, by decide +kernel, by decide +kernel⟩
  nonempty := by decide +kernel
  objectMap := by decide +kernel
  descriptors := by decide +kernel
  volumes := by decide +kernel

def sampleStrict : Container where
  superblock := Superblock.fields (blockBytes sample ⟨4096⟩ ⟨1⟩)
  blockSize := ⟨4096⟩
  options := ⟨false, true, ⟨1⟩⟩
  device := .memory sample

theorem sampleStrict_opened : Opened sample ⟨false, true, ⟨1⟩⟩ sampleStrict :=
  .intro sample_front ⟨fun _ => sample_copy, fun stays => absurd (Or.inr rfl) stays⟩
    fun _ => Superblock.validate_eq_ok_iff.mpr sample_sound

theorem sample_opens_at_copy : sample.size < addressLimit ∧
    (ofDevice (.memory sample) ⟨false, true, ⟨1⟩⟩).result = .ok sampleStrict ∧
    sampleStrict.blocks.blockCount = 3 ∧
    (ofDevice (.memory sample) ⟨false, false, ⟨3⟩⟩).result = .error (.outOfRange ⟨3⟩ 3) := by
  have sized : sample.size < addressLimit := by decide
  have strict := ofDevice_iff_opened sample ⟨false, true, ⟨1⟩⟩ sized
  have outside := ofDevice_iff_opened sample ⟨false, false, ⟨3⟩⟩ sized
  have opened := (strict.1 sampleStrict).mpr sampleStrict_opened
  exact ⟨sized, opened, (strict.2.2 sampleStrict opened).2.1,
    (outside.2.1 _).mpr (.copy sample_front (Or.inl (by decide)) (.outside (by decide)))⟩

end NxContainer.Container
