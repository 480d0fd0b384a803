import NxContainer.Container.Basic
import NxContainer.Proofs.Container.Traced
import NxContainer.Proofs.Device.Blocks
import NxContainer.Object.Checksum
import NxContainer.Proofs.Superblock.Format
import NxContainer.Proofs.Superblock.Geometry

/-! Opening in stages. The front of the device gives the block size, the options select the
superblock, and the selected superblock is judged; each stage is a computation of its own, and so is
the check of a stored checksum. -/
namespace NxContainer.Container

/-- The superblock that the options select, the one at the front or the copy in their block. -/
def select (front : Container) : Traced Superblock :=
  if front.options.superblockBlock.value ≠ 0 ∨ front.options.verifyChecksums then
    front.startingCopy front.options.superblockBlock
  else pure front.superblock

def judge (front : Container) (superblock : Superblock) : Traced Unit :=
  if front.options.skipValidation then pure ()
  else Traced.decoded front.options.superblockBlock superblock.validate

def readFront (device : ByteDevice) (options : OpenOptions) : Traced Container := do
  let region ← device.superblockRegion
  let primary ← Traced.decoded ⟨0⟩ (Superblock.decode region)
  let blockSize ← Traced.decoded ⟨0⟩ primary.validBlockSize
  return ⟨primary, blockSize, options, device⟩

theorem ofDevice_eq_stages (device : ByteDevice) (options : OpenOptions) :
    ofDevice device options = (do
      let front ← readFront device options
      let superblock ← front.select
      front.judge superblock
      Traced.emit (.containerOpen front.blockSize superblock.numberOfBlocks
        front.options.superblockBlock superblock.header.transactionId
        superblock.objectMapBlockNumber)
      return { front with superblock }) := by
  simp only [ofDevice, readFront, bind_assoc, pure_bind, select, judge]
  by_cases reads : options.superblockBlock.value ≠ 0 ∨ options.verifyChecksums = true <;>
    by_cases skips : options.skipValidation = true <;>
    simp only [reads, skips, if_true, if_false, Bool.false_eq_true, pure_bind]

/-! The result of each stage, apart from what it reports. -/

theorem readFront_eq_ok_iff {device : ByteDevice} {options : OpenOptions} {front : Container} :
    (readFront device options).result = .ok front ↔
      ∃ region, device.superblockRegion = .ok region ∧
        Superblock.decode region = .ok front.superblock ∧
        front.superblock.validBlockSize = .ok front.blockSize ∧
        front.options = options ∧ front.device = device := by
  simp only [readFront, Traced.result_bind, Traced.result_lift, Traced.result_decoded,
    Traced.result_pure, bind_eq_ok_iff, mapError_eq_ok_iff]
  constructor
  · rintro ⟨region, read, primary, parsed, blockSize, valid, made⟩
    cases made
    exact ⟨region, read, parsed, valid, rfl, rfl⟩
  · rintro ⟨region, read, parsed, valid, rfl, rfl⟩
    exact ⟨region, read, _, parsed, _, valid, rfl⟩

theorem options_of_readFront {device : ByteDevice} {options : OpenOptions} {front : Container}
    (read : (readFront device options).result = .ok front) : front.options = options := by
  obtain ⟨_, _, _, _, same, _⟩ := readFront_eq_ok_iff.mp read
  exact same

theorem ofDevice_eq_ok_iff {device : ByteDevice} {options : OpenOptions} {c : Container} :
    (ofDevice device options).result = .ok c ↔
      ∃ front, (readFront device options).result = .ok front ∧
        front.select.result = .ok c.superblock ∧
        (front.judge c.superblock).result = .ok () ∧
        c = { front with superblock := c.superblock } := by
  simp only [ofDevice_eq_stages, Traced.result_bind, Traced.result_emit, Traced.result_pure,
    bind_eq_ok_iff]
  constructor
  · rintro ⟨front, read, superblock, selected, _, judged, _, _, made⟩
    cases made
    exact ⟨front, read, selected, judged, rfl⟩
  · rintro ⟨front, read, selected, judged, made⟩
    exact ⟨front, read, _, selected, (), judged, (), trivial, congrArg Except.ok made.symm⟩

theorem device_of_ofDevice {device : ByteDevice} {options : OpenOptions} {c : Container}
    (opened : (ofDevice device options).result = .ok c) : c.device = device := by
  obtain ⟨front, read, _, _, made⟩ := ofDevice_eq_ok_iff.mp opened
  obtain ⟨_, _, _, _, _, behind⟩ := readFront_eq_ok_iff.mp read
  rw [made]
  exact behind

theorem ofDevice_eq_error_iff {device : ByteDevice} {options : OpenOptions} {e : ReadError} :
    (ofDevice device options).result = .error e ↔
      (readFront device options).result = .error e ∨
      ∃ front, (readFront device options).result = .ok front ∧
        (front.select.result = .error e ∨
          ∃ superblock, front.select.result = .ok superblock ∧
            (front.judge superblock).result = .error e) := by
  simp only [ofDevice_eq_stages, Traced.result_bind, Traced.result_emit, Traced.result_pure,
    bind_eq_error_iff]
  constructor
  · rintro (failed | ⟨front, read, failed | ⟨superblock, selected, failed | ⟨_, _, impossible⟩⟩⟩)
    · exact Or.inl failed
    · exact Or.inr ⟨front, read, Or.inl failed⟩
    · exact Or.inr ⟨front, read, Or.inr ⟨superblock, selected, failed⟩⟩
    · rcases impossible with impossible | ⟨_, _, impossible⟩ <;> cases impossible
  · rintro (failed | ⟨front, read, failed | ⟨superblock, selected, failed⟩⟩)
    · exact Or.inl failed
    · exact Or.inr ⟨front, read, Or.inl failed⟩
    · exact Or.inr ⟨front, read, Or.inr ⟨superblock, selected, Or.inl failed⟩⟩

theorem judge_eq_ok_iff {front : Container} {superblock : Superblock} :
    (front.judge superblock).result = .ok () ↔
      (front.options.skipValidation = false → superblock.validate = .ok ()) := by
  unfold judge
  split
  · rename_i skips
    simp only [skips, Bool.true_eq_false, false_implies]
    exact ⟨fun _ => trivial, fun _ => rfl⟩
  · rename_i judges
    rw [Traced.result_decoded, mapError_eq_ok_iff]
    exact ⟨fun h _ => h, fun h => h (Bool.not_eq_true _ ▸ judges)⟩

theorem judge_eq_error_iff {front : Container} {superblock : Superblock} {e : ReadError} :
    (front.judge superblock).result = .error e ↔ front.options.skipValidation = false ∧
      ∃ fault, superblock.validate = .error fault ∧
        e = .corruption front.options.superblockBlock fault.message := by
  unfold judge
  split
  · rename_i skips
    simp only [skips, Bool.true_eq_false, false_and]
    exact ⟨nofun, nofun⟩
  · rename_i judges
    rw [Traced.result_decoded, mapError_eq_error_iff]
    constructor
    · rintro ⟨fault, failed, rfl⟩
      exact ⟨Bool.not_eq_true _ ▸ judges, fault, failed,
        (Superblock.validate_failsWith superblock fault failed).ofDecode _⟩
    · rintro ⟨_, fault, failed, rfl⟩
      exact ⟨fault, failed, (Superblock.validate_failsWith superblock fault failed).ofDecode _⟩

/-- A stored checksum that matches is passed over in silence, and one that does not is refused or
reported with the same three values. -/
theorem checkChecksum_eq {c : Container} {b : BlockNumber} {object : Bytes}
    (h : Checksum.Summable object) : c.checkChecksum b object =
      if object.u64At 0 = Checksum.fletcher64 object then pure ()
      else if c.options.verifyChecksums then
        Traced.ofExcept (.error (.checksumMismatch b (object.u64At 0) (Checksum.fletcher64 object)))
      else Traced.emit
        (.checksumMismatchIgnored b (object.u64At 0) (Checksum.fletcher64 object)) := by
  rw [checkChecksum, Checksum.verify_eq_verdict h]
  split <;> rfl

theorem checkChecksum_result_of_matching {c : Container} (b : BlockNumber) {object : Bytes}
    (h : Checksum.Summable object) (matching : c.options.verifyChecksums = true →
      object.u64At 0 = Checksum.fletcher64 object) : (c.checkChecksum b object).result = .ok () := by
  rw [checkChecksum_eq h]
  split
  · rfl
  · rename_i mismatch
    split
    · rename_i verifies
      exact absurd (matching verifies) mismatch
    · rfl

theorem checkChecksum_failsWith {P : ReadError → Prop} (c : Container) (b : BlockNumber)
    (object : Bytes) (decoding : ∀ fault, P (.ofDecode b fault))
    (mismatch : ∀ stored computed, P (.checksumMismatch b stored computed)) :
    FailsWith P (c.checkChecksum b object).result := by
  rw [checkChecksum, Traced.result_bind]
  refine (FailsWith.of_mapError _ decoding).bind fun verdict => ?_
  cases verdict with
  | matching => exact .ok ()
  | mismatch stored computed =>
    simp only
    split
    · exact .error (mismatch stored computed)
    · exact .ok ()

end NxContainer.Container
