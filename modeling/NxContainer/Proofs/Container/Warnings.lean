import NxContainer.Proofs.Container.Enforcement
import NxContainer.Proofs.Image

/-! Which mismatches an opening without verification reports. A copy is read as a whole block, so a
mismatch in it is reported. The superblock at the front is taken from its region alone, and a
mismatch there goes unnoticed. -/
namespace NxContainer.Container

open Traced

variable {device : ByteDevice} {options : OpenOptions} {b : BlockNumber} {stored computed : UInt64}

theorem select_of_mismatch
    (refused : (ofDevice device options).result = .error (.checksumMismatch b stored computed)) :
    ∃ front, (readFront device options).result = .ok front ∧
      front.select.result = .error (.checksumMismatch b stored computed) := by
  rcases ofDevice_eq_error_iff.mp refused with early | ⟨front, read, failed | ⟨chosen, _, late⟩⟩
  · exact absurd rfl ((plain_readFront device options).unrelated _ early b stored computed)
  · exact ⟨front, read, failed⟩
  · exact absurd rfl ((plain_judge front chosen).unrelated _ late b stored computed)

/-- Opening without verification at the front passes over no mismatch, so it reports none. -/
theorem quiet_ofDevice_front (device : ByteDevice) (skip : Bool) {target : BlockNumber}
    (zero : target.value = 0) : Quiet (ofDevice device ⟨skip, false, target⟩) := by
  apply quiet_ofDevice_of_select
  intro front same
  have stays : ¬ (front.options.superblockBlock.value ≠ 0 ∨ front.options.verifyChecksums = true) := by
    simp [same, zero]
  rw [select, if_neg stays]
  exact (plain_pure _).quiet

theorem ignored_of_mismatch_in_copy {skip : Bool} {target : BlockNumber} (other : target.value ≠ 0)
    (refused : (ofDevice device ⟨skip, true, target⟩).result =
      .error (.checksumMismatch b stored computed)) :
    (ofDevice device ⟨skip, false, target⟩).ignored =
      [.checksumMismatchIgnored b stored computed] := by
  obtain ⟨front, read, failed⟩ := select_of_mismatch refused
  have options := options_of_readFront read
  have verifies : front.options.verifyChecksums = true := by rw [options]
  have place : front.lenient.options.superblockBlock.value ≠ 0 := by
    rw [lenient, options]
    exact other
  rw [select, if_pos (Or.inr verifies)] at failed
  rw [ignored_ofDevice (readFront_lenient read), select, if_pos (Or.inl place)]
  exact (startingCopy_enforces verifies _).ignored_of_mismatch failed

/-- A mismatch in the superblock, for which a verifying opening fails, is reported by the same opening
without verification exactly if it starts from a copy behind the front. It is then the only mismatch
in the report, with the same block and the same two sums. -/
theorem mismatch_reported_iff (device : ByteDevice) (skip : Bool) (target b : BlockNumber)
    (stored computed : UInt64) (refused : (ofDevice device ⟨skip, true, target⟩).result =
      .error (.checksumMismatch b stored computed)) :
    (.checksumMismatchIgnored b stored computed ∈ (ofDevice device ⟨skip, false, target⟩).log ↔
      target.value ≠ 0) ∧
    (ofDevice device ⟨skip, false, target⟩).ignored =
      if target.value = 0 then [] else [.checksumMismatchIgnored b stored computed] := by
  rw [← mem_ignored_iff]
  by_cases zero : target.value = 0
  · have quiet := quiet_ofDevice_front device skip zero
    rw [quiet, if_pos zero]
    exact ⟨⟨nofun, fun other => absurd zero other⟩, rfl⟩
  · have reported := ignored_of_mismatch_in_copy zero refused
    rw [reported, if_neg zero]
    exact ⟨⟨fun _ => zero, fun _ => List.mem_singleton_self _⟩, rfl⟩

/-! The sample image with one byte changed in a superblock, behind everything that is decoded. -/

def torn (k : Nat) : Image := sample.overlay k [1]

theorem torn_front {k : Nat} (behind : 1408 ≤ k) :
    Front (torn k) (Superblock.fields (sample.window 0 1408)) ⟨4096⟩ :=
  sample_front.transfer sample_front.long (Image.window_overlay_of_outside 1 (Or.inr behind))

theorem torn_copy_reported :
    (ofDevice (.memory (torn 8191)) ⟨false, true, ⟨1⟩⟩).result = .error (.checksumMismatch ⟨1⟩
      ((blockBytes (torn 8191) ⟨4096⟩ ⟨1⟩).u64At 0)
      (Checksum.fletcher64 (blockBytes (torn 8191) ⟨4096⟩ ⟨1⟩))) ∧
    .checksumMismatchIgnored ⟨1⟩ ((blockBytes (torn 8191) ⟨4096⟩ ⟨1⟩).u64At 0)
      (Checksum.fletcher64 (blockBytes (torn 8191) ⟨4096⟩ ⟨1⟩)) ∈
        (ofDevice (.memory (torn 8191)) ⟨false, false, ⟨1⟩⟩).log := by
  have refused : CopyRefused (torn 8191) ⟨false, true, ⟨1⟩⟩ ⟨4096⟩ _ :=
    .checksum (by decide) rfl (by decide +kernel)
  have strict := ofDevice_of_refused (by decide) (.copy (torn_front (by decide)) (Or.inr rfl) refused)
  exact ⟨strict, (mismatch_reported_iff _ false ⟨1⟩ _ _ _ strict).1.mpr (by decide)⟩

theorem torn_front_unreported :
    ∃ stored computed, (ofDevice (.memory (torn 4095)) ⟨true, true, ⟨0⟩⟩).result =
      .error (.checksumMismatch ⟨0⟩ stored computed) ∧
    (∃ c, (ofDevice (.memory (torn 4095)) ⟨true, false, ⟨0⟩⟩).result = .ok c) ∧
    .checksumMismatchIgnored ⟨0⟩ stored computed ∉
      (ofDevice (.memory (torn 4095)) ⟨true, false, ⟨0⟩⟩).log := by
  have front := torn_front (k := 4095) (by decide)
  have refused : CopyRefused (torn 4095) ⟨true, true, ⟨0⟩⟩ ⟨4096⟩ _ :=
    .checksum (by decide) rfl (by decide +kernel)
  have strict := ofDevice_of_refused (by decide) (.copy front (Or.inr rfl) refused)
  have lenient : (ofDevice (.memory (torn 4095)) ⟨true, false, ⟨0⟩⟩).result = _ :=
    ofDevice_of_front (by decide) front (by simp [ReadsCopy]) nofun
  refine ⟨_, _, strict, ⟨_, lenient⟩, ?_⟩
  rw [← mem_ignored_iff, quiet_ofDevice_front _ true rfl]
  exact List.not_mem_nil

end NxContainer.Container
