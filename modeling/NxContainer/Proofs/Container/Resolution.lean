import NxContainer.Proofs.CheckpointMap.Lookup
import NxContainer.Proofs.Container.Reads

/-! From the bytes of a checkpoint map to the block of an ephemeral object: the block is read, the
declared records are decoded, the first one that names the object is taken, and its address is held
against the size of the container. -/
namespace NxContainer.Container

def held (count : UInt64) : Option BlockNumber → Except ReadError (Option BlockNumber)
  | none => .ok none
  | some b => if b.value < count then .ok (some b) else .error (.outOfRange b count.toNat)

theorem inside_of_held {count : UInt64} {address : Option BlockNumber} {b : BlockNumber}
    (found : held count address = .ok (some b)) : b.value < count := by
  cases address with
  | none => cases found
  | some a =>
    simp only [held] at found
    split at found
    · rename_i inside
      cases found
      exact inside
    · cases found

variable {c : Container}

theorem resolveEphemeral_eq_held (c : Container) (map : CheckpointMap) (o : ObjectId) :
    (c.resolveEphemeral map o).result = held c.superblock.numberOfBlocks (map.addressOf? o) := by
  simp only [resolveEphemeral, Traced.result_bind, Traced.result_emit, ok_bind]
  cases map.addressOf? o with
  | none => rfl
  | some b =>
    simp only [Traced.result_bind, Traced.result_lift, held]
    split
    · rename_i inside
      have pass : c.requireInside b = .ok () := require_pos inside
      rw [pass]
      rfl
    · rename_i outside
      have stop : c.requireInside b =
        .error (.outOfRange b c.superblock.numberOfBlocks.toNat) := require_neg outside
      rw [stop]
      rfl

theorem blockBytes_of_readBlock {b : BlockNumber} {bytes : Bytes}
    (read : c.readBlock b = .ok bytes) : blockBytes c.device.contents c.blockSize b = bytes := by
  rw [readBlock, check_bind_eq_ok_iff, require_bind_eq_ok_iff] at read
  obtain ⟨_, _, fetched⟩ := read
  exact (BlockDevice.readBlock_eq_window fetched).2

theorem decode_of_readCheckpointMap {m : BlockNumber} {map : CheckpointMap}
    (read : (c.readCheckpointMap m).result = .ok map) :
    CheckpointMap.decode (blockBytes c.device.contents c.blockSize m) = .ok map := by
  simp only [readCheckpointMap, readObject, Traced.result_bind, Traced.result_lift,
    Traced.result_decoded, Traced.result_emit, Traced.result_pure, bind_eq_ok_iff,
    mapError_eq_ok_iff] at read
  obtain ⟨bytes, ⟨_, block, _, _, same⟩, made, parsed, _, _, found⟩ := read
  cases same
  cases found
  rw [blockBytes_of_readBlock block]
  exact parsed

/-- Resolving an object in a map that was read is a matter of the bytes of its block alone: the first
declared record that names the object decides, also where a later one would lie in the container,
and bytes behind the last declared record do not count. -/
theorem resolveEphemeral_from_bytes {device : ByteDevice} {options : OpenOptions}
    {m : BlockNumber} {map : CheckpointMap} {d : Bytes} (o : ObjectId)
    (opened : (ofDevice device options).result = .ok c)
    (read : (c.readCheckpointMap m).result = .ok map)
    (block : blockBytes device.contents c.blockSize m = d) :
    (∃ place, CheckpointMap.FirstNaming d o place ∧
      map.entryFor? o = place.map (fun i => CheckpointMap.storedEntry d (40 + 40 * i)) ∧
      map.addressOf? o = place.map (CheckpointMap.addressAt d) ∧
      (c.resolveEphemeral map o).result =
        held c.superblock.numberOfBlocks (place.map (CheckpointMap.addressAt d))) ∧
    (∀ b, (c.resolveEphemeral map o).result = .ok (some b) →
      b.value < c.superblock.numberOfBlocks) ∧
    (∀ e : Bytes, e.length ≤ Bytes.maxLength →
      d.window 0 (40 + 40 * CheckpointMap.declaredCount d) =
        e.window 0 (40 + 40 * CheckpointMap.declaredCount d) →
      CheckpointMap.decode e = .ok map) := by
  have parsed := decode_of_readCheckpointMap read
  rw [device_of_ofDevice opened, block] at parsed
  obtain ⟨_, same⟩ := CheckpointMap.stored_of_decode parsed
  have address : map.addressOf? o =
      (CheckpointMap.findNaming d o).map (CheckpointMap.addressAt d) := by
    rw [← same, CheckpointMap.addressOf?_stored]
  refine ⟨⟨CheckpointMap.findNaming d o, CheckpointMap.findNaming_eq_iff.mp rfl, ?_, address, ?_⟩,
    ?_, ?_⟩
  · rw [← same, CheckpointMap.entryFor?_stored]
  · rw [resolveEphemeral_eq_held, address]
  · intro b found
    rw [resolveEphemeral_eq_held] at found
    exact inside_of_held found
  · intro e bounded records
    exact CheckpointMap.decode_of_records_eq parsed bounded records

def sampleLenient : Container where
  superblock := Superblock.fields (sample.window 0 1408)
  blockSize := ⟨4096⟩
  options := ⟨true, false, ⟨0⟩⟩
  device := .memory sample

theorem sampleLenient_opened :
    (ofDevice (.memory sample) ⟨true, false, ⟨0⟩⟩).result = .ok sampleLenient :=
  ofDevice_of_front (by decide) sample_front (by simp [ReadsCopy]) nofun

theorem sampleLenient_reads_map : (sampleLenient.readCheckpointMap ⟨2⟩).result =
    .ok (CheckpointMap.stored (blockBytes sample ⟨4096⟩ ⟨2⟩)) :=
  readCheckpointMap_of_typed (sample_front.liesOn (by decide) _)
    ⟨⟨by decide +kernel, by decide, nofun⟩, by decide +kernel⟩ (by decide +kernel)

theorem sample_resolves_outside :
    (ofDevice (.memory sample) ⟨true, false, ⟨0⟩⟩).result = .ok sampleLenient ∧
    ∃ map, (sampleLenient.readCheckpointMap ⟨2⟩).result = .ok map ∧
      (sampleLenient.resolveEphemeral map ⟨1024⟩).result = .error (.outOfRange ⟨9⟩ 3) := by
  have resolved := (resolveEphemeral_from_bytes ⟨1024⟩ sampleLenient_opened sampleLenient_reads_map
    rfl).1
  obtain ⟨place, first, _, _, result⟩ := resolved
  have zero : place = some 0 := by
    rw [← CheckpointMap.findNaming_eq_iff.mpr first]
    decide +kernel
  have address : CheckpointMap.addressAt (blockBytes sample ⟨4096⟩ ⟨2⟩) 0 = ⟨9⟩ := by decide +kernel
  have count : sampleLenient.superblock.numberOfBlocks = 3 := by decide +kernel
  refine ⟨sampleLenient_opened, _, sampleLenient_reads_map, ?_⟩
  rw [result, zero, count]
  simp only [Option.map_some, sampleLenient, ByteDevice.contents, address]
  rfl

end NxContainer.Container
