import NxContainer.Proofs.Container.Devices
import NxContainer.Proofs.Container.Resolution
import NxContainer.Proofs.Device.OpenedLength

/-! A file that is shortened and lengthened while it is read, by way of a device alone or of a
container that was opened on it. What was learnt at the open stays as it was. -/
namespace NxContainer

namespace Session

def after (s : Session) : List Request → Session
  | [] => s
  | r :: rest => (s.next r (s.answer r)).after rest

theorem run_append (s : Session) (before rest : List Request) :
    s.run (before ++ rest) = s.run before ++ (s.after before).run rest := by
  induction before generalizing s with
  | nil => rfl
  | cons r before ih => exact congrArg (s.answer r :: ·) (ih _)

theorem container_after (s : Session) (requests : List Request) : (s.after requests).container =
    s.container.onDevice
      ((requests.filterMap Request.newLength?).foldl ByteDevice.setFileLength s.container.device) := by
  induction requests generalizing s with
  | nil => rfl
  | cons r rest ih =>
    rw [after, ih]
    cases new : r.newLength? with
    | some n =>
      cases r <;> cases new
      rfl
    | none =>
      rw [next_of_keeping new, List.filterMap_cons_none new]

theorem next_of_failed {s : Session} {r : Request} {e : ReadError}
    (failed : (s.answer r).result = .error e) : s.next r (s.answer r) = s := by
  cases new : r.newLength? with
  | some n =>
    cases r <;> cases new
    cases failed
  | none => rw [next_of_keeping new, mapAfter, failed]

theorem container_after_file {s : Session} {image : Image} {earlier : List Nat}
    (behind : s.container.device = .file image.size (image.resizeAll earlier))
    (requests : List Request) : (s.after requests).container = s.container.onDevice
      (.file image.size (image.resizeAll (earlier ++ requests.filterMap Request.newLength?))) := by
  rw [container_after, behind, ByteDevice.foldl_setFileLength_file, Image.resizeAll, Image.resizeAll,
    Image.resizeAll, List.foldl_append]

/-- What holds at any point of a run over the container `c`, whose file was opened as `image` and had
been given the lengths `earlier` when the container was opened. -/
structure Kept (image : Image) (earlier : List Nat) (c : Container) (before : List Request) :
    Prop where
  superblock : ((start c).after before).container.superblock = c.superblock
  blockSize : ((start c).after before).container.blockSize = c.blockSize
  options : ((start c).after before).container.options = c.options
  blockCount : ((start c).after before).container.blocks.blockCount = c.blocks.blockCount
  bound : ((start c).after before).container.blocks.BoundTo image
    (earlier ++ before.filterMap Request.newLength?)
  block : ∀ b, b.value < c.superblock.numberOfBlocks → b.value.toNat < c.blocks.blockCount →
    ((start c).after before).container.readBlock b =
      ((start c).after before).container.blocks.readBlock b
  onward : ∀ rest, (start c).run (before ++ rest) =
    (start c).run before ++ ((start c).after before).run rest
  /-- The answers behind a failed request are those of the run without it. -/
  traceless : ∀ r e rest, (((start c).after before).answer r).result = .error e →
    ((start c).after before).run (r :: rest) =
      ((start c).after before).answer r :: ((start c).after before).run rest

end Session

namespace Container

theorem kept_of_file {c : Container} {image : Image} {earlier : List Nat}
    (behind : c.device = .file image.size (image.resizeAll earlier))
    (before : List Session.Request) : Session.Kept image earlier c before := by
  have state := Session.container_after_file (s := Session.start c) behind before
  have count : ((Session.start c).after before).container.blocks.blockCount = c.blocks.blockCount := by
    rw [state, blocks, blocks, behind]
    rfl
  refine {
    superblock := by rw [state]; rfl
    blockSize := by rw [state]; rfl
    options := by rw [state]; rfl
    blockCount := count
    bound := ?_
    block := ?_
    onward := Session.run_append _ before
    traceless := ?_ }
  · rw [state]
    exact BlockDevice.boundTo_of_bytes (ByteDevice.boundTo_file image _)
  · intro b declared counted
    rw [← count] at counted
    exact readBlock_of_counted (by rw [state]; exact declared) counted
  · intro r e rest failed
    rw [Session.run, Session.next_of_failed failed]

/-- A device over a file keeps the length that the file had when it was opened, and so do the blocks
that are counted by it and a container that is opened on it, even after the file has changed. Whatever
lengths the file is given in the course of a run, every read is bound to the length of the open and
yields what is left of the contents, and a request that fails leaves no trace. -/
theorem file_keeps_opened_length (image : Image) :
    ∃ file, ByteDevice.openFile (some image) = .ok file ∧
    (∀ (s : BlockSize) before, (BlockDevice.mk file s).Kept image before) ∧
    ∀ earlier options c,
      (ofDevice (earlier.foldl ByteDevice.setFileLength file) options).result = .ok c →
      ∀ before, Session.Kept image earlier c before := by
  refine ⟨.file image.size image, rfl, BlockDevice.kept_file image, ?_⟩
  intro earlier options c opened before
  apply kept_of_file
  rw [device_of_ofDevice opened, ByteDevice.foldl_setFileLength_file]

def sampleShrinkAndGrow : List Session.Request :=
  [.setFileLength 4098, .readBlock ⟨2⟩, .setFileLength 16384]

theorem sample_file_keeps_length :
    ∃ file, ByteDevice.openFile (some sample) = .ok file ∧
      (ofDevice file ⟨true, false, ⟨0⟩⟩).result = .ok (sampleLenient.onDevice file) ∧
      ∃ later, ((Session.start (sampleLenient.onDevice file)).after sampleShrinkAndGrow).container =
        later ∧ later.blocks.blockCount = 3 ∧
        later.device.read ⟨4096⟩ 4 = .ok [83, 127, 0, 0] ∧
        later.device.read ⟨12287⟩ 2 =
          .error (.shortRead "short read: offset=12287 len=2 device_len=12288") := by
  obtain ⟨file, present, _, container⟩ := file_keeps_opened_length sample
  cases present
  have opened : (ofDevice (.file sample.size sample) ⟨true, false, ⟨0⟩⟩).result =
      .ok (sampleLenient.onDevice (.file sample.size sample)) := by
    rw [ofDevice_of_alike (ByteDevice.alike_memory_file sample), Traced.result_map,
      sampleLenient_opened]
    rfl
  have kept := container [] _ _ opened sampleShrinkAndGrow
  have survivors : ((List.range 4).map fun k =>
      sample.survivor [4098, 16384] ((⟨4096⟩ : ByteOffset).value.toNat + k)) =
      [83, 127, 0, 0] := by decide +kernel
  have text : s!"short read: offset={(⟨12287⟩ : ByteOffset).text} len={2} device_len={sample.size}" =
      "short read: offset=12287 len=2 device_len=12288" := by decide +kernel
  have inside : (⟨4096⟩ : ByteOffset).value.toNat + 4 ≤ sample.size := by decide +kernel
  have held : (⟨4096⟩ : ByteOffset).value.toNat + 4 ≤ [4098, 16384].getLastD sample.size := by
    decide +kernel
  have beyond : sample.size < (⟨12287⟩ : ByteOffset).value.toNat + 2 := by decide +kernel
  have bound := kept.bound
  have count := kept.blockCount
  refine ⟨_, rfl, opened, ?_⟩
  -- From here on the run is not to be evaluated.
  generalize ((Session.start _).after sampleShrinkAndGrow).container = later at bound count
  have bytes : later.device.BoundTo sample [4098, 16384] := bound.bytes
  refine ⟨later, rfl, count, ?_, ?_⟩
  · rw [bytes.present _ _ inside (Or.inr held), survivors]
  · rw [bytes.beyond _ _ beyond, text]

end Container

end NxContainer
