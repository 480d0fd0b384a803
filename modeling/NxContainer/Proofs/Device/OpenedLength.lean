import NxContainer.Device.Run
import NxContainer.Proofs.Device.Alike

/-! A device over a file whose length changes after the device was opened. Nothing behind the length
of the open is ever read, and what lies inside is read as far as the file still holds it. A byte
that a truncation removed comes back as zero. -/
namespace NxContainer

namespace Image

def resizeAll (i : Image) (lengths : List Nat) : Image := lengths.foldl resize i

/-- Byte `k` of such a file: its own byte if the file was never too short for it, and else zero. -/
def survivor (i : Image) (lengths : List Nat) (k : Nat) : UInt8 :=
  if ∀ n ∈ lengths, k < n then i.byteAt k else 0

theorem size_resizeAll (i : Image) (lengths : List Nat) :
    (i.resizeAll lengths).size = lengths.getLastD i.size := by
  induction lengths generalizing i with
  | nil => rfl
  | cons n rest ih =>
    rw [List.getLastD_cons]
    exact ih (i.resize n)

theorem byteAt_resizeAll {i : Image} {lengths : List Nat} {k : Nat}
    (inside : k < (i.resizeAll lengths).size) :
    (i.resizeAll lengths).byteAt k = if k < i.size then i.survivor lengths k else 0 := by
  induction lengths generalizing i with
  | nil =>
    have own : k < i.size := inside
    rw [if_pos own, survivor, if_pos (by simp)]
    rfl
  | cons n rest ih =>
    -- What is cut off once stays zero, so each change is one more condition on the byte.
    have later := ih (i := i.resize n) inside
    rw [show i.resizeAll (n :: rest) = (i.resize n).resizeAll rest from rfl, later]
    by_cases own : k < i.size <;> by_cases kept : k < n <;>
      simp only [survivor, resize, List.forall_mem_cons, own, kept, true_and, false_and, if_true,
        if_false, ite_self]

theorem window_resizeAll {i : Image} {lengths : List Nat} {o n : Nat} (own : o + n ≤ i.size)
    (inside : n = 0 ∨ o + n ≤ lengths.getLastD i.size) :
    (i.resizeAll lengths).window o n = (List.range n).map fun k => i.survivor lengths (o + k) := by
  apply List.map_congr_left
  intro k member
  have near := List.mem_range.mp member
  have present : o + k < (i.resizeAll lengths).size := by
    rw [size_resizeAll]
    omega
  rw [byteAt_resizeAll present, if_pos (by omega)]

end Image

namespace ByteDevice

/-- The device goes by the length of `image`, whatever lengths the file has been given since. A read
that leaves this length is refused as a short read. One that stays inside yields what is left of
`image`, if it is empty or the file still goes that far, and else fails as a short read too. -/
structure BoundTo (image : Image) (lengths : List Nat) (d : ByteDevice) : Prop where
  length : d.length = image.size
  beyond : ∀ o n, image.size < o.value.toNat + n → d.read o n =
    .error (.shortRead s!"short read: offset={o.text} len={n} device_len={image.size}")
  present : ∀ o n, o.value.toNat + n ≤ image.size →
    n = 0 ∨ o.value.toNat + n ≤ lengths.getLastD image.size →
    d.read o n = .ok ((List.range n).map fun k => image.survivor lengths (o.value.toNat + k))
  missing : ∀ o n, o.value.toNat + n ≤ image.size →
    ¬ (n = 0 ∨ o.value.toNat + n ≤ lengths.getLastD image.size) →
    d.read o n = .error (.shortRead "failed to fill whole buffer")

theorem boundTo_file (image : Image) (lengths : List Nat) :
    BoundTo image lengths (.file image.size (image.resizeAll lengths)) where
  length := rfl
  beyond o n far := read_of_beyond (Nat.not_le.mpr far)
  present o n own inside := by
    have whole := inside
    rw [← Image.size_resizeAll] at whole
    rw [read_of_inside own, fetch, require_pos whole, ok_bind, Image.window_resizeAll own inside]
    rfl
  missing o n own cut := by
    rw [← Image.size_resizeAll] at cut
    rw [read_of_inside own, fetch, require_neg cut, error_bind]

theorem foldl_setFileLength_file (openedLength : Nat) (contents : Image) (lengths : List Nat) :
    lengths.foldl setFileLength (.file openedLength contents) =
      .file openedLength (contents.resizeAll lengths) := by
  induction lengths generalizing contents with
  | nil => rfl
  | cons n rest ih => exact ih (contents.resize n)

end ByteDevice

namespace BlockDevice

/-! A run of requests to a block device. -/

def Request.newLength? : Request → Option Nat
  | .setFileLength n => some n
  | .readBlock _ | .read _ _ | .superblockRegion => none

def after (d : BlockDevice) (requests : List Request) : BlockDevice := requests.foldl next d

theorem run_append (d : BlockDevice) (before rest : List Request) :
    d.run (before ++ rest) = d.run before ++ (d.after before).run rest := by
  induction before generalizing d with
  | nil => rfl
  | cons r before ih => exact congrArg (d.answer r :: ·) (ih (d.next r))

/-- Of all requests only the changes of the length leave a trace. -/
theorem after_eq (d : BlockDevice) (requests : List Request) : d.after requests =
    ⟨(requests.filterMap Request.newLength?).foldl ByteDevice.setFileLength d.bytes, d.blockSize⟩ := by
  induction requests generalizing d with
  | nil => rfl
  | cons r rest ih => cases r <;> exact ih _

theorem next_of_failed {d : BlockDevice} {r : Request} {e : ReadError}
    (failed : d.answer r = .error e) : d.next r = d := by
  cases r with
  | setFileLength n => cases failed
  | _ => rfl

/-- Blocks are counted by the length of the open, and those inside it are reads at their place. -/
structure BoundTo (image : Image) (lengths : List Nat) (d : BlockDevice) : Prop where
  bytes : d.bytes.BoundTo image lengths
  count : d.blockCount = image.size / d.blockSize.value.toNat
  inside : ∀ b o, b.offset? d.blockSize = some o →
    b.value.toNat < image.size / d.blockSize.value.toNat →
    d.readBlock b = d.bytes.read o d.blockSize.value.toNat
  outside : ∀ b, ¬ b.value.toNat < image.size / d.blockSize.value.toNat →
    d.readBlock b = .error (.outOfRange b (image.size / d.blockSize.value.toNat))

theorem boundTo_of_bytes {image : Image} {lengths : List Nat} {d : BlockDevice}
    (bytes : d.bytes.BoundTo image lengths) : BoundTo image lengths d := by
  have count : d.blockCount = image.size / d.blockSize.value.toNat :=
    congrArg (· / d.blockSize.value.toNat) bytes.length
  refine ⟨bytes, count, ?_, ?_⟩
  · intro b o place inside
    rw [← count] at inside
    rw [readBlock, offsetOf, require_pos inside, ok_bind, place]
    rfl
  · intro b outside
    rw [← count] at outside ⊢
    rw [readBlock, offsetOf, require_neg outside, error_bind, error_bind]

theorem after_file (image : Image) (earlier : List Nat) (s : BlockSize) (requests : List Request) :
    (BlockDevice.mk (.file image.size (image.resizeAll earlier)) s).after requests =
      ⟨.file image.size (image.resizeAll (earlier ++ requests.filterMap Request.newLength?)), s⟩ := by
  rw [after_eq, ByteDevice.foldl_setFileLength_file, Image.resizeAll, Image.resizeAll, Image.resizeAll,
    List.foldl_append]

structure Kept (image : Image) (start : BlockDevice) (before : List Request) : Prop where
  blockSize : (start.after before).blockSize = start.blockSize
  blockCount : (start.after before).blockCount = start.blockCount
  bound : (start.after before).BoundTo image (before.filterMap Request.newLength?)
  onward : ∀ rest, start.run (before ++ rest) = start.run before ++ (start.after before).run rest
  traceless : ∀ r e rest, (start.after before).answer r = .error e →
    (start.after before).run (r :: rest) = .error e :: (start.after before).run rest

theorem kept_file (image : Image) (s : BlockSize) (before : List Request) :
    (BlockDevice.mk (.file image.size image) s).Kept image before := by
  have state : (BlockDevice.mk (.file image.size image) s).after before =
      ⟨.file image.size (image.resizeAll (before.filterMap Request.newLength?)), s⟩ :=
    after_file image [] s before
  have bound : ((BlockDevice.mk (.file image.size image) s).after before).BoundTo image
      (before.filterMap Request.newLength?) := by
    rw [state]
    exact boundTo_of_bytes (ByteDevice.boundTo_file image _)
  refine ⟨?_, ?_, bound, run_append _ before, ?_⟩
  · rw [state]
  · rw [state]
    rfl
  · intro r e rest failed
    rw [run, failed, next_of_failed failed]

end BlockDevice

end NxContainer
