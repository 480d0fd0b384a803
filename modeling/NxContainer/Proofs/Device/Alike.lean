import NxContainer.Proofs.Device.Blocks

/-! Devices that cannot be told apart, at every offset or in one block. A device enters the reading
of a block by its length and by the bytes at the place of the block, and by nothing else. -/
namespace NxContainer

/-- The range holds the same bytes in both images. Of a range that the first image does not hold as a
whole, nothing is asked. -/
def Image.AgreesAt (i j : Image) (o n : Nat) : Prop := o + n ≤ i.size → j.window o n = i.window o n

theorem Image.agreesAt_of_byteAt {i j : Image} {o n : Nat}
    (same : ∀ k, o ≤ k → k < o + n → j.byteAt k = i.byteAt k) : i.AgreesAt j o n := by
  intro _
  apply List.map_congr_left
  intro k member
  have near := List.mem_range.mp member
  exact same (o + k) (Nat.le_add_right _ _) (Nat.add_lt_add_left near o)

namespace ByteDevice

variable {d d' : ByteDevice} {i j : Image}

structure Alike (d d' : ByteDevice) : Prop where
  length : d'.length = d.length
  read : ∀ o n, d'.read o n = d.read o n

theorem alike_refl (d : ByteDevice) : d.Alike d := ⟨rfl, fun _ _ => rfl⟩

theorem read_of_inside {o : ByteOffset} {n : Nat} (inside : o.value.toNat + n ≤ d.length) :
    d.read o n = d.fetch o.value.toNat n := by
  rw [read, require_pos inside, ok_bind]

theorem read_of_beyond {o : ByteOffset} {n : Nat} (beyond : ¬ o.value.toNat + n ≤ d.length) :
    d.read o n =
      .error (.shortRead s!"short read: offset={o.text} len={n} device_len={d.length}") := by
  rw [read, require_neg beyond, error_bind]

theorem read_eq_of_fetch_eq {o : ByteOffset} {n : Nat} (size : d'.length = d.length)
    (same : o.value.toNat + n ≤ d.length → d'.fetch o.value.toNat n = d.fetch o.value.toNat n) :
    d'.read o n = d.read o n := by
  by_cases inside : o.value.toNat + n ≤ d.length
  · rw [read_of_inside inside, read_of_inside (size ▸ inside), same inside]
  · rw [read_of_beyond inside, read_of_beyond (size ▸ inside), size]

theorem alike_memory_file (image : Image) : (memory image).Alike (file image.size image) := by
  refine ⟨rfl, fun o n => read_eq_of_fetch_eq (d := memory image) rfl ?_⟩
  intro inside
  -- Inside the length of the open the range is inside the file, so the second check never fails.
  have whole : n = 0 ∨ o.value.toNat + n ≤ image.size := Or.inr inside
  rw [fetch, fetch, require_pos whole]
  rfl

theorem read_memory_of_agreesAt {o : ByteOffset} {n : Nat} (size : j.size = i.size)
    (same : i.AgreesAt j o.value.toNat n) : (memory j).read o n = (memory i).read o n :=
  read_eq_of_fetch_eq size fun inside => congrArg Except.ok (same inside)

theorem superblockRegion_memory_of_agreesAt (size : j.size = i.size) (same : i.AgreesAt j 0 1408) :
    (memory j).superblockRegion = (memory i).superblockRegion :=
  read_memory_of_agreesAt size same

end ByteDevice

namespace BlockDevice

variable {s : BlockSize} {b : BlockNumber} {d d' : ByteDevice} {i j : Image}

/-- The two devices go by one length, and the block is the same on both, be it its bytes or the reason
that there are none. -/
structure SameAt (s : BlockSize) (b : BlockNumber) (d d' : ByteDevice) : Prop where
  length : d'.length = d.length
  block : (BlockDevice.mk d' s).readBlock b = (BlockDevice.mk d s).readBlock b

theorem offsetOf_of_length (length : d'.length = d.length) :
    (BlockDevice.mk d' s).offsetOf b = (BlockDevice.mk d s).offsetOf b := by
  have count : (BlockDevice.mk d' s).blockCount = (BlockDevice.mk d s).blockCount :=
    congrArg (· / s.value.toNat) length
  rw [offsetOf, offsetOf, count]

theorem sameAt_of_read (length : d'.length = d.length)
    (read : ∀ o, o.value.toNat = b.value.toNat * s.value.toNat →
      d'.read o s.value.toNat = d.read o s.value.toNat) : SameAt s b d d' := by
  refine ⟨length, ?_⟩
  rw [readBlock, readBlock, offsetOf_of_length length]
  cases place : (BlockDevice.mk d s).offsetOf b with
  | error e => rfl
  | ok o =>
    rw [offsetOf, require_bind_eq_ok_iff] at place
    obtain ⟨_, found⟩ := place
    cases start : b.offset? s with
    | none =>
      rw [start] at found
      cases found
    | some o' =>
      rw [start] at found
      cases found
      exact read o (BlockNumber.offset?_eq_some_iff.mp start)

theorem sameAt_of_alike (alike : d.Alike d') (s : BlockSize) (b : BlockNumber) : SameAt s b d d' :=
  sameAt_of_read alike.length fun o _ => alike.read o _

theorem sameAt_of_agreesAt (size : j.size = i.size)
    (same : i.AgreesAt j (b.value.toNat * s.value.toNat) s.value.toNat) :
    SameAt s b (.memory i) (.memory j) := by
  refine sameAt_of_read size ?_
  intro o place
  rw [← place] at same
  exact ByteDevice.read_memory_of_agreesAt size same

end BlockDevice

end NxContainer
