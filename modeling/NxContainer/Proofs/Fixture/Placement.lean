import NxContainer.Fixture
import NxContainer.Proofs.Image

/-! The image that is made of fixtures in distinct blocks. At the end every block holds its fixture,
with the old bytes behind it, or what it held before if there is no fixture for it. -/
namespace NxContainer.FixturePlacement

/-- The fixtures can be read, none is larger than a block, and each has a block of its own in the
image, which fits the address space. -/
structure Arranged (blockSize blockCount : Nat) (placements : List FixturePlacement) : Prop where
  sized : blockSize * blockCount < addressLimit
  apart : (placements.map block).Nodup
  inside : ∀ p ∈ placements, p.block < blockCount
  loads : ∀ p ∈ placements, ∃ fixture, p.source.load = .ok fixture ∧ fixture.size ≤ blockSize

/-- The blocks of `after` are those of `before` with the fixtures placed over them. -/
structure Laid (blockSize : Nat) (placements : List FixturePlacement) (before after : Image) :
    Prop where
  size : after.size = before.size
  placed : ∀ p ∈ placements, ∀ fixture, p.source.load = .ok fixture → fixture.size ≤ blockSize ∧
    after.window (p.block * blockSize) blockSize = fixture.toBytes ++
      before.window (p.block * blockSize + fixture.size) (blockSize - fixture.size)
  free : ∀ b, (∀ p ∈ placements, p.block ≠ b) →
    after.window (b * blockSize) blockSize = before.window (b * blockSize) blockSize

variable {blockSize blockCount : Nat} {placements : List FixturePlacement} {p : FixturePlacement}
  {fixture : Image}

theorem Arranged.tail (arranged : Arranged blockSize blockCount (p :: placements)) :
    Arranged blockSize blockCount placements where
  sized := arranged.sized
  apart := (List.nodup_cons.mp arranged.apart).2
  inside := (List.forall_mem_cons.mp arranged.inside).2
  loads := (List.forall_mem_cons.mp arranged.loads).2

theorem Arranged.alone (arranged : Arranged blockSize blockCount (p :: placements)) :
    ∀ q ∈ placements, q.block ≠ p.block := by
  intro q member same
  exact (List.nodup_cons.mp arranged.apart).1 (same ▸ List.mem_map_of_mem member)

theorem place_of_loaded (loaded : p.source.load = .ok fixture) (fits : fixture.size ≤ blockSize)
    (inside : p.block < blockCount) (i : Image) :
    place blockSize blockCount i p = .ok (i.overlay (p.block * blockSize) fixture.toBytes) := by
  rw [place, loaded, ok_bind, require_pos fits, ok_bind, require_pos inside, ok_bind]
  rfl

theorem Laid.cons {i j : Image} (loaded : p.source.load = .ok fixture)
    (fits : fixture.size ≤ blockSize) (alone : ∀ q ∈ placements, q.block ≠ p.block)
    (rest : Laid blockSize placements (i.overlay (p.block * blockSize) fixture.toBytes) j) :
    Laid blockSize (p :: placements) i j := by
  have length : fixture.toBytes.length = fixture.size := Image.length_window _ _ _
  -- A window in another block, of which only a part may be asked for.
  have beside (b : Nat) (other : b ≠ p.block) (o n : Nat) (part : o + n ≤ blockSize) :
      (i.overlay (p.block * blockSize) fixture.toBytes).window (b * blockSize + o) n =
        i.window (b * blockSize + o) n := by
    have apart := Image.blocks_apart blockSize other
    exact Image.window_overlay_of_apart (by omega)
  refine ⟨rest.size, ?_, ?_⟩
  · intro q member content loads
    rcases List.mem_cons.mp member with rfl | member
    · cases loaded.symm.trans loads
      rw [rest.free _ alone, Image.window_overlay_front (by omega), length]
      exact ⟨fits, rfl⟩
    · obtain ⟨small, read⟩ := rest.placed q member content loads
      rw [beside q.block (alone q member) _ _ (by omega)] at read
      exact ⟨small, read⟩
  · intro b free
    obtain ⟨here, others⟩ := List.forall_mem_cons.mp free
    rw [rest.free b others]
    exact beside b here.symm 0 blockSize (by omega)

theorem foldlM_place (arranged : Arranged blockSize blockCount placements) (i : Image) :
    ∃ j, placements.foldlM (place blockSize blockCount) i = .ok j ∧ Laid blockSize placements i j := by
  induction placements generalizing i with
  | nil => exact ⟨i, rfl, rfl, nofun, fun _ _ => rfl⟩
  | cons p rest ih =>
    obtain ⟨fixture, loaded, fits⟩ := arranged.loads p List.mem_cons_self
    have inside := arranged.inside p List.mem_cons_self
    -- The image with the first fixture in its place is the start for the others.
    obtain ⟨j, made, laid⟩ := ih arranged.tail (i.overlay (p.block * blockSize) fixture.toBytes)
    refine ⟨j, ?_, laid.cons loaded fits arranged.alone⟩
    rw [List.foldlM_cons, place_of_loaded loaded fits inside, ok_bind, made]

theorem imageOf_of_arranged {s : BlockSize} (arranged : Arranged s.value.toNat blockCount placements) :
    ∃ image, imageOf s blockCount placements = .ok image ∧
      Laid s.value.toNat placements (Image.zeros (s.value.toNat * blockCount)) image := by
  obtain ⟨image, made, laid⟩ := foldlM_place arranged (Image.zeros (s.value.toNat * blockCount))
  refine ⟨image, ?_, laid⟩
  rw [imageOf, require_pos arranged.sized, ok_bind, made]

end NxContainer.FixturePlacement
