import NxContainer.Proofs.FileExtent.Mapping

/-! The two ways to the bytes of an extent. The byte range multiplies the first block and adds the
size, the block of an offset shifts the distance and adds the first block; each is absent where its
own result is no 64-bit word. -/
namespace NxContainer.ExtentMapping

variable {m : ExtentMapping} {s : BlockSize} {o : UInt64}

theorem isSparse_eq_false_iff : m.isSparse = false ↔ m.blockNumber.value ≠ 0 := by
  simp [isSparse]

theorem physicalRange?_eq_some_iff {start stop : ByteOffset} :
    m.physicalRange? s = some (start, stop) ↔ m.isSparse = false ∧
      start.value.toNat = m.blockNumber.value.toNat * s.value.toNat ∧
      stop.value.toNat = start.value.toNat + m.dataSize.toNat := by
  unfold physicalRange?
  cases sparse : m.isSparse with
  | true => simp
  | false =>
    simp only [Bool.false_eq_true, if_false, true_and, Option.bind_eq_bind,
      Option.bind_eq_some_iff, Option.pure_def, Option.some.injEq, Prod.mk.injEq]
    constructor
    · rintro ⟨_, first, _, last, rfl, rfl⟩
      exact ⟨BlockNumber.offset?_eq_some_iff.mp first, ByteOffset.advance?_eq_some_iff.mp last⟩
    · rintro ⟨first, last⟩
      exact ⟨start, BlockNumber.offset?_eq_some_iff.mpr first, stop,
        ByteOffset.advance?_eq_some_iff.mpr last, rfl, rfl⟩

theorem distance_lt (contained : m.containsLogical o = true) :
    o.toNat - m.logicalOffset.toNat < m.dataSize.toNat := by
  obtain ⟨start, near⟩ := containsLogical_iff.mp contained
  omega

/-- A contained offset has its byte in the range of the extent, as far from the start of the range as
the offset is from the first one. -/
theorem exists_place {start stop : ByteOffset} (range : m.physicalRange? s = some (start, stop))
    (contained : m.containsLogical o = true) :
    ∃ p, start.advance? (o - m.logicalOffset) = some p ∧
      p.value.toNat = start.value.toNat + (o.toNat - m.logicalOffset.toNat) ∧
      start.value ≤ p.value ∧ p.value < stop.value := by
  obtain ⟨_, _, last⟩ := physicalRange?_eq_some_iff.mp range
  have near := distance_lt contained
  have word : start.value.toNat + (o.toNat - m.logicalOffset.toNat) < addressLimit := by
    have bound : stop.value.toNat < addressLimit := stop.value.toNat_lt
    omega
  obtain ⟨p, exactly⟩ := ByteOffset.exists_toNat word
  refine ⟨p, ?_, exactly, ?_, ?_⟩
  · rw [ByteOffset.advance?_eq_some_iff, toNat_distance contained]
    exact exactly
  · simp only [UInt64.le_iff_toNat_le, exactly, Nat.le_add_right]
  · simpa only [UInt64.lt_iff_toNat_lt, exactly, last, Nat.add_lt_add_iff_left] using near

theorem physicalBlockFor?_of_place (admissible : BlockSize.Admissible s.value.toNat)
    {start stop p : ByteOffset} (range : m.physicalRange? s = some (start, stop))
    (contained : m.containsLogical o = true)
    (place : p.value.toNat = start.value.toNat + (o.toNat - m.logicalOffset.toNat)) :
    m.physicalBlockFor? o s = some (s.blockOf p.value) := by
  obtain ⟨dense, first, _⟩ := physicalRange?_eq_some_iff.mp range
  apply (physicalBlockFor?_eq_some_iff admissible).mpr
  refine ⟨dense, contained, ?_⟩
  -- The range starts with a block, so the quotient is this block and that of the distance.
  apply BlockSize.toNat_blockOf_behind admissible
  rw [place, first]

theorem physicalRange?_exact {start stop : ByteOffset} :
    m.physicalRange? s = some (start, stop) ↔ m.blockNumber.value ≠ 0 ∧
      m.blockNumber.value.toNat * s.value.toNat + m.dataSize.toNat < 2 ^ 64 ∧
      start.value.toNat = m.blockNumber.value.toNat * s.value.toNat ∧
      stop.value.toNat = m.blockNumber.value.toNat * s.value.toNat + m.dataSize.toNat := by
  rw [physicalRange?_eq_some_iff, isSparse_eq_false_iff]
  constructor
  · rintro ⟨dense, first, last⟩
    have bound := stop.value.toNat_lt
    rw [first] at last
    rw [last] at bound
    exact ⟨dense, bound, first, last⟩
  · rintro ⟨dense, _, first, last⟩
    exact ⟨dense, first, by rw [last, first]⟩

theorem physicalBlockFor?_exact (admissible : BlockSize.Admissible s.value.toNat) {b : BlockNumber} :
    m.physicalBlockFor? o s = some b ↔ m.blockNumber.value ≠ 0 ∧ m.containsLogical o = true ∧
      m.blockAt s o < 2 ^ 64 ∧ b.value.toNat = m.blockAt s o := by
  rw [physicalBlockFor?_eq_some_iff admissible, isSparse_eq_false_iff]
  constructor
  · rintro ⟨dense, contained, number⟩
    exact ⟨dense, contained, number ▸ b.value.toNat_lt, number⟩
  · rintro ⟨dense, contained, _, number⟩
    exact ⟨dense, contained, number⟩

/-- Each way is exact in unbounded numbers, and where there is a byte range, the block of every
contained offset is the block of its byte. -/
theorem block_path_agrees (m : ExtentMapping) {w : UInt32} {s : BlockSize}
    (valid : BlockSize.ofWord w = .ok s) :
    (∀ o, m.containsLogical o = true ↔ m.logicalOffset.toNat ≤ o.toNat ∧
      o.toNat < m.logicalOffset.toNat + m.dataSize.toNat) ∧
    (∀ start stop, m.physicalRange? s = some (start, stop) ↔ m.blockNumber.value ≠ 0 ∧
      m.blockNumber.value.toNat * s.value.toNat + m.dataSize.toNat < 2 ^ 64 ∧
      start.value.toNat = m.blockNumber.value.toNat * s.value.toNat ∧
      stop.value.toNat = m.blockNumber.value.toNat * s.value.toNat + m.dataSize.toNat) ∧
    (∀ o b, m.physicalBlockFor? o s = some b ↔ m.blockNumber.value ≠ 0 ∧
      m.containsLogical o = true ∧
      m.blockNumber.value.toNat + (o.toNat - m.logicalOffset.toNat) / s.value.toNat < 2 ^ 64 ∧
      b.value.toNat =
        m.blockNumber.value.toNat + (o.toNat - m.logicalOffset.toNat) / s.value.toNat) ∧
    (∀ start stop o, m.physicalRange? s = some (start, stop) → m.containsLogical o = true →
      ∃ p, start.advance? (o - m.logicalOffset) = some p ∧
        p.value.toNat = start.value.toNat + (o.toNat - m.logicalOffset.toNat) ∧
        start.value ≤ p.value ∧ p.value < stop.value ∧
        m.physicalBlockFor? o s = some (s.blockOf p.value)) ∧
    (∀ o, m.containsLogical o = false → m.physicalBlockFor? o s = none) := by
  have admissible := BlockSize.admissible_of_ofWord valid
  refine ⟨fun o => containsLogical_iff, fun start stop => physicalRange?_exact,
    fun o b => physicalBlockFor?_exact admissible, ?_, ?_⟩
  · intro start stop o range contained
    obtain ⟨p, made, place, low, high⟩ := exists_place range contained
    exact ⟨p, made, place, low, high, physicalBlockFor?_of_place admissible range contained place⟩
  · intro o outside
    simp [physicalBlockFor?, outside]

def edgeExtent : ExtentMapping := ⟨⟨7⟩, 18446744073709546616, ⟨4503599627370494⟩, 6000⟩

theorem edgeExtent_agrees : BlockSize.ofWord 4096 = .ok ⟨4096⟩ ∧
    edgeExtent.physicalRange? ⟨4096⟩ = some (⟨18446744073709543424⟩, ⟨18446744073709549424⟩) ∧
    edgeExtent.physicalBlockFor? 18446744073709551615 ⟨4096⟩ = some ⟨4503599627370495⟩ ∧
    edgeExtent.physicalBlockFor? 0 ⟨4096⟩ = none ∧
    ∃ p, ByteOffset.advance? ⟨18446744073709543424⟩ 4999 = some p ∧
      p.value.toNat = 18446744073709543424 + 4999 ∧
      (18446744073709543424 : UInt64) ≤ p.value ∧ p.value < 18446744073709549424 ∧
      edgeExtent.physicalBlockFor? 18446744073709551615 ⟨4096⟩ =
        some (BlockSize.blockOf ⟨4096⟩ p.value) := by
  have valid : BlockSize.ofWord 4096 = .ok ⟨4096⟩ := by decide
  obtain ⟨_, range, block, place, outside⟩ := block_path_agrees edgeExtent valid
  have found := (range ⟨18446744073709543424⟩ ⟨18446744073709549424⟩).mpr (by decide)
  exact ⟨valid, found, (block _ _).mpr (by decide), outside _ (by decide),
    place _ _ 18446744073709551615 found (by decide)⟩

end NxContainer.ExtentMapping
