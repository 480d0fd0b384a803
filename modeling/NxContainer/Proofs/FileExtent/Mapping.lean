import NxContainer.FileExtent
import NxContainer.Proofs.Units

/-! Where the bytes of an extent are stored, in plain numbers. The offsets of an extent may run
against the end of the 64-bit words, and then its last bytes have no offset and lead to no block. -/
namespace NxContainer

theorem FileExtent.ofRecord_eq_ok_iff {key value : Bytes} {e : FileExtent} :
    ofRecord key value = .ok e ↔ ∃ k v, ExtentKey.decode key = .ok k ∧
      ExtentValue.decode value = .ok v ∧ e = ⟨some k, some v⟩ := by
  rw [ofRecord, bind_eq_ok_iff]
  simp only [readKey, readValue, require_bind_eq_ok_iff]
  simp only [bind_eq_ok_iff, pure_eq_ok_iff]
  constructor
  · rintro ⟨_, ⟨_, k, first, rfl⟩, _, v, second, rfl⟩
    exact ⟨k, v, first, second, rfl⟩
  · rintro ⟨k, v, first, second, rfl⟩
    exact ⟨_, ⟨rfl, k, first, rfl⟩, rfl, v, second, rfl⟩

namespace ExtentMapping

/-- The number of the block of an offset, not held against the 64-bit words. -/
def blockAt (m : ExtentMapping) (s : BlockSize) (o : UInt64) : Nat :=
  m.blockNumber.value.toNat + (o.toNat - m.logicalOffset.toNat) / s.value.toNat

/-- The distance from the first offset of an extent that is not empty to its last one. -/
def reach (m : ExtentMapping) : Nat :=
  min (m.dataSize.toNat - 1) (addressLimit - 1 - m.logicalOffset.toNat)

/-- The last block that the extent leads to, if there is one, is below `n`. -/
def EndsBelow (m : ExtentMapping) (s : BlockSize) (n : UInt64) : Prop :=
  m.isSparse = true ∨ m.dataSize = 0 ∨ m.blockNumber.value.toNat + m.reach / s.value.toNat < n.toNat

instance (m : ExtentMapping) (s : BlockSize) (n : UInt64) : Decidable (m.EndsBelow s n) :=
  inferInstanceAs (Decidable (_ ∨ _ ∨ _))

variable {m : ExtentMapping} {s : BlockSize} {o : UInt64} {b : BlockNumber}

theorem containsLogical_iff : m.containsLogical o = true ↔ m.logicalOffset.toNat ≤ o.toNat ∧
    o.toNat < m.logicalOffset.toNat + m.dataSize.toNat := by
  simp only [containsLogical, Bool.and_eq_true, decide_eq_true_eq, UInt64.le_iff_toNat_le,
    UInt64.lt_iff_toNat_lt]
  constructor
  · rintro ⟨start, near⟩
    rw [UInt64.toNat_sub_of_le _ _ (UInt64.le_iff_toNat_le.mpr start)] at near
    exact ⟨start, by omega⟩
  · rintro ⟨start, near⟩
    rw [UInt64.toNat_sub_of_le _ _ (UInt64.le_iff_toNat_le.mpr start)]
    exact ⟨start, by omega⟩

theorem toNat_distance (contained : m.containsLogical o = true) :
    (o - m.logicalOffset).toNat = o.toNat - m.logicalOffset.toNat :=
  UInt64.toNat_sub_of_le _ _ (UInt64.le_iff_toNat_le.mpr (containsLogical_iff.mp contained).1)

theorem physicalBlockFor?_eq_some_iff (admissible : BlockSize.Admissible s.value.toNat) :
    m.physicalBlockFor? o s = some b ↔
      m.isSparse = false ∧ m.containsLogical o = true ∧ b.value.toNat = m.blockAt s o := by
  by_cases mapped : m.isSparse = false ∧ m.containsLogical o = true
  · obtain ⟨dense, contained⟩ := mapped
    have blocks := BlockSize.toNat_blockOf admissible (o - m.logicalOffset)
    rw [toNat_distance contained] at blocks
    simp only [physicalBlockFor?, dense, contained, blocks, Bool.not_true, Bool.or_false,
      Bool.false_eq_true, if_false, Option.map_eq_some_iff, word64?_eq_some_iff, true_and, blockAt]
    constructor
    · rintro ⟨w, exactly, rfl⟩
      exact exactly
    · exact fun exactly => ⟨b.value, exactly, rfl⟩
  · have absent : (m.isSparse || !m.containsLogical o) = true := by
      cases dense : m.isSparse with
      | true => rfl
      | false => simpa [dense] using mapped
    rw [physicalBlockFor?, if_pos absent]
    exact ⟨nofun, fun h => absurd ⟨h.1, h.2.1⟩ mapped⟩

theorem blockAt_le (contained : m.containsLogical o = true) :
    m.blockAt s o ≤ m.blockNumber.value.toNat + m.reach / s.value.toNat := by
  obtain ⟨start, near⟩ := containsLogical_iff.mp contained
  have word : o.toNat < addressLimit := o.toNat_lt
  have inside : o.toNat - m.logicalOffset.toNat ≤ m.reach := by
    rw [reach]
    omega
  exact Nat.add_le_add_left (Nat.div_le_div_right inside) _

theorem exists_contained {delta : Nat} (filled : m.dataSize ≠ 0) (inside : delta ≤ m.reach) :
    ∃ o, m.containsLogical o = true ∧ o.toNat = m.logicalOffset.toNat + delta := by
  have size : m.dataSize.toNat ≠ 0 := fun h => filled (UInt64.toNat_inj.mp h)
  have start : m.logicalOffset.toNat < addressLimit := m.logicalOffset.toNat_lt
  rw [reach] at inside
  have near : m.logicalOffset.toNat + delta < addressLimit := by omega
  have place := UInt64.toNat_ofNat_of_lt' near
  refine ⟨_, containsLogical_iff.mpr ?_, place⟩
  omega

/-- The blocks that an extent leads to are all below `n` exactly if the last of them is. Otherwise
some offset leads to the first block of the extent that is not below `n`. -/
theorem blocks_below_iff (admissible : BlockSize.Admissible s.value.toNat) {n : UInt64} :
    (∀ o b, m.physicalBlockFor? o s = some b → b.value < n) ↔ m.EndsBelow s n := by
  have positive := admissible.positive
  constructor
  · intro below
    refine Decidable.byContradiction fun past => ?_
    simp only [EndsBelow, not_or, Nat.not_lt, Bool.not_eq_true] at past
    obtain ⟨dense, filled, far⟩ := past
    have inside : (n.toNat - m.blockNumber.value.toNat) * s.value.toNat ≤ m.reach :=
      (Nat.le_div_iff_mul_le positive).mp (Nat.sub_le_iff_le_add'.mpr far)
    obtain ⟨o, contained, place⟩ := exists_contained filled inside
    have number : m.blockAt s o = max m.blockNumber.value.toNat n.toNat := by
      rw [blockAt, place, Nat.add_sub_cancel_left, Nat.mul_div_cancel _ positive]
      omega
    have word : m.blockAt s o < addressLimit :=
      number ▸ Nat.max_lt.mpr ⟨m.blockNumber.value.toNat_lt, n.toNat_lt⟩
    have exactly := UInt64.toNat_ofNat_of_lt' word
    have leads : m.physicalBlockFor? o s = some ⟨UInt64.ofNat (m.blockAt s o)⟩ :=
      (physicalBlockFor?_eq_some_iff admissible).mpr ⟨dense, contained, exactly⟩
    have small := UInt64.lt_iff_toNat_lt.mp (below o _ leads)
    rw [exactly, number] at small
    omega
  · rintro ends o b leads
    obtain ⟨dense, contained, number⟩ := (physicalBlockFor?_eq_some_iff admissible).mp leads
    rcases ends with sparse | empty | last
    · rw [dense] at sparse
      cases sparse
    · obtain ⟨start, near⟩ := containsLogical_iff.mp contained
      rw [empty, UInt64.toNat_zero] at near
      omega
    · apply UInt64.lt_iff_toNat_lt.mpr
      rw [number]
      exact Nat.lt_of_le_of_lt (blockAt_le contained) last

end ExtentMapping

end NxContainer
