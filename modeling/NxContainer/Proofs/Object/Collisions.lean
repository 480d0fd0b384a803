import Mathlib.Algebra.BigOperators.Ring.Finset
import NxContainer.Proofs.Object.Closing

/-! Which changes of an object the checksum misses. It sees the words only through two sums, so a
change is missed exactly if it moves both of them by multiples of 2^32 - 1. -/
namespace NxContainer.Checksum

open Finset (range)

def excess (d e : Bytes) (i : Nat) : ℤ := (wordAt d i).toNat - (wordAt e i).toNat

theorem Summable.of_length_eq {d e : Bytes} (h : Summable d) (same : d.length = e.length) :
    Summable e :=
  ⟨same ▸ h.long, same ▸ h.whole⟩

theorem wordCount_eq {d e : Bytes} (same : d.length = e.length) : wordCount d = wordCount e := by
  rw [wordCount, wordCount, same]

theorem sum_excess {d e : Bytes} (same : d.length = e.length) :
    ∑ i ∈ range (wordCount d), excess d e i = plainSum d - plainSum e := by
  simp [excess, plainSum, ← wordCount_eq same]

theorem weighted_sum_excess {d e : Bytes} (same : d.length = e.length) :
    ∑ i ∈ range (wordCount d), ((wordCount d : ℤ) - i) * excess d e i =
      weightedSum d - weightedSum e := by
  have cast (object : Bytes) (count : wordCount object = wordCount d) : (weightedSum object : ℤ) =
      ∑ i ∈ range (wordCount d), ((wordCount d : ℤ) - i) * (wordAt object i).toNat := by
    rw [weightedSum, count, Nat.cast_sum]
    refine Finset.sum_congr rfl fun i inside => ?_
    rw [Nat.cast_mul, Nat.cast_sub (Nat.le_of_lt (Finset.mem_range.mp inside))]
  rw [cast d rfl, cast e (wordCount_eq same).symm, ← Finset.sum_sub_distrib]
  simp [excess, mul_sub]

theorem sub_modEq_zero_iff {a b : Nat} :
    (a : ℤ) - b ≡ 0 [ZMOD 4294967295] ↔ a ≡ b [MOD 4294967295] := by
  rw [Int.modEq_zero_iff_dvd, ← Int.modEq_iff_dvd, Int.modEq_comm]
  exact Int.natCast_modEq_iff

theorem compute_eq_iff {d e : Bytes} (h : Summable d) (same : d.length = e.length) :
    compute d = compute e ↔
      ∑ i ∈ range (wordCount d), excess d e i ≡ 0 [ZMOD 4294967295] ∧
        ∑ i ∈ range (wordCount d), ((wordCount d : ℤ) - i) * excess d e i ≡ 0
          [ZMOD 4294967295] := by
  have other := h.of_length_eq same
  rw [sum_excess same, weighted_sum_excess same, sub_modEq_zero_iff, sub_modEq_zero_iff,
    compute_eq_fletcher64 h, compute_eq_fletcher64 other, Except.ok.injEq, fletcher64_eq_iff]
  simp only [total_payload, weightedTotal_payload]

/-! Two places: the words agree beside them, or are exchanged. -/

def AgreeBeside (d e : Bytes) (i j : Nat) : Prop :=
  ∀ k < wordCount d, k ≠ i → k ≠ j → wordAt d k = wordAt e k

instance (d e : Bytes) (i j : Nat) : Decidable (AgreeBeside d e i j) :=
  inferInstanceAs (Decidable (∀ k < wordCount d, _))

theorem sum_of_agreeBeside {d e : Bytes} {i j : Nat} (apart : i ≠ j) (hi : i < wordCount d)
    (hj : j < wordCount d) (agree : AgreeBeside d e i j) (weight : Nat → ℤ) :
    ∑ k ∈ range (wordCount d), weight k * excess d e k =
      weight i * excess d e i + weight j * excess d e j := by
  refine Finset.sum_eq_add i j apart ?_ ?_ ?_
  · rintro k inside ⟨not_i, not_j⟩
    simp [excess, agree k (Finset.mem_range.mp inside) not_i not_j]
  · exact fun outside => absurd (Finset.mem_range.mpr hi) outside
  · exact fun outside => absurd (Finset.mem_range.mpr hj) outside

/-- The later word only has to take back the sum; the earlier one is weighed by the distance. -/
theorem compute_eq_iff_of_agreeBeside {d e : Bytes} (h : Summable d) (same : d.length = e.length)
    {i j : Nat} (before : i < j) (hj : j < wordCount d) (agree : AgreeBeside d e i j) :
    compute d = compute e ↔
      excess d e i + excess d e j ≡ 0 [ZMOD 4294967295] ∧
        ((j : ℤ) - i) * excess d e i ≡ 0 [ZMOD 4294967295] := by
  have hi := Nat.lt_trans before hj
  have plain := sum_of_agreeBeside (Nat.ne_of_lt before) hi hj agree fun _ => 1
  have weighted := sum_of_agreeBeside (Nat.ne_of_lt before) hi hj agree fun k => wordCount d - k
  simp only [one_mul] at plain
  rw [compute_eq_iff h same, plain, weighted]
  have split : ((wordCount d : ℤ) - i) * excess d e i + ((wordCount d : ℤ) - j) * excess d e j =
      ((wordCount d : ℤ) - j) * (excess d e i + excess d e j) + ((j : ℤ) - i) * excess d e i := by
    ring
  rw [split]
  refine and_congr_right fun sum => ?_
  have gone := (sum.mul_left ((wordCount d : ℤ) - j)).add_right (((j : ℤ) - i) * excess d e i)
  rw [mul_zero, zero_add] at gone
  exact ⟨gone.symm.trans, gone.trans⟩

def Extremes (w v : UInt32) : Prop := w = 0 ∧ v = 0xFFFFFFFF ∨ w = 0xFFFFFFFF ∧ v = 0

instance (w v : UInt32) : Decidable (Extremes w v) := inferInstanceAs (Decidable (_ ∨ _))

/-- Words are too small to differ by more than one modulus. -/
theorem excess_modEq_zero_iff {d e : Bytes} {i : Nat} : excess d e i ≡ 0 [ZMOD 4294967295] ↔
    (wordAt d i ≠ wordAt e i → Extremes (wordAt d i) (wordAt e i)) := by
  have left := (wordAt d i).toNat_lt
  have right := (wordAt e i).toNat_lt
  have zero : (0 : UInt32).toNat = 0 := rfl
  have most : (0xFFFFFFFF : UInt32).toNat = 4294967295 := rfl
  rw [excess, Int.ModEq]
  simp only [Extremes, ne_eq, ← UInt32.toNat_inj, zero, most]
  omega

theorem adjacent_modEq_iff {d e : Bytes} {k : Nat} :
    (excess d e k + excess d e (k + 1) ≡ 0 [ZMOD 4294967295] ∧
        (((k + 1 : Nat) : ℤ) - k) * excess d e k ≡ 0 [ZMOD 4294967295]) ↔
      excess d e k ≡ 0 [ZMOD 4294967295] ∧ excess d e (k + 1) ≡ 0 [ZMOD 4294967295] := by
  have one : ((k + 1 : Nat) : ℤ) - k = 1 := by omega
  rw [one, one_mul]
  simp only [Int.ModEq]
  omega

structure Exchanged (d e : Bytes) (i j : Nat) : Prop where
  first : wordAt e i = wordAt d j
  second : wordAt e j = wordAt d i
  others : AgreeBeside d e i j

theorem Exchanged.modEq_iff {d e : Bytes} {i j : Nat} (h : Exchanged d e i j) :
    (excess d e i + excess d e j ≡ 0 [ZMOD 4294967295] ∧
        ((j : ℤ) - i) * excess d e i ≡ 0 [ZMOD 4294967295]) ↔
      ((j : ℤ) - i) * ((wordAt d j).toNat - (wordAt d i).toNat) ≡ 0 [ZMOD 4294967295] := by
  have balance : excess d e i + excess d e j = 0 := by
    rw [excess, excess, h.first, h.second]
    ring
  have turned : ((j : ℤ) - i) * ((wordAt d j).toNat - (wordAt d i).toNat) =
      -(((j : ℤ) - i) * excess d e i) := by
    rw [excess, h.first]
    ring
  rw [balance, turned, Int.modEq_zero_iff_dvd, Int.modEq_zero_iff_dvd, Int.modEq_zero_iff_dvd,
    Int.dvd_neg]
  exact and_iff_right (Int.dvd_zero _)

/-- The checksum misses exactly the changes that leave both sums. Within two adjacent words it
misses nothing but all zeros turned into all ones or back, and an exchange of two words exactly if
their difference times their distance is a multiple of the modulus. -/
theorem missed_changes {d e : Bytes} (h : Summable d) (same : d.length = e.length) :
    (∃ left right, compute d = .ok left ∧ compute e = .ok right ∧ (left = right ↔
      ∑ i ∈ range (wordCount d), excess d e i ≡ 0 [ZMOD 4294967295] ∧
        ∑ i ∈ range (wordCount d), ((wordCount d : ℤ) - i) * excess d e i ≡ 0
          [ZMOD 4294967295])) ∧
    (∀ k, k + 1 < wordCount d → AgreeBeside d e k (k + 1) → (compute d = compute e ↔
      ∀ i < wordCount d, wordAt d i ≠ wordAt e i → Extremes (wordAt d i) (wordAt e i))) ∧
    (∀ i j, i < j → j < wordCount d → Exchanged d e i j → (compute d = compute e ↔
      ((j : ℤ) - i) * ((wordAt d j).toNat - (wordAt d i).toNat) ≡ 0 [ZMOD 4294967295])) := by
  refine ⟨?_, ?_, ?_⟩
  · have other := h.of_length_eq same
    have equal := compute_eq_iff h same
    rw [compute_eq_fletcher64 h, compute_eq_fletcher64 other, Except.ok.injEq] at equal
    exact ⟨_, _, compute_eq_fletcher64 h, compute_eq_fletcher64 other, equal⟩
  · intro k inside agree
    rw [compute_eq_iff_of_agreeBeside h same (Nat.lt_succ_self k) inside agree, adjacent_modEq_iff,
      excess_modEq_zero_iff, excess_modEq_zero_iff]
    constructor
    · rintro ⟨first, second⟩ i hi differ
      by_cases at_first : i = k
      · exact at_first ▸ first (at_first ▸ differ)
      by_cases at_second : i = k + 1
      · exact at_second ▸ second (at_second ▸ differ)
      exact absurd (agree i hi at_first at_second) differ
    · exact fun all => ⟨all k (Nat.lt_of_succ_lt inside), all (k + 1) inside⟩
  · intro i j before inside exchanged
    rw [compute_eq_iff_of_agreeBeside h same before inside exchanged.others, exchanged.modEq_iff]

def ofWords (ws : List UInt32) : Bytes :=
  List.replicate 8 0 ++ ws.flatMap fun w => Bytes.toLE 4 w.toNat

def sampleWords : Bytes := ofWords [0, 0xFFFFFFFF, 9, 0x55555555, 7, 8]

def turnedWords : Bytes := ofWords [0xFFFFFFFF, 0, 9, 0x55555555, 7, 8]

def farExchange : Bytes := ofWords [0x55555555, 0xFFFFFFFF, 9, 0, 7, 8]

def nearExchange : Bytes := ofWords [0, 0xFFFFFFFF, 9, 7, 0x55555555, 8]

theorem sampleWords_collide : compute sampleWords = compute turnedWords ∧
    compute sampleWords = compute farExchange ∧ compute sampleWords ≠ compute nearExchange := by
  have summable : Summable sampleWords := ⟨by decide +kernel, by decide +kernel⟩
  have far : Exchanged sampleWords farExchange 0 3 :=
    ⟨by decide +kernel, by decide +kernel, by decide +kernel⟩
  have near : Exchanged sampleWords nearExchange 3 4 :=
    ⟨by decide +kernel, by decide +kernel, by decide +kernel⟩
  obtain ⟨_, adjacent, _⟩ := missed_changes (e := turnedWords) summable (by decide +kernel)
  obtain ⟨_, _, exchanged_far⟩ := missed_changes (e := farExchange) summable (by decide +kernel)
  obtain ⟨_, _, exchanged_near⟩ := missed_changes (e := nearExchange) summable (by decide +kernel)
  refine ⟨?_, ?_, fun equal => ?_⟩
  · exact (adjacent 0 (by decide +kernel) (by decide +kernel)).mpr (by decide +kernel)
  · exact (exchanged_far 0 3 (by decide) (by decide +kernel) far).mpr (by decide +kernel)
  · have distance := (exchanged_near 3 4 (by decide) (by decide +kernel) near).mp equal
    exact absurd distance (by decide +kernel)

end NxContainer.Checksum
