import Mathlib.Algebra.BigOperators.Intervals
import NxContainer.Proofs.Object.Fletcher

/-! The summed words by their places in the object. Both totals are sums over the places, in which
the word at place `i` of `n` counts `n - i` times in the second one. -/
namespace NxContainer.Checksum

open Finset (range)

def wordCount (object : Bytes) : Nat := (object.length - fieldSize) / 4

/-- The word at place `i`, counted from behind the checksum field. -/
def wordAt (object : Bytes) (i : Nat) : UInt32 := object.u32At (fieldSize + 4 * i)

def plainSum (object : Bytes) : Nat := ∑ i ∈ range (wordCount object), (wordAt object i).toNat

def weightedSum (object : Bytes) : Nat :=
  ∑ i ∈ range (wordCount object), (wordCount object - i) * (wordAt object i).toNat

theorem words_eq_map (d : Bytes) :
    words d = (List.range (d.length / 4)).map fun i => d.u32At (4 * i) := by
  induction d using words.induct with
  | case1 a b c d rest ih =>
    have length : (a :: b :: c :: d :: rest).length / 4 = rest.length / 4 + 1 := by
      simp only [List.length_cons]
      omega
    have behind (i : Nat) :
        Bytes.u32At (a :: b :: c :: d :: rest) (4 * (i + 1)) = Bytes.u32At rest (4 * i) := by
      simp [Bytes.u32At, Bytes.window, Nat.mul_add]
    rw [words, ih, length, List.range_succ_eq_map]
    simp only [List.map_cons, List.map_map, Function.comp_def, behind]
    rfl
  | case2 d short =>
    rcases d with _ | ⟨a, _ | ⟨b, _ | ⟨c, _ | ⟨d, rest⟩⟩⟩⟩
    · rfl
    · simp [words]
    · simp [words]
    · simp [words]
    · exact absurd rfl (short a b c d rest)

theorem payload_eq_map (object : Bytes) :
    payload object = (List.range (wordCount object)).map (wordAt object) := by
  have place (i : Nat) : Bytes.u32At (object.drop fieldSize) (4 * i) = wordAt object i := by
    simp [Bytes.u32At, Bytes.window, wordAt]
  simp [payload, words_eq_map, place, wordCount]

theorem total_map_range (f : Nat → UInt32) (n : Nat) :
    total ((List.range n).map f) = ∑ i ∈ range n, (f i).toNat := by
  induction n generalizing f with
  | zero => rfl
  | succ n ih =>
    have rest := ih fun i => f (i + 1)
    simp [List.range_succ_eq_map, total, Function.comp_def, rest, Finset.sum_range_succ',
      Nat.add_comm]

theorem weightedTotal_map_range (f : Nat → UInt32) (n : Nat) :
    weightedTotal ((List.range n).map f) = ∑ i ∈ range n, (n - i) * (f i).toNat := by
  induction n generalizing f with
  | zero => rfl
  | succ n ih =>
    have rest := ih fun i => f (i + 1)
    simp [List.range_succ_eq_map, weightedTotal, Function.comp_def, rest, Finset.sum_range_succ',
      Nat.add_comm]

theorem total_payload (object : Bytes) : total (payload object) = plainSum object := by
  rw [payload_eq_map, total_map_range, plainSum]

theorem weightedTotal_payload (object : Bytes) :
    weightedTotal (payload object) = weightedSum object := by
  rw [payload_eq_map, weightedTotal_map_range, weightedSum]

end NxContainer.Checksum
