import Mathlib.Data.Int.ModEq
import Mathlib.Order.Interval.Set.Defs
import Mathlib.Tactic.Ring
import NxContainer.Proofs.Object.Words
import NxContainer.Proofs.Units

/-! The checksum closes its own sums: both end at zero when they run on over the two words of the
result. Nothing on the way leaves the 64-bit words, as a run shows that refuses every sum and
difference that would. -/
namespace NxContainer.Checksum

/-! Running on. -/

theorem total_append (ws vs : List UInt32) : total (ws ++ vs) = total ws + total vs := by
  induction ws with
  | nil => simp [total]
  | cons w ws ih => simp [total, ih, Nat.add_assoc]

theorem weightedTotal_append (ws vs : List UInt32) : weightedTotal (ws ++ vs) =
    weightedTotal ws + vs.length * total ws + weightedTotal vs := by
  induction ws with
  | nil => simp [total, weightedTotal]
  | cons w ws ih =>
    simp only [List.cons_append, weightedTotal, total, ih, List.length_append]
    ring

theorem sums_eq_zero_iff (ws : List UInt32) : sums ws = ⟨0, 0⟩ ↔
    total ws % 4294967295 = 0 ∧ weightedTotal ws % 4294967295 = 0 := by
  rw [← toNat_first_sums, ← toNat_second_sums]
  cases sums ws
  simp [← UInt64.toNat_inj]

theorem reduced_sums (ws : List UInt32) : Reduced (sums ws) := reduced_run reduced_start ws

/-! Checked arithmetic. -/

def plus? (a b : UInt64) : Option UInt64 := word64? (a.toNat + b.toNat)

def minus? (a b : UInt64) : Option UInt64 := if b ≤ a then some (a - b) else none

def Sums.add? (s : Sums) (word : UInt32) : Option Sums := do
  let first := (← plus? s.first word.toUInt64) % modulus
  return ⟨first, (← plus? s.second first) % modulus⟩

/-- Words of more than 32 bits would overlap. -/
def join? (high low : UInt64) : Option UInt64 :=
  if high.toNat < 4294967296 ∧ low.toNat < 4294967296 then some ((high <<< 32) ||| low) else none

def Sums.close? (s : Sums) : Option UInt64 := do
  let low ← minus? modulus ((← plus? s.first s.second) % modulus)
  let high ← minus? modulus ((← plus? s.first low) % modulus)
  join? high low

def checked? (ws : List UInt32) : Option UInt64 := do
  let s ← ws.foldlM Sums.add? ⟨0, 0⟩
  s.close?

theorem plus?_of_small {a b : UInt64} (ha : a.toNat < 4294967296) (hb : b.toNat < 4294967296) :
    plus? a b = some (a + b) := by
  have near : a.toNat + b.toNat < 2 ^ 64 := by omega
  rw [plus?, word64?_eq_some_iff, UInt64.toNat_add, Nat.mod_eq_of_lt near]

theorem minus?_modulus (a : UInt64) : minus? modulus (a % modulus) = some (modulus - a % modulus) := by
  have below : a % modulus ≤ modulus := by
    rw [UInt64.le_iff_toNat_le, UInt64.toNat_mod]
    exact Nat.le_of_lt (Nat.mod_lt _ (by decide))
  rw [minus?, if_pos below]

theorem small_of_reduced {n : Nat} (h : n < 4294967295) : n < 4294967296 := Nat.lt_succ_of_lt h

theorem add?_eq {s : Sums} (h : Reduced s) (w : UInt32) : s.add? w = some (s.add w) := by
  have word : w.toUInt64.toNat < 4294967296 := by simpa using w.toNat_lt
  have first := plus?_of_small (small_of_reduced h.first) word
  have second := plus?_of_small (small_of_reduced h.second)
    (small_of_reduced (reduced_add h w).first)
  simp only [Sums.add] at second
  simp [Sums.add?, Sums.add, first, second]

theorem foldlM_add?_eq {s : Sums} (h : Reduced s) (ws : List UInt32) :
    ws.foldlM Sums.add? s = some (ws.foldl Sums.add s) := by
  induction ws generalizing s with
  | nil => rfl
  | cons w ws ih => simp [add?_eq h w, ih (reduced_add h w)]

theorem sub_mod_lt {a b : UInt64} (ha : a.toNat < 4294967296) (hb : b.toNat < 4294967296) :
    (modulus - (a + b) % modulus).toNat < 4294967296 := by
  rw [toNat_sub_mod ha hb]
  exact Nat.lt_of_le_of_lt (Nat.sub_le _ _) (by decide)

theorem join?_of_small {high low : UInt64} (hh : high.toNat < 4294967296)
    (hl : low.toNat < 4294967296) : join? high low = some ((high <<< 32) ||| low) :=
  if_pos ⟨hh, hl⟩

theorem close?_eq {s : Sums} (h : Reduced s) : s.close? = some s.close := by
  have first := small_of_reduced h.first
  have second := small_of_reduced h.second
  have low := sub_mod_lt first second
  have high := sub_mod_lt first low
  -- One bind at a time: compared as a whole, the chains make the kernel run the tests in them.
  refine Option.bind_eq_some_iff.mpr ⟨_, plus?_of_small first second, ?_⟩
  refine Option.bind_eq_some_iff.mpr ⟨_, minus?_modulus _, ?_⟩
  refine Option.bind_eq_some_iff.mpr ⟨_, plus?_of_small first low, ?_⟩
  refine Option.bind_eq_some_iff.mpr ⟨_, minus?_modulus _, ?_⟩
  exact join?_of_small high low

theorem checked?_eq (ws : List UInt32) : checked? ws = some (sums ws).close := by
  have run := foldlM_add?_eq reduced_start ws
  exact Option.bind_eq_some_iff.mpr ⟨sums ws, run, close?_eq (reduced_sums ws)⟩

/-! Closing words. -/

/-- Two words of the range from 1 to 2^32 - 1 that are minus both sums and the second sum. -/
structure Closing (object : Bytes) (low high : Nat) : Prop where
  low_range : low ∈ Set.Icc 1 4294967295
  high_range : high ∈ Set.Icc 1 4294967295
  low_modEq : (low : ℤ) ≡ -(plainSum object + weightedSum object) [ZMOD 4294967295]
  high_modEq : (high : ℤ) ≡ weightedSum object [ZMOD 4294967295]

/-- Two words of that range over which the sums of the object run on to zero. -/
structure Closed (object : Bytes) (low high : Nat) : Prop where
  low_range : low ∈ Set.Icc 1 4294967295
  high_range : high ∈ Set.Icc 1 4294967295
  zero : sums (payload object ++ [UInt32.ofNat low, UInt32.ofNat high]) = ⟨0, 0⟩

def lowWord (object : Bytes) : Nat :=
  closingLow (plainSum object % 4294967295) (weightedSum object % 4294967295)

def highWord (object : Bytes) : Nat :=
  closingHigh (plainSum object % 4294967295) (weightedSum object % 4294967295)

theorem closing_iff {object : Bytes} {low high : Nat} :
    Closing object low high ↔ low = lowWord object ∧ high = highWord object := by
  simp only [lowWord, highWord, closingHigh, closingLow]
  constructor
  · rintro ⟨⟨low_pos, low_le⟩, ⟨high_pos, high_le⟩, low_modEq, high_modEq⟩
    rw [Int.ModEq] at low_modEq high_modEq
    have low_eq : low = 4294967295 - (plainSum object % 4294967295 +
        weightedSum object % 4294967295) % 4294967295 := by omega
    exact ⟨low_eq, by omega⟩
  · rintro ⟨rfl, rfl⟩
    refine ⟨⟨?_, ?_⟩, ⟨?_, ?_⟩, ?_, ?_⟩
    all_goals
      try rw [Int.ModEq]
      omega

/-- Behind the payload the first word counts once in the first sum and twice in the second one. -/
theorem sums_closed_iff {object : Bytes} {low high : Nat} (hl : low ≤ 4294967295)
    (hh : high ≤ 4294967295) :
    sums (payload object ++ [UInt32.ofNat low, UInt32.ofNat high]) = ⟨0, 0⟩ ↔
      (plainSum object + low + high) % 4294967295 = 0 ∧
        (weightedSum object + 2 * plainSum object + 2 * low + high) % 4294967295 = 0 := by
  have low_word : low % 4294967296 = low := Nat.mod_eq_of_lt (Nat.lt_succ_of_le hl)
  have high_word : high % 4294967296 = high := Nat.mod_eq_of_lt (Nat.lt_succ_of_le hh)
  rw [sums_eq_zero_iff, total_append, weightedTotal_append, total_payload, weightedTotal_payload]
  simp [total, weightedTotal, low_word, high_word, Nat.add_assoc]

theorem closed_iff_closing {object : Bytes} {low high : Nat} :
    Closed object low high ↔ Closing object low high := by
  constructor
  · rintro ⟨⟨low_pos, low_le⟩, ⟨high_pos, high_le⟩, zero⟩
    obtain ⟨first, second⟩ := (sums_closed_iff low_le high_le).mp zero
    refine ⟨⟨low_pos, low_le⟩, ⟨high_pos, high_le⟩, ?_, ?_⟩
    all_goals
      rw [Int.ModEq]
      omega
  · rintro ⟨⟨low_pos, low_le⟩, ⟨high_pos, high_le⟩, low_modEq, high_modEq⟩
    rw [Int.ModEq] at low_modEq high_modEq
    refine ⟨⟨low_pos, low_le⟩, ⟨high_pos, high_le⟩, (sums_closed_iff low_le high_le).mpr ?_⟩
    omega

theorem toNat_fletcher64 (object : Bytes) :
    (fletcher64 object).toNat = highWord object * 2 ^ 32 + lowWord object := by
  have close := toNat_close (reduced_sums (payload object))
  rw [toNat_first_sums, toNat_second_sums, total_payload, weightedTotal_payload] at close
  rw [Nat.mul_comm]
  exact close

/-! Objects. -/

def ragged : DecodeError :=
  .invalidField "object_length" "checksummed region is not a multiple of 4 bytes"

theorem compute_eq_error_iff {object : Bytes} {e : DecodeError} : compute object = .error e ↔
    object.length < 32 ∧ e = .insufficientData 32 0 object.length ∨
      32 ≤ object.length ∧ object.length % 4 ≠ 0 ∧ e = ragged := by
  simp only [compute, bind_eq_error_iff, require_eq_error_iff, require_eq_ok_iff]
  simp only [ObjectHeader.size, fieldSize, Nat.not_le]
  constructor
  · rintro (short | ⟨_, long, odd | ⟨_, _, impossible⟩⟩)
    · exact Or.inl short
    · exact Or.inr ⟨long, by omega, odd.2⟩
    · cases impossible
  · rintro (short | ⟨long, odd, he⟩)
    · exact Or.inl short
    · exact Or.inr ⟨(), long, Or.inl ⟨by omega, he⟩⟩

theorem compute_append {front other rest : Bytes} (hf : front.length = 8) (ho : other.length = 8) :
    compute (front ++ rest) = compute (other ++ rest) := by
  have gone (field : Bytes) (eight : field.length = 8) : (field ++ rest).drop fieldSize = rest :=
    List.drop_left' eight
  simp only [compute, List.length_append, hf, ho, gone front hf, gone other ho]

/-- Computing refuses by the length alone. Of an object of whole words it gives the only two words
that close its sums, by sums and differences that stay in the 64-bit words; the checksum field makes
no difference. -/
theorem compute_closes_sums :
    (∀ object e, compute object = .error e ↔
      object.length < 32 ∧ e = .insufficientData 32 0 object.length ∨
        32 ≤ object.length ∧ object.length % 4 ≠ 0 ∧ e = ragged) ∧
    (∀ object : Bytes, 32 ≤ object.length → object.length % 4 = 0 →
      ∃ (low high : Nat) (result : UInt64), compute object = .ok result ∧
        checked? (payload object) = some result ∧ result.toNat = high * 2 ^ 32 + low ∧
        (∀ l h, Closing object l h ↔ l = low ∧ h = high) ∧
        (∀ l h, Closed object l h ↔ l = low ∧ h = high)) ∧
    (∀ front other rest : Bytes, front.length = 8 → other.length = 8 →
      compute (front ++ rest) = compute (other ++ rest)) := by
  refine ⟨fun _ _ => compute_eq_error_iff, ?_, fun _ _ _ => compute_append⟩
  intro object long whole
  refine ⟨lowWord object, highWord object, fletcher64 object, compute_eq_fletcher64 ⟨long, whole⟩,
    checked?_eq (payload object), toNat_fletcher64 object, fun l h => closing_iff, fun l h => ?_⟩
  exact closed_iff_closing.trans closing_iff

def sampleObject : Bytes := List.replicate 8 7 ++ 1 :: List.replicate 23 0

theorem sampleObject_closes : sampleObject.length = 32 ∧
    compute sampleObject = .ok 0x6FFFFFFF8 ∧ Closed sampleObject 0xFFFFFFF8 6 ∧
    compute (List.replicate 8 0 ++ 1 :: List.replicate 23 0) = compute sampleObject ∧
    compute (sampleObject ++ [0, 0]) = .error ragged := by
  obtain ⟨refused, computed, front⟩ := compute_closes_sums
  have plain : plainSum sampleObject = 1 := by decide +kernel
  have weighted : weightedSum sampleObject = 6 := by decide +kernel
  obtain ⟨low, high, result, made, _, value, closing, closed⟩ :=
    computed sampleObject (by decide) (by decide)
  obtain ⟨rfl, rfl⟩ : 0xFFFFFFF8 = low ∧ 6 = high := by
    refine (closing _ _).mp ⟨by simp, by simp, ?_, ?_⟩
    · rw [plain, weighted]
      decide
    · rw [weighted]
  have result_eq : result = 0x6FFFFFFF8 := UInt64.toNat_inj.mp value
  refine ⟨rfl, result_eq ▸ made, (closed _ _).mpr ⟨rfl, rfl⟩, front _ _ _ rfl rfl, ?_⟩
  exact (refused _ _).mpr (Or.inr ⟨by decide, by decide, rfl⟩)

end NxContainer.Checksum
