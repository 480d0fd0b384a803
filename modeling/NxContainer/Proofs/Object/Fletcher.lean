import Mathlib.Data.Nat.ModEq
import NxContainer.Proofs.Bytes.Packed
import NxContainer.Proofs.Bytes.Window
import NxContainer.Object.Checksum

/-! The checksum in plain numbers. The first sum is the total of the words. In the second one a word
counts once for itself and once for each word behind it. Both are kept modulo 2^32 - 1. -/
namespace NxContainer.Checksum

def total : List UInt32 → Nat
  | [] => 0
  | w :: ws => w.toNat + total ws

def weightedTotal : List UInt32 → Nat
  | [] => 0
  | w :: ws => (ws.length + 1) * w.toNat + weightedTotal ws

/-! Running. -/

theorem toNat_modulus : modulus.toNat = 4294967295 := rfl

structure Reduced (s : Sums) : Prop where
  first : s.first.toNat < 4294967295
  second : s.second.toNat < 4294967295

theorem toNat_add_mod {a b : UInt64} (ha : a.toNat < 4294967296) (hb : b.toNat < 4294967296) :
    ((a + b) % modulus).toNat = (a.toNat + b.toNat) % 4294967295 := by
  have near : a.toNat + b.toNat < 2 ^ 64 := by omega
  rw [UInt64.toNat_mod, UInt64.toNat_add, Nat.mod_eq_of_lt near, toNat_modulus]

theorem first_add {s : Sums} (h : Reduced s) (w : UInt32) :
    (s.add w).first.toNat = (s.first.toNat + w.toNat) % 4294967295 := by
  have word : w.toUInt64.toNat = w.toNat := UInt32.toNat_toUInt64 w
  have bound := w.toNat_lt
  rw [← word]
  exact toNat_add_mod (Nat.lt_trans h.first (by decide)) (by omega)

theorem second_add {s : Sums} (h : Reduced s) (w : UInt32) :
    (s.add w).second.toNat = (s.second.toNat + (s.add w).first.toNat) % 4294967295 := by
  have low : (s.add w).first.toNat < 4294967295 := by
    rw [first_add h]
    exact Nat.mod_lt _ (by decide)
  exact toNat_add_mod (Nat.lt_trans h.second (by decide)) (Nat.lt_trans low (by decide))

theorem reduced_add {s : Sums} (h : Reduced s) (w : UInt32) : Reduced (s.add w) := by
  constructor
  · rw [first_add h]
    exact Nat.mod_lt _ (by decide)
  · rw [second_add h]
    exact Nat.mod_lt _ (by decide)

theorem reduced_run {s : Sums} (h : Reduced s) (ws : List UInt32) : Reduced (ws.foldl Sums.add s) := by
  induction ws generalizing s with
  | nil => exact h
  | cons w ws ih => exact ih (reduced_add h w)

theorem first_run {s : Sums} (h : Reduced s) (ws : List UInt32) :
    (ws.foldl Sums.add s).first.toNat ≡ s.first.toNat + total ws [MOD 4294967295] := by
  induction ws generalizing s with
  | nil => rfl
  | cons w ws ih =>
    have step : (s.add w).first.toNat ≡ s.first.toNat + w.toNat [MOD 4294967295] := by
      rw [first_add h]
      exact Nat.mod_modEq _ _
    have rest := (ih (reduced_add h w)).trans (step.add_right (total ws))
    rwa [Nat.add_assoc] at rest

theorem second_run {s : Sums} (h : Reduced s) (ws : List UInt32) :
    (ws.foldl Sums.add s).second.toNat ≡
      s.second.toNat + ws.length * s.first.toNat + weightedTotal ws [MOD 4294967295] := by
  induction ws generalizing s with
  | nil => simp [weightedTotal, Nat.ModEq]
  | cons w ws ih =>
    have first : (s.add w).first.toNat ≡ s.first.toNat + w.toNat [MOD 4294967295] := by
      rw [first_add h]
      exact Nat.mod_modEq _ _
    have second : (s.add w).second.toNat ≡
        s.second.toNat + (s.first.toNat + w.toNat) [MOD 4294967295] := by
      rw [second_add h]
      exact (Nat.mod_modEq _ _).trans (first.add_left _)
    have rest := (ih (reduced_add h w)).trans
      ((second.add (first.mul_left ws.length)).add_right (weightedTotal ws))
    have shape : s.second.toNat + (s.first.toNat + w.toNat) +
          ws.length * (s.first.toNat + w.toNat) + weightedTotal ws =
        s.second.toNat + (w :: ws).length * s.first.toNat + weightedTotal (w :: ws) := by
      rw [weightedTotal, List.length_cons, Nat.succ_mul, Nat.succ_mul, Nat.mul_add]
      omega
    rwa [shape] at rest

/-! Closing. -/

theorem toNat_sub_mod {a b : UInt64} (ha : a.toNat < 4294967296) (hb : b.toNat < 4294967296) :
    (modulus - (a + b) % modulus).toNat = 4294967295 - (a.toNat + b.toNat) % 4294967295 := by
  have below : (a + b) % modulus ≤ modulus := by
    rw [UInt64.le_iff_toNat_le, toNat_add_mod ha hb, toNat_modulus]
    exact Nat.le_of_lt (Nat.mod_lt _ (by decide))
  rw [UInt64.toNat_sub_of_le _ _ below, toNat_add_mod ha hb, toNat_modulus]

def closingLow (first second : Nat) : Nat := 4294967295 - (first + second) % 4294967295

def closingHigh (first second : Nat) : Nat :=
  4294967295 - (first + closingLow first second) % 4294967295

/-- The modulus is also the mask of the low half of a word. -/
theorem packed : Packed 32 modulus := ⟨by decide, rfl⟩

theorem toNat_close {s : Sums} (h : Reduced s) : s.close.toNat =
    4294967296 * closingHigh s.first.toNat s.second.toNat +
      closingLow s.first.toNat s.second.toNat := by
  have first := Nat.lt_trans h.first (by decide : 4294967295 < 4294967296)
  have second := Nat.lt_trans h.second (by decide : 4294967295 < 4294967296)
  have low := toNat_sub_mod first second
  have low_lt : (modulus - (s.first + s.second) % modulus).toNat < 4294967296 := by
    rw [low]
    omega
  have high := toNat_sub_mod first low_lt
  have high_lt : (modulus - (s.first + (modulus - (s.first + s.second) % modulus)) %
      modulus).toNat < 4294967296 := by
    rw [high]
    omega
  have joined := packed.toNat_join high_lt low_lt
  rw [high, low] at joined
  exact joined

theorem close_injective {s t : Sums} (hs : Reduced s) (ht : Reduced t)
    (same : s.close = t.close) : s = t := by
  have values := congrArg UInt64.toNat same
  rw [toNat_close hs, toNat_close ht] at values
  have low : closingLow s.first.toNat s.second.toNat = closingLow t.first.toNat t.second.toNat := by
    unfold closingLow at values ⊢
    omega
  have high : closingHigh s.first.toNat s.second.toNat =
      closingHigh t.first.toNat t.second.toNat := by omega
  have := hs.first
  have := hs.second
  have := ht.first
  have := ht.second
  have first : s.first.toNat = t.first.toNat := by
    rw [closingHigh, closingHigh, low] at high
    omega
  have second : s.second.toNat = t.second.toNat := by
    rw [closingLow, closingLow, first] at low
    omega
  obtain ⟨_, _⟩ := s
  obtain ⟨_, _⟩ := t
  exact congrArg₂ Sums.mk (UInt64.toNat_inj.mp first) (UInt64.toNat_inj.mp second)

/-! Objects. -/

def payload (object : Bytes) : List UInt32 := words (object.drop fieldSize)

theorem reduced_start : Reduced ⟨0, 0⟩ := ⟨by decide, by decide⟩

theorem toNat_first_sums (ws : List UInt32) : (sums ws).first.toNat = total ws % 4294967295 := by
  have run := first_run reduced_start ws
  rw [UInt64.toNat_zero, Nat.zero_add] at run
  exact (Nat.mod_eq_of_lt (reduced_run reduced_start ws).first).symm.trans run

theorem toNat_second_sums (ws : List UInt32) :
    (sums ws).second.toNat = weightedTotal ws % 4294967295 := by
  have run := second_run reduced_start ws
  rw [UInt64.toNat_zero, Nat.mul_zero, Nat.zero_add] at run
  exact (Nat.mod_eq_of_lt (reduced_run reduced_start ws).second).symm.trans run

/-- Two objects have the same checksum exactly if both of their totals agree. -/
theorem fletcher64_eq_iff {d e : Bytes} : fletcher64 d = fletcher64 e ↔
    total (payload d) ≡ total (payload e) [MOD 4294967295] ∧
      weightedTotal (payload d) ≡ weightedTotal (payload e) [MOD 4294967295] := by
  constructor
  · intro same
    have equal : sums (payload d) = sums (payload e) :=
      close_injective (reduced_run reduced_start _) (reduced_run reduced_start _) same
    constructor
    · rw [Nat.ModEq, ← toNat_first_sums, ← toNat_first_sums, equal]
    · rw [Nat.ModEq, ← toNat_second_sums, ← toNat_second_sums, equal]
  · rintro ⟨first, second⟩
    rw [Nat.ModEq, ← toNat_first_sums, ← toNat_first_sums] at first
    rw [Nat.ModEq, ← toNat_second_sums, ← toNat_second_sums] at second
    have equal : sums (payload d) = sums (payload e) := by
      cases left : sums (payload d)
      cases right : sums (payload e)
      rw [left, right] at first second
      exact congrArg₂ Sums.mk (UInt64.toNat_inj.mp first) (UInt64.toNat_inj.mp second)
    exact congrArg Sums.close equal

/-! One changed byte. -/

theorem total_words_cons (a b c d : UInt8) (rest : Bytes) :
    total (words (a :: b :: c :: d :: rest)) =
      a.toNat + 256 * b.toNat + 65536 * c.toNat + 16777216 * d.toNat + total (words rest) := by
  have ha := a.toNat_lt
  have hb := b.toNat_lt
  have hc := c.toNat_lt
  have hd := d.toNat_lt
  have word : (UInt32.ofNat (Bytes.ofLE [a, b, c, d])).toNat =
      a.toNat + 256 * b.toNat + 65536 * c.toNat + 16777216 * d.toNat := by
    simp only [Bytes.ofLE, UInt32.toNat_ofNat']
    omega
  rw [words, total, word]

theorem total_words_set {d : Bytes} (whole : d.length % 4 = 0) {k : Nat} (inside : k < d.length)
    (v : UInt8) : total (words (d.set k v)) + 256 ^ (k % 4) * d[k].toNat =
      total (words d) + 256 ^ (k % 4) * v.toNat := by
  induction d using words.induct generalizing k with
  | case1 a b c d rest ih =>
    simp only [List.length_cons] at whole inside
    match k with
    | 0 | 1 | 2 | 3 =>
      simp [total_words_cons]
      omega
    | k + 4 =>
      have next := ih (by omega) (k := k) (by omega)
      simp [total_words_cons] at next ⊢
      omega
  | case2 d short =>
    match d with
    | [] => cases inside
    | [_] | [_, _] | [_, _, _] => cases whole
    | a :: b :: c :: d :: rest => exact absurd rfl (short a b c d rest)

/-- The weights are below 2^32 - 1 even 255 times, so no change of one byte is lost to the
modulus. -/
theorem total_words_set_not_modEq {d : Bytes} (whole : d.length % 4 = 0) {k : Nat}
    (inside : k < d.length) {v : UInt8} (changed : v ≠ d[k]) :
    ¬ total (words (d.set k v)) ≡ total (words d) [MOD 4294967295] := by
  intro same
  have differ : v.toNat ≠ d[k].toNat := fun h => changed (UInt8.toNat_inj.mp h)
  have balance := total_words_set whole inside v
  have new := v.toNat_lt
  have old := d[k].toNat_lt
  rw [Nat.ModEq] at same
  have place : k % 4 = 0 ∨ k % 4 = 1 ∨ k % 4 = 2 ∨ k % 4 = 3 := by omega
  rcases place with place | place | place | place <;>
  · rw [place] at balance
    omega

theorem fletcher64_set_ne {object : Bytes} (h : Summable object) {k : Nat} (summed : 8 ≤ k)
    (inside : k < object.length) {v : UInt8} (changed : v ≠ object[k]) :
    fletcher64 (object.set k v) ≠ fletcher64 object := by
  intro same
  have totals := (fletcher64_eq_iff.mp same).1
  have place : (object.set k v).drop fieldSize = (object.drop fieldSize).set (k - 8) v := by
    rw [List.drop_set, fieldSize, if_neg (Nat.not_lt.mpr summed)]
  rw [payload, payload, place] at totals
  refine total_words_set_not_modEq ?_ ?_ ?_ totals
  · have whole := h.whole
    have long := h.long
    rw [List.length_drop, fieldSize]
    omega
  · rw [List.length_drop, fieldSize]
    omega
  · have position : fieldSize + (k - 8) = k := by
      rw [fieldSize]
      omega
    simpa only [List.getElem_drop, position] using changed

theorem fletcher64_set_field {object : Bytes} {k : Nat} (field : k < 8) (v : UInt8) :
    fletcher64 (object.set k v) = fletcher64 object := by
  rw [fletcher64, fletcher64, List.drop_set, fieldSize, if_pos field]

theorem u64At_set_ne {object : Bytes} {k : Nat} (field : k < 8) (long : 8 ≤ object.length)
    {v : UInt8} (changed : some v ≠ object[k]?) : Bytes.u64At (object.set k v) 0 ≠ object.u64At 0 := by
  intro same
  have size : 0 + 8 ≤ (object.set k v).length := by rwa [List.length_set]
  have bytes := congrArg (·[k]?) (Bytes.window_eq_of_u64At_eq same size long)
  simp only [Bytes.window, List.drop_zero, List.getElem?_take, field, if_true] at bytes
  rw [List.getElem?_set_self (by omega)] at bytes
  exact changed bytes

/-- An object whose stored checksum is right does not survive the change of a byte, wherever it
stands. -/
theorem mismatch_of_changed {object : Bytes} (h : Summable object)
    (matching : object.u64At 0 = fletcher64 object) {k : Nat} (inside : k < object.length)
    {v : UInt8} (changed : v ≠ object[k]) :
    Bytes.u64At (object.set k v) 0 ≠ fletcher64 (object.set k v) := by
  by_cases field : k < 8
  · have stored := u64At_set_ne field (Nat.le_trans (by decide) h.long) (v := v) (by simpa [inside])
    rwa [fletcher64_set_field field, ← matching]
  · have computed := fletcher64_set_ne h (Nat.not_lt.mp field) inside changed
    have stored : Bytes.u64At (object.set k v) 0 = object.u64At 0 := by
      apply Bytes.u64At_eq_of_window_eq
      rw [Bytes.window, Bytes.window, List.drop_zero, List.drop_zero,
        List.take_set_of_le (Nat.not_lt.mp field)]
    rw [stored, matching]
    exact computed.symm

end NxContainer.Checksum
