import NxContainer.Bytes.LittleEndian
import NxContainer.Image

/-! Windows of windows, of joined byte strings and of images, and the words that stand in them. A
word determines its bytes, so decoded fields can be compared in place of the bytes that hold them. -/
namespace NxContainer

namespace Bytes

theorem window_zero_length (d : Bytes) : d.window 0 d.length = d := by
  simp only [window, List.drop_zero, List.take_length]

theorem window_window {d : Bytes} {o n k m : Nat} (inside : k + m ≤ n) :
    (d.window o n).window k m = d.window (o + k) m := by
  have short : min m (n - k) = m := Nat.min_eq_left (by omega)
  simp only [window, List.drop_take, List.take_take, List.drop_drop, short]

theorem window_add (d : Bytes) (o n m : Nat) :
    d.window o (n + m) = d.window o n ++ d.window (o + n) m := by
  simp only [window, List.take_add, List.drop_drop]

theorem window_append_left {a b : Bytes} {o n : Nat} (inside : o + n ≤ a.length) :
    (a ++ b).window o n = a.window o n := by
  have room : n ≤ (a.drop o).length := by rw [List.length_drop]; omega
  rw [window, List.drop_append_of_le_length (by omega), List.take_append_of_le_length room]
  rfl

theorem window_append_right {a b : Bytes} {o n : Nat} (behind : a.length ≤ o) :
    (a ++ b).window o n = b.window (o - a.length) n := by
  have gone : a.drop o = [] := List.drop_eq_nil_of_le behind
  rw [window, List.drop_append, gone, List.nil_append]
  rfl

theorem window_append (a b : Bytes) (k n : Nat) : (a ++ b).window (a.length + k) n = b.window k n := by
  rw [window_append_right (Nat.le_add_right _ _), Nat.add_sub_cancel_left]

theorem window_eq_of_window_eq {d e : Bytes} {o n k m : Nat} (same : d.window o n = e.window o n)
    (above : o ≤ k) (inside : k + m ≤ o + n) : d.window k m = e.window k m := by
  have position : o + (k - o) = k := by omega
  have fits : k - o + m ≤ n := by omega
  calc d.window k m = (d.window o n).window (k - o) m := by rw [window_window fits, position]
    _ = (e.window o n).window (k - o) m := by rw [same]
    _ = e.window k m := by rw [window_window fits, position]

theorem window_zero_append (d : Bytes) (n m : Nat) :
    d.window 0 n ++ d.window n m = d.window 0 (n + m) := by
  rw [window_add, Nat.zero_add]

theorem window_append_drop (d : Bytes) (n : Nat) : d.window 0 n ++ d.drop n = d := by
  rw [window, List.drop_zero, List.take_append_drop]

theorem getElem?_window (d : Bytes) (o n i : Nat) :
    (d.window o n)[i]? = if i < n then d[o + i]? else none := by
  rw [window, List.getElem?_take, List.getElem?_drop]

theorem u32At_window {d : Bytes} {o n k : Nat} (inside : k + 4 ≤ n) :
    (d.window o n).u32At k = d.u32At (o + k) := by
  rw [u32At, window_window inside, u32At]

theorem u64At_window {d : Bytes} {o n k : Nat} (inside : k + 8 ≤ n) :
    (d.window o n).u64At k = d.u64At (o + k) := by
  rw [u64At, window_window inside, u64At]

theorem u32At_append_right {a b : Bytes} {o : Nat} (behind : a.length ≤ o) :
    (a ++ b).u32At o = b.u32At (o - a.length) := by
  rw [u32At, window_append_right behind, u32At]

theorem u64At_append_right {a b : Bytes} {o : Nat} (behind : a.length ≤ o) :
    (a ++ b).u64At o = b.u64At (o - a.length) := by
  rw [u64At, window_append_right behind, u64At]

theorem u32At_eq_of_window_eq {d e : Bytes} {o : Nat} (same : d.window o 4 = e.window o 4) :
    d.u32At o = e.u32At o := by
  rw [u32At, same, u32At]

theorem u64At_eq_of_window_eq {d e : Bytes} {o : Nat} (same : d.window o 8 = e.window o 8) :
    d.u64At o = e.u64At o := by
  rw [u64At, same, u64At]

theorem toLE_word32 {d : Bytes} (four : d.length = 4) : toLE 4 (UInt32.ofNat (ofLE d)).toNat = d := by
  have low := ofLE_lt d
  rw [four] at low
  have bound : ofLE d < 2 ^ 32 := low
  rw [UInt32.toNat_ofNat', Nat.mod_eq_of_lt bound, ← four, toLE_ofLE]

theorem toLE_word64 {d : Bytes} (eight : d.length = 8) :
    toLE 8 (UInt64.ofNat (ofLE d)).toNat = d := by
  have low := ofLE_lt d
  rw [eight] at low
  have bound : ofLE d < 2 ^ 64 := low
  rw [UInt64.toNat_ofNat', Nat.mod_eq_of_lt bound, ← eight, toLE_ofLE]

theorem toLE_u32At {d : Bytes} {o : Nat} (inside : o + 4 ≤ d.length) :
    toLE 4 (d.u32At o).toNat = d.window o 4 :=
  toLE_word32 (by rw [length_window]; omega)

theorem toLE_u64At {d : Bytes} {o : Nat} (inside : o + 8 ≤ d.length) :
    toLE 8 (d.u64At o).toNat = d.window o 8 :=
  toLE_word64 (by rw [length_window]; omega)

theorem window_eq_of_u32At_eq {d e : Bytes} {o : Nat} (same : d.u32At o = e.u32At o)
    (left : o + 4 ≤ d.length) (right : o + 4 ≤ e.length) : d.window o 4 = e.window o 4 := by
  rw [← toLE_u32At left, same, toLE_u32At right]

theorem window_eq_of_u64At_eq {d e : Bytes} {o : Nat} (same : d.u64At o = e.u64At o)
    (left : o + 8 ≤ d.length) (right : o + 8 ≤ e.length) : d.window o 8 = e.window o 8 := by
  rw [← toLE_u64At left, same, toLE_u64At right]

/-! A written field is read back at its place, and the fields behind it are found by the distance
from its end. -/

theorem window_toLE_append {width x o n : Nat} {rest : Bytes} (behind : width ≤ o) :
    (toLE width x ++ rest).window o n = rest.window (o - width) n := by
  have size : (toLE width x).length = width := length_toLE width x
  rw [window_append_right (by rw [size]; exact behind), size]

theorem window_toLE (width x : Nat) (rest : Bytes) :
    (toLE width x ++ rest).window 0 width = toLE width x := by
  have size : (toLE width x).length = width := length_toLE width x
  rw [window_append_left (by rw [size]; omega)]
  have whole := window_zero_length (toLE width x)
  rwa [size] at whole

theorem u32At_toLE (w : UInt32) (rest : Bytes) : (toLE 4 w.toNat ++ rest).u32At 0 = w := by
  rw [u32At, window_toLE, word32_toLE]

theorem u64At_toLE (w : UInt64) (rest : Bytes) : (toLE 8 w.toNat ++ rest).u64At 0 = w := by
  rw [u64At, window_toLE, word64_toLE]

end Bytes

namespace Image

theorem window_window {i : Image} {o n k m : Nat} (inside : k + m ≤ n) :
    (i.window o n).window k m = i.window (o + k) m := by
  apply List.ext_getElem
  · simp only [Bytes.length_window, length_window]
    omega
  · intro j hj _
    simp only [window, Bytes.window, List.getElem_take, List.getElem_drop, List.getElem_map,
      List.getElem_range, Nat.add_assoc]

end Image

end NxContainer
