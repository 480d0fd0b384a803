import NxContainer.Proofs.Bytes.Window

/-! Writing over an image. A window beside what is written is read as before, and what is written is
read back at its place, with the old bytes behind it. -/
namespace NxContainer.Image

theorem window_add (i : Image) (o n m : Nat) :
    i.window o (n + m) = i.window o n ++ i.window (o + n) m := by
  simp only [window, List.range_add, List.map_append, List.map_map, Function.comp_def, Nat.add_assoc]

theorem drop_window (i : Image) (o : Nat) {k n : Nat} (inside : k ≤ n) :
    (i.window o n).drop k = i.window (o + k) (n - k) := by
  have split := window_add i o k (n - k)
  rw [Nat.add_sub_cancel' inside] at split
  rw [split]
  exact List.drop_left' (length_window _ _ _)

theorem window_zeros (size o n : Nat) : (zeros size).window o n = List.replicate n 0 := by
  simp only [window, zeros, List.map_const', List.length_range]

theorem getElem?_toBytes (i : Image) (k : Nat) :
    i.toBytes[k]? = if k < i.size then some (i.byteAt k) else none := by
  by_cases inside : k < i.size
  · simp [toBytes, window, inside]
  · simp [toBytes, window, inside]

theorem blocks_apart (size : Nat) {a b : Nat} (other : a ≠ b) :
    a * size + size ≤ b * size ∨ b * size + size ≤ a * size := by
  rw [← Nat.succ_mul, ← Nat.succ_mul]
  rcases Nat.lt_or_gt_of_ne other with below | above
  · exact Or.inl (Nat.mul_le_mul_right size below)
  · exact Or.inr (Nat.mul_le_mul_right size above)

@[simp] theorem size_overlay (i : Image) (o : Nat) (d : Bytes) : (i.overlay o d).size = i.size := rfl

theorem byteAt_overlay_of_outside {i : Image} {o k : Nat} {d : Bytes}
    (outside : k < o ∨ o + d.length ≤ k) : (i.overlay o d).byteAt k = i.byteAt k := by
  simp only [overlay]
  split
  · rename_i behind
    have past : d.toArray.size ≤ k - o := by
      rw [List.size_toArray]
      omega
    rw [Array.getElem?_eq_none past]
  · rfl

theorem byteAt_overlay_self (i : Image) (k : Nat) (v : UInt8) :
    (i.overlay k [v]).byteAt k = v := by
  simp [overlay]

theorem byteAt_overlay_of_inside (i : Image) (o : Nat) {d : Bytes} {k : Nat} (inside : k < d.length) :
    (i.overlay o d).byteAt (o + k) = d[k] := by
  simp [overlay, inside]

theorem window_overlay_of_apart {i : Image} {k o n : Nat} {d : Bytes}
    (apart : o + n ≤ k ∨ k + d.length ≤ o) : (i.overlay k d).window o n = i.window o n := by
  apply List.map_congr_left
  intro j member
  have inside := List.mem_range.mp member
  exact byteAt_overlay_of_outside (by omega)

theorem window_overlay_self (i : Image) (o : Nat) (d : Bytes) :
    (i.overlay o d).window o d.length = d := by
  apply List.ext_getElem
  · exact length_window _ _ _
  · intro k _ inside
    simp only [window, List.getElem_map, List.getElem_range, byteAt_overlay_of_inside i o inside]

theorem window_overlay_front {i : Image} {o n : Nat} {d : Bytes} (fits : d.length ≤ n) :
    (i.overlay o d).window o n = d ++ i.window (o + d.length) (n - d.length) := by
  have behind : (i.overlay o d).window (o + d.length) (n - d.length) =
      i.window (o + d.length) (n - d.length) := window_overlay_of_apart (Or.inr (Nat.le_refl _))
  calc (i.overlay o d).window o n
      = (i.overlay o d).window o (d.length + (n - d.length)) := by rw [Nat.add_sub_cancel' fits]
    _ = d ++ i.window (o + d.length) (n - d.length) := by
      rw [window_add, window_overlay_self, behind]

theorem window_overlay_of_outside {i : Image} {k o n : Nat} (v : UInt8)
    (outside : k < o ∨ o + n ≤ k) : (i.overlay k [v]).window o n = i.window o n :=
  window_overlay_of_apart (by rw [List.length_singleton]; omega)

theorem window_overlay_of_covered {i : Image} {k o n : Nat} (v : UInt8) (start : o ≤ k) :
    (i.overlay k [v]).window o n = (i.window o n).set (k - o) v := by
  apply List.ext_getElem
  · rw [List.length_set, length_window, length_window]
  · intro j left right
    simp only [window, List.getElem_set, List.getElem_map, List.getElem_range]
    split
    · rename_i here
      have place : o + j = k := by omega
      rw [place, byteAt_overlay_self]
    · rename_i elsewhere
      exact byteAt_overlay_of_outside (by rw [List.length_singleton]; omega)

theorem window_resize {i : Image} {o n : Nat} (size : Nat) (inside : o + n ≤ i.size) :
    (i.resize size).window o n = i.window o n := by
  apply List.map_congr_left
  intro k member
  have near := List.mem_range.mp member
  exact if_pos (by omega)

end NxContainer.Image
