import Mathlib.Algebra.Ring.Nat
import NxContainer.Proofs.Bytes.Window

/-! Fields at places where they may not fit. What is read is what was written to the field last;
writing beside the field changes neither the value nor the refusal. -/
namespace NxContainer.Bytes

def overlay (d : Bytes) (o : Nat) (p : Bytes) : Bytes := d.take o ++ p ++ d.drop (o + p.length)

def Apart (k m o n : Nat) : Prop := ∀ i, k ≤ i ∧ i < k + m → ¬ (o ≤ i ∧ i < o + n)

theorem Apart.of_order {k m o n : Nat} (order : k + m ≤ o ∨ o + n ≤ k) : Apart k m o n := by
  intro i
  omega

/-- A reader of `width` bytes, with the bytes that each of its results stands for. -/
structure Reader {α : Type} (read : Bytes → Nat → Except DecodeError α) (width : Nat)
    (bytesOf : α → Bytes) : Prop where
  succeeds : ∀ (d : Bytes) o, d.length < addressLimit →
    ((∃ v, read d o = .ok v) ↔ o + width ≤ d.length)
  value : ∀ (d : Bytes) o v, read d o = .ok v → bytesOf v = d.window o width
  fails : ∀ (d : Bytes) o e, read d o = .error e ↔
    (addressLimit ≤ o + width ∧ e = .invalidField "offset" "overflow") ∨
    (o + width < addressLimit ∧ d.length < o + width ∧
      e = .insufficientData width o (d.length - o))
  written : ∀ (d : Bytes) o v, d.length < addressLimit → (bytesOf v).length = width →
    o + width ≤ d.length → read (d.overlay o (bytesOf v)) o = .ok v
  beside : ∀ (d : Bytes) o (p : Bytes) k, o + p.length ≤ d.length →
    Apart k width o p.length → read (d.overlay o p) k = read d k

/-! Writing over a byte string. -/

section overlay

variable {d : Bytes} {o : Nat} {p : Bytes}

theorem length_overlay (inside : o + p.length ≤ d.length) : (d.overlay o p).length = d.length := by
  simp only [overlay, List.length_append, List.length_take, List.length_drop]
  omega

theorem getElem?_overlay_of_outside (inside : o + p.length ≤ d.length) {i : Nat}
    (outside : ¬ (o ≤ i ∧ i < o + p.length)) : (d.overlay o p)[i]? = d[i]? := by
  have front : (d.take o).length = o := by rw [List.length_take]; omega
  rw [overlay, List.append_assoc]
  by_cases before : i < o
  · rw [List.getElem?_append_left (by rw [front]; exact before), List.getElem?_take, if_pos before]
  · have place : o + p.length + (i - o - p.length) = i := by omega
    rw [List.getElem?_append_right (by omega), front, List.getElem?_append_right (by omega),
      List.getElem?_drop, place]

theorem window_overlay_of_apart (inside : o + p.length ≤ d.length) {k m : Nat}
    (apart : Apart k m o p.length) : (d.overlay o p).window k m = d.window k m := by
  apply List.ext_getElem?
  intro i
  rw [getElem?_window, getElem?_window]
  split
  · rename_i near
    exact getElem?_overlay_of_outside inside (apart (k + i) (by omega))
  · rfl

theorem window_overlay_self (inside : o ≤ d.length) : (d.overlay o p).window o p.length = p := by
  have front : (d.take o).length = o := by rw [List.length_take]; omega
  rw [overlay, window, List.append_assoc, List.drop_left' front, List.take_left]

theorem slice_overlay_of_apart (inside : o + p.length ≤ d.length) {k m : Nat}
    (apart : Apart k m o p.length) : (d.overlay o p).slice k m = d.slice k m := by
  unfold slice
  rw [length_overlay inside, window_overlay_of_apart inside apart]

theorem slice_overlay_self (sized : d.length < addressLimit) (inside : o + p.length ≤ d.length) :
    (d.overlay o p).slice o p.length = .ok p := by
  refine slice_eq_ok_iff.mpr ⟨Nat.lt_of_le_of_lt inside sized, ?_, ?_⟩
  · rw [length_overlay inside]
    exact inside
  · exact window_overlay_self (by omega)

end overlay

/-! Readers that make something of a slice. -/

theorem Reader.of_slice {α : Type} {read : Bytes → Nat → Except DecodeError α} {width : Nat}
    {ofBytes : Bytes → α} {bytesOf : α → Bytes}
    (read_eq : ∀ d o, read d o = d.slice o width >>= fun p => pure (ofBytes p))
    (bytesOf_ofBytes : ∀ p, p.length = width → bytesOf (ofBytes p) = p)
    (ofBytes_bytesOf : ∀ v, (bytesOf v).length = width → ofBytes (bytesOf v) = v) :
    Reader read width bytesOf where
  succeeds d o sized := by
    simp only [read_eq, bind_eq_ok_iff, pure_eq_ok_iff, slice_eq_ok_iff]
    constructor
    · rintro ⟨_, _, ⟨_, inside, _⟩, _⟩
      exact inside
    · intro inside
      exact ⟨_, _, ⟨Nat.lt_of_le_of_lt inside sized, inside, rfl⟩, rfl⟩
  value d o v made := by
    rw [read_eq, bind_eq_ok_iff] at made
    obtain ⟨p, sliced, whole⟩ := made
    obtain ⟨_, inside, rfl⟩ := slice_eq_ok_iff.mp sliced
    rw [← pure_eq_ok_iff.mp whole]
    exact bytesOf_ofBytes _ (by rw [length_window]; omega)
  fails d o e := by
    rw [read_eq, bind_eq_error_iff, slice_eq_error_iff]
    constructor
    · rintro (failed | ⟨_, _, impossible⟩)
      · exact failed
      · cases impossible
    · exact Or.inl
  written d o v sized whole inside := by
    rw [← whole] at inside
    have same := slice_overlay_self sized inside
    rw [whole] at same
    rw [read_eq, same, ok_bind, ofBytes_bytesOf v whole]
    rfl
  beside d o p k inside apart := by
    rw [read_eq, read_eq, slice_overlay_of_apart inside apart]

theorem reader_slice (width : Nat) : Reader (fun d o => d.slice o width) width id :=
  .of_slice (fun _ _ => (bind_pure _).symm) (fun _ _ => rfl) (fun _ _ => rfl)

theorem reader_readU32 : Reader readU32 4 fun w => toLE 4 w.toNat :=
  .of_slice (fun _ _ => rfl) (fun _ => toLE_word32) (fun w _ => word32_toLE w)

theorem reader_readU64 : Reader readU64 8 fun w => toLE 8 w.toNat :=
  .of_slice (fun _ _ => rfl) (fun _ => toLE_word64) (fun w _ => word64_toLE w)

/-! Words and their bytes. -/

theorem toLE_eq_map (width n : Nat) :
    toLE width n = (List.range width).map fun i => UInt8.ofNat (n / 256 ^ i) := by
  induction width generalizing n with
  | zero => rfl
  | succ width ih =>
    simp only [toLE, ih, List.range_succ_eq_map, List.map_cons, List.map_map, Nat.pow_zero,
      Nat.div_one, Function.comp_def, Nat.succ_eq_add_one, Nat.pow_succ', Nat.div_div_eq_div_mul]

theorem ofLE_append (a b : Bytes) : ofLE (a ++ b) = ofLE a + 256 ^ a.length * ofLE b := by
  induction a with
  | nil => simp [ofLE]
  | cons x rest ih =>
    rw [List.cons_append, ofLE, ih, ofLE, List.length_cons, Nat.pow_succ', Nat.mul_add,
      Nat.mul_assoc, Nat.add_assoc]

theorem toNat_u32At {d : Bytes} {o : Nat} (inside : o + 4 ≤ d.length) :
    (d.u32At o).toNat = ofLE (d.window o 4) := by
  rw [← toLE_u32At inside, ofLE_toLE]
  exact (Nat.mod_eq_of_lt (d.u32At o).toNat_lt).symm

theorem toNat_u64At {d : Bytes} {o : Nat} (inside : o + 8 ≤ d.length) :
    (d.u64At o).toNat = ofLE (d.window o 8) := by
  rw [← toLE_u64At inside, ofLE_toLE]
  exact (Nat.mod_eq_of_lt (d.u64At o).toNat_lt).symm

theorem toNat_u64At_halves {d : Bytes} {o : Nat} (inside : o + 8 ≤ d.length) :
    (d.u64At o).toNat = (d.u32At o).toNat + 2 ^ 32 * (d.u32At (o + 4)).toNat := by
  have four : (d.window o 4).length = 4 := by rw [length_window]; omega
  have halves : d.window o 8 = d.window o 4 ++ d.window (o + 4) 4 := window_add d o 4 4
  have weight : 256 ^ 4 = 2 ^ 32 := by decide
  rw [toNat_u64At inside, halves, ofLE_append, four, weight, toNat_u32At (by omega),
    toNat_u32At (by omega)]

theorem readU64_eq_ok_iff {d : Bytes} {o : Nat} {x : UInt64} :
    readU64 d o = .ok x ↔ o + 8 < addressLimit ∧ o + 8 ≤ d.length ∧ d.u64At o = x := by
  simp only [readU64, bind_eq_ok_iff, pure_eq_ok_iff, slice_eq_ok_iff]
  constructor
  · rintro ⟨_, ⟨near, inside, rfl⟩, made⟩
    exact ⟨near, inside, made⟩
  · rintro ⟨near, inside, made⟩
    exact ⟨_, ⟨near, inside, rfl⟩, made⟩

/-- Slices and words of either width are read exactly where they fit, as what was written there last,
the byte that counts least first. A long word is its low half and then its high half. -/
theorem readers_invert_writing :
    Reader readU32 4 (fun w => toLE 4 w.toNat) ∧
    Reader readU64 8 (fun w => toLE 8 w.toNat) ∧
    (∀ width, Reader (fun d o => d.slice o width) width id) ∧
    (∀ width n, toLE width n = (List.range width).map fun i => UInt8.ofNat (n / 256 ^ i)) ∧
    ∀ (d : Bytes) o x, readU64 d o = .ok x → ∃ low high, readU32 d o = .ok low ∧
      readU32 d (o + 4) = .ok high ∧ x.toNat = low.toNat + 2 ^ 32 * high.toNat := by
  refine ⟨reader_readU32, reader_readU64, reader_slice, toLE_eq_map, ?_⟩
  intro d o x made
  obtain ⟨near, inside, rfl⟩ := readU64_eq_ok_iff.mp made
  exact ⟨d.u32At o, d.u32At (o + 4), readU32_of_inside (by omega) (by omega),
    readU32_of_inside near inside, toNat_u64At_halves inside⟩

def sampleField : Bytes := [1, 2, 3, 4, 5, 6, 7, 8, 9, 10, 11, 12]

theorem sampleField_read_back : sampleField.length < addressLimit ∧
    readU64 (sampleField.overlay 3 (toLE 8 0x1122334455667788)) 3 = .ok 0x1122334455667788 ∧
    (∃ low high, readU32 (sampleField.overlay 3 (toLE 8 0x1122334455667788)) 3 = .ok low ∧
      readU32 (sampleField.overlay 3 (toLE 8 0x1122334455667788)) 7 = .ok high ∧
      (0x1122334455667788 : UInt64).toNat = low.toNat + 2 ^ 32 * high.toNat) ∧
    (sampleField.overlay 3 (toLE 8 0x1122334455667788)).slice 0 3 = sampleField.slice 0 3 ∧
    readU32 sampleField 9 = .error (.insufficientData 4 9 3) ∧
    readU32 sampleField 18446744073709551612 = .error (.invalidField "offset" "overflow") := by
  obtain ⟨word, long, part, _, halves⟩ := readers_invert_writing
  have sized : sampleField.length < addressLimit := by decide
  have written := long.written sampleField 3 0x1122334455667788 sized rfl (by decide)
  refine ⟨sized, written, halves _ _ _ written, ?_, ?_, ?_⟩
  · exact (part 3).beside sampleField 3 (toLE 8 0x1122334455667788) 0 (by decide)
      (.of_order (Or.inl (by decide)))
  · exact (word.fails sampleField 9 _).mpr (Or.inr ⟨by decide, by decide, rfl⟩)
  · exact (word.fails sampleField 18446744073709551612 _).mpr (Or.inl ⟨by decide, rfl⟩)

end NxContainer.Bytes
