import NxContainer.Proofs.CheckpointMap.Format
import NxContainer.Object.Checksum
import NxContainer.Proofs.ObjectMap.Format

/-! Another checksum written over the one that an object stores. The object has the same checksum as
before, and decoding sees the difference in the checksum of the header alone. -/
namespace NxContainer

namespace Checksum

def stamped (object : Bytes) (w : UInt64) : Bytes := Bytes.toLE 8 w.toNat ++ object.drop 8

/-- Decoding hands the stored checksum on and looks at it no further. -/
def CarriedBy {α : Type} (decode : Bytes → Except DecodeError α) (stamp : UInt64 → α → α) : Prop :=
  ∀ object w, 8 ≤ object.length → object.length ≤ Bytes.maxLength →
    decode (stamped object w) = stamp w <$> decode object

variable {object : Bytes} {o n : Nat}

@[simp] theorem u64At_stamped_zero (object : Bytes) (w : UInt64) : (stamped object w).u64At 0 = w :=
  Bytes.u64At_toLE w _

theorem length_stamped (w : UInt64) (long : 8 ≤ object.length) :
    (stamped object w).length = object.length := by
  simp [stamped, Bytes.length_toLE, Nat.add_sub_cancel' long]

theorem window_stamped (w : UInt64) (behind : 8 ≤ o) :
    (stamped object w).window o n = object.window o n := by
  rw [stamped, Bytes.window_toLE_append behind]
  simp only [Bytes.window, List.drop_drop, Nat.add_sub_cancel' behind]

theorem u32At_stamped (w : UInt64) (behind : 8 ≤ o) : (stamped object w).u32At o = object.u32At o :=
  Bytes.u32At_eq_of_window_eq (window_stamped w behind)

theorem u64At_stamped (w : UInt64) (behind : 8 ≤ o) : (stamped object w).u64At o = object.u64At o :=
  Bytes.u64At_eq_of_window_eq (window_stamped w behind)

theorem fletcher64_stamped (object : Bytes) (w : UInt64) :
    fletcher64 (stamped object w) = fletcher64 object := by
  -- The sums begin behind the field.
  have rest : (stamped object w).drop fieldSize = object.drop fieldSize :=
    List.drop_left' (Bytes.length_toLE 8 _)
  unfold fletcher64
  rw [rest]

theorem stamped_stored (long : 8 ≤ object.length) : stamped object (object.u64At 0) = object := by
  have field : Bytes.toLE 8 (object.u64At 0).toNat = object.window 0 8 :=
    Bytes.toLE_u64At (Nat.le_trans (by decide) long)
  rw [stamped, field, Bytes.window_append_drop]

theorem CarriedBy.stamp_stored {α : Type} {decode : Bytes → Except DecodeError α}
    {stamp : UInt64 → α → α} (carried : CarriedBy decode stamp) (long : 8 ≤ object.length)
    (bounded : object.length ≤ Bytes.maxLength) {x : α} (made : decode object = .ok x) :
    stamp (object.u64At 0) x = x := by
  -- Writing the word that is there changes nothing.
  have again := carried object (object.u64At 0) long bounded
  rw [stamped_stored long, made] at again
  exact (Except.ok.inj again).symm

theorem CarriedBy.of_decided {α : Type} {decode : Bytes → Except DecodeError α}
    {stamp : UInt64 → α → α} {Made : Bytes → α → Prop} {Refused : Bytes → DecodeError → Prop}
    (decided : ∀ d : Bytes, d.length ≤ Bytes.maxLength →
      (∀ x, decode d = .ok x ↔ Made d x) ∧ (∀ e, decode d = .error e ↔ Refused d e))
    (made : ∀ d w x, 8 ≤ d.length → Made d x → Made (stamped d w) (stamp w x))
    (refused : ∀ d w e, 8 ≤ d.length → Refused d e → Refused (stamped d w) e) :
    CarriedBy decode stamp := by
  intro d w long bounded
  have same : (stamped d w).length ≤ Bytes.maxLength := by rwa [length_stamped w long]
  obtain ⟨success, failure⟩ := decided d bounded
  obtain ⟨success', failure'⟩ := decided (stamped d w) same
  cases outcome : decode d with
  | ok x => exact (success' _).mpr (made d w x long ((success x).mp outcome))
  | error e => exact (failure' _).mpr (refused d w e long ((failure e).mp outcome))

end Checksum

open Checksum

def ObjectHeader.stamp (w : UInt64) (h : ObjectHeader) : ObjectHeader := { h with checksum := w }

theorem ObjectHeader.fields_stamped (d : Bytes) (w : UInt64) :
    fields (stamped d w) = (fields d).stamp w := by
  simp (disch := omega) only [fields, stamp, u64At_stamped_zero, u64At_stamped, u32At_stamped]

namespace CheckpointMap

def stamp (w : UInt64) (m : CheckpointMap) : CheckpointMap := { m with header := m.header.stamp w }

variable {d : Bytes} (w : UInt64)

theorem declaredCount_stamped (d : Bytes) : declaredCount (stamped d w) = declaredCount d := by
  simp [declaredCount, u32At_stamped]

theorem storedEntry_stamped {o : Nat} (behind : 8 ≤ o) :
    storedEntry (stamped d w) o = storedEntry d o := by
  simp (disch := omega) only [storedEntry, u64At_stamped, u32At_stamped]

theorem storedEntries_stamped (d : Bytes) (n : Nat) :
    storedEntries (stamped d w) 40 n = storedEntries d 40 n := by
  apply List.map_congr_left
  intro i _
  exact storedEntry_stamped w (by omega)

theorem stored_stamped (d : Bytes) : stored (stamped d w) = (stored d).stamp w := by
  have flags : (stamped d w).u32At 32 = d.u32At 32 := u32At_stamped w (by decide)
  simp only [stored, stamp, ObjectHeader.fields_stamped, flags, declaredCount_stamped,
    storedEntries_stamped]

theorem accepted_stamped (long : 8 ≤ d.length) (h : Accepted d) : Accepted (stamped d w) where
  long := by simpa [length_stamped w long] using h.long
  kind := by simpa [u32At_stamped] using h.kind
  few := by simpa [declaredCount_stamped] using h.few
  room := by simpa [length_stamped w long, declaredCount_stamped] using h.room

theorem refused_stamped {e : DecodeError} (long : 8 ≤ d.length) (h : Refused d e) :
    Refused (stamped d w) e := by
  have length := length_stamped w long
  have word : (stamped d w).u32At 24 = d.u32At 24 := u32At_stamped w (by decide)
  have count := declaredCount_stamped w d
  have records : wholeRecords (stamped d w) = wholeRecords d := by simp [wholeRecords, length]
  cases h with
  | short short =>
    rw [← length] at short ⊢
    exact .short short
  | kind whole other =>
    rw [← length] at whole
    rw [← word] at other ⊢
    exact .kind whole other
  | many whole kind many =>
    rw [← length] at whole
    rw [← word] at kind
    rw [← count] at many ⊢
    exact .many whole kind many
  | truncated whole kind few cut =>
    rw [← length] at whole
    rw [← word] at kind
    rw [← count] at few
    rw [← length, ← count] at cut
    rw [← length, ← records]
    exact .truncated whole kind few cut

theorem carried : CarriedBy decode stamp := by
  refine .of_decided (fun _ => decode_decided) ?_ fun _ w _ => refused_stamped w
  rintro d w m long ⟨accepted, rfl⟩
  exact ⟨accepted_stamped w long accepted, stored_stamped w d⟩

end CheckpointMap

namespace ObjectMap

def stamp (w : UInt64) (m : ObjectMap) : ObjectMap := { m with header := m.header.stamp w }

variable {d : Bytes} (w : UInt64)

theorem fields_stamped (d : Bytes) : fields (stamped d w) = (fields d).stamp w := by
  simp (disch := omega) only [fields, stamp, ObjectHeader.fields_stamped, u64At_stamped,
    u32At_stamped]

theorem accepted_stamped (long : 8 ≤ d.length) (h : Accepted d) : Accepted (stamped d w) where
  long := by simpa [length_stamped w long] using h.long
  kind := by simpa [u32At_stamped] using h.kind

theorem refused_stamped {e : DecodeError} (long : 8 ≤ d.length) (h : Refused d e) :
    Refused (stamped d w) e := by
  have length := length_stamped w long
  have word : (stamped d w).u32At 24 = d.u32At 24 := u32At_stamped w (by decide)
  cases h with
  | short short =>
    rw [← length] at short ⊢
    exact .short short
  | kind whole other =>
    rw [← length] at whole
    rw [← word] at other ⊢
    exact .kind whole other

theorem carried : CarriedBy decode stamp := by
  refine .of_decided (fun _ => decode_decided) ?_ fun _ w _ => refused_stamped w
  rintro d w m long ⟨accepted, rfl⟩
  exact ⟨accepted_stamped w long accepted, fields_stamped w d⟩

end ObjectMap

end NxContainer
