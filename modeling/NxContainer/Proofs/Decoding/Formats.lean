import NxContainer.Proofs.CheckpointMap.Layout
import NxContainer.Proofs.Decoding.Growth
import NxContainer.Proofs.FileExtent.StoredForm
import NxContainer.Proofs.ObjectMap.Format
import NxContainer.Proofs.Superblock.Format

/-! What the decoders make of bytes that arrive in pieces. Each of them keeps to its verdict
whatever comes behind the bytes that it asks for, but for a record of fixed size, which is refused
then. -/
namespace NxContainer

/-- A verdict is kept when more bytes come, unless it is that bytes are missing. That is the verdict
on less than `least` bytes, and never on `most` bytes or more. -/
structure KeepsVerdict {α : Type} (decode : Bytes → Except DecodeError α) (least most : Nat) :
    Prop where
  accepted : ∀ (d t : Bytes) x, (d ++ t).length ≤ Bytes.maxLength →
    decode d = .ok x → decode (d ++ t) = .ok x
  refused : ∀ (d t : Bytes) e, (d ++ t).length ≤ Bytes.maxLength → ¬ e.IsShortage →
    decode d = .error e → decode (d ++ t) = .error e
  short : ∀ d : Bytes, d.length < least → decode d = .error (.insufficientData least 0 d.length)
  enough : ∀ (d : Bytes) e, d.length ≤ Bytes.maxLength → most ≤ d.length →
    decode d = .error e → ¬ e.IsShortage
  provisional : ∀ d : Bytes, d.length ≤ Bytes.maxLength →
    ((∃ t, (d ++ t).length ≤ Bytes.maxLength ∧ decode (d ++ t) ≠ decode d) ↔
      ∃ e, decode d = .error e ∧ e.IsShortage)

theorem KeepsVerdict.of_settles {α : Type} {decode : Bytes → Except DecodeError α} {least most : Nat}
    (settles : ∀ d t : Bytes, (d ++ t).length ≤ Bytes.maxLength →
      Settles (decode d) (decode (d ++ t)))
    (short : ∀ d : Bytes, d.length < least → decode d = .error (.insufficientData least 0 d.length))
    (enough : ∀ (d : Bytes) e, d.length ≤ Bytes.maxLength → most ≤ d.length →
      decode d = .error e → ¬ e.IsShortage)
    (near : most ≤ Bytes.maxLength) : KeepsVerdict decode least most where
  accepted d t x bounded := (settles d t bounded).ok
  refused d t e bounded final failed := (settles d t bounded).error failed final
  short := short
  enough := enough
  provisional d bounded := by
    constructor
    · rintro ⟨t, within, changed⟩
      exact (settles d t within).resolve_right changed
    · rintro ⟨e, failed, shortage⟩
      have missing : d.length < most := by
        by_contra whole
        exact enough d e bounded (Nat.not_lt.mp whole) failed shortage
      have length : (d ++ List.replicate (most - d.length) 0).length = most := by
        rw [List.length_append, List.length_replicate]
        omega
      refine ⟨List.replicate (most - d.length) 0, by rw [length]; exact near, ?_⟩
      intro same
      exact enough _ e (by rw [length]; exact near) (Nat.le_of_eq length.symm)
        (same.trans failed) shortage

/-! The decoders, one by one. -/

namespace ObjectHeader

variable {d t : Bytes}

theorem fields_append (long : 32 ≤ d.length) : fields (d ++ t) = fields d :=
  Bytes.eq_of_front (fun _ => fields_window (Nat.le_refl 32)) long

theorem settles (d t : Bytes) : Settles (decode d) (decode (d ++ t)) := by
  rw [decode_eq, decode_eq]
  refine .bind Bytes.settles_length fun _ checked => ?_
  have long : 32 ≤ d.length := require_eq_ok_iff.mp checked
  rw [fields_append long]
  exact .same

theorem keepsVerdict : KeepsVerdict decode 32 32 := by
  refine .of_settles (fun d t _ => settles d t) ?_ ?_ (by decide)
  · intro d short
    exact decode_eq_error_iff.mpr ⟨short, rfl⟩
  · intro d e _ long failed
    exact absurd (decode_eq_error_iff.mp failed).1 (Nat.not_lt.mpr long)

end ObjectHeader

namespace Superblock

variable {d t : Bytes}

theorem settles (bounded : (d ++ t).length ≤ Bytes.maxLength) :
    Settles (decode d) (decode (d ++ t)) := by
  rw [decode_eq, decode_eq]
  refine .bind (Bytes.settles_requireLength bounded) fun _ checked => ?_
  have long : 1408 ≤ d.length := (Bytes.requireLength_eq_ok_iff.mp checked).1
  have magic : (d ++ t).u32At 32 = d.u32At 32 := Bytes.u32At_append_left (by omega)
  have whole : fields (d ++ t) = fields d :=
    Bytes.eq_of_front (fun _ => fields_window (Nat.le_refl 1408)) long
  simp only [magic, whole]
  exact .bind (ObjectHeader.settles d t) fun _ _ => .same

theorem keepsVerdict : KeepsVerdict decode 1408 1408 := by
  refine .of_settles (fun d t => settles) ?_ ?_ (by decide)
  · intro d short
    exact decode_of_refused (Nat.le_trans (Nat.le_of_lt short) (by decide)) (.short short)
  · intro d e bounded long failed
    cases ((decode_decided bounded).2 e).mp failed with
    | short short => exact absurd short (Nat.not_lt.mpr long)
    | kind => nofun
    | magic => nofun

end Superblock

namespace ObjectMap

variable {d t : Bytes}

theorem settles (bounded : (d ++ t).length ≤ Bytes.maxLength) :
    Settles (decode d) (decode (d ++ t)) := by
  rw [decode_eq, decode_eq]
  refine .bind (Bytes.settles_requireLength bounded) fun _ checked => ?_
  have long : 88 ≤ d.length := (Bytes.requireLength_eq_ok_iff.mp checked).1
  have whole : fields (d ++ t) = fields d :=
    Bytes.eq_of_front (fun _ => fields_window (Nat.le_refl 88)) long
  simp only [whole]
  exact .bind (ObjectHeader.settles d t) fun _ _ => .same

theorem keepsVerdict : KeepsVerdict decode 88 88 := by
  refine .of_settles (fun d t => settles) ?_ ?_ (by decide)
  · intro d short
    exact decode_of_refused (Nat.le_trans (Nat.le_of_lt short) (by decide)) (.short short)
  · intro d e bounded long failed
    cases ((decode_decided bounded).2 e).mp failed with
    | short short => exact absurd short (Nat.not_lt.mpr long)
    | kind => nofun

end ObjectMap

namespace CheckpointMap

variable {d t : Bytes}

theorem decodeEntries_succ (d : Bytes) (o n : Nat) : decodeEntries ⟨d, o⟩ (n + 1) = (do
    let record ← d.slice o Entry.size
    let entry ← Entry.decode record
    let rest ← decodeEntries ⟨d, o + Entry.size⟩ n
    return entry :: rest) := by
  simp only [decodeEntries, Cursor.take, bind_assoc, pure_bind]

/-- The cursors on both strings walk in step, and the record that is missing in the shorter one is the
first difference that they can find. -/
theorem decodeEntries_settles (d t : Bytes) (o n : Nat) :
    Settles (decodeEntries ⟨d, o⟩ n) (decodeEntries ⟨d ++ t, o⟩ n) := by
  induction n generalizing o with
  | zero => exact .same
  | succ n ih =>
    rw [decodeEntries_succ, decodeEntries_succ]
    refine .bind (Bytes.settles_slice d t o Entry.size) fun record _ => ?_
    refine .bind .same fun entry _ => ?_
    exact .bind (ih (o + Entry.size)) fun rest _ => .same

theorem settles (bounded : (d ++ t).length ≤ Bytes.maxLength) :
    Settles (decode d) (decode (d ++ t)) := by
  rw [decode_eq, decode_eq]
  refine .bind (Bytes.settles_requireLength bounded) fun _ checked => ?_
  have long : 40 ≤ d.length := (Bytes.requireLength_eq_ok_iff.mp checked).1
  have flags : (d ++ t).u32At 32 = d.u32At 32 := Bytes.u32At_append_left (by omega)
  have count : (d ++ t).u32At 36 = d.u32At 36 := Bytes.u32At_append_left (by omega)
  simp only [flags, count, startAt_of_long long, startAt_of_long (Bytes.long_append long), ok_bind]
  refine .bind (ObjectHeader.settles d t) fun header _ => ?_
  refine .bind .same fun _ _ => .bind .same fun _ _ => ?_
  exact .bind (decodeEntries_settles d t 40 _) fun _ _ => .same

theorem keepsVerdict : KeepsVerdict decode 40 4080 := by
  refine .of_settles (fun d t => settles) ?_ ?_ (by decide)
  · intro d short
    exact decode_of_refused (Nat.le_trans (Nat.le_of_lt short) (by decide)) (.short short)
  · intro d e bounded long failed
    cases ((decode_decided bounded).2 e).mp failed with
    | short short => omega
    | kind => nofun
    | many => nofun
    | truncated _ _ few cut => omega

end CheckpointMap

namespace ExtentKey

variable {d t : Bytes}

theorem settles (bounded : (d ++ t).length ≤ Bytes.maxLength) :
    Settles (decode d) (decode (d ++ t)) := by
  rw [decode_eq, decode_eq]
  refine .bind (Bytes.settles_requireLength bounded) fun _ checked => ?_
  have long : 16 ≤ d.length := (Bytes.requireLength_eq_ok_iff.mp checked).1
  have word : (d ++ t).u64At 0 = d.u64At 0 := Bytes.u64At_append_left (by omega)
  have offset : (d ++ t).u64At 8 = d.u64At 8 := Bytes.u64At_append_left (by omega)
  simp only [word, offset]
  exact .same

theorem keepsVerdict : KeepsVerdict decode 16 16 := by
  refine .of_settles (fun d t => settles) ?_ ?_ (by decide)
  · intro d short
    have bounded : d.length ≤ Bytes.maxLength := Nat.le_trans (Nat.le_of_lt short) (by decide)
    exact (decode_eq_error_iff bounded).mpr (.short short)
  · intro d e bounded long failed
    cases (decode_eq_error_iff bounded).mp failed with
    | short short => exact absurd short (Nat.not_lt.mpr long)
    | kind => nofun

end ExtentKey

namespace ExtentValue

variable {d t : Bytes}

theorem settles (bounded : (d ++ t).length ≤ Bytes.maxLength) :
    Settles (decode d) (decode (d ++ t)) := by
  rw [decode_eq, decode_eq]
  refine .bind (Bytes.settles_requireLength bounded) fun _ checked => ?_
  have long : 24 ≤ d.length := (Bytes.requireLength_eq_ok_iff.mp checked).1
  have word : (d ++ t).u64At 0 = d.u64At 0 := Bytes.u64At_append_left (by omega)
  have block : (d ++ t).u64At 8 = d.u64At 8 := Bytes.u64At_append_left (by omega)
  have crypto : (d ++ t).u64At 16 = d.u64At 16 := Bytes.u64At_append_left (by omega)
  simp only [word, block, crypto]
  exact .same

theorem keepsVerdict : KeepsVerdict decode 24 24 := by
  refine .of_settles (fun d t => settles) ?_ ?_ (by decide)
  · intro d short
    have bounded : d.length ≤ Bytes.maxLength := Nat.le_trans (Nat.le_of_lt short) (by decide)
    exact (decode_eq_error_iff bounded).mpr (.short short)
  · intro d e bounded long failed
    cases (decode_eq_error_iff bounded).mp failed with
    | short short => exact absurd short (Nat.not_lt.mpr long)

end ExtentValue

namespace CheckpointMap

theorem Entry.decode_append {d t : Bytes} {e : Entry} (made : Entry.decode d = .ok e)
    (more : t ≠ []) : (∀ e', Entry.decode (d ++ t) ≠ .ok e') ∧
      ((d ++ t).length ≤ Bytes.maxLength → Entry.decode (d ++ t) =
        .error (.outOfBounds "record_size" (d ++ t).length 40)) := by
  have length (x : Bytes) (e : Entry) (whole : Entry.decode x = .ok e) : x.length = 40 := by
    rw [Entry.decode, check_bind_eq_ok_iff, Bytes.requireExactLength_eq_ok_iff] at whole
    exact whole.1.1
  have longer : 40 < (d ++ t).length := by
    have positive := List.length_pos_iff.mpr more
    rw [List.length_append, length d e made]
    omega
  constructor
  · intro e' whole
    exact absurd (length _ e' whole) (Nat.ne_of_gt longer)
  · intro bounded
    rw [Entry.decode, Entry.size, Bytes.requireExactLength_of_longer bounded longer, error_bind]

end CheckpointMap

namespace Decoding

/-- Every decoder of a form that may have bytes behind it keeps its verdict when more bytes come, up to
the shortages, which are exactly the verdicts that more bytes change. A record of fixed size that is
accepted is refused with any bytes behind it. -/
theorem more_bytes_keep_verdicts :
    KeepsVerdict ObjectHeader.decode 32 32 ∧ KeepsVerdict Superblock.decode 1408 1408 ∧
    KeepsVerdict ObjectMap.decode 88 88 ∧ KeepsVerdict CheckpointMap.decode 40 4080 ∧
    KeepsVerdict ExtentKey.decode 16 16 ∧ KeepsVerdict ExtentValue.decode 24 24 ∧
    ∀ (d t : Bytes) e, CheckpointMap.Entry.decode d = .ok e → t ≠ [] →
      (∀ e', CheckpointMap.Entry.decode (d ++ t) ≠ .ok e') ∧
      ((d ++ t).length ≤ Bytes.maxLength → CheckpointMap.Entry.decode (d ++ t) =
        .error (.outOfBounds "record_size" (d ++ t).length 40)) :=
  ⟨ObjectHeader.keepsVerdict, Superblock.keepsVerdict, ObjectMap.keepsVerdict,
    CheckpointMap.keepsVerdict, ExtentKey.keepsVerdict, ExtentValue.keepsVerdict,
    fun _ _ _ => CheckpointMap.Entry.decode_append⟩

theorem sample_verdicts_kept :
    CheckpointMap.decode (CheckpointMap.sampleBytes ++ [1, 2, 3]) =
      CheckpointMap.decode CheckpointMap.sampleBytes ∧
    (∃ t, (CheckpointMap.sampleBytes.take 100 ++ t).length ≤ Bytes.maxLength ∧
      CheckpointMap.decode (CheckpointMap.sampleBytes.take 100 ++ t) ≠
        CheckpointMap.decode (CheckpointMap.sampleBytes.take 100)) ∧
    Superblock.decode (List.replicate 1408 0 ++ [7]) = .error (.invalidObjectType 0x80000001 0) ∧
    CheckpointMap.Entry.decode (List.replicate 40 0 ++ [7]) =
      .error (.outOfBounds "record_size" 41 40) := by
  obtain ⟨_, superblock, _, map, _, _, record⟩ := more_bytes_keep_verdicts
  have made : CheckpointMap.decode CheckpointMap.sampleBytes =
      .ok (CheckpointMap.stored CheckpointMap.sampleBytes) := by decide +kernel
  have cut : CheckpointMap.decode (CheckpointMap.sampleBytes.take 100) =
      .error (.insufficientData 40 80 20) := by decide +kernel
  have other : Superblock.decode (List.replicate 1408 0) =
      .error (.invalidObjectType 0x80000001 0) := by decide +kernel
  have whole : CheckpointMap.Entry.decode (List.replicate 40 0) =
      .ok (CheckpointMap.Entry.fields (List.replicate 40 0)) := by decide +kernel
  refine ⟨?_, ?_, ?_, ?_⟩
  · rw [made]
    exact map.accepted _ [1, 2, 3] _ (by decide +kernel) made
  · exact (map.provisional _ (by decide +kernel)).mpr ⟨_, cut, trivial⟩
  · exact superblock.refused _ [7] _ (by decide +kernel) nofun other
  · exact (record _ [7] _ whole nofun).2 (by decide +kernel)

end Decoding

end NxContainer
