import Mathlib.Algebra.Ring.Nat
import NxContainer.Bytes.Cursor
import NxContainer.Proofs.Bytes.Window

/-! Runs of takes. The slices that a run hands out stand one behind the other in the data, from the
start to where the cursor is at the end; a take that fails leaves no trace in this. -/
namespace NxContainer.Cursor

def parts (c : Cursor) (lengths : List Nat) : List Bytes :=
  (c.answers lengths).filterMap Except.toOption

def granted (c : Cursor) (lengths : List Nat) : List Nat :=
  ((lengths.zip (c.answers lengths)).filter (·.2.isOk)).map Prod.fst

/-- What a take does at the position of its cursor. -/
structure TakeLaw (c : Cursor) (n : Nat) : Prop where
  succeeds : ∀ part, c.answer n = .ok part ↔
    c.position + n ≤ c.data.length ∧ part = c.data.window c.position n
  fails : ∀ e, c.answer n = .error e ↔
    (addressLimit ≤ c.position + n ∧ e = .invalidField "offset" "overflow") ∨
    (c.position + n < addressLimit ∧ c.data.length < c.position + n ∧
      e = .insufficientData n c.position (c.data.length - c.position))
  moves : ∀ part, c.answer n = .ok part → c.next n = ⟨c.data, c.position + n⟩
  stays : ∀ e, c.answer n = .error e → c.next n = c

/-- What a run hands out is what lies between its start and its end. -/
structure Tiles (c : Cursor) (lengths : List Nat) : Prop where
  data : (c.after lengths).data = c.data
  above : c.position ≤ (c.after lengths).position
  within : (c.after lengths).position ≤ c.data.length
  sum : (c.after lengths).position = c.position + (c.granted lengths).sum
  joined : (c.parts lengths).flatten =
    c.data.window c.position ((c.after lengths).position - c.position)

theorem takeLaw {c : Cursor} {n : Nat} (sized : c.data.length < addressLimit) : TakeLaw c n where
  succeeds part := by
    rw [answer_eq, Bytes.slice_eq_ok_iff]
    constructor
    · rintro ⟨_, fits, rfl⟩
      exact ⟨fits, rfl⟩
    · rintro ⟨fits, rfl⟩
      exact ⟨Nat.lt_of_le_of_lt fits sized, fits, rfl⟩
  fails e := by rw [answer_eq, Bytes.slice_eq_error_iff]
  moves part given := by
    rw [answer_eq] at given
    rw [next_eq, given]
    rfl
  stays e refused := by
    rw [answer_eq] at refused
    rw [next_eq, refused]
    rfl

section outcome

variable {c : Cursor} {n : Nat} {rest : List Nat}

theorem parts_of_ok {part : Bytes} (given : c.answer n = .ok part) :
    c.parts (n :: rest) = part :: (c.next n).parts rest := by
  simp [parts, answers_cons, given, Except.toOption]

theorem parts_of_error {e : DecodeError} (refused : c.answer n = .error e) :
    c.parts (n :: rest) = (c.next n).parts rest := by
  rw [parts, answers_cons, refused]
  rfl

theorem granted_of_ok {part : Bytes} (given : c.answer n = .ok part) :
    c.granted (n :: rest) = n :: (c.next n).granted rest := by
  simp [granted, answers_cons, given, Except.isOk, Except.toBool]

theorem granted_of_error {e : DecodeError} (refused : c.answer n = .error e) :
    c.granted (n :: rest) = (c.next n).granted rest := by
  simp [granted, answers_cons, refused, Except.isOk, Except.toBool]

theorem Tiles.nil (inside : c.position ≤ c.data.length) : Tiles c [] where
  data := rfl
  above := Nat.le_refl _
  within := inside
  sum := rfl
  joined := by simp [parts, answers, after, run, Bytes.window]

theorem Tiles.of_ok (given : c.answer n = .ok (c.data.window c.position n))
    (moved : c.next n = ⟨c.data, c.position + n⟩) (tiles : Tiles ⟨c.data, c.position + n⟩ rest) :
    Tiles c (n :: rest) where
  data := by rw [after_cons, moved, tiles.data]
  above := by
    rw [after_cons, moved]
    exact Nat.le_trans (Nat.le_add_right _ _) tiles.above
  within := by
    rw [after_cons, moved]
    exact tiles.within
  sum := by
    rw [after_cons, granted_of_ok given, moved, tiles.sum, List.sum_cons, Nat.add_assoc]
  joined := by
    have above : c.position + n ≤ (after ⟨c.data, c.position + n⟩ rest).position := tiles.above
    have length : (after ⟨c.data, c.position + n⟩ rest).position - c.position =
        n + ((after ⟨c.data, c.position + n⟩ rest).position - (c.position + n)) := by omega
    rw [after_cons, parts_of_ok given, moved, List.flatten_cons, tiles.joined, length,
      Bytes.window_add]

theorem Tiles.of_error {e : DecodeError} (refused : c.answer n = .error e) (stays : c.next n = c)
    (tiles : Tiles c rest) : Tiles c (n :: rest) where
  data := by rw [after_cons, stays, tiles.data]
  above := by
    rw [after_cons, stays]
    exact tiles.above
  within := by
    rw [after_cons, stays]
    exact tiles.within
  sum := by rw [after_cons, granted_of_error refused, stays, tiles.sum]
  joined := by rw [after_cons, parts_of_error refused, stays, tiles.joined]

end outcome

theorem tiles {c : Cursor} (sized : c.data.length < addressLimit)
    (inside : c.position ≤ c.data.length) (lengths : List Nat) : Tiles c lengths := by
  induction lengths generalizing c with
  | nil => exact .nil inside
  | cons n rest ih =>
    have law : TakeLaw c n := takeLaw sized
    cases outcome : c.answer n with
    | ok part =>
      obtain ⟨fits, rfl⟩ := (law.succeeds part).mp outcome
      exact .of_ok outcome (law.moves _ outcome) (ih sized fits)
    | error e => exact .of_error outcome (law.stays e outcome) (ih sized inside)

/-- From any start inside the data, a run of takes of any lengths hands out the bytes that its cursor
passes, each once and in order. A take succeeds exactly if it fits behind the takes before it, and a
take that fails leaves the cursor where it is. -/
theorem run_tiles {d : Bytes} (sized : d.length < addressLimit) :
    (∀ p e, startAt d p = .error e ↔ d.length < p ∧ e = .insufficientData p 0 d.length) ∧
    (∀ p c, startAt d p = .ok c ↔ p ≤ d.length ∧ c = ⟨d, p⟩) ∧
    ∀ p c, startAt d p = .ok c → (∀ lengths, Tiles c lengths) ∧ ∀ before n rest,
      (c.answers (before ++ n :: rest))[before.length]? = some ((c.after before).answer n) ∧
      c.after (before ++ [n]) = (c.after before).next n ∧ TakeLaw (c.after before) n := by
  refine ⟨fun _ _ => startAt_eq_error_iff, fun _ _ => startAt_eq_ok_iff, ?_⟩
  intro p c started
  obtain ⟨inside, rfl⟩ := startAt_eq_ok_iff.mp started
  have whole (lengths : List Nat) : Tiles ⟨d, p⟩ lengths := tiles sized inside lengths
  refine ⟨whole, ?_⟩
  intro before n rest
  refine ⟨getElem?_answers _ before n rest, ?_, ?_⟩
  · rw [after_append, after_cons]
    rfl
  · apply takeLaw
    rw [(whole before).data]
    exact sized

def sampleTakes : List Nat := [2, 4, 18446744073709551615, 0, 3]

theorem sampleTakes_tile : startAt [1, 2, 3, 4, 5, 6] 1 = .ok ⟨[1, 2, 3, 4, 5, 6], 1⟩ ∧
    (parts ⟨[1, 2, 3, 4, 5, 6], 1⟩ sampleTakes).flatten = [2, 3, 4, 5, 6] ∧
    (after ⟨[1, 2, 3, 4, 5, 6], 1⟩ sampleTakes).position = 1 + (2 + 0 + 3) ∧
    (answers ⟨[1, 2, 3, 4, 5, 6], 1⟩ sampleTakes)[1]? = some (.error (.insufficientData 4 3 3)) ∧
    (answers ⟨[1, 2, 3, 4, 5, 6], 1⟩ sampleTakes)[2]? =
      some (.error (.invalidField "offset" "overflow")) := by
  obtain ⟨_, starts, laws⟩ := run_tiles (d := [1, 2, 3, 4, 5, 6]) (by decide)
  have started := (starts 1 ⟨[1, 2, 3, 4, 5, 6], 1⟩).mpr ⟨by decide, rfl⟩
  obtain ⟨tiles, call⟩ := laws 1 _ started
  have whole := tiles sampleTakes
  have short := call [2] 4 [18446744073709551615, 0, 3]
  have far := call [2, 4] 18446744073709551615 [0, 3]
  refine ⟨started, whole.joined, whole.sum, short.1.trans (congrArg some ?_),
    far.1.trans (congrArg some ?_)⟩
  · exact (short.2.2.fails _).mpr (Or.inr ⟨by decide, by decide, rfl⟩)
  · exact (far.2.2.fails _).mpr (Or.inl ⟨by decide, rfl⟩)

end NxContainer.Cursor
