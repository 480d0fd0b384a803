import NxContainer.Bytes.Basic

/-! A position in a byte string that moves forward by whole takes. A take that does not fit is an
error and leaves the position where it was, so a run of takes yields consecutive windows. -/
namespace NxContainer

structure Cursor where
  data : Bytes
  position : Nat
deriving DecidableEq

namespace Cursor

/-- A start past the end of the data is refused; a start at the end is not. -/
def startAt (data : Bytes) (position : Nat) : Except DecodeError Cursor :=
  if data.length < position then .error (.insufficientData position 0 data.length)
  else .ok ⟨data, position⟩

def take (c : Cursor) (n : Nat) : Except DecodeError (Bytes × Cursor) := do
  let part ← c.data.slice c.position n
  return (part, ⟨c.data, c.position + n⟩)

def run (c : Cursor) : List Nat → List (Except DecodeError Bytes) × Cursor
  | [] => ([], c)
  | n :: rest =>
    match c.take n with
    | .ok (part, next) => let (outcomes, last) := next.run rest; (.ok part :: outcomes, last)
    | .error e => let (outcomes, last) := c.run rest; (.error e :: outcomes, last)

def answer (c : Cursor) (n : Nat) : Except DecodeError Bytes := (c.take n).map Prod.fst

def next (c : Cursor) (n : Nat) : Cursor :=
  match c.take n with
  | .ok (_, moved) => moved
  | .error _ => c

def answers (c : Cursor) (lengths : List Nat) : List (Except DecodeError Bytes) := (c.run lengths).1

def after (c : Cursor) (lengths : List Nat) : Cursor := (c.run lengths).2

theorem startAt_eq_ok_iff {d : Bytes} {p : Nat} {c : Cursor} :
    startAt d p = .ok c ↔ p ≤ d.length ∧ c = ⟨d, p⟩ := by
  unfold startAt
  split
  · rename_i past
    exact ⟨nofun, fun h => absurd h.1 (Nat.not_le.mpr past)⟩
  · rename_i inside
    exact ⟨fun h => ⟨Nat.not_lt.mp inside, (Except.ok.inj h).symm⟩,
      fun h => congrArg Except.ok h.2.symm⟩

theorem startAt_eq_error_iff {d : Bytes} {p : Nat} {e : DecodeError} :
    startAt d p = .error e ↔ d.length < p ∧ e = .insufficientData p 0 d.length := by
  unfold startAt
  split
  · rename_i past
    exact ⟨fun h => ⟨past, (Except.error.inj h).symm⟩, fun h => congrArg Except.error h.2.symm⟩
  · rename_i inside
    exact ⟨nofun, fun h => absurd h.1 inside⟩

theorem answer_eq (c : Cursor) (n : Nat) : c.answer n = c.data.slice c.position n := by
  unfold answer take
  cases c.data.slice c.position n <;> rfl

theorem next_eq (c : Cursor) (n : Nat) : c.next n =
    if (c.data.slice c.position n).isOk then ⟨c.data, c.position + n⟩ else c := by
  unfold next take
  cases c.data.slice c.position n <;> rfl

theorem run_cons (c : Cursor) (n : Nat) (rest : List Nat) : c.run (n :: rest) =
    (c.answer n :: (c.next n).answers rest, (c.next n).after rest) := by
  simp only [run, answer, next, answers, after]
  cases c.take n <;> rfl

theorem answers_cons (c : Cursor) (n : Nat) (rest : List Nat) :
    c.answers (n :: rest) = c.answer n :: (c.next n).answers rest := by
  rw [answers, run_cons]

theorem after_cons (c : Cursor) (n : Nat) (rest : List Nat) :
    c.after (n :: rest) = (c.next n).after rest := by
  rw [after, run_cons]

theorem after_append (c : Cursor) (before rest : List Nat) :
    c.after (before ++ rest) = (c.after before).after rest := by
  induction before generalizing c with
  | nil => rfl
  | cons n before ih => rw [List.cons_append, after_cons, ih, after_cons]

theorem getElem?_answers (c : Cursor) (before : List Nat) (n : Nat) (rest : List Nat) :
    (c.answers (before ++ n :: rest))[before.length]? = some ((c.after before).answer n) := by
  induction before generalizing c with
  | nil => simp [answers_cons, after, run]
  | cons m before ih => simp [answers_cons, after_cons, ih]

end Cursor

end NxContainer
