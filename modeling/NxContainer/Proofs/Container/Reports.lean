import NxContainer.Proofs.Container.Traced

/-! Mismatches in the reports of computations. A computation that verifies checksums is related to
the same one without verifying, and the relation goes through steps that have nothing to do with
mismatches. -/
namespace NxContainer

def ReadError.Unrelated (e : ReadError) : Prop :=
  ∀ b stored computed, e ≠ .checksumMismatch b stored computed

namespace Traced

variable {α β : Type}

def ignored (x : Traced α) : List Event :=
  x.log.filter fun e => e.message = "object_checksum_mismatch_ignored"

theorem mem_ignored_iff {x : Traced α} {b : BlockNumber} {stored computed : UInt64} :
    .checksumMismatchIgnored b stored computed ∈ x.ignored ↔
      .checksumMismatchIgnored b stored computed ∈ x.log := by
  simp [ignored, Event.message]

def Quiet (x : Traced α) : Prop := x.ignored = []

/-- The computation has nothing to do with mismatches, neither in its report nor in its error. -/
structure Plain (x : Traced α) : Prop where
  quiet : Quiet x
  unrelated : FailsWith ReadError.Unrelated x.result

theorem plain_pure (a : α) : Plain (Pure.pure a : Traced α) := ⟨rfl, .ok a⟩

theorem plain_lift {x : Except ReadError α} (h : FailsWith ReadError.Unrelated x) :
    Plain (liftM x : Traced α) := ⟨rfl, h⟩

theorem unrelated_decoded (b : BlockNumber) (x : Except DecodeError α) :
    FailsWith ReadError.Unrelated (x.mapError (ReadError.ofDecode b)) := by
  refine .of_mapError x ?_
  intro fault
  cases fault <;> nofun

theorem plain_decoded (b : BlockNumber) (x : Except DecodeError α) : Plain (decoded b x) :=
  ⟨rfl, unrelated_decoded b x⟩

theorem plain_emit {e : Event} (other : e.message ≠ "object_checksum_mismatch_ignored") :
    Plain (emit e) := by
  refine ⟨?_, .ok ()⟩
  simp [Quiet, ignored, emit, other]

theorem ignored_bind_of_ok {x : Traced α} {a : α} (f : α → Traced β) (ok : x.result = .ok a) :
    (x >>= f).ignored = x.ignored ++ (f a).ignored := by
  rw [bind_of_ok f ok]
  exact List.filter_append _ _

theorem ignored_bind_of_error {x : Traced α} {e : ReadError} (f : α → Traced β)
    (failed : x.result = .error e) : (x >>= f).ignored = x.ignored := by
  rw [bind_of_error f failed]
  rfl

theorem ignored_bind_of_quiet (x : Traced α) {f : α → Traced β} (quiet : ∀ a, Quiet (f a)) :
    (x >>= f).ignored = x.ignored := by
  cases first : x.result with
  | error e => exact ignored_bind_of_error f first
  | ok a => rw [ignored_bind_of_ok f first, quiet a, List.append_nil]

theorem quiet_bind {x : Traced α} {f : α → Traced β} (first : Quiet x)
    (second : ∀ a, Quiet (f a)) : Quiet (x >>= f) :=
  (ignored_bind_of_quiet x second).trans first

theorem unrelated_bind {x : Traced α} {f : α → Traced β}
    (first : FailsWith ReadError.Unrelated x.result)
    (second : ∀ a, FailsWith ReadError.Unrelated (f a).result) :
    FailsWith ReadError.Unrelated (x >>= f).result := by
  rw [result_bind]
  exact first.bind second

theorem plain_bind {x : Traced α} {f : α → Traced β} (first : Plain x)
    (second : ∀ a, Plain (f a)) : Plain (x >>= f) :=
  ⟨quiet_bind first.quiet fun a => (second a).quiet,
    unrelated_bind first.unrelated fun a => (second a).unrelated⟩

/-- What a computation that verifies checksums owes to the same one without verifying. -/
inductive Enforces (strict lenient : Traced α) : Prop where
  | agree (same : strict = lenient) (plain : Plain lenient)
  | refuse (quiet : Quiet strict) {b : BlockNumber} {stored computed : UInt64}
      (refused : strict.result = .error (.checksumMismatch b stored computed))
      (reported : lenient.ignored = [.checksumMismatchIgnored b stored computed])
      (unrelated : FailsWith ReadError.Unrelated lenient.result)

namespace Enforces

variable {strict lenient : Traced α}

theorem quiet_strict (h : Enforces strict lenient) : Quiet strict := by
  cases h with
  | agree same plain => exact same ▸ plain.quiet
  | refuse quiet => exact quiet

theorem result_of_ok {a : α} (h : Enforces strict lenient) (made : strict.result = .ok a) :
    lenient.result = .ok a := by
  cases h with
  | agree same => exact same ▸ made
  | refuse quiet refused =>
    rw [made] at refused
    cases refused

theorem ignored_of_mismatch {b : BlockNumber} {stored computed : UInt64}
    (h : Enforces strict lenient)
    (refused : strict.result = .error (.checksumMismatch b stored computed)) :
    lenient.ignored = [.checksumMismatchIgnored b stored computed] := by
  cases h with
  | agree same plain =>
    rw [same] at refused
    exact absurd rfl (plain.unrelated _ refused b stored computed)
  | refuse _ refused' reported =>
    rw [refused] at refused'
    cases refused'
    exact reported

theorem bind (h : Enforces strict lenient) {f : α → Traced β} (plain : ∀ a, Plain (f a)) :
    Enforces (strict >>= f) (lenient >>= f) := by
  have quiet (a : α) : Quiet (f a) := (plain a).quiet
  cases h with
  | agree same first => exact .agree (congrArg (· >>= f) same) (plain_bind first plain)
  | refuse silent refused reported unrelated =>
    refine .refuse (quiet_bind silent quiet) ?_ ((ignored_bind_of_quiet lenient quiet).trans reported)
      (unrelated_bind unrelated fun a => (plain a).unrelated)
    rw [bind_of_error f refused]

theorem after {x : Traced α} (plain : Plain x) {f g : α → Traced β}
    (h : ∀ a, Enforces (f a) (g a)) : Enforces (x >>= f) (x >>= g) := by
  cases first : x.result with
  | error e =>
    have unrelated := plain.unrelated e first
    refine .agree ?_ ⟨(ignored_bind_of_error g first).trans plain.quiet, ?_⟩
    · rw [bind_of_error f first, bind_of_error g first]
    · rw [bind_of_error g first]
      exact .error unrelated
  | ok a =>
    have ignored_f := ignored_bind_of_ok f first
    have ignored_g := ignored_bind_of_ok g first
    rw [plain.quiet, List.nil_append] at ignored_f ignored_g
    have result_f : (x >>= f).result = (f a).result := by rw [bind_of_ok f first]
    have result_g : (x >>= g).result = (g a).result := by rw [bind_of_ok g first]
    cases h a with
    | agree same second =>
      refine .agree ?_ ⟨ignored_g.trans second.quiet, result_g ▸ second.unrelated⟩
      rw [bind_of_ok f first, bind_of_ok g first, same]
    | refuse silent refused reported unrelated =>
      exact .refuse (ignored_f.trans silent) (result_f.trans refused) (ignored_g.trans reported)
        (result_g ▸ unrelated)

end Enforces

end Traced

end NxContainer
