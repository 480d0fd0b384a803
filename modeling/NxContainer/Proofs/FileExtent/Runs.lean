import NxContainer.Proofs.FileExtent.Halves

/-! Whole runs of the calls that fill an extent. What a half holds after a run, and what each of its
calls answers, is a matter of the buffers that were given to this half. -/
namespace NxContainer.FileExtent

def after (e : FileExtent) (calls : List Call) : FileExtent := e.final (calls.map Call.step)

def trace (e : FileExtent) (calls : List Call) : List (Call × Except DecodeError Unit × FileExtent) :=
  calls.zip (e.run (calls.map Call.step))

def buffers (h : Half) (calls : List Call) : List Bytes :=
  (calls.filter (·.half = h)).map Call.data

def answers (e : FileExtent) (h : Half) (calls : List Call) : List (Except DecodeError Unit) :=
  ((e.trace calls).filter (·.1.half = h)).map (·.2.1)

def Succeeds (e : FileExtent) (h : Half) (calls : List Call) : Prop :=
  ∃ entry ∈ e.trace calls, entry.1.half = h ∧ entry.2.1 = .ok ()

/-! A run, call by call. -/

theorem after_cons (e : FileExtent) (c : Call) (rest : List Call) :
    e.after (c :: rest) = (e.next c).after rest := rfl

theorem after_append (e : FileExtent) (xs ys : List Call) :
    e.after (xs ++ ys) = (e.after xs).after ys := by
  rw [after, List.map_append, final, List.foldl_append]
  rfl

theorem trace_cons (e : FileExtent) (c : Call) (rest : List Call) :
    e.trace (c :: rest) = (c, e.answer c, e.next c) :: (e.next c).trace rest := by
  rw [trace, List.map_cons, run, answer, next]
  cases e.step c.step <;> rfl

theorem getElem?_trace (e : FileExtent) (before : List Call) (c : Call) (rest : List Call) :
    (e.trace (before ++ c :: rest))[before.length]? =
      some (c, (e.after before).answer c, e.after (before ++ [c])) := by
  induction before generalizing e with
  | nil =>
    rw [List.nil_append, trace_cons]
    rfl
  | cons b before ih =>
    rw [List.cons_append, trace_cons, List.length_cons, List.getElem?_cons_succ, ih]
    rfl

theorem buffers_cons (h : Half) (c : Call) (rest : List Call) : buffers h (c :: rest) =
    if c.half = h then c.data :: buffers h rest else buffers h rest := by
  by_cases own : c.half = h <;> simp [buffers, own]

theorem answers_cons (e : FileExtent) (h : Half) (c : Call) (rest : List Call) :
    e.answers h (c :: rest) =
      if c.half = h then e.answer c :: (e.next c).answers h rest
      else (e.next c).answers h rest := by
  by_cases own : c.half = h <;> simp [answers, trace_cons, own]

theorem succeeds_cons {e : FileExtent} {h : Half} {c : Call} {rest : List Call} :
    e.Succeeds h (c :: rest) ↔ (c.half = h ∧ e.answer c = .ok ()) ∨ (e.next c).Succeeds h rest := by
  simp only [Succeeds, trace_cons, List.mem_cons, exists_eq_or_imp]

/-! What a half holds. -/

/-- The content of the first buffer that can be decoded. -/
def Half.first (h : Half) (buffers : List Bytes) : Option h.Content :=
  buffers.findSome? fun d => (h.decode d).toOption

theorem Half.first_cons (h : Half) (d : Bytes) (rest : List Bytes) :
    h.first (d :: rest) = (h.decode d).toOption.or (h.first rest) := by
  rw [first, List.findSome?_cons]
  cases (h.decode d).toOption <;> rfl

/-- A half holds what it held before the run, or else the first of its buffers that can be decoded. -/
theorem half_after (e : FileExtent) (calls : List Call) (h : Half) :
    (e.after calls).half h = (e.half h).or (h.first (buffers h calls)) := by
  induction calls generalizing e with
  | nil => exact Option.or_none.symm
  | cons c rest ih =>
    rw [after_cons, ih, half_next, Option.or_assoc, buffers_cons]
    split
    · rw [Half.first_cons]
    · rw [Option.none_or]

theorem after_eq_of_buffers_eq {e : FileExtent} {xs ys : List Call}
    (same : ∀ h, buffers h xs = buffers h ys) : e.after xs = e.after ys :=
  ext_half fun h => by rw [half_after, half_after, same h]

theorem succeeds_iff {e : FileExtent} {h : Half} {calls : List Call} (empty : e.half h = none) :
    e.Succeeds h calls ↔ ((e.after calls).half h).isSome = true := by
  induction calls generalizing e with
  | nil =>
    constructor
    · rintro ⟨_, impossible, _⟩
      cases impossible
    · intro filled
      rw [show e.after [] = e from rfl, empty] at filled
      cases filled
  | cons c rest ih =>
    rw [succeeds_cons, after_cons]
    by_cases decides : c.half = h ∧ c.parsed = .ok ()
    · obtain ⟨rfl, passed⟩ := decides
      obtain ⟨x, decoded⟩ := Call.parsed_eq_ok_iff.mp passed
      have answered : e.answer c = .ok () := by
        rw [answer_eq, empty]
        exact passed
      have filled : (e.next c).half c.half = some x := by
        rw [half_next, empty, if_pos rfl, decoded]
        rfl
      rw [half_after, filled]
      exact ⟨fun _ => rfl, fun _ => Or.inl ⟨rfl, answered⟩⟩
    · -- The call leaves the half empty, so that the rest of the run decides.
      have silent : ¬ (c.half = h ∧ e.answer c = .ok ()) := by
        rintro ⟨rfl, answered⟩
        rw [answer_eq, empty] at answered
        exact decides ⟨rfl, answered⟩
      have stays : (e.next c).half h = none := by
        rw [half_next, empty, Option.none_or]
        split
        · rename_i own
          subst own
          cases decoded : c.half.decode c.data with
          | error fault => rfl
          | ok x => exact absurd ⟨rfl, Call.parsed_eq_ok_iff.mpr ⟨x, decoded⟩⟩ decides
        · rfl
      rw [← ih stays]
      exact or_iff_right silent

theorem isSome_mapping? (e : FileExtent) : e.mapping?.isSome = e.isComplete := by
  obtain ⟨key, value⟩ := e
  cases key <;> cases value <;> rfl

theorem isComplete_after_iff (calls : List Call) : (empty.after calls).isComplete = true ↔
    empty.Succeeds .key calls ∧ empty.Succeeds .value calls := by
  rw [succeeds_iff (half_empty .key), succeeds_iff (half_empty .value), isComplete, Bool.and_eq_true]
  rfl

/-! What the calls of a half answer. -/

def alone (h : Half) : Bool → List Bytes → List (Except DecodeError Unit)
  | _, [] => []
  | filled, d :: rest =>
    (if filled then .error (.alreadySet h.field) else (Call.mk h d).parsed) ::
      alone h (filled || (h.decode d).toOption.isSome) rest

theorem answers_eq_alone (e : FileExtent) (h : Half) (calls : List Call) :
    e.answers h calls = alone h (e.half h).isSome (buffers h calls) := by
  induction calls generalizing e with
  | nil => rfl
  | cons c rest ih =>
    rw [answers_cons, ih, half_next, buffers_cons]
    split
    · rename_i own
      subst own
      rw [alone, answer_eq, Option.isSome_or]
    · rw [Option.or_none]

theorem answers_eq_of_buffers_eq {e : FileExtent} {xs ys : List Call}
    (same : ∀ h, buffers h xs = buffers h ys) (h : Half) : e.answers h xs = e.answers h ys := by
  rw [answers_eq_alone, answers_eq_alone, same h]

structure CallLaw (before : List Call) (c : Call) (answer : Except DecodeError Unit)
    (left : FileExtent) : Prop where
  repeated : empty.Succeeds c.half before → answer = .error (.alreadySet c.half.field)
  otherwise : ¬ empty.Succeeds c.half before → answer = c.parsed
  onlyRepeated : (∃ field, answer = .error (.alreadySet field)) → empty.Succeeds c.half before
  unchanged : answer ≠ .ok () → left = empty.after before

theorem callLaw (before : List Call) (c : Call) :
    CallLaw before c ((empty.after before).answer c) (empty.after (before ++ [c])) := by
  have succeeded : empty.Succeeds c.half before ↔
      ((empty.after before).half c.half).isSome = true := succeeds_iff (half_empty c.half)
  have answered := answer_eq (empty.after before) c
  refine ⟨?_, ?_, ?_, ?_⟩
  · intro earlier
    rw [answered, if_pos (succeeded.mp earlier)]
  · intro none
    rw [answered, if_neg fun filled => none (succeeded.mpr filled)]
  · rintro ⟨field, refused⟩
    rw [answered] at refused
    split at refused
    · rename_i filled
      exact succeeded.mpr filled
    · exact absurd rfl (c.parsed_fresh _ refused field)
  · intro failed
    rw [after_append]
    exact next_of_failed _ _ failed

/-! A whole record is the run of its two calls, in either order. -/

theorem after_of_ofRecord {key value : Bytes} {e : FileExtent} (made : ofRecord key value = .ok e) :
    empty.after [⟨.key, key⟩, ⟨.value, value⟩] = e := by
  rw [ofRecord, bind_eq_ok_iff] at made
  obtain ⟨half, first, second⟩ := made
  have one : empty.next ⟨.key, key⟩ = half := by
    rw [next, Call.step, step, first]
    rfl
  have two : half.next ⟨.value, value⟩ = e := by
    rw [next, Call.step, step, second]
    rfl
  rw [after_cons, one, after_cons, two]
  rfl

theorem after_swap (key value : Bytes) : empty.after [⟨.value, value⟩, ⟨.key, key⟩] =
    empty.after [⟨.key, key⟩, ⟨.value, value⟩] := by
  apply after_eq_of_buffers_eq
  intro h
  cases h <;> rfl

/-- A run of calls fills each half with the first of its buffers that can be decoded. A call fails
without a trace, either as its buffer does or because its half was filled before. The extent is
complete when both phases have succeeded. Runs that mix the same calls of either half in other ways
give the same answers and the same extent, and a whole record is the run of its two calls. -/
theorem halves_run_apart :
    (∀ calls,
      (empty.after calls).key =
        (buffers .key calls).findSome? (fun d => (ExtentKey.decode d).toOption) ∧
      (empty.after calls).value =
        (buffers .value calls).findSome? (fun d => (ExtentValue.decode d).toOption) ∧
      ((empty.after calls).isComplete = true ↔
        empty.Succeeds .key calls ∧ empty.Succeeds .value calls) ∧
      ((empty.after calls).mapping?.isSome = true ↔
        empty.Succeeds .key calls ∧ empty.Succeeds .value calls)) ∧
    (∀ before c rest, ∃ answer,
      (empty.trace (before ++ c :: rest))[before.length]? =
        some (c, answer, empty.after (before ++ [c])) ∧
      CallLaw before c answer (empty.after (before ++ [c]))) ∧
    (∀ xs ys, (∀ h, buffers h xs = buffers h ys) →
      (∀ h, empty.answers h xs = empty.answers h ys) ∧ empty.after xs = empty.after ys) ∧
    (∀ key value,
      ((∃ e, ofRecord key value = .ok e) ↔
        (∃ k, ExtentKey.decode key = .ok k) ∧ ∃ v, ExtentValue.decode value = .ok v) ∧
      (∀ e, ofRecord key value = .ok e →
        e = empty.after [⟨.key, key⟩, ⟨.value, value⟩] ∧
        e = empty.after [⟨.value, value⟩, ⟨.key, key⟩]) ∧
      (∀ fault, ofRecord key value = .error fault ↔ ExtentKey.decode key = .error fault ∨
        (∃ k, ExtentKey.decode key = .ok k) ∧ ExtentValue.decode value = .error fault)) := by
  refine ⟨?_, ?_, ?_, ?_⟩
  · intro calls
    have filled (h : Half) : (empty.after calls).half h = h.first (buffers h calls) := by
      rw [half_after, half_empty, Option.none_or]
    refine ⟨filled .key, filled .value, isComplete_after_iff calls, ?_⟩
    rw [isSome_mapping?]
    exact isComplete_after_iff calls
  · intro before c rest
    exact ⟨_, getElem?_trace empty before c rest, callLaw before c⟩
  · intro xs ys same
    exact ⟨answers_eq_of_buffers_eq same, after_eq_of_buffers_eq same⟩
  · intro key value
    refine ⟨exists_ofRecord_iff, ?_, fun fault => ofRecord_eq_error_iff⟩
    intro e made
    rw [after_swap]
    exact ⟨(after_of_ofRecord made).symm, (after_of_ofRecord made).symm⟩

/-! A run in which a key cannot be decoded, then is read, and then comes once more. -/

def sampleKey (object : UInt64) : Bytes := ExtentKey.encode ⟨⟨object⟩, 8192⟩

def sampleValue : Bytes := ExtentValue.encode ⟨12288, 3, ⟨500⟩, 7⟩

def sampleCalls : List Call :=
  [⟨.key, []⟩, ⟨.value, sampleValue⟩, ⟨.key, sampleKey 16⟩, ⟨.key, sampleKey 17⟩]

def sampleMixed : List Call :=
  [⟨.key, []⟩, ⟨.key, sampleKey 16⟩, ⟨.key, sampleKey 17⟩, ⟨.value, sampleValue⟩]

theorem sample_run_keeps_first_key :
    (empty.after sampleCalls).key = some ⟨⟨16⟩, 8192⟩ ∧
    (∃ left, (empty.trace sampleCalls)[3]? =
      some (⟨.key, sampleKey 17⟩, .error (.alreadySet "extent key"), left)) ∧
    (∀ h, buffers h sampleMixed = buffers h sampleCalls) ∧
    empty.after sampleMixed = empty.after sampleCalls := by
  obtain ⟨states, calls, mixtures, _⟩ := halves_run_apart
  have key : (empty.after sampleCalls).key = some ⟨⟨16⟩, 8192⟩ := by
    rw [(states sampleCalls).1]
    decide
  obtain ⟨_, entry, law⟩ := calls (sampleCalls.take 3) ⟨.key, sampleKey 17⟩ []
  have earlier : empty.Succeeds .key (sampleCalls.take 3) :=
    ⟨_, List.mem_of_getElem? (i := 2) rfl, rfl, rfl⟩
  rw [law.repeated earlier] at entry
  have same (h : Half) : buffers h sampleMixed = buffers h sampleCalls := by
    cases h <;> rfl
  exact ⟨key, ⟨_, entry⟩, same, (mixtures _ _ same).2⟩

end NxContainer.FileExtent
