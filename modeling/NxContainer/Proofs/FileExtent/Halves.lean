import NxContainer.Proofs.FileExtent.Mapping

/-! The two halves of an extent and the calls that fill them. A call is refused if its half is
filled, and otherwise it does what the decoder of the half does with its buffer. The other half
takes no part in it. -/
namespace NxContainer

def DecodeError.Fresh (e : DecodeError) : Prop := ∀ field, e ≠ .alreadySet field

theorem Bytes.requireLength_fresh (length minimum : Nat) :
    FailsWith DecodeError.Fresh (requireLength length minimum) :=
  (FailsWith.of_require nofun).bind fun _ => .of_require nofun

namespace FileExtent

inductive Half where
  | key
  | value
deriving DecidableEq

namespace Half

def Content : Half → Type
  | key => ExtentKey
  | value => ExtentValue

def decode : (h : Half) → Bytes → Except DecodeError h.Content
  | key => ExtentKey.decode
  | value => ExtentValue.decode

def field : Half → String
  | key => "extent key"
  | value => "extent value"

theorem decode_fresh (h : Half) (d : Bytes) : FailsWith DecodeError.Fresh (h.decode d) := by
  have length (minimum : Nat) := Bytes.requireLength_fresh d.length minimum
  cases h with
  | key =>
    rw [decode, ExtentKey.decode_eq]
    exact (length _).bind fun _ => (FailsWith.of_require nofun).bind fun _ => .ok _
  | value =>
    rw [decode, ExtentValue.decode_eq]
    exact (length _).bind fun _ => (FailsWith.of_require nofun).bind fun _ => .ok _

end Half

def half (e : FileExtent) : (h : Half) → Option h.Content
  | .key => e.key
  | .value => e.value

def fill (e : FileExtent) : (h : Half) → h.Content → FileExtent
  | .key, k => { e with key := some k }
  | .value, v => { e with value := some v }

theorem ext_half {e e' : FileExtent} (same : ∀ h, e.half h = e'.half h) : e = e' := by
  obtain ⟨key, value⟩ := e
  obtain ⟨key', value'⟩ := e'
  obtain rfl : key = key' := same .key
  obtain rfl : value = value' := same .value
  rfl

theorem half_empty (h : Half) : empty.half h = none := by
  cases h <;> rfl

theorem half_fill_self (e : FileExtent) (h : Half) (x : h.Content) :
    (e.fill h x).half h = some x := by
  cases h <;> rfl

theorem half_fill_of_ne (e : FileExtent) {h other : Half} (x : h.Content) (ne : h ≠ other) :
    (e.fill h x).half other = e.half other := by
  cases h with
  | key =>
    cases other with
    | key => exact absurd rfl ne
    | value => rfl
  | value =>
    cases other with
    | key => rfl
    | value => exact absurd rfl ne

/-! One call. -/

structure Call where
  half : Half
  data : Bytes

namespace Call

def step : Call → Step
  | ⟨.key, data⟩ => .key data
  | ⟨.value, data⟩ => .value data

def parsed (c : Call) : Except DecodeError Unit := (c.half.decode c.data).map fun _ => ()

theorem parsed_eq_ok_iff {c : Call} : c.parsed = .ok () ↔ ∃ x, c.half.decode c.data = .ok x := by
  rw [parsed]
  cases c.half.decode c.data with
  | error fault => exact ⟨nofun, nofun⟩
  | ok x => exact ⟨fun _ => ⟨x, rfl⟩, fun _ => rfl⟩

theorem parsed_fresh (c : Call) : FailsWith DecodeError.Fresh c.parsed := by
  intro fault failed
  rw [parsed] at failed
  cases decoded : c.half.decode c.data with
  | ok x =>
    rw [decoded] at failed
    cases failed
  | error cause =>
    rw [decoded] at failed
    cases failed
    exact c.half.decode_fresh c.data fault decoded

end Call

section call

variable (e : FileExtent) (c : Call)

def answer : Except DecodeError Unit := (e.step c.step).map fun _ => ()

def next : FileExtent := (e.step c.step).toOption.getD e

variable {e c}

theorem step_of_filled (filled : (e.half c.half).isSome = true) :
    e.step c.step = .error (.alreadySet c.half.field) := by
  obtain ⟨h, d⟩ := c
  cases h with
  | key =>
    have set : ¬ e.key = none := Option.isSome_iff_ne_none.mp filled
    simp only [Call.step, step, readKey, require_neg set]
    rfl
  | value =>
    have set : ¬ e.value = none := Option.isSome_iff_ne_none.mp filled
    simp only [Call.step, step, readValue, require_neg set]
    rfl

theorem step_of_empty (empty : e.half c.half = none) :
    e.step c.step = (c.half.decode c.data).map (e.fill c.half) := by
  obtain ⟨h, d⟩ := c
  cases h with
  | key =>
    have unset : e.key = none := empty
    simp only [Call.step, step, readKey, require_pos unset, ok_bind, Half.decode]
    cases ExtentKey.decode d <;> rfl
  | value =>
    have unset : e.value = none := empty
    simp only [Call.step, step, readValue, require_pos unset, ok_bind, Half.decode]
    cases ExtentValue.decode d <;> rfl

variable (e c)

theorem answer_eq : e.answer c =
    if (e.half c.half).isSome then .error (.alreadySet c.half.field) else c.parsed := by
  split
  · rename_i filled
    rw [answer, step_of_filled filled]
    rfl
  · rename_i unfilled
    rw [answer, step_of_empty (Option.not_isSome_iff_eq_none.mp unfilled), Call.parsed]
    cases c.half.decode c.data <;> rfl

/-- A call can fill its own half alone, and only while it is empty. -/
theorem half_next (h : Half) : (e.next c).half h =
    (e.half h).or (if c.half = h then (h.decode c.data).toOption else none) := by
  cases before : e.half c.half with
  | some x =>
    have stays : e.next c = e := by
      rw [next, step_of_filled (by rw [before]; rfl)]
      rfl
    rw [stays]
    split
    · rename_i own
      subst own
      rw [before, Option.some_or]
    · rw [Option.or_none]
  | none =>
    rw [next, step_of_empty before]
    split
    · rename_i own
      subst own
      rw [before, Option.none_or]
      cases c.half.decode c.data with
      | error fault => exact before
      | ok x => exact half_fill_self e c.half x
    · rename_i other
      rw [Option.or_none]
      cases c.half.decode c.data with
      | error fault => rfl
      | ok x => exact half_fill_of_ne e x other

theorem next_of_failed (failed : e.answer c ≠ .ok ()) : e.next c = e := by
  rw [answer] at failed
  rw [next]
  cases made : e.step c.step with
  | error fault => rfl
  | ok e' =>
    rw [made] at failed
    exact absurd rfl failed

end call

/-! A whole record. -/

theorem ofRecord_eq (key value : Bytes) : ofRecord key value = (do
    let k ← ExtentKey.decode key
    let v ← ExtentValue.decode value
    return ⟨some k, some v⟩) := by
  have first : empty.readKey key = (ExtentKey.decode key).map (empty.fill .key) :=
    step_of_empty (c := ⟨.key, key⟩) rfl
  rw [ofRecord, first]
  cases ExtentKey.decode key with
  | error fault => rfl
  | ok k =>
    have second : (empty.fill .key k).readValue value =
        (ExtentValue.decode value).map ((empty.fill .key k).fill .value) :=
      step_of_empty (c := ⟨.value, value⟩) rfl
    change (empty.fill .key k).readValue value = _
    rw [second]
    cases ExtentValue.decode value <;> rfl

theorem exists_ofRecord_iff {key value : Bytes} : (∃ e, ofRecord key value = .ok e) ↔
    (∃ k, ExtentKey.decode key = .ok k) ∧ ∃ v, ExtentValue.decode value = .ok v := by
  simp only [ofRecord_eq_ok_iff]
  constructor
  · rintro ⟨_, k, v, first, second, _⟩
    exact ⟨⟨k, first⟩, v, second⟩
  · rintro ⟨⟨k, first⟩, v, second⟩
    exact ⟨_, k, v, first, second, rfl⟩

theorem ofRecord_eq_error_iff {key value : Bytes} {fault : DecodeError} :
    ofRecord key value = .error fault ↔ ExtentKey.decode key = .error fault ∨
      (∃ k, ExtentKey.decode key = .ok k) ∧ ExtentValue.decode value = .error fault := by
  simp only [ofRecord_eq, bind_eq_error_iff]
  constructor
  · rintro (failed | ⟨k, first, failed | ⟨_, _, impossible⟩⟩)
    · exact Or.inl failed
    · exact Or.inr ⟨⟨k, first⟩, failed⟩
    · cases impossible
  · rintro (failed | ⟨⟨k, first⟩, failed⟩)
    · exact Or.inl failed
    · exact Or.inr ⟨k, first, Or.inl failed⟩

end FileExtent

end NxContainer
