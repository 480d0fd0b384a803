/-! Conditions in a run of checks. The first condition that fails decides the error, so the order of
the lines is the order of precedence. -/
namespace NxContainer

def require {ε : Type} (p : Prop) [Decidable p] (e : ε) : Except ε Unit :=
  if p then .ok () else .error e

theorem require_eq_ok_iff {ε : Type} {p : Prop} [Decidable p] {e : ε} {u : Unit} :
    require p e = .ok u ↔ p := by
  unfold require
  split
  · rename_i holds
    exact ⟨fun _ => holds, fun _ => rfl⟩
  · rename_i fails
    exact ⟨nofun, fun h => absurd h fails⟩

theorem require_pos {ε : Type} {p : Prop} [Decidable p] {e : ε} (holds : p) : require p e = .ok () :=
  if_pos holds

theorem require_neg {ε : Type} {p : Prop} [Decidable p] {e : ε} (fails : ¬ p) :
    require p e = .error e :=
  if_neg fails

theorem require_eq_error_iff {ε : Type} {p : Prop} [Decidable p] {e e' : ε} :
    require p e = .error e' ↔ ¬ p ∧ e' = e := by
  unfold require
  split
  · rename_i holds
    exact ⟨nofun, fun h => absurd holds h.1⟩
  · rename_i fails
    exact ⟨fun h => ⟨fails, (Except.error.inj h).symm⟩, fun h => congrArg Except.error h.2.symm⟩

@[simp] theorem ok_bind {ε α β : Type} (a : α) (f : α → Except ε β) : Except.ok a >>= f = f a := rfl

@[simp] theorem error_bind {ε α β : Type} (e : ε) (f : α → Except ε β) :
    Except.error e >>= f = .error e := rfl

theorem bind_congr_of_ok {ε α β : Type} {x : Except ε α} {f g : α → Except ε β}
    (same : ∀ a, x = .ok a → f a = g a) : x >>= f = x >>= g := by
  cases x with
  | error e => rfl
  | ok a => exact same a rfl

theorem bind_eq_ok_iff {ε α β : Type} {x : Except ε α} {f : α → Except ε β} {b : β} :
    x >>= f = .ok b ↔ ∃ a, x = .ok a ∧ f a = .ok b := by
  cases x with
  | error e => exact ⟨nofun, nofun⟩
  | ok a => exact ⟨fun h => ⟨a, rfl, h⟩, fun ⟨_, ha, hb⟩ => Except.ok.inj ha ▸ hb⟩

theorem check_bind_eq_ok_iff {ε β : Type} {x : Except ε Unit} {f : Unit → Except ε β} {b : β} :
    x >>= f = .ok b ↔ x = .ok () ∧ f () = .ok b := by
  rw [bind_eq_ok_iff]
  constructor
  · rintro ⟨_, passed, made⟩
    exact ⟨passed, made⟩
  · rintro ⟨passed, made⟩
    exact ⟨(), passed, made⟩

theorem require_bind_eq_ok_iff {ε β : Type} {p : Prop} [Decidable p] {e : ε}
    {f : Unit → Except ε β} {b : β} : require p e >>= f = .ok b ↔ p ∧ f () = .ok b := by
  rw [check_bind_eq_ok_iff, require_eq_ok_iff]

theorem pure_eq_ok_iff {ε α : Type} {a b : α} : (pure a : Except ε α) = .ok b ↔ a = b :=
  ⟨Except.ok.inj, congrArg Except.ok⟩

theorem bind_eq_error_iff {ε α β : Type} {x : Except ε α} {f : α → Except ε β} {e : ε} :
    x >>= f = .error e ↔ x = .error e ∨ ∃ a, x = .ok a ∧ f a = .error e := by
  cases x with
  | error e' =>
    constructor
    · exact fun h => Or.inl (congrArg Except.error (Except.error.inj h))
    · rintro (h | ⟨a, impossible, _⟩)
      · exact congrArg Except.error (Except.error.inj h)
      · cases impossible
  | ok a =>
    constructor
    · exact fun h => Or.inr ⟨a, rfl, h⟩
    · rintro (impossible | ⟨a', ha, he⟩)
      · cases impossible
      · exact Except.ok.inj ha ▸ he

theorem mapM_eq_ok {ε α β : Type} {xs : List α} {f : α → Except ε β} {g : α → β}
    (each : ∀ x ∈ xs, f x = .ok (g x)) : xs.mapM f = .ok (xs.map g) := by
  induction xs with
  | nil => rfl
  | cons x rest ih =>
    obtain ⟨first, others⟩ := List.forall_mem_cons.mp each
    rw [List.mapM_cons, first, ih others]
    rfl

theorem check_bind_eq_error_iff {ε β : Type} {x : Except ε Unit} {f : Unit → Except ε β} {e : ε} :
    x >>= f = .error e ↔ x = .error e ∨ x = .ok () ∧ f () = .error e := by
  rw [bind_eq_error_iff]
  constructor
  · rintro (failed | ⟨_, passed, failed⟩)
    · exact Or.inl failed
    · exact Or.inr ⟨passed, failed⟩
  · rintro (failed | ⟨passed, failed⟩)
    · exact Or.inl failed
    · exact Or.inr ⟨(), passed, failed⟩

@[simp] theorem mapError_ok {ε ε' α : Type} (a : α) (f : ε → ε') :
    (Except.ok a : Except ε α).mapError f = .ok a := rfl

@[simp] theorem mapError_error {ε ε' α : Type} (e : ε) (f : ε → ε') :
    (Except.error e : Except ε α).mapError f = .error (f e) := rfl

theorem mapError_eq_ok_iff {ε ε' α : Type} {x : Except ε α} {f : ε → ε'} {a : α} :
    x.mapError f = .ok a ↔ x = .ok a := by
  cases x with
  | error e => exact ⟨nofun, nofun⟩
  | ok a' => exact ⟨fun h => congrArg Except.ok (Except.ok.inj h), fun h => by rw [h]; rfl⟩

theorem mapError_eq_error_iff {ε ε' α : Type} {x : Except ε α} {f : ε → ε'} {e' : ε'} :
    x.mapError f = .error e' ↔ ∃ e, x = .error e ∧ f e = e' := by
  cases x with
  | error e =>
    constructor
    · exact fun h => ⟨e, rfl, Except.error.inj h⟩
    · rintro ⟨_, he, rfl⟩
      exact congrArg (fun e => Except.error (f e)) (Except.error.inj he)
  | ok a => exact ⟨nofun, nofun⟩

/-- Every error that a computation can end in satisfies `P`. -/
def FailsWith {ε α : Type} (P : ε → Prop) (x : Except ε α) : Prop := ∀ e, x = .error e → P e

namespace FailsWith

variable {ε α β : Type} {P : ε → Prop}

theorem ok (a : α) : FailsWith P (.ok a : Except ε α) := nofun

theorem error {e : ε} (holds : P e) : FailsWith P (.error e : Except ε α) := by
  intro e' failed
  cases failed
  exact holds

theorem of_require {p : Prop} [Decidable p] {e : ε} (holds : P e) : FailsWith P (require p e) := by
  intro e' failed
  obtain ⟨_, rfl⟩ := require_eq_error_iff.mp failed
  exact holds

theorem bind {x : Except ε α} {f : α → Except ε β} (first : FailsWith P x)
    (second : ∀ a, FailsWith P (f a)) : FailsWith P (x >>= f) := by
  intro e failed
  rcases bind_eq_error_iff.mp failed with failed | ⟨a, _, failed⟩
  · exact first e failed
  · exact second a e failed

theorem of_mapError {ε' : Type} {f : ε' → ε} (x : Except ε' α) (holds : ∀ e, P (f e)) :
    FailsWith P (x.mapError f) := by
  intro e failed
  obtain ⟨e', _, rfl⟩ := mapError_eq_error_iff.mp failed
  exact holds e'

end FailsWith

/-- Conditions that cover every case decide a computation, if it succeeds under the ones and fails
under the others. -/
theorem decided {ε α : Type} {x : Except ε α} {P : α → Prop} {R : ε → Prop}
    (yes : ∀ a, P a → x = .ok a) (no : ∀ e, R e → x = .error e)
    (total : (∃ a, P a) ∨ ∃ e, R e) :
    (∀ a, x = .ok a ↔ P a) ∧ (∀ e, x = .error e ↔ R e) := by
  rcases total with ⟨a, ha⟩ | ⟨e, he⟩
  · have made := yes a ha
    constructor
    · intro b
      exact ⟨fun h => Except.ok.inj (made.symm.trans h) ▸ ha, yes b⟩
    · intro e
      exact ⟨fun h => absurd (made.symm.trans h) nofun, no e⟩
  · have failed := no e he
    constructor
    · intro a
      exact ⟨fun h => absurd (failed.symm.trans h) nofun, yes a⟩
    · intro e'
      exact ⟨fun h => Except.error.inj (failed.symm.trans h) ▸ he, no e'⟩

end NxContainer
