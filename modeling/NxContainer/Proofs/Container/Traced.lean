import NxContainer.Container.Event
import NxContainer.Require

/-! Traced computations seen through their two halves. The result of a computation is the result of
its steps without their reports, so what it succeeds with is found by the rules for plain checks. -/
namespace NxContainer.Traced

variable {α β : Type}

@[simp] theorem result_bind (x : Traced α) (f : α → Traced β) :
    (x >>= f).result = x.result >>= fun a => (f a).result := by
  obtain ⟨log, result⟩ := x
  cases result with
  | error e => rfl
  | ok a => rfl

@[simp] theorem result_pure (a : α) : (Pure.pure a : Traced α).result = .ok a := rfl

@[simp] theorem result_lift (x : Except ReadError α) : (liftM x : Traced α).result = x := rfl

@[simp] theorem result_ofExcept (x : Except ReadError α) : (ofExcept x).result = x := rfl

@[simp] theorem result_emit (e : Event) : (emit e).result = .ok () := rfl

@[simp] theorem result_decoded (b : BlockNumber) (x : Except DecodeError α) :
    (decoded b x).result = x.mapError (ReadError.ofDecode b) := rfl

@[simp] theorem result_map (f : α → β) (x : Traced α) : (f <$> x).result = f <$> x.result := by
  obtain ⟨log, result⟩ := x
  cases result with
  | error e => rfl
  | ok a => rfl

theorem bind_of_ok {x : Traced α} {a : α} (f : α → Traced β) (ok : x.result = .ok a) :
    x >>= f = ⟨x.log ++ (f a).log, (f a).result⟩ := by
  obtain ⟨log, result⟩ := x
  cases ok
  rfl

theorem bind_of_error {x : Traced α} {e : ReadError} (f : α → Traced β)
    (failed : x.result = .error e) : x >>= f = ⟨x.log, .error e⟩ := by
  obtain ⟨log, result⟩ := x
  cases failed
  rfl

theorem bind_pure (x : Traced α) : x >>= Pure.pure = x := by
  cases first : x.result with
  | error e =>
    rw [bind_of_error _ first, ← first]
  | ok a =>
    rw [bind_of_ok _ first]
    obtain ⟨log, result⟩ := x
    cases first
    exact congrArg (fun log => Traced.mk log (.ok a)) (List.append_nil log)

theorem bind_bind {γ : Type} (x : Traced α) (f : α → Traced β) (g : β → Traced γ) :
    x >>= f >>= g = x >>= fun a => f a >>= g := by
  cases first : x.result with
  | error e =>
    rw [bind_of_error f first, bind_of_error (fun a => f a >>= g) first]
    exact bind_of_error g rfl
  | ok a =>
    rw [bind_of_ok f first, bind_of_ok (fun a => f a >>= g) first]
    cases second : (f a).result with
    | error e =>
      rw [bind_of_error g second]
      exact bind_of_error g rfl
    | ok b =>
      rw [bind_of_ok g second, ← List.append_assoc]
      exact bind_of_ok g rfl

theorem bind_congr_ok {x : Traced α} {f g : α → Traced β} (same : ∀ a, x.result = .ok a → f a = g a) :
    x >>= f = x >>= g := by
  cases first : x.result with
  | error e => rw [bind_of_error f first, bind_of_error g first]
  | ok a => rw [bind_of_ok f first, bind_of_ok g first, same a first]

instance : LawfulMonad Traced := LawfulMonad.mk' Traced bind_pure (fun _ _ => rfl) bind_bind

end NxContainer.Traced
