import NxContainer.Bytes.Cursor
import NxContainer.Proofs.Bytes.Window

/-! A computation on bytes and the same computation with more bytes behind them. Only one outcome is
provisional, that bytes are missing. Steps that keep to this may be put one behind the other. -/
namespace NxContainer

/-- There are too few bytes, which says nothing about what stands behind them. -/
def DecodeError.IsShortage : DecodeError → Prop
  | .insufficientData _ _ _ => True
  | _ => False

/-- The outcome on fewer bytes is a shortage, or it is the outcome on more bytes. -/
def Settles {α : Type} (fewer more : Except DecodeError α) : Prop :=
  (∃ e, fewer = .error e ∧ e.IsShortage) ∨ more = fewer

namespace Settles

variable {α β : Type} {x y : Except DecodeError α}

theorem same : Settles x x := Or.inr rfl

theorem shortage {n o actual : Nat} : Settles (.error (.insufficientData n o actual)) y :=
  Or.inl ⟨_, rfl, trivial⟩

theorem bind {f g : α → Except DecodeError β} (first : Settles x y)
    (rest : ∀ a, x = .ok a → Settles (f a) (g a)) : Settles (x >>= f) (y >>= g) := by
  rcases first with ⟨e, failed, short⟩ | same
  · rw [failed]
    exact Or.inl ⟨e, rfl, short⟩
  · rw [same]
    cases outcome : x with
    | ok a => exact rest a outcome
    | error e => exact .same

theorem ok {a : α} (settles : Settles x y) (made : x = .ok a) : y = .ok a := by
  rcases settles with ⟨e, failed, _⟩ | same
  · cases failed.symm.trans made
  · exact same.trans made

theorem error {e : DecodeError} (settles : Settles x y) (failed : x = .error e)
    (final : ¬ e.IsShortage) : y = .error e := by
  rcases settles with ⟨e', failed', short⟩ | same
  · cases failed'.symm.trans failed
    exact absurd short final
  · exact same.trans failed

end Settles

namespace Bytes

variable {d t : Bytes}

theorem long_append {n : Nat} (long : n ≤ d.length) : n ≤ (d ++ t).length := by
  rw [List.length_append]
  omega

theorem eq_of_front {α : Type} {f : Bytes → α} {n : Nat} (front : ∀ d : Bytes, f (d.window 0 n) = f d)
    (long : n ≤ d.length) : f (d ++ t) = f d := by
  rw [← front (d ++ t), window_append_left (by omega), front d]

theorem u32At_append_left {o : Nat} (inside : o + 4 ≤ d.length) : (d ++ t).u32At o = d.u32At o :=
  u32At_eq_of_window_eq (window_append_left inside)

theorem u64At_append_left {o : Nat} (inside : o + 8 ≤ d.length) : (d ++ t).u64At o = d.u64At o :=
  u64At_eq_of_window_eq (window_append_left inside)

theorem settles_length {ε : DecodeError} {n : Nat} :
    Settles (require (n ≤ d.length) (.insufficientData n 0 d.length))
      (require (n ≤ (d ++ t).length) ε) := by
  by_cases long : n ≤ d.length
  · rw [require_pos long, require_pos (long_append long)]
    exact .same
  · rw [require_neg long]
    exact .shortage

theorem settles_requireLength {n : Nat} (bounded : (d ++ t).length ≤ maxLength) :
    Settles (requireLength d.length n) (requireLength (d ++ t).length n) := by
  have within : d.length ≤ maxLength := by
    rw [List.length_append] at bounded
    omega
  refine .bind ?_ fun _ _ => settles_length
  rw [require_pos within, require_pos bounded]
  exact .same

theorem settles_slice (d t : Bytes) (o n : Nat) : Settles (d.slice o n) ((d ++ t).slice o n) := by
  unfold slice
  split
  · exact .same
  · split
    · exact .shortage
    · rename_i fits
      have inside : o + n ≤ d.length := Nat.not_lt.mp fits
      rw [if_neg (Nat.not_lt.mpr (long_append inside)), window_append_left inside]
      exact .same

end Bytes

end NxContainer
