import Mathlib.Data.List.Forall2
import NxContainer.Json.Record

/-! Reading back what was written. A number comes back as the word it was, a list item by item, and
a record from any object that holds each of its members once, wherever they stand in it. -/
namespace NxContainer.Json

/-! Leaves. -/

theorem below?_ofNat {limit n : Nat} (fits : n < limit) : (ofNat n).below? limit = some n := by
  simp [ofNat, below?, Number.toNat?_ofNat, fits]

@[simp] theorem word32?_ofNat (w : UInt32) : (ofNat w.toNat).word32? = some w := by
  simp [word32?, below?_ofNat w.toNat_lt]

@[simp] theorem word64?_ofNat (w : UInt64) : (ofNat w.toNat).word64? = some w := by
  simp [word64?, below?_ofNat w.toNat_lt]

/-! Lists. -/

abbrev ReadAs {α : Type} (read : Json → Option α) : List Json → List α → Prop :=
  List.Forall₂ fun j a => read j = some a

theorem list?_eq_some_iff {α : Type} {read : Json → Option α} {items : List Json} {as : List α} :
    (Json.list items).list? read = some as ↔ ReadAs read items as := by
  rw [list?]
  induction items generalizing as with
  | nil => cases as <;> simp
  | cons j items ih =>
    rw [List.mapM_cons]
    simp only [Option.bind_eq_bind, Option.bind_eq_some_iff, ih]
    cases as with
    | nil => simp
    | cons a as => simp

theorem readAs_map {α : Type} {read : Json → Option α} {write : α → Json}
    (back : ∀ a, read (write a) = some a) (as : List α) : ReadAs read (as.map write) as :=
  List.forall₂_map_left_iff.mpr (List.forall₂_same.mpr fun a _ => back a)

/-! Records. -/

theorem mapM_join_ofText (members : List (String × Json)) :
    (members.map fun (name, value) => (Piece.ofText name, value)).mapM
      (fun (name, value) => (Piece.join name).map (·, value)) = some members := by
  induction members with
  | nil => rfl
  | cons m members ih => simp [Piece.join_ofText, ih]

/-- The names of an object that was written are texts, so its fields alone decide. -/
theorem record_ofMembers_eq_some_iff {α : Type} {fields : Fields α}
    {members : List (String × Json)} {a : α} :
    record fields (ofMembers members) = some a ↔
      ∃ rest, fields (.named members) = some (a, rest) := by
  rw [ofMembers, record, mapM_join_ofText]
  cases made : fields (.named members) with
  | none => simp [made, StateT.run]
  | some out => simp [made, StateT.run, Prod.ext_iff]

/-- Among the members there is one of this name, and only one, and it is read as `a`. -/
def Holds {α : Type} (members : List (String × Json)) (name : String) (read : Json → Option α)
    (a : α) : Prop :=
  ∃ j, valuesOf name members = [j] ∧ read j = some a

theorem field_eq_some_iff {α : Type} {name : String} {read : Json → Option α}
    {members : List (String × Json)} {out : α × Members} :
    field name read (.named members) = some out ↔
      ∃ a, Holds members name read a ∧ (a, .named members) = out := by
  rw [field]
  split
  · rename_i j only
    simp [Holds, only]
  · rename_i other
    simp only [Holds]
    refine ⟨nofun, ?_⟩
    rintro ⟨_, ⟨j, only, _⟩, _⟩
    exact absurd only (other j)

theorem field_bind_eq_some_iff {α β : Type} {name : String} {read : Json → Option α}
    {k : α → Fields β} {members : List (String × Json)} {out : β × Members} :
    (field name read >>= k) (.named members) = some out ↔
      ∃ a, Holds members name read a ∧ k a (.named members) = some out := by
  simp only [bind, StateT.bind, Option.bind_eq_some_iff, field_eq_some_iff]
  constructor
  · rintro ⟨_, ⟨a, holds, rfl⟩, made⟩
    exact ⟨a, holds, made⟩
  · rintro ⟨a, holds, made⟩
    exact ⟨_, ⟨a, holds, rfl⟩, made⟩

theorem pure_eq_some_iff {α : Type} {members : Members} {a : α} {out : α × Members} :
    (pure a : Fields α) members = some out ↔ (a, members) = out :=
  Option.some_inj

end NxContainer.Json
