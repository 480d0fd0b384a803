import NxContainer.Json.Reading

/-! Typed reading of trees. A record is an object with the members it asks for, in any order and
among others, or a list of exactly its members in its own order. A member that is asked for must
occur once. -/
namespace NxContainer

namespace Json

/-! ### Leaves -/

def below? (limit : Nat) : Json → Option Nat
  | .number n => n.toNat?.filter (· < limit)
  | _ => none

def word8? (j : Json) : Option UInt8 := (j.below? 256).map UInt8.ofNat

def word32? (j : Json) : Option UInt32 := (j.below? 4294967296).map UInt32.ofNat

def word64? (j : Json) : Option UInt64 := (j.below? 18446744073709551616).map UInt64.ofNat

def bool? : Json → Option Bool
  | .bool b => some b
  | _ => none

def text? : Json → Option String
  | .string s => Piece.join s
  | _ => none

def list? {α : Type} (read : Json → Option α) : Json → Option (List α)
  | .list items => items.mapM read
  | _ => none

def nullable? {α : Type} (read : Json → Option α) : Json → Option (Option α)
  | .null => some none
  | j => (read j).map some

/-! ### Records -/

inductive Members where
  | named (members : List (String × Json))
  | ordered (items : List Json)

abbrev Fields (α : Type) := StateT Members Option α

def valuesOf (name : String) (members : List (String × Json)) : List Json :=
  (members.filter (·.1 = name)).map (·.2)

/-- A member that must be there; without names it is the next item. -/
def field {α : Type} (name : String) (read : Json → Option α) : Fields α := fun members =>
  match members with
  | .named ms =>
    match valuesOf name ms with
    | [j] => (read j).map (·, .named ms)
    | _ => none
  | .ordered (j :: rest) => (read j).map (·, .ordered rest)
  | .ordered [] => none

/-- A member that may be null or missing; without names it must be there. -/
def field? {α : Type} (name : String) (read : Json → Option α) : Fields (Option α) := fun members =>
  match members with
  | .named ms =>
    match valuesOf name ms with
    | [] => some (none, .named ms)
    | [j] => (nullable? read j).map (·, .named ms)
    | _ => none
  | .ordered (j :: rest) => (nullable? read j).map (·, .ordered rest)
  | .ordered [] => none

def record {α : Type} (fields : Fields α) : Json → Option α
  | .object members => do
    let named ← members.mapM fun (name, value) => (Piece.join name).map (·, value)
    let (a, _) ← fields.run (.named named)
    return a
  | .list items =>
    match fields.run (.ordered items) with
    | some (a, .ordered []) => some a
    | _ => none
  | _ => none

end Json

end NxContainer
