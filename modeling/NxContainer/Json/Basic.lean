import NxContainer.Json.Number
import NxContainer.Json.Text

/-! JSON trees, and their text without blanks. A tree keeps numbers and strings as they are written
and the members of an object in their order, repetitions included. -/
namespace NxContainer

inductive Json where
  | null
  | bool (b : Bool)
  | number (n : Json.Number)
  | string (s : Json.Pieces)
  | list (items : List Json)
  | object (members : List (Json.Pieces × Json))

namespace Json

def ofNat (n : Nat) : Json := .number (.ofNat n)

def ofText (text : String) : Json := .string (Piece.ofText text)

def ofOption {α : Type} (f : α → Json) : Option α → Json
  | some a => f a
  | none => .null

def ofMembers (members : List (String × Json)) : Json :=
  .object (members.map fun (name, value) => (Piece.ofText name, value))

def ofList {α : Type} (f : α → Json) (items : List α) : Json := .list (items.map f)

def writeChars (out : String) (cs : List Char) : String := cs.foldl String.push out

def writeString (out : String) (s : Pieces) : String :=
  (s.foldl (fun out piece => writeChars out piece.chars) (out.push '"')).push '"'

mutual

def write (out : String) : Json → String
  | .null => out ++ "null"
  | .bool b => out ++ (if b then "true" else "false")
  | .number n => writeChars out n.chars
  | .string s => writeString out s
  | .list [] => out ++ "[]"
  | .list (item :: rest) => (writeItems ((item.write (out.push '['))) rest).push ']'
  | .object [] => (out.push '\x7b').push '\x7d'
  | .object ((name, value) :: rest) =>
    (writeMembers (value.write ((writeString (out.push '\x7b') name).push ':')) rest).push '\x7d'

def writeItems (out : String) : List Json → String
  | [] => out
  | item :: rest => writeItems (item.write (out.push ',')) rest

def writeMembers (out : String) : List (Pieces × Json) → String
  | [] => out
  | (name, value) :: rest =>
    writeMembers (value.write ((writeString (out.push ',') name).push ':')) rest

end

def text (j : Json) : String := j.write ""

end Json

end NxContainer
