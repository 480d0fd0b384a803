import NxContainer.Json.Basic

/-! The tokens of JSON text. Between tokens only the four blank characters may stand. -/
namespace NxContainer.Json

inductive Token where
  | mark (c : Char)
  | null
  | bool (b : Bool)
  | number (n : Number)
  | string (s : Pieces)
deriving DecidableEq

namespace Token

def isBlank (c : Char) : Bool := c = ' ' || c = '\t' || c = '\n' || c = '\r'

def isMark (c : Char) : Bool :=
  c = '[' || c = ']' || c = '\x7b' || c = '\x7d' || c = ',' || c = ':'

def isNumeric (c : Char) : Bool :=
  c.isDigit || c = '-' || c = '+' || c = '.' || c = 'e' || c = 'E'

def ofWord? (cs : List Char) : Option Token :=
  if cs = ['n', 'u', 'l', 'l'] then some null
  else if cs = ['t', 'r', 'u', 'e'] then some (bool true)
  else if cs = ['f', 'a', 'l', 's', 'e'] then some (bool false)
  else none

/-- The first token of a text that starts with `c`, and what follows it. Numbers and words extend
as far as their characters do. -/
def next? (c : Char) (rest : List Char) : Option (Token × List Char) :=
  if isMark c then some (mark c, rest)
  else if c = '"' then (Piece.scan [] rest).map fun (s, after) => (string s, after)
  else if c = '-' || c.isDigit then
    (Number.ofChars? (c :: rest.takeWhile isNumeric)).map
      fun n => (number n, rest.dropWhile isNumeric)
  else (ofWord? (c :: rest.takeWhile Char.isAlpha)).map fun t => (t, rest.dropWhile Char.isAlpha)

theorem next?_shortens {c : Char} {rest after : List Char} {t : Token}
    (h : next? c rest = some (t, after)) : after.length < rest.length + 1 := by
  unfold next? at h
  split at h
  · simp only [Option.some.injEq, Prod.mk.injEq] at h
    simp [h.2]
  · split at h
    · obtain ⟨⟨s, tail⟩, scanned, same⟩ := Option.map_eq_some_iff.mp h
      have shorter := Piece.scan_shortens scanned
      simp only [Prod.mk.injEq] at same
      rw [← same.2]
      exact Nat.lt_succ_of_lt shorter
    · split at h
      · obtain ⟨_, _, same⟩ := Option.map_eq_some_iff.mp h
        simp only [Prod.mk.injEq] at same
        rw [← same.2]
        exact Nat.lt_succ_of_le (List.dropWhile_suffix _).sublist.length_le
      · obtain ⟨_, _, same⟩ := Option.map_eq_some_iff.mp h
        simp only [Prod.mk.injEq] at same
        rw [← same.2]
        exact Nat.lt_succ_of_le (List.dropWhile_suffix _).sublist.length_le

def scanFrom (done : List Token) : List Char → Option (List Token)
  | [] => some done.reverse
  | c :: rest =>
    if isBlank c then scanFrom done rest
    else
      match _h : next? c rest with
      | some (t, after) => scanFrom (t :: done) after
      | none => none
termination_by cs => cs.length
decreasing_by
  · simp
  · simpa using next?_shortens _h

def scan (text : String) : Option (List Token) := scanFrom [] text.toList

end Token

end NxContainer.Json
