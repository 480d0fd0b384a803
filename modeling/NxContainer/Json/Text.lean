/-! Strings of JSON text, kept as they are written: characters, and 16-bit units named by escapes.
A string is a text if its surrogate units stand in pairs. -/
namespace NxContainer.Json

inductive Piece where
  | char (c : Char)
  | unit (n : Nat)
deriving DecidableEq

abbrev Pieces := List Piece

namespace Piece

def isHigh (n : Nat) : Bool := 0xD800 ≤ n && n ≤ 0xDBFF

def isLow (n : Nat) : Bool := 0xDC00 ≤ n && n ≤ 0xDFFF

def paired (high low : Nat) : Char :=
  Char.ofNat (0x10000 + (high - 0xD800) * 0x400 + (low - 0xDC00))

def joinFrom (done : List Char) : Pieces → Option String
  | [] => some (String.ofList done.reverse)
  | .char c :: rest => joinFrom (c :: done) rest
  | .unit high :: .unit low :: rest =>
    if isHigh high && isLow low then joinFrom (paired high low :: done) rest
    else if isHigh high || isLow high then none
    else joinFrom (Char.ofNat high :: done) (.unit low :: rest)
  | .unit n :: rest =>
    if isHigh n || isLow n then none else joinFrom (Char.ofNat n :: done) rest

def join (pieces : Pieces) : Option String := joinFrom [] pieces

def ofText (text : String) : Pieces := text.toList.map char

theorem joinFrom_map_char (done cs : List Char) :
    joinFrom done (cs.map char) = some (String.ofList (done.reverse ++ cs)) := by
  induction cs generalizing done with
  | nil => simp [joinFrom]
  | cons c rest ih => simp [joinFrom, ih]

theorem join_ofText (text : String) : join (ofText text) = some text := by
  simp [join, ofText, joinFrom_map_char]

/-! ### Reading -/

def hexDigit? (c : Char) : Option Nat :=
  if c.isDigit then some (c.toNat - 48)
  else if 'a' ≤ c ∧ c ≤ 'f' then some (c.toNat - 87)
  else if 'A' ≤ c ∧ c ≤ 'F' then some (c.toNat - 55)
  else none

def hex4? (a b c d : Char) : Option Nat := do
  let a ← hexDigit? a
  let b ← hexDigit? b
  let c ← hexDigit? c
  let d ← hexDigit? d
  return ((a * 16 + b) * 16 + c) * 16 + d

def escaped? : Char → Option Char
  | '"' => some '"'
  | '\\' => some '\\'
  | '/' => some '/'
  | 'b' => some '\x08'
  | 'f' => some '\x0c'
  | 'n' => some '\n'
  | 'r' => some '\r'
  | 't' => some '\t'
  | _ => none

/-- The pieces up to the closing quote, behind the pieces `done` in reverse, and what follows the
quote. Control characters must be escaped. -/
def scan (done : Pieces) : List Char → Option (Pieces × List Char)
  | [] => none
  | '"' :: rest => some (done.reverse, rest)
  | '\\' :: 'u' :: a :: b :: c :: d :: rest =>
    match hex4? a b c d with
    | some n => scan (.unit n :: done) rest
    | none => none
  | '\\' :: e :: rest =>
    match escaped? e with
    | some c => scan (.char c :: done) rest
    | none => none
  | c :: rest => if c.toNat < 32 then none else scan (.char c :: done) rest

theorem scan_shortens {cs : List Char} {done s : Pieces} {after : List Char}
    (h : scan done cs = some (s, after)) : after.length < cs.length := by
  fun_induction scan done cs with
  | case1 => simp at h
  | case2 done rest =>
    simp only [Option.some.injEq, Prod.mk.injEq] at h
    simp [h.2]
  | case3 done a b c d rest n hn ih =>
    have := ih h
    simp only [List.length_cons]
    omega
  | case4 => simp at h
  | case5 done e rest _ c hc ih =>
    have := ih h
    simp only [List.length_cons]
    omega
  | case6 => simp at h
  | case7 => simp at h
  | case8 done c rest _ _ _ _ ih =>
    have := ih h
    simp only [List.length_cons]
    omega

/-! ### Writing -/

def unitChars (n : Nat) : List Char :=
  let digits := Nat.toDigits 16 n
  '\\' :: 'u' :: (List.replicate (4 - digits.length) '0' ++ digits)

def charChars (c : Char) : List Char :=
  match c with
  | '"' => ['\\', '"']
  | '\\' => ['\\', '\\']
  | '\x08' => ['\\', 'b']
  | '\x0c' => ['\\', 'f']
  | '\n' => ['\\', 'n']
  | '\r' => ['\\', 'r']
  | '\t' => ['\\', 't']
  | c => if c.toNat < 32 then unitChars c.toNat else [c]

def chars : Piece → List Char
  | char c => charChars c
  | unit n => unitChars n

end Piece

end NxContainer.Json
