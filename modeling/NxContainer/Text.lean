/-! Bytes and numbers as text. Byte strings are pairs of digits, written in lower case and read in
either, and a fault is located by its byte position. -/
namespace NxContainer.Hex

def minimal (n : Nat) : String :=
  String.ofList ('0' :: 'x' :: Nat.toDigits 16 n)

def padded (width n : Nat) : String :=
  let digits := Nat.toDigits 16 n
  String.ofList ('0' :: 'x' :: (List.replicate (width - digits.length) '0' ++ digits))

def encodeByte (b : UInt8) : List Char :=
  [(b.toNat / 16).digitChar, (b.toNat % 16).digitChar]

def encode (d : List UInt8) : String := String.ofList (d.flatMap encodeByte)

inductive Fault where
  | oddLength
  | invalidCharacter (byte : UInt8) (position : Nat)
deriving DecidableEq

def digit? (b : UInt8) : Option UInt8 :=
  if 48 ≤ b ∧ b ≤ 57 then some (b - 48)
  else if 65 ≤ b ∧ b ≤ 70 then some (b - 55)
  else if 97 ≤ b ∧ b ≤ 102 then some (b - 87)
  else none

def decodePairs (i : Nat) (done : List UInt8) : List UInt8 → Except Fault (List UInt8)
  | [] => .ok done.reverse
  | [_] => .error .oddLength
  | high :: low :: rest =>
    match digit? high, digit? low with
    | none, _ => .error (.invalidCharacter high i)
    | some _, none => .error (.invalidCharacter low (i + 1))
    | some h, some l => decodePairs (i + 2) ((h * 16 + l) :: done) rest

/-- The bytes that `text` writes. An odd number of bytes of text is refused before any digit. -/
def decode (text : String) : Except Fault (List UInt8) :=
  let bytes := text.toList.flatMap String.utf8EncodeChar
  if bytes.length % 2 = 1 then .error .oddLength else decodePairs 0 [] bytes

end NxContainer.Hex

namespace NxContainer.Quoted

/-- Control characters, the no-break space and the soft hyphen do not print. -/
def prints (b : UInt8) : Bool :=
  (32 ≤ b && b ≤ 126) || (161 ≤ b && b ≠ 173)

def body (b : UInt8) : List Char :=
  if b = 0 then ['\\', '0']
  else if b = 9 then ['\\', 't']
  else if b = 10 then ['\\', 'n']
  else if b = 13 then ['\\', 'r']
  else if b = 39 then ['\\', '\'']
  else if b = 92 then ['\\', '\\']
  else if prints b then [Char.ofNat b.toNat]
  else ['\\', 'u', '\x7b'] ++ Nat.toDigits 16 b.toNat ++ ['\x7d']

def byte (b : UInt8) : String := String.ofList ('\'' :: (body b ++ ['\'']))

end NxContainer.Quoted
