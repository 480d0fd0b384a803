/-! Numbers of JSON text, kept as they are written. Only a number without sign, fraction and
exponent denotes a natural number. A number is also judged by its size as a binary fraction of 53
significant bits: one that rounds to infinity is out of range. -/
namespace NxContainer.Json

structure Number where
  negative : Bool
  whole : List Char
  /-- The digits behind the point, empty without a point. -/
  fraction : List Char
  /-- Whether the exponent is negative, and its digits; empty without an exponent. -/
  exponent : Bool × List Char
deriving DecidableEq

namespace Number

def ofNat (n : Nat) : Number := ⟨false, Nat.toDigits 10 n, [], (false, [])⟩

def digitsValue (digits : List Char) : Nat := Nat.ofDigitChars 10 digits 0

def toNat? (n : Number) : Option Nat :=
  if !n.negative && n.fraction.isEmpty && n.exponent.2.isEmpty then some (digitsValue n.whole)
  else none

theorem toNat?_ofNat (n : Nat) : (ofNat n).toNat? = some n := by
  simp [toNat?, ofNat, digitsValue, Nat.ofDigitChars_toDigits]

/-! ### Reading -/

def digits? (cs : List Char) : Option (List Char × List Char) :=
  let digits := cs.takeWhile Char.isDigit
  if digits.isEmpty then none else some (digits, cs.dropWhile Char.isDigit)

def fraction? : List Char → Option (List Char × List Char)
  | '.' :: rest => digits? rest
  | rest => some ([], rest)

def sign : List Char → Bool × List Char
  | '+' :: rest => (false, rest)
  | '-' :: rest => (true, rest)
  | rest => (false, rest)

def exponent? : List Char → Option ((Bool × List Char) × List Char)
  | 'e' :: rest | 'E' :: rest => do
    let (negative, rest) := sign rest
    let (digits, rest) ← digits? rest
    return ((negative, digits), rest)
  | rest => some ((false, []), rest)

def unsigned? (negative : Bool) (cs : List Char) : Option Number := do
  let (whole, rest) ← digits? cs
  guard (whole = ['0'] ∨ whole.head? ≠ some '0')
  let (fraction, rest) ← fraction? rest
  let (exponent, rest) ← exponent? rest
  guard rest.isEmpty
  return ⟨negative, whole, fraction, exponent⟩

def ofChars? : List Char → Option Number
  | '-' :: rest => unsigned? true rest
  | cs => unsigned? false cs

/-! ### Writing -/

def chars (n : Number) : List Char :=
  (if n.negative then ['-'] else []) ++ n.whole ++
    (if n.fraction.isEmpty then [] else '.' :: n.fraction) ++
    (if n.exponent.2.isEmpty then []
      else 'e' :: (if n.exponent.1 then '-' :: n.exponent.2 else n.exponent.2))

/-! ### Range -/

/-- The nearest number with at most 53 significant bits; a tie goes to the even one. -/
def round53 (n : Nat) : Nat :=
  let unit := 1 <<< (n.log2 - 52)
  let low := n / unit * unit
  let excess := 2 * (n % unit)
  if unit < excess ∨ (unit = excess ∧ n / unit % 2 = 1) then low + unit else low

/-- Products from here on round to infinity: half a unit above the largest number. -/
def roundsToInfinity : Nat := (1 <<< 1024) - (1 <<< 970)

def absorb (significand : Nat) : List Char → Nat × List Char
  | [] => (significand, [])
  | c :: rest =>
    let next := significand * 10 + (c.toNat - 48)
    if next < 18446744073709551616 then absorb next rest else (significand, c :: rest)

def scaled (n : Number) : Nat × Int :=
  let (significand, dropped) := absorb 0 n.whole
  let (significand, ignored) := absorb significand n.fraction
  let shift : Int := (dropped.length : Int) - ((n.fraction.length : Int) - ignored.length)
  let exponent : Int := digitsValue n.exponent.2
  (significand, if n.exponent.1 then shift - exponent else shift + exponent)

def isFinite (n : Number) : Bool :=
  let (significand, exponent) := n.scaled
  significand = 0 || exponent ≤ 0 ||
    (exponent ≤ 308 && round53 significand * round53 (Nat.pow 10 exponent.toNat) < roundsToInfinity)

end Number

end NxContainer.Json
