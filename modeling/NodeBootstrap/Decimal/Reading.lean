import NodeBootstrap.Decimal.Binary64
import NodeBootstrap.Text.Lowercase

/-! # Reading numbers

Whole numbers of a given range and floating-point numbers, as free-standing texts. -/

namespace NodeBootstrap.Decimal

def isDigit (c : Char) : Bool := '0' ≤ c && c ≤ '9'

/-- The number that a non-empty text of digits denotes. -/
def readDigits? (s : List Char) : Option Nat :=
  if s ≠ [] ∧ s.all isDigit then some (Nat.ofDigitChars 10 s 0) else none

/-- A natural number up to `limit`; a plus sign is allowed. -/
def readNat? (limit : Nat) (s : List Char) : Option Nat :=
  let digits := match s with
    | '+' :: rest => rest
    | _ => s
  (readDigits? digits).filter (· ≤ limit)

/-- The numbers that fit 64 bits with their sign lie below this one, down to its negation. -/
def signedLimit : Nat := UInt64.size / 2

/-- A whole number that fits 64 bits with its sign. -/
def readInt64? (s : List Char) : Option Int :=
  match s with
  | '-' :: rest => ((readDigits? rest).filter (· ≤ signedLimit)).map fun (n : Nat) => -(n : Int)
  | '+' :: rest => ((readDigits? rest).filter (· < signedLimit)).map fun (n : Nat) => (n : Int)
  | _ => ((readDigits? s).filter (· < signedLimit)).map fun (n : Nat) => (n : Int)

/-- An optional sign, and what follows it. -/
def splitSign : List Char → Bool × List Char
  | '-' :: rest => (true, rest)
  | '+' :: rest => (false, rest)
  | s => (false, s)

/-- A power of ten, after its letter. -/
def readExponent? (s : List Char) : Option Int :=
  match s with
  | [] => some 0
  | c :: rest =>
    if c = 'e' ∨ c = 'E' then
      let (negative, digits) := splitSign rest
      (readDigits? digits).map fun (n : Nat) => if negative then -(n : Int) else n
    else none

/-- Digits with at most one point among them, at least one digit, and an optional exponent. -/
def readUnsigned? (negative : Bool) (s : List Char) : Option Binary64 :=
  let whole := s.takeWhile isDigit
  let rest := s.dropWhile isDigit
  let (fraction, rest) := match rest with
    | '.' :: tail => (tail.takeWhile isDigit, tail.dropWhile isDigit)
    | _ => ([], rest)
  if whole = [] ∧ fraction = [] then none
  else
    (readExponent? rest).map fun exponent =>
      Binary64.ofDecimal negative (Nat.ofDigitChars 10 (whole ++ fraction) 0)
        (exponent - fraction.length)

/-- A floating-point number; the words for infinity and for no number are taken in any case. -/
def readFloat? (s : List Char) : Option Binary64 :=
  let (negative, body) := splitSign s
  let word := String.ofList (Text.lowercaseAscii body)
  if word = "inf" ∨ word = "infinity" then some (.infinite negative)
  else if word = "nan" then some .nan
  else readUnsigned? negative body

end NodeBootstrap.Decimal
