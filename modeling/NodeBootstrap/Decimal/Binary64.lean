/-! # Floating-point numbers of 64 bits

Exact values of the binary64 format, with rounding to the nearest one and ties to the even mantissa.
Everything is computed on natural numbers. -/

namespace NodeBootstrap.Decimal

/-- A binary64 number. A finite one stands for `mantissa * 2 ^ exponent` with its sign, where the
mantissa has at most 53 bits. -/
inductive Binary64 where
  | nan
  | infinite (negative : Bool)
  | finite (negative : Bool) (mantissa : Nat) (exponent : Int)
  deriving DecidableEq, Repr

namespace Binary64

/-- A mantissa is less than twice this number, and no less than it unless the exponent is least. -/
def hiddenBit : Nat := 0x10000000000000

def minExponent : Int := -1074

def maxExponent : Int := 971

def zero (negative : Bool) : Binary64 := .finite negative 0 minExponent

/-- The quotient with its remainder rounded to nearest, ties to even. -/
def roundDiv (num den : Nat) : Nat :=
  let q := num / den
  let r := num % den
  if 2 * r > den ∨ (2 * r = den ∧ q % 2 = 1) then q + 1 else q

/-- The greatest `e` with `2 ^ e ≤ num / den`, for positive arguments. -/
def floorLog2 (num den : Nat) : Int :=
  let e : Int := num.log2 - den.log2
  if num <<< (-e).toNat < den <<< e.toNat then e - 1 else e

/-- The number nearest to `num / den`. -/
def round (negative : Bool) (num den : Nat) : Binary64 :=
  if num = 0 then zero negative
  else
    let e := max (floorLog2 num den - 52) minExponent
    let q := roundDiv (num <<< (-e).toNat) (den <<< e.toNat)
    let (q, e) := if q = 2 * hiddenBit then (hiddenBit, e + 1) else (q, e)
    if q = 0 then zero negative
    else if e > maxExponent then infinite negative
    else finite negative q e

def ofNat (n : Nat) : Binary64 := round false n 1

def neg : Binary64 → Binary64
  | nan => nan
  | infinite s => infinite !s
  | finite s m e => finite (!s) m e

/-- Numerator and denominator of the magnitude `m * 2 ^ e`. -/
def ratio (m : Nat) (e : Int) : Nat × Nat := (m <<< e.toNat, 1 <<< (-e).toNat)

/-- The product, for finite arguments. -/
def mul : Binary64 → Binary64 → Binary64
  | finite s m e, finite s' m' e' =>
    let (n, d) := ratio m e
    let (n', d') := ratio m' e'
    round (s != s') (n * n') (d * d')
  | a, _ => a

/-- The quotient, for finite arguments and a divisor that is not zero. -/
def div : Binary64 → Binary64 → Binary64
  | finite s m e, finite s' m' e' =>
    let (n, d) := ratio m e
    let (n', d') := ratio m' e'
    round (s != s') (n * d') (d * n')
  | a, _ => a

def isFinite : Binary64 → Bool
  | finite .. => true
  | _ => false

def isZero : Binary64 → Bool
  | finite _ m _ => m == 0
  | _ => false

/-- The number nearest to `digits * 10 ^ exponent`. Beyond the range of the format the outcome is
known without computing the power. -/
def ofDecimal (negative : Bool) (digits : Nat) (exponent : Int) : Binary64 :=
  let magnitude := (Nat.toDigits 10 digits).length + exponent
  if digits = 0 ∨ magnitude < -400 then zero negative
  else if magnitude > 400 then infinite negative
  else round negative (digits * Nat.pow 10 exponent.toNat) (Nat.pow 10 (-exponent).toNat)

/-- The magnitude rounded to a whole number, halves away from zero. -/
def roundMagnitude (m : Nat) (e : Int) : Nat :=
  let (n, d) := ratio m e
  (2 * n + d) / (2 * d)

/-- The nearest natural number up to `limit`: below zero it is zero, above the limit the limit. -/
def toNatWithin (limit : Nat) : Binary64 → Nat
  | nan => 0
  | infinite negative => if negative then 0 else limit
  | finite negative m e => if negative then 0 else min (roundMagnitude m e) limit

end Binary64

end NodeBootstrap.Decimal
