import NodeBootstrap.Decimal.Binary64

/-! # Shortest decimal text of a floating-point number

The digits are the fewest that still read back as the number, and among those the nearest to it. The
text is positional at every magnitude, without an exponent. -/

namespace NodeBootstrap.Decimal

/-- A positive decimal number `digits * 10 ^ exponent`. -/
structure Scientific where
  digits : Nat
  exponent : Int
  deriving DecidableEq, Repr

namespace Binary64

/-- The interval of numbers that round to `m * 2 ^ e`, in quarters of the last place: its ends, and
whether they belong to it. -/
def interval (m : Nat) (e : Int) : Nat × Nat × Bool :=
  let below := if m = hiddenBit ∧ e > minExponent then 1 else 2
  (4 * m - below, 4 * m + 2, m % 2 = 0)

/-- The greatest `k` with `10 ^ k ≤ num / den`, for positive arguments. -/
def floorLog10 (num den : Nat) : Int :=
  if den ≤ num then (Nat.toDigits 10 (num / den)).length - 1
  else -((Nat.toDigits 10 ((den - 1) / num)).length : Int)

/-- The number nearest to `m * 2 ^ e` on the grid of multiples of `10 ^ g`, if one of its two
neighbours there reads back as it; an exact tie goes up. -/
def onGrid? (m : Nat) (e g : Int) : Option Scientific :=
  let quarter := e - 2
  let unit := Nat.pow 10 (-g).toNat <<< quarter.toNat
  let step := Nat.pow 10 g.toNat <<< (-quarter).toNat
  let (low, high, closed) := interval m e
  let inside (d : Nat) : Bool :=
    if closed then low * unit ≤ d * step && d * step ≤ high * unit
    else low * unit < d * step && d * step < high * unit
  let d := 4 * m * unit / step
  let remainder := 4 * m * unit - d * step
  if inside d ∧ (¬ inside (d + 1) ∨ 2 * remainder < step) ∧ d ≠ 0 then some ⟨d, g⟩
  else if inside (d + 1) then some ⟨d + 1, g⟩
  else none

/-- Seventeen digits always suffice. -/
def shortest (m : Nat) (e : Int) : Scientific :=
  let (n, d) := ratio m e
  let k := floorLog10 n d
  ((List.range 17).findSome? fun (i : Nat) => onGrid? m e (k - i)).getD ⟨m, e⟩

end Binary64

namespace Scientific

/-- The same number without trailing zeros among its digits. -/
def trimmed (x : Scientific) : Scientific :=
  let ds := Nat.toDigits 10 x.digits
  let kept := (ds.reverse.dropWhile (· == '0')).reverse
  ⟨Nat.ofDigitChars 10 kept 0, x.exponent + (ds.length - kept.length : Nat)⟩

def positional (x : Scientific) : List Char :=
  let ds := Nat.toDigits 10 x.digits
  if 0 ≤ x.exponent then ds ++ List.replicate x.exponent.toNat '0'
  else
    let places := (-x.exponent).toNat
    let padded := List.replicate (places + 1 - ds.length) '0' ++ ds
    let whole := padded.length - places
    padded.take whole ++ '.' :: padded.drop whole

end Scientific

def render : Binary64 → String
  | .nan => "NaN"
  | .infinite negative => if negative then "-inf" else "inf"
  | .finite negative m e =>
    let digits := if m = 0 then ['0'] else (Binary64.shortest m e).trimmed.positional
    String.ofList (if negative then '-' :: digits else digits)

/-- Like `render`, but a finite number always shows a decimal point. -/
def renderPointed (x : Binary64) : String :=
  let text := render x
  if x.isFinite ∧ ¬ text.contains '.' then text ++ ".0" else text

end NodeBootstrap.Decimal
