import NodeBootstrap.Decimal.Reading
import NodeBootstrap.Json.Value
import NodeBootstrap.Text.Digits

/-! # Scanning JSON

Each scanner takes the text from where it stands and returns what it read with the text after it, or
the first fault that it met. -/

namespace NodeBootstrap.Json

open Decimal Text

/-- Why a text is not read: it breaks the grammar, it holds another value than the one wanted, or it
ends too early. -/
inductive Fault where
  | malformed
  | mismatched
  | ended
  deriving DecidableEq, Repr

def isJsonBlank (c : Char) : Bool := c = ' ' || c = '\t' || c = '\n' || c = '\r'

def skipBlanks (s : List Char) : List Char := s.dropWhile isJsonBlank

/-- Takes exactly the letters of a word. -/
def word : List Char → List Char → Except Fault (List Char)
  | [], s => .ok s
  | _ :: _, [] => .error .ended
  | c :: cs, d :: s => if c = d then word cs s else .error .malformed

/-! ## Strings -/

def escapedChar? (c : Char) : Option Char :=
  if c = '"' ∨ c = '\\' ∨ c = '/' then some c
  else if c = 'b' then some '\x08'
  else if c = 'f' then some '\x0c'
  else if c = 'n' then some '\n'
  else if c = 'r' then some '\r'
  else if c = 't' then some '\t'
  else none

def isLeading (unit : Nat) : Bool := 0xD800 ≤ unit && unit ≤ 0xDBFF

def isTrailing (unit : Nat) : Bool := 0xDC00 ≤ unit && unit ≤ 0xDFFF

def joinSurrogates (leading trailing : Nat) : Char :=
  Char.ofNat (0x10000 + (leading - 0xD800) * 0x400 + (trailing - 0xDC00))

/-- Where a scanner stands inside a string. `unit` counts the hexadecimal digits read and holds
their value; a leading surrogate waits for its trailing one. -/
inductive Inside where
  | plain
  | backslash
  | unit (leading : Option Nat) (digits value : Nat)
  | afterLeading (leading : Nat)
  | leadingBackslash (leading : Nat)
  deriving DecidableEq, Repr

/-- A text that stops fewer than four octets after the letter `u` has ended too early, whatever
those octets are. -/
def hexFault (digits : Nat) (s : List Char) : Fault :=
  if digits + (String.ofList s).utf8ByteSize < 4 then .ended else .malformed

/-- What a complete code unit contributes: a character, or a surrogate to wait on. -/
def completeUnit (leading : Option Nat) (value : Nat) : Except Fault (Option Char × Inside) :=
  match leading with
  | some high =>
    if isTrailing value then .ok (some (joinSurrogates high value), .plain)
    else .error .malformed
  | none =>
    if isLeading value then .ok (none, .afterLeading value)
    else if isTrailing value then .error .malformed
    else .ok (some (Char.ofNat value), .plain)

/-- The rest of a string that is kept, up to its closing quote. Characters for which `bad` holds may
not stand in it. -/
def keepString (bad : Char → Bool) : Inside → List Char → Except Fault (List Char × List Char)
  | _, [] => .error .ended
  | .plain, c :: rest =>
    if c = '"' then .ok ([], rest)
    else if c = '\\' then keepString bad .backslash rest
    else if c.toNat < 0x20 ∨ bad c then .error .malformed
    else (keepString bad .plain rest).map fun (cs, after) => (c :: cs, after)
  | .backslash, c :: rest =>
    if c = 'u' then keepString bad (.unit none 0 0) rest
    else
      match escapedChar? c with
      | some d => (keepString bad .plain rest).map fun (cs, after) => (d :: cs, after)
      | none => .error .malformed
  | .unit leading digits value, c :: rest =>
    match hexValue? c with
    | none => .error (hexFault digits (c :: rest))
    | some d =>
      if digits < 3 then keepString bad (.unit leading (digits + 1) (value * 16 + d)) rest
      else
        match completeUnit leading (value * 16 + d) with
        | .error fault => .error fault
        | .ok (none, inside) => keepString bad inside rest
        | .ok (some e, inside) =>
          (keepString bad inside rest).map fun (cs, after) => (e :: cs, after)
  | .afterLeading leading, c :: rest =>
    if c = '\\' then keepString bad (.leadingBackslash leading) rest else .error .malformed
  | .leadingBackslash leading, c :: rest =>
    if c = 'u' then keepString bad (.unit (some leading) 0 0) rest else .error .malformed

/-- The rest of a string that is not kept: its escapes are checked, but surrogates need not pair. -/
def skipString : Inside → List Char → Except Fault (List Char)
  | _, [] => .error .ended
  | .backslash, c :: rest =>
    if c = 'u' then skipString (.unit none 0 0) rest
    else if (escapedChar? c).isSome then skipString .plain rest
    else .error .malformed
  | .unit _ digits _, c :: rest =>
    if (hexValue? c).isSome then
      skipString (if digits < 3 then .unit none (digits + 1) 0 else .plain) rest
    else .error (hexFault digits (c :: rest))
  | _, c :: rest =>
    if c = '"' then .ok rest
    else if c = '\\' then skipString .backslash rest
    else if c.toNat < 0x20 then .error .malformed
    else skipString .plain rest

/-! ## Numbers -/

/-- The parts of a number: sign, digits before and after the point, and the power of ten. -/
structure Numeral where
  negative : Bool
  digits : List Char
  fraction : Option (List Char)
  exponent : Option Int
  deriving DecidableEq, Repr

/-- Where digits are wanted: none at the end of the text is a different fault than none before
something else. -/
def someDigits (s : List Char) : Except Fault (List Char × List Char) :=
  match s.takeWhile isDigit with
  | [] => .error (if s = [] then .ended else .malformed)
  | ds => .ok (ds, s.dropWhile isDigit)

def wholePart (s : List Char) : Except Fault (List Char × List Char) :=
  match s with
  | '0' :: rest =>
    match rest with
    | c :: _ => if isDigit c then .error .malformed else .ok (['0'], rest)
    | [] => .ok (['0'], rest)
  | _ => someDigits s

def fractionPart (s : List Char) : Except Fault (Option (List Char) × List Char) :=
  match s with
  | '.' :: rest => (someDigits rest).map fun (ds, after) => (some ds, after)
  | _ => .ok (none, s)

def exponentPart (s : List Char) : Except Fault (Option Int × List Char) :=
  match s with
  | [] => .ok (none, s)
  | c :: rest =>
    if c = 'e' ∨ c = 'E' then
      let (negative, body) := splitSign rest
      (someDigits body).map fun (ds, after) =>
        let n : Int := Nat.ofDigitChars 10 ds 0
        (some (if negative then -n else n), after)
    else .ok (none, s)

def numeral (s : List Char) : Except Fault (Numeral × List Char) := do
  let (negative, s) := match s with
    | '-' :: rest => (true, rest)
    | _ => (false, s)
  let (digits, s) ← wholePart s
  let (fraction, s) ← fractionPart s
  let (exponent, s) ← exponentPart s
  return (⟨negative, digits, fraction, exponent⟩, s)

namespace Numeral

def maxSignificand : Nat := UInt64.size - 1

/-- Takes in digits while the significand fits 64 bits; counts the digits left over. -/
def takeDigits (significand : Nat) : List Char → Nat × Nat
  | [] => (significand, 0)
  | c :: cs =>
    let next := significand * 10 + (c.toNat - '0'.toNat)
    if next ≤ maxSignificand then takeDigits next cs else (significand, cs.length + 1)

/-- The significand, rounded, is scaled by one rounded power of ten at a time, the powers being at
most `10 ^ 308`. -/
def scale : Nat → Binary64 → Int → Option Binary64
  | 0, x, _ => some x
  | steps + 1, x, exponent =>
    if exponent.natAbs ≤ 308 then
      let power := Binary64.ofDecimal false 1 exponent.natAbs
      if 0 ≤ exponent then (some (x.mul power)).filter (·.isFinite) else some (x.div power)
    else if x.isZero then some x
    else if 0 ≤ exponent then none
    else scale steps (x.div (Binary64.ofDecimal false 1 308)) (exponent + 308)

/-- The floating-point value; a numeral beyond the range of the format has none. -/
def float? (n : Numeral) : Option Binary64 :=
  let (whole, leftOver) := takeDigits 0 n.digits
  let fraction := n.fraction.getD []
  let (significand, dropped) := takeDigits whole fraction
  let exponent := leftOver - (fraction.length - dropped : Nat) + n.exponent.getD 0
  (scale 3 (Binary64.ofNat significand) exponent).map fun x => if n.negative then x.neg else x

/-- A numeral of digits alone is whole where 64 bits hold it, except that minus zero is not. -/
def whole? (n : Numeral) : Option Int :=
  let value := Nat.ofDigitChars 10 n.digits 0
  if n.fraction.isSome ∨ n.exponent.isSome then none
  else if n.negative then if 0 < value ∧ value ≤ signedLimit then some (-(value : Int)) else none
  else if value ≤ maxSignificand then some value else none

def number? (n : Numeral) : Option Number :=
  match n.whole? with
  | some value => some (.whole value)
  | none => n.float?.map .float

end Numeral

/-- A number that is kept. One beyond the range of the format is malformed. -/
def keepNumber (s : List Char) : Except Fault (Number × List Char) := do
  let (n, rest) ← numeral s
  match n.number? with
  | some value => return (value, rest)
  | none => .error .malformed

/-- A number that is not kept has no range, and every fault in it breaks the grammar. -/
def skipNumber (s : List Char) : Except Fault (List Char) :=
  match numeral s with
  | .ok (_, rest) => .ok rest
  | .error _ => .error .malformed

end NodeBootstrap.Json
