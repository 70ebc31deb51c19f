import NodeBootstrap.Decimal.Reading
import NodeBootstrap.Toml.Scanner
import NodeBootstrap.Toml.Value

/-! # TOML numbers, dates and times

They are read from a word, the longest text of characters that one of them may hold. -/

namespace NodeBootstrap.Toml

open Decimal Text

/-! ## Numbers -/

/-- Digits of a base, between which single underscores may stand; without the underscores. -/
def digitRun? (isDigit : Char → Bool) : List Char → Option (List Char)
  | [] => none
  | [c] => if isDigit c then some [c] else none
  | c :: '_' :: rest => if isDigit c then (digitRun? isDigit rest).map (c :: ·) else none
  | c :: rest => if isDigit c then (digitRun? isDigit rest).map (c :: ·) else none

/-- Decimal digits, which start with a zero only where that is all. -/
def decimalRun? (s : List Char) : Option (List Char) :=
  (digitRun? isDigit s).filter fun ds => ds = ['0'] ∨ ds.head? ≠ some '0'

def inBase? (base : Nat) (s : List Char) : Option Nat :=
  let isDigit (c : Char) : Bool := (hexValue? c).any (· < base)
  (digitRun? isDigit s).bind (digitsIn? base)

def natural? : List Char → Option Nat
  | '0' :: 'x' :: rest => inBase? 16 rest
  | '0' :: 'o' :: rest => inBase? 8 rest
  | '0' :: 'b' :: rest => inBase? 2 rest
  | _ => none

def magnitude? (s : List Char) : Option Nat :=
  (decimalRun? s).map fun ds => Nat.ofDigitChars 10 ds 0

/-- Integers have 64 bits with their sign; only decimal ones may show it. -/
def integer? (s : List Char) : Option Int :=
  let n : Option Int := match s with
    | '-' :: rest => (magnitude? rest).map fun (n : Nat) => -(n : Int)
    | '+' :: rest => (magnitude? rest).map fun (n : Nat) => (n : Int)
    | _ => (natural? s <|> magnitude? s).map fun (n : Nat) => (n : Int)
  n.filter fun n => -(signedLimit : Int) ≤ n ∧ n < signedLimit

def isExponentMark (c : Char) : Bool := c = 'e' || c = 'E'

/-- The exponent after its mark, or zero where there is none. -/
def exponent? : List Char → Option Int
  | [] => some 0
  | _ :: rest =>
    let (negative, digits) := splitSign rest
    (digitRun? isDigit digits).map fun ds =>
      let n : Int := Nat.ofDigitChars 10 ds 0
      if negative then -n else n

/-- A number with a fraction or an exponent; it must not exceed the range of the format. -/
def fractional? (negative : Bool) (s : List Char) : Option Binary64 := do
  let mantissa := s.takeWhile (! isExponentMark ·)
  let power := s.dropWhile (! isExponentMark ·)
  let whole ← decimalRun? (mantissa.takeWhile (· ≠ '.'))
  let fraction ← match mantissa.dropWhile (· ≠ '.') with
    | [] => if power = [] then none else some []
    | _ :: digits => digitRun? isDigit digits
  let exponent ← exponent? power
  let digits := Nat.ofDigitChars 10 (whole ++ fraction) 0
  match Binary64.ofDecimal negative digits (exponent - fraction.length) with
  | .infinite _ => none
  | x => some x

def float? (s : List Char) : Option Binary64 :=
  let (negative, body) := splitSign s
  if body = ['i', 'n', 'f'] then some (.infinite negative)
  else if body = ['n', 'a', 'n'] then some .nan
  else fractional? negative body

/-! ## Dates and times -/

/-- Exactly `count` digits. -/
def fixed? (count : Nat) (s : List Char) : Option (List Char × List Char) :=
  let ds := s.takeWhile isDigit
  if ds.length = count then some (ds, s.drop count) else none

def valueOf (digits : List Char) : Nat := Nat.ofDigitChars 10 digits 0

def isLeapYear (year : Nat) : Bool := year % 4 = 0 && (year % 100 ≠ 0 || year % 400 = 0)

def daysInMonth (year month : Nat) : Nat :=
  if month = 2 then if isLeapYear year then 29 else 28
  else if month = 4 ∨ month = 6 ∨ month = 9 ∨ month = 11 then 30
  else 31

def date? (s : List Char) : Option (List Char × List Char) := do
  let (year, rest) ← fixed? 4 s
  let '-' :: rest := rest | none
  let (month, rest) ← fixed? 2 rest
  let '-' :: rest := rest | none
  let (day, rest) ← fixed? 2 rest
  let m := valueOf month
  let d := valueOf day
  if 1 ≤ m ∧ m ≤ 12 ∧ 1 ≤ d ∧ d ≤ daysInMonth (valueOf year) m then
    some (year ++ '-' :: month ++ '-' :: day, rest)
  else none

/-- Nine digits after the point count; of those no zeros are shown at the end but a single one. -/
def fraction (digits : List Char) : List Char :=
  match ((digits.take 9).reverse.dropWhile (· == '0')).reverse with
  | [] => ['0']
  | ds => ds

/-- The seconds with their fraction, both of which may be left out. -/
def seconds? : List Char → Option (List Char × List Char)
  | ':' :: rest => do
    let (second, rest) ← fixed? 2 rest
    if valueOf second > 60 then none
    match rest with
    | '.' :: tail =>
      let ds := tail.takeWhile isDigit
      if ds = [] then none
      else some (':' :: second ++ '.' :: fraction ds, tail.dropWhile isDigit)
    | _ => some (':' :: second, rest)
  | s => some ([], s)

def time? (s : List Char) : Option (List Char × List Char) := do
  let (hour, rest) ← fixed? 2 s
  let ':' :: rest := rest | none
  let (minute, rest) ← fixed? 2 rest
  let (second, rest) ← seconds? rest
  if valueOf hour ≤ 23 ∧ valueOf minute ≤ 59 then some (hour ++ ':' :: minute ++ second, rest)
  else none

/-- An offset of nothing is never negative. -/
def offset? : List Char → Option (List Char)
  | [] => some []
  | ['Z'] => some ['Z']
  | ['z'] => some ['Z']
  | sign :: rest => do
    if sign ≠ '+' ∧ sign ≠ '-' then none
    let (hour, rest) ← fixed? 2 rest
    let ':' :: rest := rest | none
    let (minute, rest) ← fixed? 2 rest
    if rest ≠ [] ∨ valueOf hour > 23 ∨ valueOf minute > 59 then none
    let shown := if valueOf hour = 0 ∧ valueOf minute = 0 then '+' else sign
    some (shown :: hour ++ ':' :: minute)

/-- The normal form of a date with a time, of a date or of a time. -/
def dateTime? (s : List Char) : Option (List Char) :=
  match date? s with
  | some (date, []) => some date
  | some (date, mark :: rest) => do
    if mark ≠ 'T' ∧ mark ≠ 't' ∧ mark ≠ ' ' then none
    let (time, rest) ← time? rest
    let offset ← offset? rest
    some (date ++ 'T' :: time ++ offset)
  | none => do
    let (time, rest) ← time? s
    if rest = [] then some time else none

/-! ## Words -/

def isWordChar (c : Char) : Bool := isKeyChar c || c = '+' || c = '.' || c = ':'

/-- A word; a date and a time with a single space between them are one. -/
def word (s : List Char) : List Char × List Char :=
  let first := s.takeWhile isWordChar
  match s.dropWhile isWordChar with
  | ' ' :: c :: rest =>
    if isDigit c ∧ date? first = some (first, []) then
      (first ++ ' ' :: (c :: rest).takeWhile isWordChar, (c :: rest).dropWhile isWordChar)
    else (first, ' ' :: c :: rest)
  | rest => (first, rest)

def scalar? (w : List Char) : Option Toml :=
  if w = ['t', 'r', 'u', 'e'] then some (boolean true)
  else if w = ['f', 'a', 'l', 's', 'e'] then some (boolean false)
  else
    (integer? w).map integer <|> (float? w).map float <|>
      (dateTime? w).map fun text => dateTime (String.ofList text)

end NodeBootstrap.Toml
