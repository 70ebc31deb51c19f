import NodeBootstrap.Text.Parts

/-! # Punycode

A label in ASCII. Its ASCII characters come first, and after the last hyphen there is a number for
each of the others. They are inserted in the order of their code points, and a number counts the
places, code point by code point, that are passed over since the insertion before. -/

namespace NodeBootstrap.Url.Punycode

/-! ## Numbers

The least digit comes first, and a digit below its threshold is the last one. -/

def isAscii (c : Char) : Bool := c.toNat < 0x80

def digit (d : Nat) : Char := Char.ofNat (if d < 26 then 'a'.toNat + d else '0'.toNat + (d - 26))

def digitValue? (c : Char) : Option Nat :=
  if 'a' ≤ c ∧ c ≤ 'z' then some (c.toNat - 'a'.toNat)
  else if '0' ≤ c ∧ c ≤ '9' then some (c.toNat - '0'.toNat + 26)
  else none

/-- `offset` grows by 36 from digit to digit. -/
def threshold (bias offset : Nat) : Nat := max 1 (min 26 (offset - bias))

theorem one_le_threshold (bias offset : Nat) : 1 ≤ threshold bias offset := Nat.le_max_left ..

def number (bias offset n : Nat) : List Char :=
  let t := threshold bias offset
  if n < t then [digit n]
  else digit (t + (n - t) % (36 - t)) :: number bias (offset + 36) ((n - t) / (36 - t))
termination_by n
decreasing_by
  have := one_le_threshold bias offset
  exact Nat.lt_of_le_of_lt (Nat.div_le_self _ _) (by omega)

/-- How often a number can lose its last digit before it is small, in offsets. -/
def scaled (n : Nat) : Nat :=
  if 455 < n then 36 + scaled (n / 35) else 36 * n / (n + 38)

/-- The bias for the next number, after one that placed the last of `count` characters. -/
def nextBias (n count : Nat) (first : Bool) : Nat :=
  let halved := if first then n / 700 else n / 2
  scaled (halved + halved / count)

/-! ## Labels -/

/-- Where the next insertion starts to count: `count` characters are there, of which the last went
in before `position` and none is beyond `code`. -/
structure Cursor where
  count : Nat
  code : Nat := 0x80
  position : Nat := 0
  bias : Nat := 72
  first : Bool := true

namespace Cursor

/-- The places passed over on the way to a character. -/
def distance (p : Cursor) (code position : Nat) : Nat :=
  (code - p.code) * (p.count + 1) + position - p.position

def advance (p : Cursor) (code position n : Nat) : Cursor :=
  ⟨p.count + 1, code, position + 1, nextBias n (p.count + 1) p.first, false⟩

end Cursor

/-- The numbers of the characters of a label that are still to be inserted, each with its place in
the whole label. -/
def numbers (label : List Char) : Cursor → List (Char × Nat) → List Char
  | _, [] => []
  | p, (c, place) :: rest =>
    let position := ((label.take place).filter (· ≤ c)).length
    let n := p.distance c.toNat position
    number p.bias 36 n ++ numbers label (p.advance c.toNat position n) rest

def encode (label : List Char) : List Char :=
  let basic := label.filter isAscii
  let others := label.zipIdx.filter fun (c, _) => ! isAscii c
  let inserted := others.mergeSort fun (c, _) (d, _) => c ≤ d
  basic ++ (if basic = [] then [] else ['-']) ++ numbers label { count := basic.length } inserted

/-- A label as far as it is read, and a number as far as that is. -/
structure Partial where
  written : List Char
  cursor : Cursor
  value : Nat := 0
  weight : Nat := 1
  offset : Nat := 36

namespace Partial

/-- Puts in the character to which the number leads. -/
def insert? (p : Partial) (n : Nat) : Option Partial :=
  let place := p.cursor.position + n
  let code := p.cursor.code + place / (p.cursor.count + 1)
  let position := place % (p.cursor.count + 1)
  if code.isValidChar then
    some { written := p.written.insertIdx position (Char.ofNat code)
           cursor := p.cursor.advance code position n }
  else none

def step (p : Partial) (c : Char) : Option Partial := do
  let d ← digitValue? c
  let value := p.value + d * p.weight
  let t := threshold p.cursor.bias p.offset
  if d < t then p.insert? value
  else some { p with value := value, weight := p.weight * (36 - t), offset := p.offset + 36 }

end Partial

def decode (s : List Char) : Option (List Char) := do
  let tail := (s.reverse.takeWhile (· ≠ '-')).reverse
  let basic := s.take (s.length - tail.length - 1)
  let p ← tail.foldlM Partial.step { written := basic, cursor := { count := basic.length } }
  if p.offset = 36 ∧ basic.all isAscii then some p.written else none

end NodeBootstrap.Url.Punycode
