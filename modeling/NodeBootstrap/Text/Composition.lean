import NodeBootstrap.Text.CompositionTable

/-! # Composed form

Characters that a text states one by one are composed, and marks on one character are put in the
order of their classes. This is the normal form C of Unicode for texts of which each character is in
that form by itself. -/

namespace NodeBootstrap.Text

def combiningClass (c : Char) : Nat :=
  ((combiningClasses.find? fun row => row.2.contains c).map Prod.fst).getD 0

/-! ## Hangul

A syllable is computed from its consonant, its vowel and the consonant after them, if there is one. -/

namespace Hangul

def syllables : Nat := 0xAC00
def leads : Nat := 0x1100
def vowels : Nat := 0x1161
/-- No final consonant at all, followed by all of them. -/
def tails : Nat := 0x11A7

def isSyllable (n : Nat) : Bool := syllables ≤ n && n < syllables + 19 * 21 * 28

def split? (c : Char) : Option (Char × Char) :=
  if isSyllable c.toNat then
    let place := c.toNat - syllables
    if place % 28 = 0 then
      some (Char.ofNat (leads + place / 28 / 21), Char.ofNat (vowels + place / 28 % 21))
    else some (Char.ofNat (syllables + place / 28 * 28), Char.ofNat (tails + place % 28))
  else none

def join? (c d : Char) : Option Char :=
  let (m, n) := (c.toNat, d.toNat)
  if leads ≤ m ∧ m < leads + 19 ∧ vowels ≤ n ∧ n < vowels + 21 then
    some (Char.ofNat (syllables + ((m - leads) * 21 + (n - vowels)) * 28))
  else if isSyllable m ∧ (m - syllables) % 28 = 0 ∧ tails < n ∧ n < tails + 28 then
    some (Char.ofNat (m + (n - tails)))
  else none

end Hangul

/-! ## Pairs -/

/-- The character at the place that a character has in another text. -/
def counterpart? (c : Char) (texts : String × String) : Option Char :=
  (texts.1.toList.zip texts.2.toList).lookup c

def join? (c d : Char) : Option Char :=
  (Hangul.join? c d).or <|
    compositions.findSome? fun (second, texts) =>
      if second = d.toNat then counterpart? c texts else none

def split? (c : Char) : Option (Char × Char) :=
  (Hangul.split? c).or <|
    compositions.findSome? fun (second, firsts, composed) =>
      (counterpart? c (composed, firsts)).map (·, Char.ofNat second)

/-! ## Texts -/

/-- The characters that a character is composed of, in at most so many steps. -/
def decompose : (steps : Nat) → Char → List Char
  | 0, c => [c]
  | steps + 1, c =>
    match split? c with
    | some (first, second) => decompose steps first ++ [second]
    | none => [c]

/-- Puts a mark behind those of its class, in front of those of higher ones; the text is reversed. -/
def insertMark (c : Char) : List Char → List Char
  | [] => [c]
  | d :: before =>
    if combiningClass c ≠ 0 ∧ combiningClass c < combiningClass d then d :: insertMark c before
    else c :: d :: before

def orderMarks (s : List Char) : List Char :=
  (s.foldl (fun before c => insertMark c before) []).reverse

/-- Composes a character with what follows it. The marks between them, reversed, did not compose
with it; one of the same class is in the way. -/
def composeWith (first : Char) (marks : List Char) : List Char → List Char
  | [] => first :: marks.reverse
  | c :: rest =>
    let clear := marks.head?.all fun mark => combiningClass mark < combiningClass c
    match if clear then join? first c else none with
    | some composed => composeWith composed marks rest
    | none =>
      if combiningClass c = 0 then first :: marks.reverse ++ composeWith c [] rest
      else composeWith first (c :: marks) rest

/-- Nothing below the first mark composes with anything below it, and no character is composed of more
than four. -/
def compose (s : List Char) : List Char :=
  if s.all (·.toNat < 0x300) then s
  else
    match orderMarks (s.flatMap (decompose 3)) with
    | [] => []
    | c :: rest => composeWith c [] rest

end NodeBootstrap.Text
