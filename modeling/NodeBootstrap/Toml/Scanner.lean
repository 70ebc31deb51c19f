import NodeBootstrap.Decimal.Reading
import NodeBootstrap.Text.Digits

/-! # Scanning TOML

Blanks, comments, line ends, keys and strings. Every scanner takes the text from where it starts and
returns what it read with the rest, or nothing where the text is malformed. -/

namespace NodeBootstrap.Toml

open Text

def isBlank (c : Char) : Bool := c = ' ' || c = '\t'

def skipBlanks (s : List Char) : List Char := s.dropWhile isBlank

/-- Control characters stand in no comment and in no string; the tab is not taken for one. -/
def isPrintable (c : Char) : Bool := c = '\t' || (' ' ≤ c && c ≠ '\x7f')

def newline? : List Char → Option (List Char)
  | '\n' :: rest => some rest
  | '\r' :: '\n' :: rest => some rest
  | _ => none

def skipComment : List Char → List Char
  | '#' :: rest => rest.dropWhile isPrintable
  | s => s

/-- The end of a line, after blanks and a comment; the text may end there as well. -/
def endLine (s : List Char) : Option (List Char) :=
  match skipComment (skipBlanks s) with
  | [] => some []
  | rest => newline? rest

/-- Blanks, comments and line ends, as many as there are in `rounds` lines. -/
def skipLines : (rounds : Nat) → List Char → List Char
  | 0, s => s
  | rounds + 1, s =>
    match newline? (skipComment (skipBlanks s)) with
    | some rest => skipLines rounds rest
    | none => skipComment (skipBlanks s)

def skipSpace (s : List Char) : List Char := skipLines s.length s

/-! ## Strings -/

/-- A character given by `count` hexadecimal digits, which must denote a scalar value. -/
def codePoint (count : Nat) (s : List Char) : Option (Char × List Char) := do
  let digits := s.take count
  if digits.length ≠ count then none
  let n ← digitsIn? 16 digits
  if n.isValidChar then some (Char.ofNat n, s.drop count) else none

/-- What follows a backslash. -/
def escape : List Char → Option (Char × List Char)
  | 'b' :: rest => some ('\x08', rest)
  | 't' :: rest => some ('\t', rest)
  | 'n' :: rest => some ('\n', rest)
  | 'f' :: rest => some ('\x0c', rest)
  | 'r' :: rest => some ('\r', rest)
  | 'e' :: rest => some ('\x1b', rest)
  | '"' :: rest => some ('"', rest)
  | '\\' :: rest => some ('\\', rest)
  | 'x' :: rest => codePoint 2 rest
  | 'u' :: rest => codePoint 4 rest
  | 'U' :: rest => codePoint 8 rest
  | _ => none

/-- A string in double quotes, from after its opening quote; `rounds` bounds its length. -/
def basicText : (rounds : Nat) → List Char → Option (List Char × List Char)
  | 0, _ => none
  | _, '"' :: rest => some ([], rest)
  | rounds + 1, '\\' :: rest => do
    let (c, rest) ← escape rest
    let (cs, rest) ← basicText rounds rest
    some (c :: cs, rest)
  | rounds + 1, c :: rest => do
    if isPrintable c then
      let (cs, rest) ← basicText rounds rest
      some (c :: cs, rest)
    else none
  | _, [] => none

/-- A string in single quotes, from after its opening quote. -/
def literalText (s : List Char) : Option (List Char × List Char) :=
  match s.dropWhile fun c => isPrintable c && c ≠ '\'' with
  | '\'' :: rest => some (s.takeWhile fun c => isPrintable c && c ≠ '\'', rest)
  | _ => none

/-- The end of a string in triple quotes: two more quotes may belong to the text. -/
def tripleEnd? (quote : Char) (s : List Char) : Option (List Char × List Char) :=
  let quotes := (s.takeWhile (· == quote)).length
  if 3 ≤ quotes ∧ quotes ≤ 5 then some (List.replicate (quotes - 3) quote, s.drop quotes) else none

/-- Blanks and line ends, as many as there are in `rounds` lines. -/
def skipEmptyLines : (rounds : Nat) → List Char → List Char
  | 0, s => skipBlanks s
  | rounds + 1, s =>
    match newline? (skipBlanks s) with
    | some rest => skipEmptyLines rounds rest
    | none => skipBlanks s

/-- A backslash at the end of a line takes the line end and all space after it out of the text. -/
def lineJoin? (s : List Char) : Option (List Char) :=
  (newline? (skipBlanks s)).map fun rest => skipEmptyLines rest.length rest

/-- The text between triple quotes; `escapes` tells the kind in which a backslash escapes. -/
def tripleText (quote : Char) (escapes : Bool) :
    (rounds : Nat) → List Char → Option (List Char × List Char)
  | 0, _ => none
  | rounds + 1, s =>
    if (s.takeWhile (· == quote)).length ≥ 3 then tripleEnd? quote s
    else
      let next (c : Char) (rest : List Char) : Option (List Char × List Char) :=
        (tripleText quote escapes rounds rest).map fun (cs, rest) => (c :: cs, rest)
      match s with
      | [] => none
      | '\\' :: rest =>
        if ¬ escapes then next '\\' rest
        else
          match lineJoin? rest with
          | some rest => tripleText quote escapes rounds rest
          | none => do
            let (c, rest) ← escape rest
            next c rest
      | '\n' :: rest => next '\n' rest
      | '\r' :: '\n' :: rest => next '\r' ('\n' :: rest)
      | c :: rest => if isPrintable c then next c rest else none

/-- A line end right after the opening quotes is no part of the text. -/
def tripleQuoted (quote : Char) (escapes : Bool) (s : List Char) :
    Option (List Char × List Char) :=
  let body := (newline? s).getD s
  tripleText quote escapes (body.length + 1) body

def string? : List Char → Option (List Char × List Char)
  | '"' :: '"' :: '"' :: rest => tripleQuoted '"' true rest
  | '\'' :: '\'' :: '\'' :: rest => tripleQuoted '\'' false rest
  | '"' :: rest => basicText (rest.length + 1) rest
  | '\'' :: rest => literalText rest
  | _ => none

/-! ## Keys -/

def isKeyChar (c : Char) : Bool := c.isAlphanum || c = '_' || c = '-'

def key : List Char → Option (String × List Char)
  | '"' :: rest => (basicText (rest.length + 1) rest).map fun (cs, rest) => (String.ofList cs, rest)
  | '\'' :: rest => (literalText rest).map fun (cs, rest) => (String.ofList cs, rest)
  | s =>
    match s.takeWhile isKeyChar with
    | [] => none
    | word => some (String.ofList word, s.dropWhile isKeyChar)

/-- Keys separated by dots, with blanks around them. -/
def keyPath : (rounds : Nat) → List Char → Option (List String × List Char)
  | 0, _ => none
  | rounds + 1, s => do
    let (k, rest) ← key (skipBlanks s)
    match skipBlanks rest with
    | '.' :: rest =>
      let (ks, rest) ← keyPath rounds rest
      some (k :: ks, rest)
    | rest => some ([k], rest)

end NodeBootstrap.Toml
