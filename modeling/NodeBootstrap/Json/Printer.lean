import NodeBootstrap.Decimal.Shortest
import NodeBootstrap.Json.Value

/-! # Printing JSON

The compact form: no blanks between tokens, and in strings only what must be escaped is escaped. -/

namespace NodeBootstrap.Json

def hexDigits (n : Nat) : List Char := [Nat.digitChar (n / 16), Nat.digitChar (n % 16)]

def encodeChar (c : Char) : List Char :=
  if c = '"' then ['\\', '"']
  else if c = '\\' then ['\\', '\\']
  else if c = '\x08' then ['\\', 'b']
  else if c = '\t' then ['\\', 't']
  else if c = '\n' then ['\\', 'n']
  else if c = '\x0c' then ['\\', 'f']
  else if c = '\r' then ['\\', 'r']
  else if c.toNat < 0x20 then ['\\', 'u', '0', '0'] ++ hexDigits c.toNat
  else [c]

/-- The text of a string from after its opening quote to its closing one. -/
def encodeTail (s : List Char) : List Char := s.flatMap encodeChar ++ ['"']

def encodeString (s : String) : List Char := '"' :: encodeTail s.toList

namespace Number

def render : Number → List Char
  | whole n => (toString n).toList
  | float x => (Decimal.renderPointed x).toList

end Number

mutual

def encode : Json → List Char
  | null => ['n', 'u', 'l', 'l']
  | boolean true => ['t', 'r', 'u', 'e']
  | boolean false => ['f', 'a', 'l', 's', 'e']
  | number n => n.render
  | string s => encodeString s
  | array [] => ['[', ']']
  | array (item :: items) => '[' :: encode item ++ encodeItems items
  | object [] => ['\x7b', '\x7d']
  | object ((key, value) :: fields) =>
    '\x7b' :: encodeString key ++ ':' :: encode value ++ encodeFields fields

/-- The further items of an array, and its end. -/
def encodeItems : List Json → List Char
  | [] => [']']
  | item :: items => ',' :: encode item ++ encodeItems items

/-- The further fields of an object, and its end. -/
def encodeFields : List (String × Json) → List Char
  | [] => ['\x7d']
  | (key, value) :: fields =>
    ',' :: encodeString key ++ ':' :: encode value ++ encodeFields fields

end

def render (j : Json) : String := String.ofList j.encode

end NodeBootstrap.Json
