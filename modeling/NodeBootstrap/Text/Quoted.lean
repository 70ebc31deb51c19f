import NodeBootstrap.Text.Printable

/-! # Quoted text

A text between double quotes in which quotes, backslashes, control characters and everything that
would not show are escaped. -/

namespace NodeBootstrap.Text.Quoted

/-- Shown only as a code point. -/
def hidden (c : Char) : Bool := graphemeExtenders.contains c || unprintables.contains c

def codePoint (c : Char) : List Char :=
  ['\\', 'u', '\x7b'] ++ Nat.toDigits 16 c.toNat ++ ['\x7d']

def encodeChar (c : Char) : List Char :=
  if c = '\x00' then ['\\', '0']
  else if c = '\t' then ['\\', 't']
  else if c = '\r' then ['\\', 'r']
  else if c = '\n' then ['\\', 'n']
  else if c = '\\' then ['\\', '\\']
  else if c = '"' then ['\\', '"']
  else if hidden c then codePoint c
  else [c]

def encode (s : List Char) : List Char := '"' :: s.flatMap encodeChar ++ ['"']

end Quoted

def quoted (s : String) : String := String.ofList (Quoted.encode s.toList)

end NodeBootstrap.Text
