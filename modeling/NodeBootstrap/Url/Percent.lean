import NodeBootstrap.Text.Digits
import NodeBootstrap.Text.Utf8

/-! # Percent encoding

A character that may not stand for itself is written as its UTF-8 octets, each after a percent
sign. -/

namespace NodeBootstrap.Url

open Text

def upperHex (n : Nat) : Char := (Nat.digitChar n).toUpper

def percentOctet (b : UInt8) : List Char :=
  ['%', upperHex (b.toNat / 16), upperHex (b.toNat % 16)]

/-- Controls and everything beyond ASCII are encoded everywhere. -/
def isControl (c : Char) : Bool := c.toNat < 0x20 || 0x7f ≤ c.toNat

def percentEncode (encoded : Char → Bool) (s : List Char) : List Char :=
  s.flatMap fun c =>
    if encoded c then (String.utf8EncodeChar c).flatMap percentOctet else [c]

def oneOf (chars : String) (c : Char) : Bool := chars.toList.contains c

def inFragment (c : Char) : Bool := isControl c || oneOf " \"<>`" c

def inQuery (c : Char) : Bool := isControl c || oneOf " \"#<>" c

def inSpecialQuery (c : Char) : Bool := inQuery c || c = '\''

def inPath (c : Char) : Bool := inFragment c || oneOf "#?\x7b\x7d" c

def inUserinfo (c : Char) : Bool := inPath c || oneOf "/:;=@[\\]^|" c

/-- The octets of a text; a percent sign without two digits stands for itself. -/
def percentDecode : List Char → List UInt8
  | '%' :: a :: b :: rest =>
    match hexValue? a, hexValue? b with
    | some x, some y => (x * 16 + y).toUInt8 :: percentDecode rest
    | _, _ => '%'.toNat.toUInt8 :: percentDecode (a :: b :: rest)
  | c :: rest => String.utf8EncodeChar c ++ percentDecode rest
  | [] => []

end NodeBootstrap.Url
