/-! # Base64

Six bits for each character, with signs of equality to fill up the last four. -/

namespace NodeBootstrap.Tls

def base64Value? (c : Char) : Option Nat :=
  if 'A' ≤ c ∧ c ≤ 'Z' then some (c.toNat - 'A'.toNat)
  else if 'a' ≤ c ∧ c ≤ 'z' then some (c.toNat - 'a'.toNat + 26)
  else if '0' ≤ c ∧ c ≤ '9' then some (c.toNat - '0'.toNat + 52)
  else if c = '+' then some 62
  else if c = '/' then some 63
  else none

def octet (n : Nat) : UInt8 := n.toUInt8

/-- The octets of groups of four values; a short group at the end has an octet less than values. -/
def groups : List Nat → Option (List UInt8)
  | a :: b :: c :: d :: rest =>
    (groups rest).map fun tail =>
      octet (a * 4 + b / 16) :: octet (b * 16 + c / 4) :: octet (c * 64 + d) :: tail
  | [a, b, c] => some [octet (a * 4 + b / 16), octet (b * 16 + c / 4)]
  | [a, b] => some [octet (a * 4 + b / 16)]
  | [_] => none
  | [] => some []

/-- The octets of a text without blanks. -/
def decodeBase64 (s : List Char) : Option (List UInt8) := do
  let padding := (s.reverse.takeWhile (· == '=')).length
  if padding > 2 ∨ s.length % 4 ≠ 0 then none
  groups (← (s.take (s.length - padding)).mapM base64Value?)

end NodeBootstrap.Tls
