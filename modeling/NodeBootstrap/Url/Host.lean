import NodeBootstrap.Config.Fault
import NodeBootstrap.Url.Domain
import NodeBootstrap.Url.Percent

/-! # Hosts

A host is a name, an IPv4 address or an IPv6 address. A name whose last part is a number must be an
address. -/

namespace NodeBootstrap

inductive Host where
  | name (text : String)
  | ipv4 (address : Nat)
  | ipv6 (pieces : List Nat)
  deriving DecidableEq, Repr

namespace Host

open Url Text

/-! ## Texts -/

def ipv4Text (address : Nat) : String :=
  let octet (i : Nat) : String := toString (address >>> (8 * i) % 256)
  ".".intercalate [octet 3, octet 2, octet 1, octet 0]

/-- The first of the longest runs of zeros of at least two pieces: its start and its length. -/
def longestZeros (pieces : List Nat) : Option (Nat × Nat) :=
  let runAt (i : Nat) : Nat := ((pieces.drop i).takeWhile (· == 0)).length
  let longest := ((List.range pieces.length).map runAt).foldl max 0
  if longest < 2 then none
  else ((List.range pieces.length).find? fun i => runAt i = longest).map (·, longest)

def ipv6Text (pieces : List Nat) : String :=
  let shown (ps : List Nat) : String :=
    ":".intercalate (ps.map fun p => String.ofList (Nat.toDigits 16 p))
  match longestZeros pieces with
  | none => shown pieces
  | some (start, length) =>
    shown (pieces.take start) ++ "::" ++ shown (pieces.drop (start + length))

def text : Host → String
  | name s => s
  | ipv4 address => ipv4Text address
  | ipv6 pieces => "[" ++ ipv6Text pieces ++ "]"

/-! ## Reading addresses -/

/-- A part of an IPv4 address, in one of three bases; nothing after the mark of a base is zero. -/
def ipv4Number? (s : List Char) : Option Nat :=
  match s with
  | [] => none
  | '0' :: 'x' :: rest => digitsIn? 16 rest
  | '0' :: 'X' :: rest => digitsIn? 16 rest
  | '0' :: c :: rest => digitsIn? 8 (c :: rest)
  | _ => digitsIn? 10 s

/-- The parts between dots; a dot at the end does not count. -/
def dottedParts (s : List Char) : List (List Char) :=
  let ps := parts '.' s
  if ps.getLast? = some [] ∧ ps.length > 1 then ps.dropLast else ps

def endsInNumber (s : List Char) : Bool :=
  match (dottedParts s).getLast? with
  | none => false
  | some last => (last ≠ [] && last.all (·.isDigit)) || (ipv4Number? last).isSome

/-- All parts but the last are octets; the last takes the octets that are left. -/
def ipv4? (s : List Char) : Option Nat := do
  let ps := dottedParts s
  if ps.length > 4 then none
  let numbers ← ps.mapM ipv4Number?
  let last ← numbers.getLast?
  let octets := numbers.dropLast
  if octets.any (· > 255) ∨ last >>> (8 * (4 - octets.length)) ≠ 0 then none
  some (octets.zipIdx.foldl (fun sum (n, i) => sum + n <<< (8 * (3 - i))) last)

def piece? (s : List Char) : Option Nat :=
  if 1 ≤ s.length ∧ s.length ≤ 4 then digitsIn? 16 s else none

/-- An octet in decimal digits, without zeros in front. -/
def octet? (s : List Char) : Option Nat := do
  if s = [] ∨ s.length > 3 ∨ (s.head? = some '0' ∧ s.length > 1) then none
  let n ← digitsIn? 10 s
  if n ≤ 255 then some n else none

/-- Four octets as two pieces. -/
def embeddedIpv4? (s : List Char) : Option (List Nat) := do
  match ← (parts '.' s).mapM octet? with
  | [a, b, c, d] => some [a * 256 + b, c * 256 + d]
  | _ => none

/-- The pieces between colons. The last one may be an embedded address. -/
def pieces? (s : List Char) : Option (List Nat) :=
  let rec go : List (List Char) → Option (List Nat)
    | [] => some []
    | [last] => if last.contains '.' then embeddedIpv4? last else (piece? last).map ([·])
    | p :: ps => do return (← piece? p) :: (← go ps)
  if s = [] then some [] else go (parts ':' s)

/-- The text before and after the first pair of colons. -/
def splitGap : List Char → Option (List Char × List Char)
  | ':' :: ':' :: rest => some ([], rest)
  | c :: rest => (splitGap rest).map fun (before, after) => (c :: before, after)
  | [] => none

/-- Eight pieces; a pair of colons stands for at least one piece of zero. -/
def ipv6? (s : List Char) : Option (List Nat) :=
  match splitGap s with
  | none => (pieces? s).filter (·.length = 8)
  | some (before, after) => do
    let front ← pieces? before
    let back ← pieces? after
    if before.contains '.' ∨ front.length + back.length > 7 then none
    some (front ++ List.replicate (8 - front.length - back.length) 0 ++ back)

/-! ## Reading hosts -/

def bracketed (s : List Char) : Except UrlError Host :=
  match s.getLast?, ipv6? s.dropLast with
  | some ']', some pieces => .ok (.ipv6 pieces)
  | _, _ => .error .invalidIpv6

def forbidden (c : Char) : Bool :=
  c.toNat ≤ 0x20 || c = '\x7f' || oneOf "#%/:<>?@[\\]^|" c

/-- The host of a URL of a known scheme. -/
def parse (s : List Char) : Except UrlError Host :=
  match s with
  | '[' :: rest => bracketed rest
  | _ =>
    match Domain.ascii? (Utf8.decodeLossy (percentDecode s)) with
    | none => .error .invalidDomainName
    | some domain =>
      if domain.any forbidden then .error .invalidDomainName
      else if domain = [] then .error .emptyHost
      else if endsInNumber domain then
        match ipv4? domain with
        | some address => .ok (.ipv4 address)
        | none => .error .invalidIpv4
      else .ok (.name (String.ofList domain))

def forbiddenOther (c : Char) : Bool :=
  oneOf "\x00\t\n\r #/:<>?@[\\]^|" c

/-- The host of a URL of any other scheme, which is kept as it is. -/
def parseOther (s : List Char) : Except UrlError Host :=
  match s with
  | '[' :: rest => bracketed rest
  | _ =>
    if s.any forbiddenOther then .error .invalidDomainCharacter
    else .ok (.name (String.ofList (percentEncode isControl s)))

end Host

end NodeBootstrap
