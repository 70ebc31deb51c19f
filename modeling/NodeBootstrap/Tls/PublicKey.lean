import NodeBootstrap.Tls.Der

/-! # Public keys

A certificate states the public key of its owner, and most private keys hold theirs as well, so that
the two can be compared. -/

namespace NodeBootstrap.Tls

inductive PublicKey where
  /-- A point of an elliptic curve. -/
  | point (octets : List UInt8)
  | rsa (modulus exponent : List UInt8)
  /-- A key of another kind, which is not compared. -/
  | other
  deriving DecidableEq, Repr

namespace PublicKey

open DerValue

/-- The identifier of keys on elliptic curves. -/
def curveIdentifier : List UInt8 := [0x2A, 0x86, 0x48, 0xCE, 0x3D, 0x02, 0x01]

def rsaIdentifier : List UInt8 := [0x2A, 0x86, 0x48, 0x86, 0xF7, 0x0D, 0x01, 0x01, 0x01]

/-- The octets of a value of bits, none of which is left unused. -/
def wholeBits? (v : DerValue) : Option (List UInt8) :=
  match v.content with
  | 0 :: octets => if v.tag = bitsTag then some octets else none
  | _ => none

/-- The identifier of an algorithm, apart from its parameters. -/
def identifier? (algorithm : DerValue) : Option (List UInt8) := do
  let v ← (← algorithm.inside? sequenceTag).head?
  if v.tag = identifierTag then some v.content else none

def ofNumbers? : List DerValue → Option PublicKey
  | modulus :: exponent :: _ =>
    if modulus.tag = integerTag ∧ exponent.tag = integerTag then
      some (rsa modulus.content exponent.content)
    else none
  | _ => none

/-- A key as a certificate states it: its algorithm, and bits. -/
def ofStatement? (v : DerValue) : Option PublicKey := do
  match ← v.inside? sequenceTag with
  | [algorithm, bits] =>
    let identifier ← identifier? algorithm
    let octets ← wholeBits? bits
    if identifier = curveIdentifier then some (point octets)
    else if identifier = rsaIdentifier then ofNumbers? (← sequence? octets)
    else some other
  | _ => none

/-- The key that a certificate is about. Its version may be left out; five values stand before the
key. -/
def ofCertificate? (octets : List UInt8) : Option PublicKey := do
  let [statement, _algorithm, _signature] ← sequence? octets | none
  let fields ← statement.inside? sequenceTag
  let unversioned := match fields with
    | v :: rest => if v.tag = numberedTag 0 then rest else fields
    | [] => []
  ofStatement? (← unversioned[5]?)

/-- The key in a private key of a curve, which must hold it. -/
def ofCurveKey? (octets : List UInt8) : Option PublicKey := do
  let fields ← sequence? octets
  let v ← fields.find? (·.tag = numberedTag 1)
  return point (← wholeBits? (← (← row? v.content).head?))

/-- The key in a private key of two primes, after the version. -/
def ofRsaKey? (octets : List UInt8) : Option PublicKey := do
  ofNumbers? (← sequence? octets).tail

/-- The key in a private key that names its algorithm. -/
def ofNamedKey? (octets : List UInt8) : Option PublicKey := do
  match ← sequence? octets with
  | _version :: algorithm :: key :: _ =>
    let identifier ← identifier? algorithm
    if key.tag ≠ octetsTag then none
    else if identifier = curveIdentifier then ofCurveKey? key.content
    else if identifier = rsaIdentifier then ofRsaKey? key.content
    else some other
  | _ => none

/-- Whether two keys may be the same, as far as they can be compared. -/
def agrees (stated held : PublicKey) : Bool := held = other || stated = held

end PublicKey

end NodeBootstrap.Tls
