/-! # Distinguished encoding

A value is written as a tag, the length of its content, and the content, which may again be a row of
values. -/

namespace NodeBootstrap.Tls

structure DerValue where
  tag : UInt8
  content : List UInt8
  deriving DecidableEq, Repr

namespace DerValue

def integerTag : UInt8 := 0x02

def bitsTag : UInt8 := 0x03

def octetsTag : UInt8 := 0x04

def identifierTag : UInt8 := 0x06

def sequenceTag : UInt8 := 0x30

/-- The tag of a value that is known by its number in the sequence around it. -/
def numberedTag (n : UInt8) : UInt8 := 0xA0 + n

/-- A length, and the octets after it. -/
def length? : List UInt8 → Option (Nat × List UInt8)
  | [] => none
  | b :: rest =>
    if b < 0x80 then some (b.toNat, rest)
    else
      let count := b.toNat - 0x80
      if count = 0 ∨ count > 4 ∨ rest.length < count then none
      else some ((rest.take count).foldl (fun n b => n * 256 + b.toNat) 0, rest.drop count)

/-- The first value, and the octets after it. -/
def first? : List UInt8 → Option (DerValue × List UInt8)
  | [] => none
  | tag :: rest => do
    let (n, body) ← length? rest
    if body.length < n then none else some (⟨tag, body.take n⟩, body.drop n)

def rowWithin : (rounds : Nat) → List UInt8 → Option (List DerValue)
  | _, [] => some []
  | 0, _ => none
  | rounds + 1, octets => do
    let (value, rest) ← first? octets
    return value :: (← rowWithin rounds rest)

/-- A row of values. Each of them takes up octets, so there are no more of them than octets. -/
def row? (octets : List UInt8) : Option (List DerValue) := rowWithin octets.length octets

/-- The values in a value of a tag. -/
def inside? (tag : UInt8) (v : DerValue) : Option (List DerValue) :=
  if v.tag = tag then row? v.content else none

/-- The values in the one sequence that the octets are. -/
def sequence? (octets : List UInt8) : Option (List DerValue) := do
  match ← row? octets with
  | [v] => v.inside? sequenceTag
  | _ => none

end DerValue

end NodeBootstrap.Tls
