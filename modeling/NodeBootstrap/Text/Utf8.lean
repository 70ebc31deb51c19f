/-! # UTF-8

Octets become characters; what is no character becomes a stand-in, one for each longest beginning of
a character. -/

namespace NodeBootstrap.Text.Utf8

/-- What a lead octet announces: the number of octets to follow, the range of the first of them, and
the bits that it contributes itself. -/
structure Lead where
  following : Nat
  low : UInt8
  high : UInt8
  bits : UInt8

def lead? (b : UInt8) : Option Lead :=
  if 0xC2 ≤ b ∧ b ≤ 0xDF then some ⟨1, 0x80, 0xBF, b - 0xC0⟩
  else if b = 0xE0 then some ⟨2, 0xA0, 0xBF, 0⟩
  else if b = 0xED then some ⟨2, 0x80, 0x9F, 0xD⟩
  else if 0xE1 ≤ b ∧ b ≤ 0xEF then some ⟨2, 0x80, 0xBF, b - 0xE0⟩
  else if b = 0xF0 then some ⟨3, 0x90, 0xBF, 0⟩
  else if 0xF1 ≤ b ∧ b ≤ 0xF3 then some ⟨3, 0x80, 0xBF, b - 0xF0⟩
  else if b = 0xF4 then some ⟨3, 0x80, 0x8F, 4⟩
  else none

def isTail (b : UInt8) : Bool := 0x80 ≤ b && b ≤ 0xBF

/-- The character whose bits are those of a lead octet and of the tails after it. -/
def assemble (lead : Lead) (tails : List UInt8) : Char :=
  Char.ofNat (tails.foldl (fun n t => n * 64 + (t.toNat - 0x80)) lead.bits.toNat)

def decode (standIn : Char) : List UInt8 → List Char
  | [] => []
  | b :: t =>
    if b < 0x80 then Char.ofNat b.toNat :: decode standIn t
    else
      match lead? b with
      | none => standIn :: decode standIn t
      | some lead =>
        match t with
        | [] => [standIn]
        | c₁ :: t₁ =>
          if ¬ (lead.low ≤ c₁ ∧ c₁ ≤ lead.high) then standIn :: decode standIn (c₁ :: t₁)
          else if lead.following = 1 then assemble lead [c₁] :: decode standIn t₁
          else
            match t₁ with
            | [] => [standIn]
            | c₂ :: t₂ =>
              if ¬ isTail c₂ then standIn :: decode standIn (c₂ :: t₂)
              else if lead.following = 2 then assemble lead [c₁, c₂] :: decode standIn t₂
              else
                match t₂ with
                | [] => [standIn]
                | c₃ :: t₃ =>
                  if ¬ isTail c₃ then standIn :: decode standIn (c₃ :: t₃)
                  else assemble lead [c₁, c₂, c₃] :: decode standIn t₃

def replacement : Char := '\uFFFD'

/-- The text of the octets, with the replacement character for what is no text. -/
def decodeLossy (bytes : List UInt8) : List Char := decode replacement bytes

/-- The octets after a byte order mark, if one stands in front. -/
def skipMark : List UInt8 → List UInt8
  | 0xEF :: 0xBB :: 0xBF :: rest => rest
  | bytes => bytes

/-- A character that the octets do not hold, as a stand-in that can be told apart from them. -/
def freshFor (bytes : List UInt8) : Char :=
  let text := decodeLossy bytes
  let candidates := (List.range (bytes.length + 1)).map fun n => Char.ofNat (0xF0000 + n)
  (candidates.find? fun c => ¬ text.contains c).getD replacement

end NodeBootstrap.Text.Utf8
