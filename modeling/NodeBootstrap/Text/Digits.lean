/-! # Digits

The values of digits and of numbers written in a base of at most sixteen. -/

namespace NodeBootstrap.Text

/-- The value of a hexadecimal digit, in either case. -/
def hexValue? (c : Char) : Option Nat :=
  if '0' ≤ c ∧ c ≤ '9' then some (c.toNat - '0'.toNat)
  else if 'a' ≤ c ∧ c ≤ 'f' then some (c.toNat - 'a'.toNat + 10)
  else if 'A' ≤ c ∧ c ≤ 'F' then some (c.toNat - 'A'.toNat + 10)
  else none

/-- The value of digits of a base, if that is all there are; no digits make zero. -/
def digitsIn? (base : Nat) (s : List Char) : Option Nat := do
  let values ← s.mapM fun c => (hexValue? c).filter (· < base)
  some (values.foldl (fun n d => n * base + d) 0)

theorem hexValue?_digitChar {d : Nat} (h : d < 16) : hexValue? (Nat.digitChar d) = some d := by
  have all : ∀ e ∈ List.range 16, hexValue? (Nat.digitChar e) = some e := by decide
  exact all d (List.mem_range.mpr h)

end NodeBootstrap.Text
