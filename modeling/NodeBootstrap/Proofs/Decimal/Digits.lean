import NodeBootstrap.Decimal.Reading
import NodeBootstrap.Proofs.Text.Utf8

/-! # Decimal digits

A number that is written in decimal digits is read back, as a text and from the octets of a file. -/

namespace NodeBootstrap.Decimal

open Text

theorem isDigit_of_mem_toDigits {n : Nat} {c : Char} (h : c ∈ Nat.toDigits 10 n) : isDigit c := by
  have hc := Nat.isDigit_of_mem_toDigits (by omega) (by omega) h
  simpa [Char.isDigit, isDigit, Char.le_def] using hc

theorem not_mem_toDigits {c : Char} (h : c.isDigit = false) (n : Nat) : c ∉ Nat.toDigits 10 n := by
  intro hmem
  have hdigit := Nat.isDigit_of_mem_toDigits (by omega) (by omega) hmem
  rw [h] at hdigit
  cases hdigit

theorem readDigits?_toDigits (n : Nat) : readDigits? (Nat.toDigits 10 n) = some n := by
  have hdigits : (Nat.toDigits 10 n).all isDigit :=
    List.all_eq_true.mpr fun _ => isDigit_of_mem_toDigits
  rw [readDigits?, if_pos ⟨Nat.toDigits_ne_nil, hdigits⟩, Nat.ofDigitChars_ten_toDigits]

theorem readNat?_toDigits {n limit : Nat} (h : n ≤ limit) :
    readNat? limit (Nat.toDigits 10 n) = some n := by
  have hsign : ∀ rest, Nat.toDigits 10 n ≠ '+' :: rest := by
    intro rest heq
    exact not_mem_toDigits (c := '+') rfl n (heq ▸ List.mem_cons_self)
  rw [readNat?, readDigits?_toDigits, Option.filter_some, if_pos (decide_eq_true h)]
  exact hsign

theorem toString_nat_injective {m n : Nat} (h : toString m = toString n) : m = n := by
  rw [Nat.toString_eq_ofList_toDigits, Nat.toString_eq_ofList_toDigits, String.ofList_inj] at h
  exact Option.some.inj (by rw [← readDigits?_toDigits m, h, readDigits?_toDigits])

/-! ## Octets -/

/-- The octets of a number that is written in decimal digits and nothing else. -/
def octets (n : Nat) : List UInt8 := (Nat.toDigits 10 n).map fun c => UInt8.ofNat c.toNat

theorem toNat_of_mem_toDigits {n : Nat} {c : Char} (h : c ∈ Nat.toDigits 10 n) :
    '0'.toNat ≤ c.toNat ∧ c.toNat ≤ '9'.toNat :=
  Char.isDigit_iff_toNat.mp (Nat.isDigit_of_mem_toDigits (by omega) (by omega) h)

theorem ascii_of_mem_toDigits {n : Nat} {c : Char} (h : c ∈ Nat.toDigits 10 n) : c.toNat < 0x80 :=
  Nat.lt_of_le_of_lt (toNat_of_mem_toDigits h).2 (by decide)

theorem toList_toUTF8_toString (n : Nat) : (toString n).toUTF8.toList = octets n := by
  rw [Utf8.toList_toUTF8, Nat.toString_eq_ofList_toDigits, String.toList_ofList,
    Utf8.octets_of_ascii fun _ => ascii_of_mem_toDigits, octets]

theorem not_mem_octets {b : UInt8} (h : b.toNat < '0'.toNat) (n : Nat) : b ∉ octets n := by
  intro hmem
  obtain ⟨c, hc, rfl⟩ := List.mem_map.mp hmem
  have hascii := ascii_of_mem_toDigits hc
  rw [Utf8.toNat_ofNat_of_lt (by omega)] at h
  exact Nat.not_lt_of_le (toNat_of_mem_toDigits hc).1 h

theorem decodeLossy_octets (n : Nat) : Utf8.decodeLossy (octets n) = Nat.toDigits 10 n := by
  rw [← toList_toUTF8_toString, Utf8.decodeLossy_toUTF8, Nat.toString_eq_ofList_toDigits,
    String.toList_ofList]

end NodeBootstrap.Decimal
