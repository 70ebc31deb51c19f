import Mathlib.Data.List.Basic
import NodeBootstrap.Proofs.Decimal.Digits
import NodeBootstrap.Proofs.Json.Grammar
import NodeBootstrap.Proofs.Results

/-! # Scanning what the grammar writes

Strings and numbers are scanned from any text that the grammar gives for them, and the scanner stops
where that text ends. -/

namespace NodeBootstrap.Json

open Text

/-! ## Blanks -/

theorem skipBlanks_append {blanks : List Char} (h : Blanks blanks) (s : List Char) :
    skipBlanks (blanks ++ s) = skipBlanks s :=
  List.dropWhile_append_of_pos h

theorem skipBlanks_cons {c : Char} (h : ¬isJsonBlank c) (s : List Char) :
    skipBlanks (c :: s) = c :: s :=
  List.dropWhile_cons_of_neg h

theorem skipBlanks_before {before : List Char} (h : Blanks before) {c : Char}
    (hc : ¬isJsonBlank c) (rest : List Char) : skipBlanks (before ++ c :: rest) = c :: rest := by
  rw [skipBlanks_append h, skipBlanks_cons hc]

theorem mem_blanks {c : Char} (h : isJsonBlank c) : c ∈ [' ', '\t', '\n', '\r'] := by
  simpa [isJsonBlank, or_assoc] using h

/-! ## Strings -/

theorem escapedChar?_of_mem {letter c : Char} (h : (letter, c) ∈ escapes) :
    letter ≠ 'u' ∧ escapedChar? letter = some c := by
  have all : ∀ pair ∈ escapes, pair.1 ≠ 'u' ∧ escapedChar? pair.1 = some pair.2 := by decide
  exact all _ h

section
variable (bad : Char → Bool) (rest : List Char)

/-- A unit that is complete by itself, or after a leading one, is a character. -/
theorem keepString_unit {digits : List Char} {n : Nat} (h : UnitText n digits)
    {leading : Option Nat} {c : Char} (complete : completeUnit leading n = .ok (some c, .plain)) :
    keepString bad (.unit leading 0 0) (digits ++ rest) =
      (keepString bad .plain rest).map fun (cs, after) => (c :: cs, after) := by
  cases h with
  | digits ha hb hc hd => simp [keepString, ha, hb, hc, hd, complete]

theorem keepString_leading {digits : List Char} {n : Nat} (h : UnitText n digits)
    (leading : isLeading n) :
    keepString bad (.unit none 0 0) (digits ++ rest) = keepString bad (.afterLeading n) rest := by
  cases h with
  | digits ha hb hc hd => simp [keepString, ha, hb, hc, hd, completeUnit, leading]

theorem completeUnit_toNat (c : Char) : completeUnit none c.toNat = .ok (some c, .plain) := by
  have valid : c.toNat < 0xD800 ∨ 0xDFFF < c.toNat ∧ c.toNat < 0x110000 := c.valid
  have hleading : isLeading c.toNat = false := by simp [isLeading]; omega
  have htrailing : isTrailing c.toNat = false := by simp [isTrailing]; omega
  simp [completeUnit, hleading, htrailing]

theorem completeUnit_pair {c : Char} (beyond : 0x10000 ≤ c.toNat) :
    isLeading (0xD800 + (c.toNat - 0x10000) / 0x400) ∧
      completeUnit (some (0xD800 + (c.toNat - 0x10000) / 0x400))
        (0xDC00 + (c.toNat - 0x10000) % 0x400) = .ok (some c, .plain) := by
  have valid : c.toNat < 0xD800 ∨ 0xDFFF < c.toNat ∧ c.toNat < 0x110000 := c.valid
  have hleading : isLeading (0xD800 + (c.toNat - 0x10000) / 0x400) := by simp [isLeading]; omega
  have htrailing : isTrailing (0xDC00 + (c.toNat - 0x10000) % 0x400) := by
    simp [isTrailing]
    omega
  have hjoined : 0x10000 + (0xD800 + (c.toNat - 0x10000) / 0x400 - 0xD800) * 0x400 +
      (0xDC00 + (c.toNat - 0x10000) % 0x400 - 0xDC00) = c.toNat := by omega
  refine ⟨hleading, ?_⟩
  simp only [completeUnit, htrailing, joinSurrogates, hjoined, Char.ofNat_toNat, ↓reduceIte]

/-- A character is kept, however it is written. -/
theorem keepString_char {c : Char} {text : List Char} (h : CharText c text) (good : bad c = false) :
    keepString bad .plain (text ++ rest) =
      (keepString bad .plain rest).map fun (cs, after) => (c :: cs, after) := by
  cases h with
  | plain c printable quote backslash =>
      simp [keepString, quote, backslash, good, Nat.not_lt.mpr printable]
  | escaped letter c h =>
      obtain ⟨hu, hletter⟩ := escapedChar?_of_mem h
      simp [keepString, hu, hletter]
  | unit c digits h =>
      have hkept := keepString_unit bad rest h (completeUnit_toNat c)
      simpa [keepString] using hkept
  | pair c leading trailing beyond hleading htrailing =>
      obtain ⟨isLeading, complete⟩ := completeUnit_pair beyond
      have hfirst := keepString_leading bad ('\\' :: 'u' :: (trailing ++ rest)) hleading isLeading
      have hsecond := keepString_unit bad rest htrailing complete
      simpa [keepString, hfirst] using hsecond

/-- A string is kept as the text that it was written for. -/
theorem keepString_of_text {cs text : List Char} (h : StringText cs text)
    (good : ∀ c ∈ cs, bad c = false) :
    keepString bad .plain (text ++ rest) = .ok (cs, rest) := by
  induction h with
  | nil => rfl
  | cons first later ih =>
      rw [List.append_assoc, keepString_char bad _ first (good _ List.mem_cons_self),
        ih fun c hc => good c (List.mem_cons_of_mem _ hc)]
      rfl

end

/-! ## Numbers -/

open Decimal (isDigit isDigit_of_mem_toDigits)

/-- What may stand after a value: nothing, a blank, a comma or a closing bracket. -/
def Delimited (rest : List Char) : Prop :=
  ∀ c ∈ rest.head?, isJsonBlank c ∨ c ∈ [',', ']', '\x7d']

theorem delimited_append {after : List Char} (h : Blanks after) {c : Char}
    (hc : c ∈ [',', ']', '\x7d']) (rest : List Char) : Delimited (after ++ c :: rest) := by
  cases after with
  | nil => exact fun d hd => .inr (Option.some.inj hd ▸ hc)
  | cons b after => exact fun d hd => .inl (h d (Option.some.inj hd ▸ List.mem_cons_self))

theorem Delimited.not_digit {rest : List Char} (h : Delimited rest) :
    ∀ c ∈ rest.head?, ¬isDigit c ∧ c ∉ ['.', 'e', 'E'] := by
  intro c hc
  have hmem : c ∈ [' ', '\t', '\n', '\r', ',', ']', '\x7d'] := by
    rcases h c hc with h | h
    · exact List.mem_append_left [',', ']', '\x7d'] (mem_blanks h)
    · exact List.mem_append_right [' ', '\t', '\n', '\r'] h
  simp only [List.mem_cons, List.not_mem_nil, or_false] at hmem
  obtain rfl | rfl | rfl | rfl | rfl | rfl | rfl := hmem <;> decide

theorem head_toDigits (n : Nat) : ∃ c ds, Nat.toDigits 10 n = c :: ds ∧ isDigit c := by
  obtain ⟨c, ds, h⟩ := List.exists_cons_of_ne_nil (Nat.toDigits_ne_nil (n := n) (b := 10))
  exact ⟨c, ds, h, isDigit_of_mem_toDigits (n := n) (h ▸ List.mem_cons_self)⟩

/-- Only zero begins with a zero. -/
theorem head?_toDigits {n : Nat} (h : 0 < n) : (Nat.toDigits 10 n).head? ≠ some '0' := by
  induction n using Nat.strongRecOn with
  | ind n ih =>
      rw [Nat.toDigits_eq_if (by omega)]
      split
      · next hlt =>
        have all : ∀ d ∈ List.range 10, 0 < d → [Nat.digitChar d].head? ≠ some '0' := by decide
        exact all n (List.mem_range.mpr hlt) h
      · rw [List.head?_append_of_ne_nil _ Nat.toDigits_ne_nil]
        exact ih (n / 10) (by omega) (by omega)

theorem someDigits_append {ds rest : List Char} (hds : ∀ d ∈ ds, isDigit d) (ne : ds ≠ [])
    (h : ∀ c ∈ rest.head?, ¬isDigit c) : someDigits (ds ++ rest) = .ok (ds, rest) := by
  have hrest : rest.takeWhile isDigit = [] ∧ rest.dropWhile isDigit = rest := by
    cases rest with
    | nil => exact ⟨rfl, rfl⟩
    | cons c rest =>
        have hc := h c rfl
        exact ⟨List.takeWhile_cons_of_neg hc, List.dropWhile_cons_of_neg hc⟩
  rw [someDigits, List.takeWhile_append_of_pos hds, List.dropWhile_append_of_pos hds, hrest.1,
    hrest.2, List.append_nil]
  cases ds with
  | nil => exact absurd rfl ne
  | cons => rfl

theorem wholePart_toDigits (n : Nat) {rest : List Char} (h : ∀ c ∈ rest.head?, ¬isDigit c) :
    wholePart (Nat.toDigits 10 n ++ rest) = .ok (Nat.toDigits 10 n, rest) := by
  rcases Nat.eq_zero_or_pos n with rfl | hpos
  · rw [Nat.toDigits_zero]
    cases rest with
    | nil => rfl
    | cons c rest => simp [wholePart, h c rfl]
  · have hhead := head?_toDigits hpos
    have hdigits := someDigits_append
      (fun d (hd : d ∈ Nat.toDigits 10 n) => isDigit_of_mem_toDigits hd) Nat.toDigits_ne_nil h
    rw [wholePart]
    · exact hdigits
    · intro after hzero
      rw [← List.head?_append_of_ne_nil _ Nat.toDigits_ne_nil, hzero] at hhead
      exact hhead rfl

/-- Digits alone are a whole numeral. -/
theorem numeral_toDigits (n : Nat) {rest : List Char} (h : Delimited rest) :
    numeral (Nat.toDigits 10 n ++ rest) = .ok (⟨false, Nat.toDigits 10 n, none, none⟩, rest) := by
  have hfraction : fractionPart rest = .ok (none, rest) := by
    rw [fractionPart]
    intro after hdot
    subst hdot
    exact (h.not_digit '.' rfl).2 (by decide)
  have hexponent : exponentPart rest = .ok (none, rest) := by
    cases rest with
    | nil => rfl
    | cons c rest =>
        have hc := (h.not_digit c rfl).2
        simp only [List.mem_cons, not_or] at hc
        simp [exponentPart, hc]
  rw [numeral]
  · rw [wholePart_toDigits n fun c hc => (h.not_digit c hc).1]
    simp only [hfraction, hexponent, ok_bind]
    rfl
  · intro after hminus
    have hhead : (Nat.toDigits 10 n).head? = some '-' := by
      rw [← List.head?_append_of_ne_nil _ Nat.toDigits_ne_nil, hminus]
      rfl
    have hdigit := isDigit_of_mem_toDigits (List.mem_of_mem_head? hhead)
    exact absurd hdigit (by decide)

theorem keepNumber_toDigits {n : Nat} (h : n < UInt64.size) {rest : List Char}
    (hrest : Delimited rest) :
    keepNumber (Nat.toDigits 10 n ++ rest) = .ok (.whole n, rest) := by
  have hwhole : (⟨false, Nat.toDigits 10 n, none, none⟩ : Numeral).whole? = some (n : Int) := by
    have hmax : n ≤ Numeral.maxSignificand := Nat.le_of_lt_succ h
    simp [Numeral.whole?, hmax]
  rw [keepNumber, numeral_toDigits n hrest]
  simp only [ok_bind, Numeral.number?, hwhole]
  rfl

end NodeBootstrap.Json
