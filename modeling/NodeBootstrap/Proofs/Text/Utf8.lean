import Mathlib.Tactic.IntervalCases
import NodeBootstrap.Text.Utf8

/-! # Reading UTF-8 back

The octets of a text are read as that text again: no octet of it is taken for a part of another
character, and none is replaced. -/

namespace NodeBootstrap.Text.Utf8

/-! ## Octets as numbers -/

theorem toNat_ofNat_of_lt {n : Nat} (h : n < 256) : (UInt8.ofNat n).toNat = n := by
  rw [UInt8.toNat_ofNat', Nat.mod_eq_of_lt h]

theorem ofNat_le_ofNat_iff {m n : Nat} (hm : m < 256) (hn : n < 256) :
    UInt8.ofNat m ≤ UInt8.ofNat n ↔ m ≤ n := by
  rw [UInt8.le_iff_toNat_le, toNat_ofNat_of_lt hm, toNat_ofNat_of_lt hn]

theorem isTail_ofNat {n : Nat} (h : n < 0x40) : isTail (UInt8.ofNat (n + 0x80)) := by
  have hlow : (0x80 : UInt8) ≤ UInt8.ofNat (n + 0x80) :=
    (ofNat_le_ofNat_iff (m := 0x80) (by omega) (by omega)).mpr (by omega)
  have hhigh : UInt8.ofNat (n + 0x80) ≤ (0xBF : UInt8) :=
    (ofNat_le_ofNat_iff (n := 0xBF) (by omega) (by omega)).mpr (by omega)
  simp only [isTail, hlow, hhigh, decide_true, Bool.and_self]

/-! ## Lead octets -/

theorem lead?_of_two {n : Nat} (low : 0xC2 ≤ n) (high : n ≤ 0xDF) :
    lead? (UInt8.ofNat n) = some ⟨1, 0x80, 0xBF, UInt8.ofNat (n - 0xC0)⟩ := by
  interval_cases n <;> rfl

theorem lead?_of_three {n : Nat} (low : 0xE0 ≤ n) (high : n ≤ 0xEF) :
    lead? (UInt8.ofNat n) =
      some ⟨2, UInt8.ofNat (if n = 0xE0 then 0xA0 else 0x80),
        UInt8.ofNat (if n = 0xED then 0x9F else 0xBF), UInt8.ofNat (n - 0xE0)⟩ := by
  interval_cases n <;> rfl

theorem lead?_of_four {n : Nat} (low : 0xF0 ≤ n) (high : n ≤ 0xF4) :
    lead? (UInt8.ofNat n) =
      some ⟨3, UInt8.ofNat (if n = 0xF0 then 0x90 else 0x80),
        UInt8.ofNat (if n = 0xF4 then 0x8F else 0xBF), UInt8.ofNat (n - 0xF0)⟩ := by
  interval_cases n <;> rfl

theorem not_lt_of_lead {b : UInt8} {lead : Lead} (h : lead? b = some lead) : ¬b < 0x80 := by
  intro hlt
  have hnone : lead? b = none := by
    simp only [UInt8.lt_iff_toNat_lt] at hlt
    have : b.toNat < 0x80 := hlt
    have hb : b = UInt8.ofNat b.toNat := by simp
    rw [hb]
    generalize b.toNat = n at this
    interval_cases n <;> rfl
  rw [hnone] at h
  cases h

/-! ## Characters -/

section
variable {standIn : Char} {b c₁ c₂ c₃ : UInt8} {lead : Lead} (rest : List UInt8)

theorem decode_one {n : Nat} (h : n < 0x80) :
    decode standIn (UInt8.ofNat n :: rest) = Char.ofNat n :: decode standIn rest := by
  have hlt : UInt8.ofNat n < 0x80 := by
    rw [UInt8.lt_iff_toNat_lt, toNat_ofNat_of_lt (by omega)]
    exact h
  rw [decode, if_pos hlt, toNat_ofNat_of_lt (by omega)]

theorem decode_two (hlead : lead? b = some lead) (following : lead.following = 1)
    (h₁ : lead.low ≤ c₁ ∧ c₁ ≤ lead.high) :
    decode standIn (b :: c₁ :: rest) = assemble lead [c₁] :: decode standIn rest := by
  rw [decode.eq_def]
  simp [not_lt_of_lead hlead, hlead, following, h₁]

theorem decode_three (hlead : lead? b = some lead) (following : lead.following = 2)
    (h₁ : lead.low ≤ c₁ ∧ c₁ ≤ lead.high) (h₂ : isTail c₂) :
    decode standIn (b :: c₁ :: c₂ :: rest) = assemble lead [c₁, c₂] :: decode standIn rest := by
  rw [decode.eq_def]
  simp [not_lt_of_lead hlead, hlead, following, h₁, h₂]

theorem decode_four (hlead : lead? b = some lead) (following : lead.following = 3)
    (h₁ : lead.low ≤ c₁ ∧ c₁ ≤ lead.high) (h₂ : isTail c₂) (h₃ : isTail c₃) :
    decode standIn (b :: c₁ :: c₂ :: c₃ :: rest) =
      assemble lead [c₁, c₂, c₃] :: decode standIn rest := by
  rw [decode.eq_def]
  simp [not_lt_of_lead hlead, hlead, following, h₁, h₂, h₃]

end

theorem toNat_tail {n : Nat} (h : n < 0x40) : (UInt8.ofNat (n + 0x80)).toNat - 0x80 = n := by
  rw [toNat_ofNat_of_lt (by omega), Nat.add_sub_cancel]

/-- An octet of a tail is between the bounds that a lead octet sets where its bits are. -/
theorem tail_between (low : Nat) {n : Nat} (high : Nat) (hlow : low ≤ n + 0x80)
    (hhigh : n + 0x80 ≤ high) (h : high < 256) :
    UInt8.ofNat low ≤ UInt8.ofNat (n + 0x80) ∧ UInt8.ofNat (n + 0x80) ≤ UInt8.ofNat high :=
  ⟨(ofNat_le_ofNat_iff (by omega) (by omega)).mpr hlow,
    (ofNat_le_ofNat_iff (by omega) (by omega)).mpr hhigh⟩

theorem decode_utf8EncodeChar (standIn c : Char) (rest : List UInt8) :
    decode standIn (String.utf8EncodeChar c ++ rest) = c :: decode standIn rest := by
  have valid : c.val.toNat < 0xD800 ∨ 0xDFFF < c.val.toNat ∧ c.val.toNat < 0x110000 := c.valid
  have hc : Char.ofNat c.val.toNat = c := Char.ofNat_toNat c
  rw [String.utf8EncodeChar]
  generalize c.val.toNat = v at valid hc ⊢
  split
  · rw [List.singleton_append, decode_one rest (by omega), hc]
  split
  · have hlead := lead?_of_two (n := v / 64 % 0x20 + 0xC0) (by omega) (by omega)
    rw [List.cons_append, List.cons_append, List.nil_append, decode_two rest hlead rfl
      (tail_between 0x80 0xBF (by omega) (by omega) (by omega))]
    have hv : v / 64 % 0x20 * 64 + v % 0x40 = v := by omega
    rw [assemble, List.foldl_cons, List.foldl_nil, toNat_tail (by omega), Nat.add_sub_cancel,
      toNat_ofNat_of_lt (by omega), hv, hc]
  split
  · have hlead := lead?_of_three (n := v / 4096 % 0x10 + 0xE0) (by omega) (by omega)
    have hbound := tail_between (if v / 4096 % 0x10 + 0xE0 = 0xE0 then 0xA0 else 0x80)
      (n := v / 64 % 0x40) (if v / 4096 % 0x10 + 0xE0 = 0xED then 0x9F else 0xBF)
      (by split <;> omega) (by split <;> omega) (by split <;> omega)
    rw [List.cons_append, List.cons_append, List.cons_append, List.nil_append,
      decode_three rest hlead rfl hbound (isTail_ofNat (by omega))]
    have hv : (v / 4096 % 0x10 * 64 + v / 64 % 0x40) * 64 + v % 0x40 = v := by omega
    rw [assemble, List.foldl_cons, List.foldl_cons, List.foldl_nil, toNat_tail (by omega),
      toNat_tail (by omega), Nat.add_sub_cancel, toNat_ofNat_of_lt (by omega), hv, hc]
  · have hlead := lead?_of_four (n := v / 262144 % 0x08 + 0xF0) (by omega) (by omega)
    have hbound := tail_between (if v / 262144 % 0x08 + 0xF0 = 0xF0 then 0x90 else 0x80)
      (n := v / 4096 % 0x40) (if v / 262144 % 0x08 + 0xF0 = 0xF4 then 0x8F else 0xBF)
      (by split <;> omega) (by split <;> omega) (by split <;> omega)
    rw [List.cons_append, List.cons_append, List.cons_append, List.cons_append, List.nil_append,
      decode_four rest hlead rfl hbound (isTail_ofNat (by omega)) (isTail_ofNat (by omega))]
    have hv : ((v / 262144 % 0x08 * 64 + v / 4096 % 0x40) * 64 + v / 64 % 0x40) * 64 + v % 0x40 =
        v := by omega
    rw [assemble, List.foldl_cons, List.foldl_cons, List.foldl_cons, List.foldl_nil,
      toNat_tail (by omega), toNat_tail (by omega), toNat_tail (by omega), Nat.add_sub_cancel,
      toNat_ofNat_of_lt (by omega), hv, hc]

/-! ## Texts -/

/-- The octets of a text. -/
def octets (s : List Char) : List UInt8 := s.flatMap String.utf8EncodeChar

theorem decode_octets (standIn : Char) (s : List Char) : decode standIn (octets s) = s := by
  induction s with
  | nil => rfl
  | cons c s ih => rw [octets, List.flatMap_cons, decode_utf8EncodeChar, ← octets, ih]

theorem toList_loop (bytes : ByteArray) (i : Nat) (seen : List UInt8) :
    ByteArray.toList.loop bytes i seen = seen.reverse ++ bytes.data.toList.drop i := by
  fun_induction ByteArray.toList.loop bytes i seen with
  | case1 i seen h ih =>
      have hget : bytes.get! i = bytes.data.toList.get ⟨i, h⟩ := by
        rw [ByteArray.get!, getElem!_pos bytes.data i h]
        rfl
      rw [ih, List.drop_eq_getElem_cons (l := bytes.data.toList) h, hget, List.reverse_cons,
        List.append_assoc, List.singleton_append, List.get_eq_getElem]
  | case2 i seen h =>
      rw [List.drop_eq_nil_of_le (Nat.le_of_not_lt h), List.append_nil]

theorem toList_toUTF8 (text : String) : text.toUTF8.toList = octets text.toList := by
  rw [ByteArray.toList, toList_loop]
  conv_lhs => rw [← String.ofList_toList (s := text)]
  rw [String.toUTF8_eq_toByteArray, String.toByteArray_ofList, List.utf8Encode]
  exact List.toList_data_toByteArray

/-- A text is read back from its octets. -/
theorem decodeLossy_toUTF8 (text : String) : decodeLossy text.toUTF8.toList = text.toList := by
  rw [toList_toUTF8, decodeLossy, decode_octets]

theorem utf8EncodeChar_of_ascii {c : Char} (ascii : c.toNat < 0x80) :
    String.utf8EncodeChar c = [UInt8.ofNat c.toNat] := by
  rw [String.utf8EncodeChar]
  exact if_pos (Nat.le_of_lt_succ ascii)

theorem octets_of_ascii {s : List Char} (ascii : ∀ c ∈ s, c.toNat < 0x80) :
    octets s = s.map fun c => UInt8.ofNat c.toNat := by
  induction s with
  | nil => rfl
  | cons c s ih =>
      rw [octets, List.flatMap_cons, utf8EncodeChar_of_ascii (ascii c List.mem_cons_self), ← octets,
        ih fun d hd => ascii d (List.mem_cons_of_mem c hd)]
      rfl

/-- An ASCII character in front is no byte order mark. -/
theorem skipMark_toUTF8 {text : String} {c : Char} {rest : List Char} (h : text.toList = c :: rest)
    (ascii : c.toNat < 0x80) : skipMark text.toUTF8.toList = text.toUTF8.toList := by
  have hne : UInt8.ofNat c.toNat ≠ 0xEF := by
    rw [Ne, ← UInt8.toNat_inj, toNat_ofNat_of_lt (by omega)]
    exact Nat.ne_of_lt (Nat.lt_trans ascii (by decide))
  rw [toList_toUTF8, h, octets, List.flatMap_cons, utf8EncodeChar_of_ascii ascii,
    List.singleton_append, skipMark]
  exact fun _ hmark => absurd (List.cons.inj hmark).1 hne

end NodeBootstrap.Text.Utf8
