import Mathlib
import NodeBootstrap.Text.Blank
import NodeBootstrap.Text.Lowercase

/-! # Trimming and lower-casing

Trimming takes away nothing but white space, and all of it at either end. Lower-casing moves letters
among themselves: white space and separators are neither changed nor produced, and what was
lower-cased stays as it is. -/

namespace NodeBootstrap.Text

/-! ## Trimming -/

theorem mem_dropWhile_iff {p : Char → Bool} {x : Char} (hx : p x = false) (s : List Char) :
    x ∈ s.dropWhile p ↔ x ∈ s := by
  constructor
  · exact fun h => (List.dropWhile_suffix p).mem h
  · intro h
    rw [← List.takeWhile_append_dropWhile (p := p) (l := s), List.mem_append] at h
    rcases h with htaken | hkept
    · rw [List.mem_takeWhile_imp htaken] at hx
      cases hx
    · exact hkept

theorem mem_trim_iff {x : Char} (hx : isBlank x = false) (s : List Char) :
    x ∈ trim s ↔ x ∈ s := by
  rw [trim, trimEnd, List.mem_reverse, mem_dropWhile_iff hx, List.mem_reverse, trimStart,
    mem_dropWhile_iff hx]

theorem trim_eq_nil_iff (s : List Char) : trim s = [] ↔ ∀ c ∈ s, isBlank c = true := by
  constructor
  · intro h c hc
    by_contra hblank
    rw [Bool.not_eq_true] at hblank
    have hmem : c ∈ trim s := (mem_trim_iff hblank s).mpr hc
    rw [h] at hmem
    cases hmem
  · intro h
    rw [trim, trimStart, List.dropWhile_eq_nil_iff.mpr h]
    rfl

/-- A text is blank exactly if it holds white space alone. -/
theorem blank_iff (s : String) : Blank s ↔ ∀ c ∈ s.toList, isBlank c = true :=
  trim_eq_nil_iff s.toList

theorem not_blank_of_mem {s : String} {x : Char} (hx : x ∈ s.toList) (h : isBlank x = false) :
    ¬Blank s := by
  rw [blank_iff]
  intro hall
  rw [hall x hx] at h
  cases h

theorem trim_eq_self {s : List Char} (h : ∀ c ∈ s, isBlank c = false) : trim s = s := by
  have hkeep : ∀ t : List Char, (∀ c ∈ t, isBlank c = false) → t.dropWhile isBlank = t := by
    intro t ht
    cases t with
    | nil => rfl
    | cons c t => rw [List.dropWhile_cons_of_neg (by simp [ht c List.mem_cons_self])]
  rw [trim, trimEnd, trimStart, hkeep s h, hkeep _ fun c hc => h c (List.mem_reverse.mp hc),
    List.reverse_reverse]

theorem trim_append_left {before : List Char} (h : ∀ c ∈ before, isBlank c = true)
    (s : List Char) : trim (before ++ s) = trim s := by
  rw [trim, trim, trimStart, trimStart, List.dropWhile_append_of_pos h]

theorem trim_append_right {after : List Char} (h : ∀ c ∈ after, isBlank c = true)
    (s : List Char) : trim (s ++ after) = trim s := by
  rw [trim, trim, trimStart, trimStart, List.dropWhile_append]
  split
  · next hempty =>
      -- Nothing is left of `s`, so that the white space behind it is at the start.
      rw [List.isEmpty_iff.mp hempty, List.dropWhile_eq_nil_iff.mpr h]
  · rw [trimEnd, trimEnd, List.reverse_append,
      List.dropWhile_append_of_pos fun c hc => h c (List.mem_reverse.mp hc)]

/-! ## Lower-casing -/

/-- White space, the underscore, the comma and the equals sign. -/
def uncased : CodeRanges := (0x5F, 0x5F) :: (0x2C, 0x2C) :: (0x3D, 0x3D) :: blanks

theorem uncased_of_isBlank {x : Char} (h : isBlank x = true) : uncased.contains x = true := by
  simp only [isBlank, CodeRanges.contains_iff] at h ⊢
  obtain ⟨r, hr, hx⟩ := h
  exact ⟨r, List.mem_append_right [(0x5F, 0x5F), (0x2C, 0x2C), (0x3D, 0x3D)] hr, hx⟩

/-- No letter of the case table lies in the ranges, and neither does its lower-case form. -/
theorem caseRuns_apart : ∀ run ∈ caseRuns, ∀ r ∈ uncased, (run.last < r.1 ∨ r.2 < run.first) ∧
    (run.image + (run.last - run.first) < r.1 ∨ r.2 < run.image) := by
  decide +kernel

theorem ne_of_uncased {x y : Char} (hx : uncased.contains x = true)
    (hy : uncased.contains y = false) : x ≠ y := by
  rintro rfl
  rw [hx] at hy
  cases hy

theorem not_mem_of_uncased {x : Char} (hx : uncased.contains x = true) {s : List Char}
    (hs : s.any uncased.contains = false) : x ∉ s := by
  intro hmem
  exact List.any_eq_false.mp hs x hmem hx

/-- A character that a run of letters covers is cased, and so is what it is mapped to. -/
theorem ne_of_covers {x : Char} (hx : uncased.contains x = true) {run : CaseRun}
    (hrun : run ∈ caseRuns) {c : Char} (covers : run.covers c.toNat = true) :
    x ≠ c ∧ x ≠ Char.ofNat (run.apply c.toNat) := by
  obtain ⟨r, hr, hlow, hhigh⟩ := CodeRanges.contains_iff.mp hx
  obtain ⟨hletters, himages⟩ := caseRuns_apart run hrun r hr
  have hpositive : ∀ r ∈ uncased, 0 < r.1 := by decide
  have hpos := hpositive r hr
  simp only [CaseRun.covers, Bool.and_eq_true, decide_eq_true_eq] at covers
  obtain ⟨⟨hfirst, hlast⟩, -⟩ := covers
  constructor
  · rintro rfl
    omega
  · intro heq
    have hnat := congrArg Char.toNat heq
    rw [CaseRun.apply, Char.toNat_ofNat] at hnat
    split at hnat
    · omega
    · omega

theorem mem_lowerChar_iff {x : Char} (hx : uncased.contains x = true) (c : Char) :
    x ∈ lowerChar c ↔ x = c := by
  rw [lowerChar]
  split
  · next hc =>
      subst hc
      constructor
      · intro hmem
        exact absurd hmem (not_mem_of_uncased hx (by decide))
      · intro heq
        exact absurd heq (ne_of_uncased hx (by decide))
  · split
    · next run hfind =>
        have hcovers := List.find?_some hfind
        have hne := ne_of_covers hx (List.mem_of_find?_eq_some hfind) hcovers
        constructor
        · intro hmem
          exact absurd (List.mem_singleton.mp hmem) hne.2
        · intro heq
          exact absurd heq hne.1
    · exact List.mem_singleton

/-- What becomes of the first character: a capital sigma has two forms, all others have one. -/
theorem exists_lowercaseAfter_cons (before : List Char) (c : Char) (rest : List Char) :
    ∃ here, lowercaseAfter before (c :: rest) = here ++ lowercaseAfter (c :: before) rest ∧
      (c = 'Σ' ∧ (here = ['ς'] ∨ here = ['σ']) ∨ here = lowerChar c) := by
  refine ⟨_, rfl, ?_⟩
  by_cases hc : c = 'Σ'
  · left
    refine ⟨hc, ?_⟩
    rw [if_pos hc]
    split
    · exact .inl rfl
    · exact .inr rfl
  · right
    exact if_neg hc

theorem mem_lowercaseAfter_iff {x : Char} (hx : uncased.contains x = true)
    (before s : List Char) : x ∈ lowercaseAfter before s ↔ x ∈ s := by
  induction s generalizing before with
  | nil => rfl
  | cons c rest ih =>
      obtain ⟨here, heq, hhere⟩ := exists_lowercaseAfter_cons before c rest
      rw [heq, List.mem_append, ih, List.mem_cons]
      apply or_congr_left
      -- What stands before decides between the forms of sigma only, and both are letters.
      rcases hhere with ⟨rfl, rfl | rfl⟩ | rfl
      · simp [ne_of_uncased (y := 'ς') hx (by decide), ne_of_uncased (y := 'Σ') hx (by decide)]
      · simp [ne_of_uncased (y := 'σ') hx (by decide), ne_of_uncased (y := 'Σ') hx (by decide)]
      · exact mem_lowerChar_iff hx c

/-- White space, underscores, commas and equals signs stay, and none is added. -/
theorem mem_lowercase_iff {x : Char} (hx : uncased.contains x = true) (s : List Char) :
    x ∈ lowercase s ↔ x ∈ s := mem_lowercaseAfter_iff hx [] s

theorem lowerChar_ne_nil (c : Char) : lowerChar c ≠ [] := by
  rw [lowerChar]
  split
  · exact List.cons_ne_nil _ _
  · split <;> exact List.cons_ne_nil _ _

theorem lowercase_ne_nil {s : List Char} (h : s ≠ []) : lowercase s ≠ [] := by
  cases s with
  | nil => exact absurd rfl h
  | cons c rest =>
      obtain ⟨here, heq, hhere⟩ := exists_lowercaseAfter_cons [] c rest
      rw [lowercase, heq]
      apply List.append_ne_nil_of_left_ne_nil
      rcases hhere with ⟨-, rfl | rfl⟩ | rfl
      · exact List.cons_ne_nil _ _
      · exact List.cons_ne_nil _ _
      · exact lowerChar_ne_nil c

/-! ## Letters that stay -/

/-- Whether no lower-case form of a run is a capital of the other one. -/
def CaseRun.misses (run other : CaseRun) : Bool :=
  (run.image + (run.last - run.first)).blt other.first || other.last.blt run.image ||
    (List.range (run.last - run.first + 1)).all fun k =>
      !run.covers (run.first + k) || !other.covers (run.image + k)

theorem caseRuns_miss : (caseRuns.all fun run => caseRuns.all run.misses) = true := by
  decide +kernel

/-- The lower-case form of a letter is no capital. -/
theorem covers_apply_eq_false {run other : CaseRun} (hrun : run ∈ caseRuns)
    (hother : other ∈ caseRuns) {n : Nat} (covers : run.covers n = true) :
    other.covers (run.apply n) = false := by
  have hmiss : run.misses other = true :=
    List.all_eq_true.mp (List.all_eq_true.mp caseRuns_miss run hrun) other hother
  have hbounds : run.first ≤ n ∧ n ≤ run.last := by
    simp only [CaseRun.covers, Bool.and_eq_true, decide_eq_true_eq] at covers
    exact covers.1
  obtain ⟨k, rfl⟩ := Nat.exists_eq_add_of_le hbounds.1
  have happly : run.apply (run.first + k) = run.image + k := by
    rw [CaseRun.apply, Nat.add_sub_cancel_left]
  rw [happly]
  simp only [CaseRun.misses, Bool.or_eq_true, Nat.blt_eq] at hmiss
  rcases hmiss with (hbelow | habove) | hnone
  · have : ¬other.first ≤ run.image + k := by omega
    simp [CaseRun.covers, this]
  · have : ¬run.image + k ≤ other.last := by omega
    simp [CaseRun.covers, this]
  · have hk := List.all_eq_true.mp hnone k (List.mem_range.mpr (by omega))
    simpa [covers] using hk

theorem lowerChar_eq_self {c : Char} (dotless : c ≠ '\u0130')
    (uncovered : ∀ run ∈ caseRuns, run.covers c.toNat = false) : lowerChar c = [c] := by
  have hnone : caseRuns.find? (·.covers c.toNat) = none := by
    rw [List.find?_eq_none]
    intro run hrun
    simp [uncovered run hrun]
  rw [lowerChar, if_neg dotless, hnone]

/-- No letter becomes a capital I with a dot, the only one whose lower-case form is longer. -/
theorem image_ne_dotted : ∀ run ∈ caseRuns,
    run.image + (run.last - run.first) < 0x130 ∨ 0x130 < run.image := by
  decide +kernel

theorem lowerChar_image {run : CaseRun} (hrun : run ∈ caseRuns) {n : Nat}
    (covers : run.covers n = true) :
    lowerChar (Char.ofNat (run.apply n)) = [Char.ofNat (run.apply n)] := by
  by_cases hvalid : (run.apply n).isValidChar
  · have hcode : (Char.ofNat (run.apply n)).toNat = run.apply n := by
      rw [Char.toNat_ofNat, if_pos hvalid]
    apply lowerChar_eq_self
    · intro hdotted
      rw [hdotted] at hcode
      have hne := image_ne_dotted run hrun
      have hdot : '\u0130'.toNat = 0x130 := rfl
      simp only [CaseRun.covers, CaseRun.apply, Bool.and_eq_true, decide_eq_true_eq] at covers hcode
      omega
    · intro other hother
      rw [hcode]
      exact covers_apply_eq_false hrun hother covers
  · have hnul : Char.ofNat (run.apply n) = '\x00' := by
      rw [Char.ofNat, dif_neg hvalid]
      rfl
    rw [hnul]
    decide +kernel

/-- What a character is mapped to is mapped to itself. -/
theorem lowerChar_of_mem {x c : Char} (h : x ∈ lowerChar c) : lowerChar x = [x] := by
  rw [lowerChar] at h
  split at h
  · rcases List.mem_pair.mp h with rfl | rfl
    · decide +kernel
    · decide +kernel
  · next hdotless =>
      split at h
      · next run hfind =>
          have hcovers := List.find?_some hfind
          rw [List.mem_singleton.mp h]
          exact lowerChar_image (List.mem_of_find?_eq_some hfind) hcovers
      · next hnone =>
          rw [List.mem_singleton.mp h]
          apply lowerChar_eq_self hdotless
          intro run hrun
          simpa using List.find?_eq_none.mp hnone run hrun

theorem lowerChar_of_mem_lowercaseAfter {x : Char} {before s : List Char}
    (h : x ∈ lowercaseAfter before s) : lowerChar x = [x] := by
  induction s generalizing before with
  | nil => cases h
  | cons c rest ih =>
      obtain ⟨here, heq, hhere⟩ := exists_lowercaseAfter_cons before c rest
      rw [heq, List.mem_append] at h
      rcases h with hfirst | hlater
      · rcases hhere with ⟨-, rfl | rfl⟩ | rfl
        · rw [List.mem_singleton.mp hfirst]
          decide +kernel
        · rw [List.mem_singleton.mp hfirst]
          decide +kernel
        · exact lowerChar_of_mem hfirst
      · exact ih hlater

/-- A text is left alone if each of its characters is. No capital sigma is among them, so that no
character depends on its neighbours. -/
theorem lowercaseAfter_eq_self {s : List Char} (h : ∀ c ∈ s, lowerChar c = [c])
    (before : List Char) : lowercaseAfter before s = s := by
  induction s generalizing before with
  | nil => rfl
  | cons c rest ih =>
      obtain ⟨hc, hrest⟩ := List.forall_mem_cons.mp h
      have hsigma : c ≠ 'Σ' := by
        rintro rfl
        exact absurd hc (by decide +kernel)
      rw [lowercaseAfter, if_neg hsigma, hc, ih hrest]
      rfl

theorem lowercase_eq_self_iff {s : List Char} :
    lowercase s = s ↔ ∀ c ∈ s, lowerChar c = [c] := by
  constructor
  · intro h c hc
    rw [← h] at hc
    exact lowerChar_of_mem_lowercaseAfter hc
  · exact fun h => lowercaseAfter_eq_self h []

end NodeBootstrap.Text
