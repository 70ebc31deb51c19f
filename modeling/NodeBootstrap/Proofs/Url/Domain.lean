import NodeBootstrap.Proofs.Results
import NodeBootstrap.Proofs.Text.Parts
import NodeBootstrap.Url.Host

/-! # Names in ASCII

The ASCII form of a name holds nothing but ASCII characters. A name that holds nothing else already
is its own form, in lower case, unless a label of it bears the mark. -/

namespace NodeBootstrap

open Text

namespace Url

/-! ## Punycode -/

namespace Punycode

theorem isAscii_digit {d : Nat} (h : d < 36) : isAscii (digit d) := by
  have checked : ∀ e ∈ List.range 36, isAscii (digit e) := by decide
  exact checked d (List.mem_range.mpr h)

theorem threshold_le (bias offset : Nat) : threshold bias offset ≤ 26 := by
  simp only [threshold]
  omega

theorem number_ascii (bias offset n : Nat) : (number bias offset n).all isAscii := by
  fun_induction number with
  | case1 offset n t h =>
      have := threshold_le bias offset
      simpa using isAscii_digit (d := n) (by omega)
  | case2 offset n t h ih =>
      have ht : t ≤ 26 := threshold_le bias offset
      have hd : (n - t) % (36 - t) < 36 - t := Nat.mod_lt _ (by omega)
      simp only [List.all_cons, ih, Bool.and_true]
      exact isAscii_digit (by omega)

theorem numbers_ascii (label : List Char) (p : Cursor) (rest : List (Char × Nat)) :
    (numbers label p rest).all isAscii := by
  fun_induction numbers with
  | case1 => rfl
  | case2 p c place rest position n ih =>
      rw [List.all_append, number_ascii, ih, Bool.and_self]

theorem encode_ascii (label : List Char) : (encode label).all isAscii := by
  have basic : (label.filter isAscii).all isAscii := List.all_eq_true.mpr fun c hc =>
    (List.mem_filter.mp hc).2
  have hyphen (s : List Char) : (if s = [] then [] else ['-']).all isAscii := by split <;> rfl
  simp only [encode, List.all_append, basic, hyphen, numbers_ascii, Bool.and_self]

theorem isAscii_of_digitValue {c : Char} {d : Nat} (h : digitValue? c = some d) : isAscii c := by
  have below {z : Char} (hz : z.toNat < 0x80) (hc : c ≤ z) : isAscii c := by
    have : c.toNat ≤ z.toNat := hc
    exact decide_eq_true (by omega)
  unfold digitValue? at h
  split at h
  · next letter => exact below (by decide) letter.2
  · split at h
    · next figure => exact below (by decide) figure.2
    · cases h

theorem isAscii_of_step {p q : Partial} {c : Char} (h : p.step c = some q) : isAscii c := by
  obtain ⟨d, hd, -⟩ := Option.bind_eq_some_iff.mp h
  exact isAscii_of_digitValue hd

theorem ascii_of_foldlM {s : List Char} {p q : Partial} (h : s.foldlM Partial.step p = some q) :
    s.all isAscii := by
  induction s generalizing p with
  | nil => rfl
  | cons c rest ih =>
      rw [List.foldlM_cons] at h
      obtain ⟨next, hnext, hrest⟩ := Option.bind_eq_some_iff.mp h
      rw [List.all_cons, isAscii_of_step hnext, ih hrest, Bool.and_self]

/-- A label is its characters up to the last hyphen, and its numbers after that. -/
theorem ascii_of_decode {s label : List Char} (h : decode s = some label) : s.all isAscii := by
  unfold decode at h
  extract_lets tail basic at h
  obtain ⟨p, hp, hwritten⟩ := Option.bind_eq_some_iff.mp h
  have tail_ascii : tail.all isAscii := ascii_of_foldlM hp
  have basic_ascii : basic.all isAscii := (Option.ite_none_right_eq_some.mp hwritten).1.2
  obtain ⟨front, whole, hfront⟩ := cut_after_last '-' s
  change front ++ tail = s at whole
  have hbasic : basic = front.take (front.length - 1) := by
    simp only [basic, ← whole, List.length_append, Nat.add_sub_cancel]
    exact List.take_append_of_le_length (Nat.sub_le ..)
  rw [← whole, List.all_append, tail_ascii, Bool.and_true]
  obtain rfl | ⟨before, rfl⟩ := hfront
  · rfl
  · rw [List.length_append, List.length_singleton, Nat.add_sub_cancel, List.take_left] at hbasic
    rw [List.all_append, ← hbasic, basic_ascii]
    rfl

end Punycode

/-! ## Names -/

namespace Domain

theorem ascii_of_label {s : List Char} {label : Label} (h : label? s = some label) :
    label.ascii.all Punycode.isAscii := by
  unfold label? at h
  split at h
  · next marked =>
      obtain ⟨shown, hshown, hlabel⟩ := Option.bind_eq_some_iff.mp h
      obtain ⟨-, hlabel⟩ := Option.ite_none_right_eq_some.mp hlabel
      cases hlabel
      obtain ⟨rest, rfl⟩ := List.isPrefixOf_iff_prefix.mp marked
      rw [List.drop_left] at hshown
      rw [List.all_append, Punycode.ascii_of_decode hshown]
      rfl
  · split at h
    · next ascii =>
        cases h
        exact ascii
    · obtain ⟨-, hlabel⟩ := Option.ite_none_right_eq_some.mp h
      cases hlabel
      rw [List.all_append, Punycode.encode_ascii]
      rfl

/-- Every form is one of ASCII characters. -/
theorem ascii_of_form {name form : List Char} (h : ascii? name = some form) :
    form.all Punycode.isAscii := by
  unfold ascii? at h
  obtain ⟨mapped, -, h⟩ := Option.bind_eq_some_iff.mp h
  obtain ⟨labels, hlabels, h⟩ := Option.bind_eq_some_iff.mp h
  obtain ⟨-, hform⟩ := Option.ite_none_right_eq_some.mp h
  cases hform
  rw [all_intercalate rfl, List.all_map]
  refine List.all_eq_true.mpr fun label hlabel => ?_
  obtain ⟨s, -, hs⟩ := exists_of_mem_of_mapM_eq_some hlabels hlabel
  exact ascii_of_label hs

section
variable {s : List Char}

theorem compose_of_ascii (h : s.all Punycode.isAscii) : compose s = s := by
  refine if_pos (List.all_eq_true.mpr fun c hc => decide_eq_true ?_)
  have := of_decide_eq_true (List.all_eq_true.mp h c hc)
  omega

theorem toLower_ascii (h : s.all Punycode.isAscii) : (s.map Char.toLower).all Punycode.isAscii := by
  have checked : ∀ n < 0x80, Punycode.isAscii (Char.ofNat n).toLower := by decide
  rw [List.all_map]
  refine List.all_eq_true.mpr fun c hc => ?_
  simpa using checked c.toNat (of_decide_eq_true (List.all_eq_true.mp h c hc))

theorem map_of_ascii (h : s.all Punycode.isAscii) : map? s = some (s.map Char.toLower) := by
  have hmapM : s.mapM mapChar? = some (s.map fun c => [c.toLower]) :=
    mapM_eq_some_map fun c hc => if_pos (List.all_eq_true.mp h c hc)
  have flat : (s.map fun c => [c.toLower]).flatten = s.map Char.toLower := by
    rw [← List.flatMap_def, List.map_eq_flatMap]
  rw [map?, hmapM, Option.bind_eq_bind, Option.bind_some, flat, compose_of_ascii (toLower_ascii h)]
  rfl

theorem label_of_ascii (ascii : s.all Punycode.isAscii) (unmarked : ¬ mark <+: s) :
    label? s = some ⟨s, s⟩ := by
  rw [label?, if_neg (mt List.isPrefixOf_iff_prefix.mp unmarked), if_pos ascii]

/-- Labels of such characters have no direction that the others must fit. -/
theorem directionsFit_of_ascii {labels : List Label}
    (h : ∀ label ∈ labels, label.shown.all Punycode.isAscii) : directionsFit labels := by
  have unturned : labels.any isTurned = false := by
    simp only [List.any_eq_false, isTurned, List.any_eq_true, not_exists, not_and]
    intro label hlabel c hc
    rw [List.all_eq_true.mp (h label hlabel) c hc]
    exact Bool.false_ne_true
  rw [directionsFit, unturned]
  rfl

/-- A name of such characters is its own form in lower case, if no label bears the mark. -/
theorem form_of_ascii (ascii : s.all Punycode.isAscii)
    (unmarked : ∀ part ∈ parts '.' (s.map Char.toLower), ¬ mark <+: part) :
    ascii? s = some (s.map Char.toLower) := by
  let ps := parts '.' (s.map Char.toLower)
  have joined : ['.'].intercalate ps = s.map Char.toLower := intercalate_parts ..
  have dot : ['.'].all Punycode.isAscii := rfl
  have ascii_part : ps.all (·.all Punycode.isAscii) := by
    rw [← all_intercalate dot, joined]
    exact toLower_ascii ascii
  have labels : ps.mapM label? = some (ps.map fun part => ⟨part, part⟩) :=
    mapM_eq_some_map fun part hpart =>
      label_of_ascii (List.all_eq_true.mp ascii_part part hpart) (unmarked part hpart)
  have fit : directionsFit (ps.map fun part => ⟨part, part⟩) := by
    refine directionsFit_of_ascii fun label hlabel => ?_
    obtain ⟨part, hpart, rfl⟩ := List.mem_map.mp hlabel
    exact List.all_eq_true.mp ascii_part part hpart
  have same : (Label.ascii ∘ fun part => (⟨part, part⟩ : Label)) = id := rfl
  rw [ascii?, map_of_ascii ascii, Option.bind_eq_bind, Option.bind_some, labels,
    Option.bind_eq_bind, Option.bind_some, if_pos fit, List.map_map, same, List.map_id, joined]

end

end Domain
end Url

namespace Host
variable {s : List Char} {text : String}

theorem name_of_parse (h : parse s = .ok (.name text)) :
    Url.Domain.ascii? (Utf8.decodeLossy (Url.percentDecode s)) = some text.toList ∧
      ¬ text.toList.any forbidden := by
  unfold parse at h
  split at h
  · unfold bracketed at h
    split at h <;> cases h
  · split at h
    · cases h
    · next domain hdomain =>
        have htext : String.ofList domain = text ∧ ¬ domain.any forbidden := by grind
        rw [← htext.1, String.toList_ofList]
        exact ⟨hdomain, htext.2⟩

/-- The host of a URL of a known scheme goes by a name of ASCII characters that have no other
meaning in a URL. -/
theorem ascii_of_parse (h : parse s = .ok (.name text)) :
    ∀ c ∈ text.toList, Url.Punycode.isAscii c ∧ ¬ forbidden c := by
  obtain ⟨hform, clear⟩ := name_of_parse h
  intro c hc
  refine ⟨List.all_eq_true.mp (Url.Domain.ascii_of_form hform) c hc, fun hforbidden => clear ?_⟩
  exact List.any_eq_true.mpr ⟨c, hc, hforbidden⟩

end Host
end NodeBootstrap
