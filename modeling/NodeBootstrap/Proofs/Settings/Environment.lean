import NodeBootstrap.Proofs.Text.Lowercase
import NodeBootstrap.Proofs.Text.Parts
import NodeBootstrap.Settings.Conversion
import NodeBootstrap.Settings.Environment

/-! # What a variable states

A variable of the environment states its value, unless that reads as a truth value or as a number:
then it states what it reads as. A text with a comma reads as neither, so that a list of two or more
items is stated item by item. -/

namespace NodeBootstrap

/-! ## Texts with a comma -/

namespace Decimal

variable {s : List Char}

theorem readDigits?_of_comma (h : ',' ∈ s) : readDigits? s = none := by
  rw [readDigits?, if_neg]
  rintro ⟨-, digits⟩
  exact absurd (List.all_eq_true.mp digits _ h) (by decide)

theorem comma_mem_splitSign (h : ',' ∈ s) : ',' ∈ (splitSign s).2 := by
  unfold splitSign
  split
  · exact List.mem_of_ne_of_mem (by decide) h
  · exact List.mem_of_ne_of_mem (by decide) h
  · exact h

theorem readInt64?_of_comma (h : ',' ∈ s) : readInt64? s = none := by
  unfold readInt64?
  split
  · rw [readDigits?_of_comma (List.mem_of_ne_of_mem (by decide) h)]
    rfl
  · rw [readDigits?_of_comma (List.mem_of_ne_of_mem (by decide) h)]
    rfl
  · rw [readDigits?_of_comma h]
    rfl

theorem readExponent?_of_comma (h : ',' ∈ s) : readExponent? s = none := by
  unfold readExponent?
  split
  · cases h
  · next c rest =>
      split
      · next hc =>
          have hrest : ',' ∈ rest := by
            refine List.mem_of_ne_of_mem ?_ h
            rintro rfl
            revert hc
            decide
          simp only [readDigits?_of_comma (comma_mem_splitSign hrest), Option.map_none]
      · rfl

theorem readUnsigned?_of_comma (h : ',' ∈ s) (negative : Bool) :
    readUnsigned? negative s = none := by
  have left {s : List Char} (h : ',' ∈ s) : ',' ∈ s.dropWhile isDigit :=
    (Text.mem_dropWhile_iff (by decide) s).mpr h
  have hrest := left h
  simp only [readUnsigned?]
  split
  · next tail hpoint =>
      rw [hpoint] at hrest
      have htail := left (List.mem_of_ne_of_mem (by decide) hrest)
      simp only [readExponent?_of_comma htail, Option.map_none, ite_self]
  · simp only [readExponent?_of_comma hrest, Option.map_none, ite_self]

theorem readFloat?_of_comma (h : ',' ∈ s) : readFloat? s = none := by
  have hbody := comma_mem_splitSign h
  have hlower : ',' ∈ Text.lowercaseAscii (splitSign s).2 := List.mem_map.mpr ⟨',', hbody, rfl⟩
  have hword (word : String) (hword : ',' ∉ word.toList) :
      String.ofList (Text.lowercaseAscii (splitSign s).2) ≠ word := by
    rintro rfl
    rw [String.toList_ofList] at hword
    exact hword hlower
  rw [readFloat?]
  simp only [hword "inf" (by decide), hword "infinity" (by decide),
    hword "nan" (by decide), or_self, if_false]
  exact readUnsigned?_of_comma hbody _

end Decimal

namespace Settings.Environment

open Text

/-! ## Variables -/

/-- None of the variables states a setting. -/
def Foreign (environment : List (String × String)) : Prop :=
  ∀ v ∈ environment, ¬mark <+: lowercase v.1.toList

instance (environment : List (String × String)) : Decidable (Foreign environment) :=
  List.decidableBAll (fun v : String × String => ¬mark <+: lowercase v.1.toList) environment

/-- The variable states a setting, and no other one does. -/
inductive Alone (name value : String) : List (String × String) → Prop where
  | among {before after : List (String × String)} (hbefore : Foreign before)
      (hafter : Foreign after) : Alone name value (before ++ (name, value) :: after)

theorem key?_eq_none {name : String} (h : ¬mark <+: lowercase name.toList) : key? name = none := by
  rw [key?, if_neg]
  rwa [List.isPrefixOf_iff_prefix]

theorem foldl_state_of_foreign {environment : List (String × String)} (h : Foreign environment)
    (stated : List (String × Setting)) : environment.foldl state stated = stated := by
  induction environment with
  | nil => rfl
  | cons v rest ih =>
      rw [List.foldl_cons, state, key?_eq_none (h v List.mem_cons_self)]
      exact ih fun v hv => h v (List.mem_cons_of_mem _ hv)

theorem settings_eq_nil {environment : List (String × String)} (h : Foreign environment) :
    settings environment = [] := foldl_state_of_foreign h []

theorem Alone.settings_eq {name value key : String} {environment : List (String × String)}
    (h : Alone name value environment) (hkey : key? name = some key) :
    settings environment = [(key, setting key value)] := by
  cases h with
  | among hbefore hafter =>
      rw [settings, List.foldl_append, foldl_state_of_foreign hbefore, List.foldl_cons, state, hkey,
        foldl_state_of_foreign hafter]
      rfl

/-! ## Values -/

/-- The value reads as neither a truth value nor a number. -/
structure Literal (value : String) : Prop where
  truth : truth? value.toList = none
  whole : Decimal.readInt64? value.toList = none
  float : Decimal.readFloat? value.toList = none

/-- The text that is made of a value: what it reads as, written anew, or else the value. -/
def taken (value : String) : String :=
  let s := value.toList
  match truth? s, Decimal.readInt64? s, Decimal.readFloat? s with
  | some b, _, _ => if b then "true" else "false"
  | none, some n, _ => toString n
  | none, none, some x => Decimal.render x
  | none, none, none => value

theorem Literal.taken_eq {value : String} (h : Literal value) : taken value = value := by
  rw [taken]
  simp only [h.truth, h.whole, h.float]

example : ["TRUE", "007", "1e3", "1e3s"].map taken = ["true", "7", "1000", "1e3s"] := by
  decide +kernel

theorem toText_setting {key : String} (hkey : key ∉ listKeys) (value field : String) :
    (setting key value).toText field = .ok (taken value) := by
  rw [setting, taken]
  cases truth? value.toList with
  | some b => rfl
  | none =>
      cases Decimal.readInt64? value.toList with
      | some n => rfl
      | none =>
          cases Decimal.readFloat? value.toList with
          | some x => rfl
          | none => simp only [hkey, if_false, Setting.toText]

/-- No variable states a table, so what it states replaces what was there. -/
theorem merge_setting (key value : String) (old : Setting) :
    Setting.merge (setting key value) old = setting key value := by
  have hscalar : ∀ o es, setting key value ≠ .table o es := by
    intro o es
    rw [setting]
    split
    · nofun
    · nofun
    · nofun
    · split <;> nofun
  rw [Setting.merge]
  exact hscalar

/-! ## Lists -/

theorem literal_of_comma {value : String} (h : ',' ∈ value.toList) : Literal value where
  truth := by
    have hlower : ',' ∈ lowercase value.toList := (mem_lowercase_iff (by decide) _).mpr h
    have hword (word : String) (hword : ',' ∉ word.toList) :
        String.ofList (lowercase value.toList) ≠ word := by
      rintro rfl
      rw [String.toList_ofList] at hword
      exact hword hlower
    rw [truth?]
    simp only [hword "true" (by decide), hword "false" (by decide), if_false]
  whole := Decimal.readInt64?_of_comma h
  float := Decimal.readFloat?_of_comma h

/-- Two or more texts without commas are stated by the text that joins them. -/
theorem toTexts_setting {key : String} (hkey : key ∈ listKeys) {ms : List String}
    (several : 2 ≤ ms.length) (commaless : ∀ m ∈ ms, ',' ∉ m.toList) (field : String) :
    (setting key (",".intercalate ms)).toTexts field = .ok ms := by
  have hne : ms.map String.toList ≠ [] := by
    intro hnil
    rw [List.map_eq_nil_iff.mp hnil] at several
    exact absurd several (by decide)
  have hjoined : (",".intercalate ms).toList = [','].intercalate (ms.map String.toList) :=
    String.toList_intercalate
  have hparts : parts ',' (",".intercalate ms).toList = ms.map String.toList := by
    rw [parts_eq_splitOn, hjoined, List.splitOn_intercalate ',' _ hne]
    exact List.forall_mem_map.mpr commaless
  have hcomma : ',' ∈ (",".intercalate ms).toList := by
    have hcount := length_parts ',' (",".intercalate ms).toList
    rw [hparts, List.length_map] at hcount
    exact List.count_pos_iff.mp (by omega)
  have hliteral := literal_of_comma hcomma
  have htexts : (ms.map String.toList).map (fun part => Setting.text origin (String.ofList part)) =
      ms.map (Setting.text origin) := by
    simp [List.map_map, Function.comp_def]
  rw [setting]
  simp only [hliteral.truth, hliteral.whole, hliteral.float, hkey, if_true, hparts, htexts]
  exact Setting.toTexts_texts field origin origin ms

end Settings.Environment

end NodeBootstrap
