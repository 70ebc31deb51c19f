import NodeBootstrap.Json.Printer
import NodeBootstrap.Proofs.Json.Grammar

/-! # The printer keeps to the grammar

What the printer makes of a value is one of the texts that the grammar gives for it, so that it is
read back. -/

namespace NodeBootstrap.Json

open Text

/-! ## Strings -/

theorem hexDigits_text {n : Nat} (h : n < 0x100) : UnitText n (['0', '0'] ++ hexDigits n) := by
  have hhigh := hexValue?_digitChar (d := n / 16) (by omega)
  have hlow := hexValue?_digitChar (d := n % 16) (by omega)
  have hunit := UnitText.digits (a := '0') (b := '0') rfl rfl hhigh hlow
  have hn : ((('0'.toNat - '0'.toNat) * 16 + ('0'.toNat - '0'.toNat)) * 16 + n / 16) * 16 + n % 16 =
      n := by simp; omega
  rwa [hn] at hunit

theorem encodeChar_text (c : Char) : CharText c (encodeChar c) := by
  rw [encodeChar]
  iterate 7
    split
    · next h =>
      subst h
      exact .escaped _ _ (by decide)
  split
  · next h => exact .unit c _ (hexDigits_text (by omega))
  · next quote backslash _ _ _ _ _ printable =>
    exact .plain c (Nat.le_of_not_lt printable) quote backslash

theorem encodeTail_text (s : List Char) : StringText s (encodeTail s) := by
  induction s with
  | nil => exact .nil
  | cons c s ih =>
      rw [encodeTail, List.flatMap_cons, List.append_assoc]
      exact .cons (encodeChar_text c) ih

/-! ## Values -/

/-- Values without floating-point numbers, with at most `depth` arrays and objects around each other
and no key twice in an object. -/
inductive Plain : (depth : Nat) → Json → Prop where
  | null (depth : Nat) : Plain depth null
  | boolean (depth : Nat) (b : Bool) : Plain depth (boolean b)
  | whole (depth n : Nat) (h : n < UInt64.size) : Plain depth (whole n)
  | string (depth : Nat) (s : String) : Plain depth (string s)
  | array (depth : Nat) (items : List Json) (h : ∀ item ∈ items, Plain depth item) :
      Plain (depth + 1) (array items)
  | object (depth : Nat) (fields : List (String × Json)) (once : (fields.map Prod.fst).Nodup)
      (h : ∀ field ∈ fields, Plain depth field.2) : Plain (depth + 1) (object fields)

theorem ScalarText.valueText {j : Json} {text : List Char} (h : ScalarText j text) (depth : Nat) :
    ValueText depth j text := by
  cases depth with
  | zero => exact h
  | succ depth => exact .inl h

section
variable {Value : Json → List Char → Prop}

theorem encodeItems_text {item : Json} {items : List Json} (first : Value item item.encode)
    (later : ∀ item ∈ items, Value item item.encode) :
    ItemsText Value ']' (item :: items) (item.encode ++ encodeItems items) := by
  induction items generalizing item with
  | nil => simpa [encodeItems] using ItemsText.last .nil first .nil
  | cons next items ih =>
      obtain ⟨hnext, hlater⟩ := List.forall_mem_cons.mp later
      have hrest := ih hnext hlater
      simpa [encodeItems] using ItemsText.more .nil first .nil hrest

theorem field_text (key : String) {value : Json} (h : Value value value.encode) :
    FieldText Value (key, value) (encodeString key ++ ':' :: value.encode) := by
  have hfield := FieldText.field (encodeTail_text key.toList) .nil .nil h
  simpa [encodeString] using hfield

theorem encodeFields_text {field : String × Json} {fields : List (String × Json)}
    (first : Value field.2 field.2.encode)
    (later : ∀ field ∈ fields, Value field.2 field.2.encode) :
    ItemsText (FieldText Value) '\x7d' (field :: fields)
      (encodeString field.1 ++ ':' :: field.2.encode ++ encodeFields fields) := by
  induction fields generalizing field with
  | nil =>
      have hlast : ItemsText (FieldText Value) '\x7d' [field] _ :=
        .last .nil (field_text field.1 first) .nil
      simpa [encodeFields] using hlast
  | cons next fields ih =>
      obtain ⟨hnext, hlater⟩ := List.forall_mem_cons.mp later
      have hrest := ih hnext hlater
      have hmore := ItemsText.more .nil (field_text field.1 first) .nil hrest
      simpa [encodeFields] using hmore

end

theorem Plain.encode_text {depth : Nat} {j : Json} (h : Plain depth j) :
    ValueText depth j j.encode := by
  induction h with
  | null depth => exact ScalarText.null.valueText depth
  | boolean depth b =>
      cases b with
      | true => exact ScalarText.yes.valueText depth
      | false => exact ScalarText.no.valueText depth
  | whole depth n h =>
      have hdigits : (Json.whole n).encode = Nat.toDigits 10 n := by
        rw [Json.whole, encode, Number.render]
        exact Nat.toList_repr
      rw [hdigits]
      exact (ScalarText.whole n h).valueText depth
  | string depth s => exact (ScalarText.string s _ (encodeTail_text s.toList)).valueText depth
  | array depth items _ ih =>
      refine .inr ?_
      cases items with
      | nil => exact .array (.empty .nil)
      | cons item items =>
          exact .array (.items (encodeItems_text (ih item List.mem_cons_self) fun x hx =>
            ih x (List.mem_cons_of_mem _ hx)))
  | object depth fields once _ ih =>
      refine .inr ?_
      cases fields with
      | nil => exact .object once (.empty .nil)
      | cons field fields =>
          have hfields := encodeFields_text (ih field List.mem_cons_self) fun x hx =>
            ih x (List.mem_cons_of_mem _ hx)
          exact .object once (.items hfields)

theorem render_text {j : Json} (h : Plain maxDepth j) : DocumentText j j.render.toList := by
  have hdocument := DocumentText.document .nil h.encode_text .nil
  simpa [render] using hdocument

end NodeBootstrap.Json
