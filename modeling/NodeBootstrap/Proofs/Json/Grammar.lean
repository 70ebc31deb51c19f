import NodeBootstrap.Json.Reader

/-! # The grammar of JSON

How values may be written: with blanks between tokens, with any escapes in strings, and with the
fields of an object in their order and no key twice. The rules do not read anything. -/

namespace NodeBootstrap.Json

open Text

def Blanks (s : List Char) : Prop := ∀ c ∈ s, isJsonBlank c

instance (s : List Char) : Decidable (Blanks s) :=
  List.decidableBAll (fun c => isJsonBlank c = true) s

theorem Blanks.nil : Blanks [] := nofun

/-! ## Strings -/

/-- The letters after a backslash, with the characters that they stand for. -/
def escapes : List (Char × Char) :=
  [('"', '"'), ('\\', '\\'), ('/', '/'), ('b', '\x08'), ('f', '\x0c'), ('n', '\n'), ('r', '\r'),
    ('t', '\t')]

/-- A number in four hexadecimal digits. -/
inductive UnitText : Nat → List Char → Prop where
  | digits {a b c d : Char} {w x y z : Nat} (ha : hexValue? a = some w)
      (hb : hexValue? b = some x) (hc : hexValue? c = some y) (hd : hexValue? d = some z) :
      UnitText (((w * 16 + x) * 16 + y) * 16 + z) [a, b, c, d]

/-- How a character is written in a string. Those beyond sixteen bits take two units. -/
inductive CharText : Char → List Char → Prop where
  | plain (c : Char) (printable : 0x20 ≤ c.toNat) (quote : c ≠ '"') (backslash : c ≠ '\\') :
      CharText c [c]
  | escaped (letter c : Char) (h : (letter, c) ∈ escapes) : CharText c ['\\', letter]
  | unit (c : Char) (digits : List Char) (h : UnitText c.toNat digits) :
      CharText c ('\\' :: 'u' :: digits)
  | pair (c : Char) (leading trailing : List Char) (beyond : 0x10000 ≤ c.toNat)
      (hleading : UnitText (0xD800 + (c.toNat - 0x10000) / 0x400) leading)
      (htrailing : UnitText (0xDC00 + (c.toNat - 0x10000) % 0x400) trailing) :
      CharText c ('\\' :: 'u' :: leading ++ '\\' :: 'u' :: trailing)

/-- A string from after its opening quote to its closing one. -/
inductive StringText : List Char → List Char → Prop where
  | nil : StringText [] ['"']
  | cons {c : Char} {cs text rest : List Char} (first : CharText c text)
      (later : StringText cs rest) : StringText (c :: cs) (text ++ rest)

/-! ## Values -/

/-- Values that hold no others. Whole numbers are those of 64 bits. -/
inductive ScalarText : Json → List Char → Prop where
  | null : ScalarText null ['n', 'u', 'l', 'l']
  | yes : ScalarText (boolean true) ['t', 'r', 'u', 'e']
  | no : ScalarText (boolean false) ['f', 'a', 'l', 's', 'e']
  | whole (n : Nat) (h : n < UInt64.size) : ScalarText (whole n) (Nat.toDigits 10 n)
  | string (s : String) (inside : List Char) (h : StringText s.toList inside) :
      ScalarText (string s) ('"' :: inside)

section
variable {α : Type} (Item : α → List Char → Prop) (close : Char)

/-- Items between commas, at least one, up to a closing bracket. -/
inductive ItemsText : List α → List Char → Prop where
  | last {x : α} {before text after : List Char} (hbefore : Blanks before) (item : Item x text)
      (hafter : Blanks after) : ItemsText [x] (before ++ text ++ after ++ [close])
  | more {x : α} {xs : List α} {before text after rest : List Char} (hbefore : Blanks before)
      (item : Item x text) (hafter : Blanks after) (later : ItemsText xs rest) :
      ItemsText (x :: xs) (before ++ text ++ after ++ ',' :: rest)

inductive SequenceText : List α → List Char → Prop where
  | empty {blanks : List Char} (h : Blanks blanks) : SequenceText [] (blanks ++ [close])
  | items {xs : List α} {text : List Char} (h : ItemsText Item close xs text) :
      SequenceText xs text

end

variable (Value : Json → List Char → Prop)

inductive FieldText : String × Json → List Char → Prop where
  | field {key : String} {value : Json} {inside afterKey before text : List Char}
      (hkey : StringText key.toList inside) (hafter : Blanks afterKey) (hbefore : Blanks before)
      (hvalue : Value value text) :
      FieldText (key, value) ('"' :: inside ++ afterKey ++ ':' :: before ++ text)

/-- Values that hold others. -/
inductive CompoundText : Json → List Char → Prop where
  | array {items : List Json} {text : List Char} (h : SequenceText Value ']' items text) :
      CompoundText (array items) ('[' :: text)
  | object {fields : List (String × Json)} {text : List Char}
      (once : (fields.map Prod.fst).Nodup) (h : SequenceText (FieldText Value) '\x7d' fields text) :
      CompoundText (object fields) ('\x7b' :: text)

/-- A value with at most `depth` arrays and objects around each other. -/
def ValueText : (depth : Nat) → Json → List Char → Prop
  | 0 => ScalarText
  | depth + 1 => fun j text => ScalarText j text ∨ CompoundText (ValueText depth) j text

/-- A whole text, of a value that is not nested too deep to be kept. -/
inductive DocumentText : Json → List Char → Prop where
  | document {j : Json} {before text after : List Char} (hbefore : Blanks before)
      (value : ValueText maxDepth j text) (hafter : Blanks after) :
      DocumentText j (before ++ text ++ after)

end NodeBootstrap.Json
