import NodeBootstrap.Proofs.Json.Reading

/-! # Skipping what no one asks for

A value of which only the extent matters may be any JSON value: of any depth, with numbers of any
size, with keys that stand twice, and with escapes of surrogates that do not pair. It is skipped to
its end. -/

namespace NodeBootstrap.Json

open Text
open Decimal (isDigit)

/-! ## The grammar -/

/-- A string from after its opening quote to its closing one, whatever its escapes stand for. -/
inductive AnyString : List Char → Prop where
  | nil : AnyString ['"']
  | plain {c : Char} {rest : List Char} (printable : 0x20 ≤ c.toNat) (quote : c ≠ '"')
      (backslash : c ≠ '\\') (later : AnyString rest) : AnyString (c :: rest)
  | escaped {letter c : Char} {rest : List Char} (h : (letter, c) ∈ escapes)
      (later : AnyString rest) : AnyString ('\\' :: letter :: rest)
  | unit {n : Nat} {digits rest : List Char} (h : UnitText n digits) (later : AnyString rest) :
      AnyString ('\\' :: 'u' :: (digits ++ rest))

def Digits (s : List Char) : Prop := s ≠ [] ∧ ∀ c ∈ s, isDigit c

instance (s : List Char) : Decidable (Digits s) :=
  have := List.decidableBAll (fun c => isDigit c = true) s
  inferInstanceAs (Decidable (s ≠ [] ∧ ∀ c ∈ s, isDigit c = true))

/-- The digits before the point. Only zero itself begins with a zero. -/
inductive WholeText : List Char → Prop where
  | zero : WholeText ['0']
  | positive {ds : List Char} (h : Digits ds) (nonzero : ds.head? ≠ some '0') : WholeText ds

inductive FractionText : List Char → Prop where
  | absent : FractionText []
  | digits {ds : List Char} (h : Digits ds) : FractionText ('.' :: ds)

inductive ExponentText : List Char → Prop where
  | absent : ExponentText []
  | digits {letter : Char} {sign ds : List Char} (hletter : letter ∈ ['e', 'E'])
      (hsign : sign ∈ [[], ['+'], ['-']]) (h : Digits ds) : ExponentText (letter :: (sign ++ ds))

/-- A number of any size, with any number of digits. -/
inductive NumberText : List Char → Prop where
  | number {sign whole fraction exponent : List Char} (hsign : sign ∈ [[], ['-']])
      (hwhole : WholeText whole) (hfraction : FractionText fraction)
      (hexponent : ExponentText exponent) :
      NumberText (sign ++ (whole ++ (fraction ++ exponent)))

inductive AnyScalar : List Char → Prop where
  | null : AnyScalar ['n', 'u', 'l', 'l']
  | yes : AnyScalar ['t', 'r', 'u', 'e']
  | no : AnyScalar ['f', 'a', 'l', 's', 'e']
  | number {text : List Char} (h : NumberText text) : AnyScalar text
  | string {inside : List Char} (h : AnyString inside) : AnyScalar ('"' :: inside)

section
variable (Value : List Char → Prop)

inductive AnyField : List Char → Prop where
  | field {inside afterKey before text : List Char} (hkey : AnyString inside)
      (hafter : Blanks afterKey) (hbefore : Blanks before) (hvalue : Value text) :
      AnyField ('"' :: inside ++ afterKey ++ ':' :: before ++ text)

/-- Values that hold others. Nothing is known of what is held but how many there are. -/
inductive AnyCompound : List Char → Prop where
  | array {items : List Unit} {text : List Char}
      (h : SequenceText (fun _ => Value) ']' items text) : AnyCompound ('[' :: text)
  | object {fields : List Unit} {text : List Char}
      (h : SequenceText (fun _ => AnyField Value) '\x7d' fields text) : AnyCompound ('\x7b' :: text)

end

/-- Any JSON value with at most `depth` arrays and objects around each other. -/
def AnyText : (depth : Nat) → List Char → Prop
  | 0 => AnyScalar
  | depth + 1 => fun text => AnyScalar text ∨ AnyCompound (AnyText depth) text

theorem AnyText.single_item {depth : Nat} {text : List Char} (h : AnyText depth text) :
    AnyText (depth + 1) ('[' :: (text ++ [']'])) := by
  have hitems : SequenceText (fun _ => AnyText depth) ']' [()] ([] ++ text ++ [] ++ [']']) :=
    .items (.last .nil h .nil)
  exact .inr (by simpa using AnyCompound.array hitems)

theorem AnyText.single_field {depth : Nat} {inside text : List Char} (hkey : AnyString inside)
    (hvalue : AnyText depth text) :
    AnyText (depth + 1) ('\x7b' :: '"' :: (inside ++ ':' :: (text ++ ['\x7d']))) := by
  have hfield : AnyField (AnyText depth) ('"' :: inside ++ [] ++ ':' :: [] ++ text) :=
    .field hkey .nil .nil hvalue
  have hfields : SequenceText (fun _ => AnyField (AnyText depth)) '\x7d' [()]
      ([] ++ ('"' :: inside ++ [] ++ ':' :: [] ++ text) ++ [] ++ ['\x7d']) :=
    .items (.last .nil hfield .nil)
  exact .inr (by simpa using AnyCompound.object hfields)

/-! ## Strings and numbers -/

theorem skipString_unit {n : Nat} {digits : List Char} (h : UnitText n digits)
    (rest : List Char) :
    skipString (.unit none 0 0) (digits ++ rest) = skipString .plain rest := by
  cases h with
  | digits ha hb hc hd => simp [skipString, ha, hb, hc, hd]

theorem skipString_of_text {text : List Char} (h : AnyString text) (rest : List Char) :
    skipString .plain (text ++ rest) = .ok rest := by
  induction h with
  | nil => rfl
  | plain printable quote backslash later ih =>
      simpa [skipString, quote, backslash, Nat.not_lt.mpr printable] using ih
  | escaped h later ih =>
      obtain ⟨hu, hletter⟩ := escapedChar?_of_mem h
      simpa [skipString, hu, hletter] using ih
  | unit h later ih => simpa [skipString, skipString_unit h] using ih

/-- What ends digits: neither a digit nor the point or the letter that goes on with them. -/
theorem ExponentText.not_digit {exponent rest : List Char} (h : ExponentText exponent)
    (hrest : Delimited rest) : ∀ c ∈ (exponent ++ rest).head?, ¬isDigit c ∧ c ≠ '.' := by
  cases h with
  | absent =>
      intro c hc
      have hnot := hrest.not_digit c hc
      exact ⟨hnot.1, fun heq => hnot.2 (heq ▸ List.mem_cons_self)⟩
  | digits hletter =>
      intro c hc
      obtain rfl := Option.some.inj hc
      simp only [List.mem_cons, List.not_mem_nil, or_false] at hletter
      obtain rfl | rfl := hletter <;> decide

theorem splitSign_of_text {sign ds : List Char} (hsign : sign ∈ [[], ['+'], ['-']]) (h : Digits ds)
    (rest : List Char) :
    ∃ negative, Decimal.splitSign (sign ++ ds ++ rest) = (negative, ds ++ rest) := by
  simp only [List.mem_cons, List.not_mem_nil, or_false] at hsign
  obtain rfl | rfl | rfl := hsign
  · obtain ⟨d, ds, rfl⟩ := List.exists_cons_of_ne_nil h.1
    refine ⟨false, ?_⟩
    rw [List.nil_append, List.cons_append, Decimal.splitSign]
    · rintro after heq
      cases heq
      exact absurd (h.2 _ List.mem_cons_self) (by decide)
    · rintro after heq
      cases heq
      exact absurd (h.2 _ List.mem_cons_self) (by decide)
  · exact ⟨false, rfl⟩
  · exact ⟨true, rfl⟩

theorem exponentPart_of_text {exponent rest : List Char} (h : ExponentText exponent)
    (hrest : Delimited rest) : ∃ n, exponentPart (exponent ++ rest) = .ok (n, rest) := by
  cases h with
  | absent =>
      cases rest with
      | nil => exact ⟨none, rfl⟩
      | cons c rest =>
          have hc := (hrest.not_digit c rfl).2
          simp only [List.mem_cons, not_or] at hc
          exact ⟨none, by simp [exponentPart, hc]⟩
  | @digits letter sign ds hletter hsign h =>
      have hdigits := someDigits_append h.2 h.1 fun c hc => (hrest.not_digit c hc).1
      obtain ⟨negative, hsplit⟩ := splitSign_of_text hsign h rest
      simp only [List.mem_cons, List.not_mem_nil, or_false] at hletter
      refine ⟨some (if negative then -(Nat.ofDigitChars 10 ds 0 : Int) else
        Nat.ofDigitChars 10 ds 0), ?_⟩
      rw [List.cons_append, exponentPart, if_pos hletter, hsplit]
      simp only [hdigits, Except.map]

theorem fractionPart_of_text {fraction rest : List Char} (h : FractionText fraction)
    (hrest : ∀ c ∈ rest.head?, ¬isDigit c ∧ c ≠ '.') :
    ∃ ds, fractionPart (fraction ++ rest) = .ok (ds, rest) := by
  cases h with
  | absent =>
      refine ⟨none, ?_⟩
      rw [List.nil_append, fractionPart]
      rintro after rfl
      exact (hrest '.' rfl).2 rfl
  | @digits ds h =>
      refine ⟨some ds, ?_⟩
      rw [List.cons_append, fractionPart,
        someDigits_append h.2 h.1 fun c hc => (hrest c hc).1]
      rfl

theorem FractionText.not_digit {fraction rest : List Char} (h : FractionText fraction)
    (hrest : ∀ c ∈ rest.head?, ¬isDigit c ∧ c ≠ '.') :
    ∀ c ∈ (fraction ++ rest).head?, ¬isDigit c := by
  cases h with
  | absent => exact fun c hc => (hrest c hc).1
  | digits =>
      intro c hc
      obtain rfl := Option.some.inj hc
      decide

theorem wholePart_of_text {whole rest : List Char} (h : WholeText whole)
    (hrest : ∀ c ∈ rest.head?, ¬isDigit c) : wholePart (whole ++ rest) = .ok (whole, rest) := by
  cases h with
  | zero =>
      cases rest with
      | nil => rfl
      | cons c rest => simp [wholePart, hrest c rfl]
  | positive h nonzero =>
      rw [wholePart]
      · exact someDigits_append h.2 h.1 hrest
      · intro after hzero
        rw [← List.head?_append_of_ne_nil _ h.1, hzero] at nonzero
        exact nonzero rfl

theorem WholeText.head {whole : List Char} (h : WholeText whole) :
    ∃ c ds, whole = c :: ds ∧ isDigit c := by
  cases h with
  | zero => exact ⟨_, _, rfl, by decide⟩
  | positive h =>
      obtain ⟨c, ds, rfl⟩ := List.exists_cons_of_ne_nil h.1
      exact ⟨c, ds, rfl, h.2 c List.mem_cons_self⟩

theorem skipNumber_of_text {text rest : List Char} (h : NumberText text) (hrest : Delimited rest) :
    skipNumber (text ++ rest) = .ok rest := by
  cases h with
  | @number sign whole fraction exponent hsign hwhole hfraction hexponent =>
      have hpoint := hexponent.not_digit hrest
      obtain ⟨e, hexponent⟩ := exponentPart_of_text hexponent hrest
      have hdigits := hfraction.not_digit hpoint
      obtain ⟨ds, hfraction⟩ := fractionPart_of_text hfraction hpoint
      obtain ⟨c, cs, hhead, digit⟩ := hwhole.head
      have hwhole := wholePart_of_text hwhole hdigits
      have hnumeral : ∃ n, numeral (sign ++ (whole ++ (fraction ++ exponent)) ++ rest) =
          .ok (n, rest) := by
        simp only [List.append_assoc]
        simp only [List.mem_cons, List.not_mem_nil, or_false] at hsign
        obtain rfl | rfl := hsign
        · refine ⟨⟨false, whole, ds, e⟩, ?_⟩
          rw [List.nil_append, numeral]
          · simp only [hwhole, hfraction, hexponent, ok_bind]
            rfl
          · intro after hminus
            rw [hhead] at hminus
            cases hminus
            exact absurd digit (by decide)
        · refine ⟨⟨true, whole, ds, e⟩, ?_⟩
          rw [List.singleton_append, numeral]
          simp only [hwhole, hfraction, hexponent, ok_bind]
          rfl
      obtain ⟨n, hnumeral⟩ := hnumeral
      rw [skipNumber, hnumeral]

/-! ## Values -/

/-! The first character of a value tells its kind. -/

section
variable {fuel : Nat} {s rest : List Char}

theorem skipValue_null (h : skipBlanks s = 'n' :: rest) :
    skipValue (fuel + 1) s = word ['u', 'l', 'l'] rest := by
  rw [skipValue.eq_def]
  simp only [h]

theorem skipValue_yes (h : skipBlanks s = 't' :: rest) :
    skipValue (fuel + 1) s = word ['r', 'u', 'e'] rest := by
  rw [skipValue.eq_def]
  simp only [h]

theorem skipValue_no (h : skipBlanks s = 'f' :: rest) :
    skipValue (fuel + 1) s = word ['a', 'l', 's', 'e'] rest := by
  rw [skipValue.eq_def]
  simp only [h]

theorem skipValue_string (h : skipBlanks s = '"' :: rest) :
    skipValue (fuel + 1) s = skipString .plain rest := by
  rw [skipValue.eq_def]
  simp only [h]

theorem skipValue_number {c : Char} (h : skipBlanks s = c :: rest) (hc : c = '-' ∨ isDigit c) :
    skipValue (fuel + 1) s = skipNumber (c :: rest) := by
  rw [skipValue.eq_def]
  simp only [h]
  split
  case h_1 heq => cases heq
  case h_8 heq => cases heq; rw [if_pos hc]
  all_goals next heq => cases heq; exact absurd hc (by decide)

def skipItem (fuel : Nat) (_ : Unit) (s : List Char) : Except Fault (Unit × List Char) :=
  (skipValue fuel s).map ((), ·)

def skipField (fuel : Nat) (_ : Unit) (s : List Char) : Except Fault (Unit × List Char) := do
  let s ← skipString .plain s
  let s ← colon s
  let s ← skipValue fuel s
  return ((), s)

theorem skipValue_array (h : skipBlanks s = '[' :: rest) :
    skipValue (fuel + 1) s =
      (itemLoop (skipItem fuel) (rest.length + 1) true () rest).map Prod.snd := by
  rw [skipValue.eq_def]
  simp only [h]
  rfl

theorem skipValue_object (h : skipBlanks s = '\x7b' :: rest) :
    skipValue (fuel + 1) s =
      (fieldLoop (skipField fuel) (rest.length + 1) true () rest).map Prod.snd := by
  rw [skipValue.eq_def]
  simp only [h]
  rfl

end

theorem NumberText.head {text : List Char} (h : NumberText text) :
    ∃ c rest, text = c :: rest ∧ (c = '-' ∨ isDigit c) := by
  cases h with
  | number hsign hwhole =>
      obtain ⟨c, cs, rfl, digit⟩ := hwhole.head
      simp only [List.mem_cons, List.not_mem_nil, or_false] at hsign
      obtain rfl | rfl := hsign
      · exact ⟨c, _, rfl, .inr digit⟩
      · exact ⟨'-', _, rfl, .inl rfl⟩

theorem AnyScalar.starts {text : List Char} (h : AnyScalar text) : Starts text := by
  cases h with
  | null => exact ⟨_, _, rfl, by decide, by decide⟩
  | yes => exact ⟨_, _, rfl, by decide, by decide⟩
  | no => exact ⟨_, _, rfl, by decide, by decide⟩
  | number h =>
      obtain ⟨c, rest, rfl, hc⟩ := h.head
      refine ⟨c, rest, rfl, ?_, ?_⟩
      · intro hblank
        have hmem := mem_blanks hblank
        simp only [List.mem_cons, List.not_mem_nil, or_false] at hmem
        obtain rfl | rfl | rfl | rfl := hmem <;> exact absurd hc (by decide)
      · rintro rfl
        exact absurd hc (by decide)
  | string h => exact ⟨_, _, rfl, by decide, by decide⟩

theorem AnyText.starts {depth : Nat} {text : List Char} (h : AnyText depth text) :
    Starts text := by
  cases depth with
  | zero => exact AnyScalar.starts h
  | succ depth =>
      rcases h with h | h
      · exact h.starts
      · cases h with
        | array => exact ⟨_, _, rfl, by decide, by decide⟩
        | object => exact ⟨_, _, rfl, by decide, by decide⟩

theorem skipValue_scalar {text : List Char} (h : AnyScalar text) (fuel : Nat)
    {before rest : List Char} (hbefore : Blanks before) (hrest : Delimited rest) :
    skipValue (fuel + 1) (before ++ (text ++ rest)) = .ok rest := by
  obtain ⟨c, inside, htext, hblank, -⟩ := h.starts
  have hskip : skipBlanks (before ++ (text ++ rest)) = text ++ rest := by
    rw [htext, List.cons_append, skipBlanks_before hbefore hblank]
  cases h with
  | null =>
      rw [List.cons_append] at hskip ⊢
      rw [skipValue_null hskip, word_append]
  | yes =>
      rw [List.cons_append] at hskip ⊢
      rw [skipValue_yes hskip, word_append]
  | no =>
      rw [List.cons_append] at hskip ⊢
      rw [skipValue_no hskip, word_append]
  | number h =>
      obtain ⟨d, ds, hds, hd⟩ := h.head
      have hskipped := skipNumber_of_text h hrest
      rw [hds, List.cons_append] at hskipped hskip
      rw [hds, List.cons_append, skipValue_number hskip hd, hskipped]
  | string h =>
      rw [List.cons_append] at hskip ⊢
      rw [skipValue_string hskip, skipString_of_text h]

/-- Texts of values are skipped that are no longer than the fuel. Each array and each object takes
room of its own, so that the length bounds the depth as well. -/
def Skips (fuel : Nat) : Prop :=
  ∀ {depth : Nat} {text before rest : List Char}, AnyText depth text → text.length ≤ fuel →
    Blanks before → Delimited rest → skipValue fuel (before ++ (text ++ rest)) = .ok rest

section
variable {fuel depth : Nat}

/-- A value held by another that is no longer than the fuel. -/
def Held (depth fuel : Nat) (text : List Char) : Prop := AnyText depth text ∧ text.length ≤ fuel

theorem Skips.items (h : Skips fuel) :
    ItemReader (fun (_ : Unit) => Held depth fuel) (skipItem fuel) fun _ _ => pure () where
  starts := fun _ _ hitem => hitem.1.starts
  reads := fun _ _ text rest hitem hrest => by
    have hskipped := h hitem.1 hitem.2 .nil hrest
    rw [List.nil_append] at hskipped
    rw [skipItem, hskipped]
    rfl

theorem Skips.fields (h : Skips fuel) :
    FieldReader (fun (_ : Unit) => AnyField (Held depth fuel)) (skipField fuel)
      fun _ _ => pure () where
  reads := fun _ _ text rest hfield hrest => by
    cases hfield with
    | @field inside afterKey before text hkey hafter hbefore hvalue =>
        refine ⟨inside ++ afterKey ++ ':' :: before ++ text, by simp, ?_⟩
        simp only [skipField, List.append_assoc, List.cons_append, skipString_of_text hkey,
          ok_bind, colon_append hafter, h hvalue.1 hvalue.2 hbefore hrest]
        rfl

end

section
variable {α : Type} {Item Item' : α → List Char → Prop} {close : Char} {xs : List α}
  {text : List Char} {bound : Nat}

/-- No item of a sequence is longer than the whole. -/
theorem ItemsText.imp (h : ItemsText Item close xs text) (short : text.length ≤ bound)
    (imp : ∀ x ∈ xs, ∀ text, Item x text → text.length ≤ bound → Item' x text) :
    ItemsText Item' close xs text := by
  induction h with
  | last hbefore item hafter =>
      simp only [List.length_append] at short
      exact .last hbefore (imp _ List.mem_cons_self _ item (by omega)) hafter
  | more hbefore item hafter later ih =>
      simp only [List.length_append, List.length_cons] at short
      exact .more hbefore (imp _ List.mem_cons_self _ item (by omega)) hafter
        (ih (by omega) fun x hx => imp x (List.mem_cons_of_mem _ hx))

theorem SequenceText.imp (h : SequenceText Item close xs text) (short : text.length ≤ bound)
    (imp : ∀ x ∈ xs, ∀ text, Item x text → text.length ≤ bound → Item' x text) :
    SequenceText Item' close xs text := by
  cases h with
  | empty h => exact .empty h
  | items h => exact .items (h.imp short imp)

end

theorem AnyField.imp {Value Value' : List Char → Prop} {text : List Char} {bound : Nat}
    (h : AnyField Value text) (short : text.length ≤ bound)
    (imp : ∀ text, Value text → text.length ≤ bound → Value' text) : AnyField Value' text := by
  cases h with
  | field hkey hafter hbefore hvalue =>
      simp only [List.length_append, List.length_cons] at short
      exact .field hkey hafter hbefore (imp _ hvalue (by omega))

theorem skips (fuel : Nat) : Skips fuel := by
  induction fuel with
  | zero =>
      intro depth text before rest h short
      obtain ⟨c, inside, rfl, -⟩ := h.starts
      exact absurd short (Nat.not_succ_le_zero _)
  | succ fuel ih =>
      intro depth text before rest h short hbefore hrest
      have held : ∀ {depth text}, AnyText depth text → text.length ≤ fuel →
          Held depth fuel text := fun h short => ⟨h, short⟩
      cases depth with
      | zero => exact skipValue_scalar h fuel hbefore hrest
      | succ depth =>
          rcases h with h | h
          · exact skipValue_scalar h fuel hbefore hrest
          · cases h with
            | array h =>
                have inside := h.imp (Nat.le_of_succ_le_succ short) fun _ _ _ => held
                rw [List.cons_append, skipValue_array (skipBlanks_before hbefore (by decide) _),
                  ih.items.loop.sequence inside ()
                    (Nat.lt_succ_of_le (h.length_le_append rest)), List.foldlM_pure]
                rfl
            | object h =>
                have inside := h.imp (Nat.le_of_succ_le_succ short) fun _ _ _ hfield short =>
                  hfield.imp short fun _ => held
                rw [List.cons_append, skipValue_object (skipBlanks_before hbefore (by decide) _),
                  ih.fields.loop.sequence inside ()
                    (Nat.lt_succ_of_le (h.length_le_append rest)), List.foldlM_pure]
                rfl

/-- Any value is skipped, however deep it is. -/
theorem skip_of_text {depth : Nat} {text before rest : List Char} (h : AnyText depth text)
    (hbefore : Blanks before) (hrest : Delimited rest) :
    skip (before ++ (text ++ rest)) = .ok rest := by
  have short : text.length ≤ (before ++ (text ++ rest)).length + 1 := by
    simp only [List.length_append]
    omega
  exact skips _ h short hbefore hrest

end NodeBootstrap.Json
