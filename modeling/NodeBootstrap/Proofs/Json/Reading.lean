import NodeBootstrap.Proofs.Json.Scanning

/-! # Reading what the grammar writes

Every text that the grammar gives for a value is read as that value. The loops are followed for any
kind of item, so that other readers that use them can be followed likewise. -/

namespace NodeBootstrap.Json

open Decimal (isDigit)

/-! ## Loops -/

/-- What stands before an item: nothing before the first, a comma before a later one. -/
inductive Lead : (first : Bool) → List Char → Prop where
  | first : Lead true []
  | later {after : List Char} (h : Blanks after) : Lead false (after ++ [','])

theorem nextItem_of_lead {first : Bool} {lead before : List Char} (hlead : Lead first lead)
    (hbefore : Blanks before) {c : Char} (hblank : ¬isJsonBlank c) (hclose : c ≠ ']')
    (rest : List Char) :
    nextItem first (lead ++ (before ++ c :: rest)) = .ok (some (c :: rest)) := by
  cases hlead with
  | first =>
      rw [List.nil_append, nextItem, skipBlanks_append hbefore, skipBlanks_cons hblank]
      simp [hclose]
  | later h =>
      rw [List.append_assoc, nextItem, skipBlanks_append h, List.singleton_append,
        skipBlanks_cons (by decide)]
      simp [skipBlanks_append hbefore, skipBlanks_cons hblank, hclose]

theorem nextItem_end {blanks : List Char} (h : Blanks blanks) (first : Bool) (rest : List Char) :
    nextItem first (blanks ++ ']' :: rest) = .ok none := by
  rw [nextItem, skipBlanks_append h, skipBlanks_cons (by decide)]
  rfl

theorem endItems_end {blanks : List Char} (h : Blanks blanks) (rest : List Char) :
    endItems (blanks ++ ']' :: rest) = .ok rest := by
  rw [endItems, skipBlanks_append h, skipBlanks_cons (by decide)]
  rfl

section
variable {α σ : Type} {Item : α → List Char → Prop}
  {item : σ → List Char → Except Fault (σ × List Char)} {step : σ → α → Except Fault σ}

/-- What a loop does in its rounds: it ends at the closing bracket, and otherwise reads an item,
which may be refused in the state reached. -/
structure LoopReader (Item : α → List Char → Prop) (close : Char) (step : σ → α → Except Fault σ)
    (loop : Nat → Bool → σ → List Char → Except Fault (σ × List Char)) : Prop where
  closes : close ∈ [',', ']', '\x7d']
  ends : ∀ {blanks}, Blanks blanks → ∀ first state rounds rest,
    loop (rounds + 1) first state (blanks ++ close :: rest) = .ok (state, rest)
  round : ∀ {first lead before x text rest}, Lead first lead → Blanks before → Item x text →
    Delimited rest → ∀ state rounds,
      loop (rounds + 1) first state (lead ++ (before ++ (text ++ rest))) =
        step state x >>= fun state => loop rounds false state rest

namespace LoopReader

variable {close : Char} {loop : Nat → Bool → σ → List Char → Except Fault (σ × List Char)}

theorem items (r : LoopReader Item close step loop) {xs : List α} {text : List Char}
    (h : ItemsText Item close xs text) {first : Bool} {lead : List Char} (hlead : Lead first lead)
    (state : σ) {rounds : Nat} (hrounds : xs.length < rounds) (rest : List Char) :
    loop rounds first state (lead ++ (text ++ rest)) = (xs.foldlM step state).map (·, rest) := by
  induction h generalizing first lead state rounds with
  | @last x before text after hbefore hitem hafter =>
      obtain ⟨rounds, rfl⟩ : ∃ n, rounds = n + 1 + 1 := ⟨rounds - 2, by simp at hrounds; omega⟩
      have hend := delimited_append hafter r.closes rest
      simp only [List.append_assoc, List.singleton_append]
      rw [r.round hlead hbefore hitem hend, List.foldlM_cons]
      cases step state x with
      | error fault => rfl
      | ok state => exact r.ends hafter false state rounds rest
  | @more x xs before text after later hbefore hitem hafter _ ih =>
      obtain ⟨rounds, rfl⟩ : ∃ n, rounds = n + 1 := ⟨rounds - 1, by omega⟩
      have hcomma := delimited_append hafter (c := ',') (by decide)
      simp only [List.append_assoc, List.cons_append]
      rw [r.round hlead hbefore hitem (hcomma _), List.foldlM_cons]
      cases step state x with
      | error fault => rfl
      | ok state =>
          have hnext := ih (.later hafter) state (Nat.lt_of_succ_lt_succ hrounds)
          simpa using hnext

/-- A sequence is read to its end, or to the first item that is refused. -/
theorem sequence (r : LoopReader Item close step loop) {xs : List α} {text : List Char}
    (h : SequenceText Item close xs text) (state : σ) {rounds : Nat} (hrounds : xs.length < rounds)
    (rest : List Char) :
    loop rounds true state (text ++ rest) = (xs.foldlM step state).map (·, rest) := by
  cases h with
  | empty h =>
      obtain ⟨rounds, rfl⟩ : ∃ n, rounds = n + 1 := ⟨rounds - 1, by omega⟩
      rw [List.append_assoc, List.singleton_append, r.ends h]
      rfl
  | items h => exact r.items h .first state hrounds rest

end LoopReader

/-- A value is not taken for a blank, nor for the end of an array. -/
def Starts (text : List Char) : Prop :=
  ∃ c rest, text = c :: rest ∧ ¬isJsonBlank c ∧ c ≠ ']'

/-- Items of an array are told from its end, and are read one by one. -/
structure ItemReader (Item : α → List Char → Prop)
    (item : σ → List Char → Except Fault (σ × List Char)) (step : σ → α → Except Fault σ) :
    Prop where
  starts : ∀ x text, Item x text → Starts text
  reads : ∀ state x text rest, Item x text → Delimited rest →
    item state (text ++ rest) = (step state x).map (·, rest)

theorem ItemReader.loop (r : ItemReader Item item step) :
    LoopReader Item ']' step (itemLoop item) where
  closes := by decide
  ends := fun h first state rounds rest => by
    rw [itemLoop, nextItem_end h, ok_bind]
    simp only [endItems_end h, ok_bind]
    rfl
  round := fun {first lead before x text rest} hlead hbefore hitem hrest state rounds => by
    obtain ⟨c, inside, rfl, hblank, hclose⟩ := r.starts x text hitem
    rw [itemLoop, List.cons_append, nextItem_of_lead hlead hbefore hblank hclose, ok_bind]
    simp only [← List.cons_append, r.reads state x _ rest hitem hrest]
    cases step state x <;> rfl

/-- Fields of an object start with a quote, and are read from after it. -/
structure FieldReader (Item : α → List Char → Prop)
    (field : σ → List Char → Except Fault (σ × List Char)) (step : σ → α → Except Fault σ) :
    Prop where
  reads : ∀ state x text rest, Item x text → Delimited rest →
    ∃ inside, text = '"' :: inside ∧ field state (inside ++ rest) = (step state x).map (·, rest)

theorem FieldReader.loop (r : FieldReader Item item step) :
    LoopReader Item '\x7d' step (fieldLoop item) where
  closes := by decide
  ends := fun h first state rounds rest => by
    rw [fieldLoop, skipBlanks_append h, skipBlanks_cons (by decide)]
    rfl
  round := fun {first lead before x text rest} hlead hbefore hitem hrest state rounds => by
    obtain ⟨inside, rfl, hread⟩ := r.reads state x text rest hitem hrest
    have hquote : skipBlanks (before ++ '"' :: (inside ++ rest)) = '"' :: (inside ++ rest) := by
      rw [skipBlanks_append hbefore, skipBlanks_cons (by decide)]
    cases hlead with
    | first =>
        rw [List.nil_append, fieldLoop, List.cons_append, hquote]
        cases hstep : step state x <;> simp [hread, hstep, Except.map]
    | later h =>
        rw [List.append_assoc, fieldLoop, skipBlanks_append h, List.singleton_append,
          skipBlanks_cons (by decide)]
        cases hstep : step state x <;> simp [hquote, hread, hstep, Except.map]

/-- Each item takes room, so that a loop as long as the text has a round for every one. -/
theorem SequenceText.length_le {close : Char} {xs : List α} {text : List Char}
    (h : SequenceText Item close xs text) : xs.length ≤ text.length := by
  cases h with
  | empty => exact Nat.zero_le _
  | items h =>
      induction h with
      | last =>
          simp only [List.length_append, List.length_singleton]
          omega
      | more _ _ _ _ ih =>
          simp only [List.length_cons, List.length_append]
          omega

theorem SequenceText.length_le_append {close : Char} {xs : List α} {text : List Char}
    (h : SequenceText Item close xs text) (rest : List Char) : xs.length ≤ (text ++ rest).length :=
  Nat.le_trans h.length_le (List.length_append ▸ Nat.le_add_right _ _)

end

theorem ItemsText.of_map {α β : Type} {f : β → α} {Item : α → List Char → Prop} {close : Char}
    {xs : List β} {text : List Char} (h : ItemsText Item close (xs.map f) text) :
    ItemsText (fun x => Item (f x)) close xs text := by
  generalize hys : xs.map f = ys at h
  induction h generalizing xs with
  | last hbefore item hafter =>
      obtain ⟨x, rfl, rfl⟩ := List.map_eq_singleton_iff.mp hys
      exact .last hbefore item hafter
  | more hbefore item hafter later ih =>
      obtain ⟨x, xs, rfl, rfl, hxs⟩ := List.map_eq_cons_iff.mp hys
      exact .more hbefore item hafter (ih hxs)

/-- A sequence of images is a sequence of what they are images of. -/
theorem SequenceText.of_map {α β : Type} {f : β → α} {Item : α → List Char → Prop} {close : Char}
    {xs : List β} {text : List Char} (h : SequenceText Item close (xs.map f) text) :
    SequenceText (fun x => Item (f x)) close xs text := by
  generalize hys : xs.map f = ys at h
  cases h with
  | empty h =>
      obtain rfl := List.map_eq_nil_iff.mp hys
      exact .empty h
  | items h =>
      subst hys
      exact .items h.of_map

/-! ## Values that are kept -/

theorem colon_append {blanks : List Char} (h : Blanks blanks) (rest : List Char) :
    colon (blanks ++ ':' :: rest) = .ok rest := by
  rw [colon, skipBlanks_append h, skipBlanks_cons (by decide)]
  rfl

theorem word_append (cs rest : List Char) : word cs (cs ++ rest) = .ok rest := by
  induction cs with
  | nil => rfl
  | cons c cs ih => rw [List.cons_append, word, if_pos rfl, ih]

/-! The first character of a value tells its kind. -/

section
variable {depth : Nat} {s rest : List Char}

theorem keepValue_null (h : skipBlanks s = 'n' :: rest) :
    keepValue depth s = (word ['u', 'l', 'l'] rest).map (null, ·) := by
  rw [keepValue.eq_def]
  simp only [h]

theorem keepValue_yes (h : skipBlanks s = 't' :: rest) :
    keepValue depth s = (word ['r', 'u', 'e'] rest).map (boolean true, ·) := by
  rw [keepValue.eq_def]
  simp only [h]

theorem keepValue_no (h : skipBlanks s = 'f' :: rest) :
    keepValue depth s = (word ['a', 'l', 's', 'e'] rest).map (boolean false, ·) := by
  rw [keepValue.eq_def]
  simp only [h]

theorem keepValue_string (h : skipBlanks s = '"' :: rest) :
    keepValue depth s =
      (keepString noBad .plain rest).map fun (cs, rest) => (string (String.ofList cs), rest) := by
  rw [keepValue.eq_def]
  simp only [h]

theorem keepValue_number {c : Char} (h : skipBlanks s = c :: rest) (digit : isDigit c) :
    keepValue depth s = (keepNumber (c :: rest)).map fun (n, rest) => (number n, rest) := by
  rw [keepValue.eq_def]
  simp only [h]
  split
  case h_1 heq => cases heq
  case h_8 heq => cases heq; rw [if_pos (.inr digit)]
  all_goals next heq => cases heq; exact absurd digit (by decide)

/-- The items that are kept so far, the last one first. -/
def keepItem (depth : Nat) (items : List Json) (s : List Char) :
    Except Fault (List Json × List Char) :=
  (keepValue depth s).map fun (value, rest) => (value :: items, rest)

/-- The fields that are kept so far. -/
def keepField (depth : Nat) (fields : List (String × Json)) (s : List Char) :
    Except Fault (List (String × Json) × List Char) := do
  let (key, s) ← keepString noBad .plain s
  let s ← colon s
  let (value, s) ← keepValue depth s
  return (setField (String.ofList key) value fields, s)

theorem keepValue_array (h : skipBlanks s = '[' :: rest) :
    keepValue (depth + 1) s =
      (itemLoop (keepItem depth) (rest.length + 1) true [] rest).map fun (items, rest) =>
        (array items.reverse, rest) := by
  rw [keepValue.eq_def]
  simp only [h]
  rfl

theorem keepValue_object (h : skipBlanks s = '\x7b' :: rest) :
    keepValue (depth + 1) s =
      (fieldLoop (keepField depth) (rest.length + 1) true [] rest).map fun (fields, rest) =>
        (object fields, rest) := by
  rw [keepValue.eq_def]
  simp only [h]
  rfl

end

theorem ScalarText.starts {j : Json} {text : List Char} (h : ScalarText j text) : Starts text := by
  cases h with
  | null => exact ⟨_, _, rfl, by decide, by decide⟩
  | yes => exact ⟨_, _, rfl, by decide, by decide⟩
  | no => exact ⟨_, _, rfl, by decide, by decide⟩
  | whole n h =>
      obtain ⟨c, ds, hds, digit⟩ := head_toDigits n
      refine ⟨c, ds, hds, fun hblank => ?_, fun hclose => ?_⟩
      · have hdelimited : Delimited [c] := fun d hd => .inl (Option.some.inj hd ▸ hblank)
        exact (hdelimited.not_digit c rfl).1 digit
      · subst hclose
        exact absurd digit (by decide)
  | string s inside h => exact ⟨_, _, rfl, by decide, by decide⟩

theorem ValueText.starts {depth : Nat} {j : Json} {text : List Char} (h : ValueText depth j text) :
    Starts text := by
  cases depth with
  | zero => exact ScalarText.starts h
  | succ depth =>
      rcases h with h | h
      · exact h.starts
      · cases h with
        | array => exact ⟨_, _, rfl, by decide, by decide⟩
        | object => exact ⟨_, _, rfl, by decide, by decide⟩

theorem keepValue_scalar {j : Json} {text : List Char} (h : ScalarText j text) (depth : Nat)
    {before rest : List Char} (hbefore : Blanks before) (hrest : Delimited rest) :
    keepValue depth (before ++ (text ++ rest)) = .ok (j, rest) := by
  obtain ⟨c, inside, htext, hblank, -⟩ := h.starts
  have hskip : skipBlanks (before ++ (text ++ rest)) = text ++ rest := by
    rw [htext, List.cons_append, skipBlanks_before hbefore hblank]
  cases h with
  | null =>
      rw [List.cons_append] at hskip ⊢
      rw [keepValue_null hskip, word_append]
      rfl
  | yes =>
      rw [List.cons_append] at hskip ⊢
      rw [keepValue_yes hskip, word_append]
      rfl
  | no =>
      rw [List.cons_append] at hskip ⊢
      rw [keepValue_no hskip, word_append]
      rfl
  | whole n h =>
      obtain ⟨d, ds, hds, digit⟩ := head_toDigits n
      have hkept := keepNumber_toDigits h hrest
      rw [hds, List.cons_append] at hkept hskip
      rw [hds, List.cons_append, keepValue_number hskip digit, hkept]
      rfl
  | string s inside h =>
      rw [List.cons_append] at hskip ⊢
      rw [keepValue_string hskip, keepString_of_text noBad _ h fun _ _ => rfl]
      simp [Except.map]

theorem setField_of_not_mem {key : String} {fields : List (String × Json)}
    (h : key ∉ fields.map Prod.fst) (value : Json) :
    setField key value fields = fields ++ [(key, value)] := by
  induction fields with
  | nil => rfl
  | cons field fields ih =>
      rw [List.map_cons, List.mem_cons, not_or] at h
      rw [setField, if_neg (Ne.symm h.1), ih h.2, List.cons_append]

/-- Where no key stands twice, the fields are kept as they come. -/
theorem foldl_setField (kept : List (String × Json)) {fields : List (String × Json)}
    (once : ((kept ++ fields).map Prod.fst).Nodup) :
    fields.foldl (fun kept field => setField field.1 field.2 kept) kept = kept ++ fields := by
  induction fields generalizing kept with
  | nil => rw [List.append_nil]; rfl
  | cons field fields ih =>
      have hnot : field.1 ∉ kept.map Prod.fst := by
        rw [List.map_append, List.map_cons] at once
        exact fun h => (List.nodup_append.mp once).2.2 _ h _ List.mem_cons_self rfl
      rw [List.foldl_cons, setField_of_not_mem hnot]
      have hsplit : kept ++ [field] ++ fields = kept ++ field :: fields := by simp
      rw [← hsplit] at once
      rw [ih _ once, hsplit]

/-- Texts of a value are read as that value. -/
def Keeps (depth : Nat) : Prop :=
  ∀ {j : Json} {text before rest : List Char}, ValueText depth j text → Blanks before →
    Delimited rest → keepValue depth (before ++ (text ++ rest)) = .ok (j, rest)

theorem Keeps.items {depth : Nat} (h : Keeps depth) :
    ItemReader (ValueText depth) (keepItem depth) fun items item => pure (item :: items) where
  starts := fun _ _ hitem => hitem.starts
  reads := fun items item text rest hitem hrest => by
    have hkept := h hitem .nil hrest
    rw [List.nil_append] at hkept
    rw [keepItem, hkept]
    rfl

theorem Keeps.fields {depth : Nat} (h : Keeps depth) :
    FieldReader (FieldText (ValueText depth)) (keepField depth)
      fun kept field => pure (setField field.1 field.2 kept) where
  reads := fun kept field text rest hfield hrest => by
    cases hfield with
    | @field key value inside afterKey before text hkey hafter hbefore hvalue =>
        have hkept := fun rest => keepString_of_text noBad rest hkey fun _ _ => rfl
        refine ⟨inside ++ afterKey ++ ':' :: before ++ text, by simp, ?_⟩
        simp only [keepField, List.append_assoc, List.cons_append, hkept, ok_bind,
          colon_append hafter, h hvalue hbefore hrest, String.ofList_toList]
        rfl

theorem keeps (depth : Nat) : Keeps depth := by
  induction depth with
  | zero => exact fun h hbefore hrest => keepValue_scalar h 0 hbefore hrest
  | succ depth ih =>
      intro j text before rest h hbefore hrest
      rcases h with h | h
      · exact keepValue_scalar h (depth + 1) hbefore hrest
      · cases h with
        | array h =>
            rw [List.cons_append, keepValue_array (skipBlanks_before hbefore (by decide) _),
              ih.items.loop.sequence h [] (Nat.lt_succ_of_le (h.length_le_append rest)),
              List.foldlM_pure, List.foldl_flip_cons_eq_append']
            simp [pure, Except.pure, Except.map]
        | object once h =>
            rw [List.cons_append, keepValue_object (skipBlanks_before hbefore (by decide) _),
              ih.fields.loop.sequence h [] (Nat.lt_succ_of_le (h.length_le_append rest)),
              List.foldlM_pure, foldl_setField [] once]
            rfl

/-- Whatever the grammar gives for a value is read as that value. -/
theorem parse_of_text {j : Json} {text : List Char} (h : DocumentText j text) :
    parse text = .ok j := by
  cases h with
  | @document before text after hbefore hvalue hafter =>
      have hrest : Delimited after := fun c hc => .inl (hafter c (List.mem_of_mem_head? hc))
      have hend : skipBlanks after = [] := by
        rw [← List.append_nil after, skipBlanks_append hafter]
        rfl
      rw [parse, List.append_assoc, keeps maxDepth hvalue hbefore hrest, ok_bind]
      simp [finish, hend]

end NodeBootstrap.Json
