import NodeBootstrap.Member.Decoding
import NodeBootstrap.Proofs.Json.Printing
import NodeBootstrap.Proofs.Json.Skipping

/-! # Members in any layout

A member is decoded from the text of an object whatever the order of its fields, whatever fields of
other keys stand between them, and whatever is left out of what is empty. A field of a member that
stands twice is refused. -/

namespace NodeBootstrap.Member

open Json

/-! ## The text of an object -/

def keys : List String := ["id", "name", "peerURLs", "clientURLs"]

/-- A field of an object, by what it states. -/
inductive Field where
  | id (value : String)
  | name (value : String)
  | peerUrls (value : List String)
  | clientUrls (value : List String)
  /-- A field that members do not have. -/
  | other (key : String)
  deriving DecidableEq

namespace Field

def key : Field → String
  | id _ => "id"
  | name _ => "name"
  | peerUrls _ => "peerURLs"
  | clientUrls _ => "clientURLs"
  | other key => key

/-- The value of a field that members have. -/
def json : Field → Json
  | id x | name x => .string x
  | peerUrls xs | clientUrls xs => .strings xs
  | other _ => .null

/-- How the value is written; a field that members do not have may hold any value. -/
def Value : Field → List Char → Prop
  | other key => fun text => key ∉ keys ∧ ∃ depth, AnyText depth text
  | f => ValueText 1 f.json

inductive Text : Field → List Char → Prop where
  | field {f : Field} {inside afterKey before text : List Char}
      (hkey : StringText f.key.toList inside) (hafter : Blanks afterKey) (hbefore : Blanks before)
      (hvalue : f.Value text) : Text f ('"' :: inside ++ afterKey ++ ':' :: before ++ text)

end Field

/-- A text with an object of the fields. -/
inductive ObjectText : List Field → List Char → Prop where
  | object {fields : List Field} {before text after : List Char} (hbefore : Blanks before)
      (h : SequenceText Field.Text '\x7d' fields text) (hafter : Blanks after) :
      ObjectText fields (before ++ '\x7b' :: text ++ after)

/-! ## What the fields state -/

namespace Field

/-- The key of a field that members have. -/
def known? : Field → Option String
  | other _ => none
  | f => some f.key

def IsEmpty : Field → Prop
  | id x | name x => x = ""
  | peerUrls xs | clientUrls xs => xs = []
  | other _ => False

end Field

/-- The fields of a member in their order. -/
def fields (m : Member) : List Field :=
  [.id m.id, .name m.name, .peerUrls m.peerUrls, .clientUrls m.clientUrls]

/-- No field of a member stands twice. -/
def Distinct (fields : List Field) : Prop := (fields.filterMap Field.known?).Nodup

instance (fields : List Field) : Decidable (Distinct fields) :=
  inferInstanceAs (Decidable (List.Nodup _))

/-- The fields state the member: each of its own at most once, with its value, and left out only
where that is empty. -/
structure Layout (m : Member) (fields : List Field) : Prop where
  once : Distinct fields
  agrees : ∀ f ∈ fields, f.key ∈ keys → f ∈ m.fields
  left_out : ∀ f ∈ m.fields, f ∉ fields → f.IsEmpty

/-! ## Values -/

theorem exists_string_text {depth : Nat} {x : String} {text : List Char}
    (h : ValueText depth (.string x) text) :
    ∃ inside, text = '"' :: inside ∧ StringText x.toList inside := by
  have scalar : ScalarText (.string x) text := by
    cases depth with
    | zero => exact h
    | succ depth => exact h.resolve_right nofun
  cases scalar with
  | string _ inside hinside => exact ⟨inside, rfl, hinside⟩

theorem textValue_of_text {depth : Nat} {x : String} {text before : List Char}
    (h : ValueText depth (.string x) text) (hbefore : Blanks before) (rest : List Char) :
    textValue noBad (before ++ (text ++ rest)) = .ok (x, rest) := by
  obtain ⟨inside, rfl, hinside⟩ := exists_string_text h
  rw [textValue, List.cons_append, skipBlanks_before hbefore (by decide)]
  simp [keepString_of_text noBad rest hinside fun _ _ => rfl, Except.map]

/-- The texts of a list that are read so far, the last one first. -/
def textItem (items : List String) (s : List Char) : Except Fault (List String × List Char) :=
  (textValue noBad s).map fun (x, rest) => (x :: items, rest)

theorem textItems : ItemReader (fun x => ValueText 0 (.string x)) textItem
    fun items x => pure (x :: items) where
  starts := fun _ _ h => h.starts
  reads := fun items x text rest h _ => by
    have hread := textValue_of_text h .nil rest
    rw [List.nil_append] at hread
    rw [textItem, hread]
    rfl

theorem textsValue_array {s rest : List Char} (h : skipBlanks s = '[' :: rest) :
    textsValue noBad s =
      (itemLoop textItem (rest.length + 1) true [] rest).map fun (items, rest) =>
        (items.reverse, rest) := by
  rw [textsValue, listValue]
  simp only [h]
  rfl

theorem textsValue_of_text {xs : List String} {text before : List Char}
    (h : ValueText 1 (.strings xs) text) (hbefore : Blanks before) (rest : List Char) :
    textsValue noBad (before ++ (text ++ rest)) = .ok (xs, rest) := by
  rcases h with h | h
  · exact nomatch h
  · rw [strings] at h
    cases h with
    | array h =>
        rw [List.cons_append, textsValue_array (skipBlanks_before hbefore (by decide) _),
          textItems.loop.sequence h.of_map []
            (Nat.lt_succ_of_le (h.of_map.length_le_append rest)),
          List.foldlM_pure, List.foldl_flip_cons_eq_append']
        simp [pure, Except.pure, Except.map]

/-! ## Fields -/

/-- A field must not be there yet. -/
def fresh {α : Type} : Option α → Except Fault Unit
  | some _ => .error .mismatched
  | none => .ok ()

/-- What becomes of the fields met so far by one more. -/
def accept (p : Partial) : Field → Except Fault Partial
  | .id x => do fresh p.id; return { p with id := some x }
  | .name x => do fresh p.name; return { p with name := some x }
  | .peerUrls xs => do fresh p.peerUrls; return { p with peerUrls := some xs }
  | .clientUrls xs => do fresh p.clientUrls; return { p with clientUrls := some xs }
  | .other _ => .ok p

theorem once_of_reads {α : Type} {value : List Char → Except Fault (α × List Char)} {x : α}
    {afterKey here rest : List Char} (met : Option α) (hafter : Blanks afterKey)
    (reads : value here = .ok (x, rest)) :
    once met value (afterKey ++ ':' :: here) = (fresh met).map fun () => (x, rest) := by
  cases met with
  | some y => rfl
  | none => rw [once, colon_append hafter, ok_bind, reads]; rfl

theorem fieldReader : FieldReader Field.Text (field noBad) accept where
  reads := fun p f text rest h hrest => by
    cases h with
    | @field inside afterKey before text hkey hafter hbefore hvalue =>
        refine ⟨inside ++ afterKey ++ ':' :: before ++ text, by simp, ?_⟩
        have hkept := fun rest => keepString_of_text noBad rest hkey fun _ _ => rfl
        simp only [field, List.append_assoc, List.cons_append, hkept, ok_bind,
          String.toList_inj]
        cases f with
        | id x =>
            simp only [Field.key, if_true, accept,
              once_of_reads p.id hafter (textValue_of_text hvalue hbefore rest)]
            cases p.id <;> rfl
        | name x =>
            simp only [Field.key, String.reduceEq, if_false, if_true, accept,
              once_of_reads p.name hafter (textValue_of_text hvalue hbefore rest)]
            cases p.name <;> rfl
        | peerUrls xs =>
            simp only [Field.key, String.reduceEq, if_false, if_true, accept,
              once_of_reads p.peerUrls hafter (textsValue_of_text hvalue hbefore rest)]
            cases p.peerUrls <;> rfl
        | clientUrls xs =>
            simp only [Field.key, String.reduceEq, if_false, if_true, accept,
              once_of_reads p.clientUrls hafter (textsValue_of_text hvalue hbefore rest)]
            cases p.clientUrls <;> rfl
        | other key =>
            obtain ⟨hother, depth, hvalue⟩ := hvalue
            simp only [keys, List.mem_cons, List.not_mem_nil, or_false, not_or] at hother
            simp only [Field.key, hother, if_false, accept, colon_append hafter, ok_bind,
              skip_of_text hvalue hbefore hrest]
            rfl

/-! ## Fields met so far -/

namespace Field

def id? : Field → Option String
  | id x => some x
  | _ => none

def name? : Field → Option String
  | name x => some x
  | _ => none

def peerUrls? : Field → Option (List String)
  | peerUrls xs => some xs
  | _ => none

def clientUrls? : Field → Option (List String)
  | clientUrls xs => some xs
  | _ => none

end Field

/-- What the fields state, the first of each kind. -/
def gather (fields : List Field) : Partial :=
  ⟨fields.findSome? Field.id?, fields.findSome? Field.name?, fields.findSome? Field.peerUrls?,
    fields.findSome? Field.clientUrls?⟩

theorem gather_append (met : List Field) (f : Field) :
    gather (met ++ [f]) =
      ⟨(gather met).id.or f.id?, (gather met).name.or f.name?, (gather met).peerUrls.or f.peerUrls?,
        (gather met).clientUrls.or f.clientUrls?⟩ := by
  simp [gather, List.findSome?_append]

theorem key_mem_iff {α : Type} {get : Field → Option α} {key : String}
    (h : ∀ f : Field, f.known? = some key ↔ (get f).isSome) (met : List Field) :
    key ∈ met.filterMap Field.known? ↔ met.findSome? get ≠ none := by
  simp only [List.mem_filterMap, h, ne_eq, List.findSome?_eq_none_iff, not_forall,
    Option.isSome_iff_ne_none, exists_prop]

/-- A key has been met when what it states has been gathered. -/
theorem keys_met (met : List Field) :
    ("id" ∈ met.filterMap Field.known? ↔ (gather met).id ≠ none) ∧
      ("name" ∈ met.filterMap Field.known? ↔ (gather met).name ≠ none) ∧
      ("peerURLs" ∈ met.filterMap Field.known? ↔ (gather met).peerUrls ≠ none) ∧
      ("clientURLs" ∈ met.filterMap Field.known? ↔ (gather met).clientUrls ≠ none) := by
  refine ⟨key_mem_iff ?_ met, key_mem_iff ?_ met, key_mem_iff ?_ met, key_mem_iff ?_ met⟩ <;>
    intro f <;> cases f <;>
      simp [Field.known?, Field.key, Field.id?, Field.name?, Field.peerUrls?, Field.clientUrls?]

theorem accept_gather (met : List Field) (f : Field) :
    accept (gather met) f =
      if ∃ key ∈ f.known?, key ∈ met.filterMap Field.known? then .error .mismatched
      else .ok (gather (met ++ [f])) := by
  obtain ⟨hid, hname, hpeer, hclient⟩ := keys_met met
  cases f <;>
    simp only [Field.known?, Field.key, Option.mem_def, Option.some.injEq, exists_eq_left', hid,
      hname, hpeer, hclient, reduceCtorEq, false_and, exists_false, if_false, gather_append, accept,
      Field.id?, Field.name?, Field.peerUrls?, Field.clientUrls?, Option.or_none]
  case id => cases (gather met).id <;> rfl
  case name => cases (gather met).name <;> rfl
  case peerUrls => cases (gather met).peerUrls <;> rfl
  case clientUrls => cases (gather met).clientUrls <;> rfl

/-- The fields are gathered as they come, up to the first that stands there already. -/
theorem foldlM_accept (met fields : List Field) (distinct : Distinct met) :
    fields.foldlM accept (gather met) =
      if Distinct (met ++ fields) then .ok (gather (met ++ fields)) else .error .mismatched := by
  induction fields generalizing met with
  | nil =>
      rw [List.append_nil, if_pos distinct]
      rfl
  | cons f fields ih =>
      have hsplit : met ++ f :: fields = met ++ [f] ++ fields := by simp
      rw [List.foldlM_cons, accept_gather]
      split
      · next hmet =>
          have repeated : ¬Distinct (met ++ f :: fields) := by
            obtain ⟨key, hf, hkey⟩ := hmet
            intro h
            rw [Distinct, List.filterMap_append, List.filterMap_cons_some hf] at h
            exact (List.nodup_append.mp h).2.2 _ hkey _ List.mem_cons_self rfl
          rw [if_neg repeated]
          rfl
      · next hfresh =>
          have hnext : Distinct (met ++ [f]) := by
            rw [Distinct, List.filterMap_append]
            refine List.nodup_append.mpr ⟨distinct, ?_, ?_⟩
            · cases h : f.known? <;> simp [h]
            · rintro key hkey _ hf rfl
              refine hfresh ⟨key, ?_, hkey⟩
              simpa using hf
          rw [ok_bind, ih _ hnext, ← hsplit]

/-! ## Decoding -/

theorem memberValue_object {s rest : List Char} (h : skipBlanks s = '\x7b' :: rest) :
    memberValue noBad s =
      (fieldLoop (field noBad) (rest.length + 1) true {} rest).map fun (p, rest) =>
        (p.complete, rest) := by
  rw [memberValue]
  simp only [h]

/-- An object is decoded as what its fields state, unless a field of a member stands twice. -/
theorem decode_of_text {fields : List Field} {text : String} (h : ObjectText fields text.toList) :
    decode text =
      if Distinct fields then .ok (gather fields).complete else .error .mismatched := by
  rw [decode]
  generalize text.toList = s at h
  cases h with
  | @object before text after hbefore h hafter =>
      have hend : skipBlanks after = [] := by
        rw [← List.append_nil after, skipBlanks_append hafter]
        rfl
      have hfold := foldlM_accept [] fields List.nodup_nil
      rw [List.nil_append] at hfold
      rw [List.append_assoc, List.cons_append,
        memberValue_object (skipBlanks_before hbefore (by decide) _),
        fieldReader.loop.sequence h {} (Nat.lt_succ_of_le (h.length_le_append after))]
      rw [show ({} : Partial) = gather [] from rfl, hfold]
      split
      · simp [Except.map, finish, hend]
      · rfl

section
variable {α : Type} {get : Field → Option α} {value empty : α} {fields : List Field}

theorem getD_findSome? (state : α → Field) (hget : ∀ f x, get f = some x ↔ f = state x)
    (agrees : ∀ x, state x ∈ fields → x = value)
    (left_out : state value ∉ fields → value = empty) :
    (fields.findSome? get).getD empty = value := by
  cases h : fields.findSome? get with
  | none =>
      refine (left_out fun hmem => ?_).symm
      have hnone := List.findSome?_eq_none_iff.mp h _ hmem
      rw [(hget _ _).mpr rfl] at hnone
      cases hnone
  | some x =>
      obtain ⟨f, hf, hx⟩ := List.exists_of_findSome?_eq_some h
      rw [(hget f x).mp hx] at hf
      exact agrees x hf

end

/-- Fields that state a member are gathered to that member. -/
theorem Layout.complete_gather {m : Member} {fields : List Field} (h : Layout m fields) :
    (gather fields).complete = m := by
  have hid : (gather fields).id.getD "" = m.id :=
    getD_findSome? Field.id (fun f x => by cases f <;> simp [Field.id?])
      (fun x hx => by simpa [Member.fields] using h.agrees _ hx (by simp [Field.key, keys]))
      (h.left_out (.id m.id) (by simp [Member.fields]))
  have hname : (gather fields).name.getD "" = m.name :=
    getD_findSome? Field.name (fun f x => by cases f <;> simp [Field.name?])
      (fun x hx => by simpa [Member.fields] using h.agrees _ hx (by simp [Field.key, keys]))
      (h.left_out (.name m.name) (by simp [Member.fields]))
  have hpeer : (gather fields).peerUrls.getD [] = m.peerUrls :=
    getD_findSome? Field.peerUrls (fun f x => by cases f <;> simp [Field.peerUrls?])
      (fun x hx => by simpa [Member.fields] using h.agrees _ hx (by simp [Field.key, keys]))
      (h.left_out (.peerUrls m.peerUrls) (by simp [Member.fields]))
  have hclient : (gather fields).clientUrls.getD [] = m.clientUrls :=
    getD_findSome? Field.clientUrls (fun f x => by cases f <;> simp [Field.clientUrls?])
      (fun x hx => by simpa [Member.fields] using h.agrees _ hx (by simp [Field.key, keys]))
      (h.left_out (.clientUrls m.clientUrls) (by simp [Member.fields]))
  rw [Partial.complete, hid, hname, hpeer, hclient]

/-! ## Printing -/

namespace Field

/-- A field that members have. -/
def Own (f : Field) : Prop := f.known? = some f.key

theorem Own.value_eq {f : Field} (h : f.Own) : f.Value = ValueText 1 f.json := by
  cases f with
  | other key => cases h
  | _ => rfl

theorem Own.plain {f : Field} (h : f.Own) : Plain 1 f.json := by
  cases f with
  | id x => exact .string 1 x
  | name x => exact .string 1 x
  | peerUrls xs => exact .array 0 _ (List.forall_mem_map.mpr fun x _ => .string 0 x)
  | clientUrls xs => exact .array 0 _ (List.forall_mem_map.mpr fun x _ => .string 0 x)
  | other key => cases h

end Field

theorem own_of_mem_fields {m : Member} {f : Field} (h : f ∈ m.fields) : f.Own := by
  simp only [Member.fields, List.mem_cons, List.not_mem_nil, or_false] at h
  obtain rfl | rfl | rfl | rfl := h <;> rfl

/-- What is printed of an object with fields of a member alone. -/
theorem objectText_render {fields : List Field} (own : ∀ f ∈ fields, f.Own)
    (once : (fields.map Field.key).Nodup) :
    ObjectText fields (Json.object (fields.map fun f => (f.key, f.json))).render.toList := by
  have plain : Plain 2 (Json.object (fields.map fun f => (f.key, f.json))) := by
    refine .object 1 _ (by simpa [List.map_map, Function.comp_def] using once) ?_
    exact List.forall_mem_map.mpr fun f hf => (own f hf).plain
  have htext := plain.encode_text
  rw [render, String.toList_ofList]
  generalize (Json.object _).encode = text at htext
  rcases htext with htext | htext
  · cases htext
  · cases htext with
    | @object _ text _ htext =>
        have hfields : SequenceText Field.Text '\x7d' fields text :=
          htext.of_map.imp (Nat.le_refl _) ?_
        · simpa using ObjectText.object .nil hfields .nil
        · intro f hf text hfield _
          cases hfield with
          | field hkey hafter hbefore hvalue =>
              exact .field hkey hafter hbefore ((own f hf).value_eq ▸ hvalue)

theorem layout_fields (m : Member) : Layout m m.fields where
  once := by
    change ["id", "name", "peerURLs", "clientURLs"].Nodup
    decide
  agrees := fun _ hf _ => hf
  left_out := fun _ hf hnot => absurd hf hnot

theorem decode_of_layout {fields : List Field} {text : String} {m : Member}
    (htext : ObjectText fields text.toList) (h : Layout m fields) : decode text = .ok m := by
  rw [decode_of_text htext, if_pos h.once, h.complete_gather]

/-- What is printed of some fields of a member is read as the member that has no others. -/
theorem decode_render {fields : List Field} {m : Member} (own : ∀ f ∈ fields, f.Own)
    (once : (fields.map Field.key).Nodup) (h : Layout m fields) :
    decode (Json.object (fields.map fun f => (f.key, f.json))).render = .ok m :=
  decode_of_layout (objectText_render own once) h

/-- The text of an object is decoded as the member that its fields state, and as none where a field
of a member stands twice; a member is decoded from its own text. -/
theorem decode_any_layout :
    (∀ (fields : List Field) (text : String), ObjectText fields text.toList →
      (∀ m, Layout m fields → decode text = .ok m) ∧
        (¬Distinct fields → decode text = .error .mismatched)) ∧
      ∀ m : Member, decode m.toJson.render = .ok m := by
  refine ⟨fun fields text htext => ⟨fun m h => decode_of_layout htext h, fun repeated => ?_⟩,
    fun m => ?_⟩
  · rw [decode_of_text htext, if_neg repeated]
  · have once : (m.fields.map Field.key).Nodup := (layout_fields m).once
    have hjson : m.toJson = .object (m.fields.map fun f => (f.key, f.json)) := rfl
    rw [hjson]
    exact decode_render (fun _ => own_of_mem_fields) once (layout_fields m)

/-- A text with a field of another key, deeper than kept values may be, with a number beyond all
ranges and half a surrogate pair in it, and with escapes in what is kept. -/
def shuffled : String :=
  "\x7b\"x\\u0079\" : [\x7b\"\\ud800\":-0.5E+999\x7d] ,\"peerURLs\":[\"h\\/1\"]\x7d\n"

theorem shuffled_text : ObjectText [.other "xy", .peerUrls ["h/1"]] shuffled.toList := by
  have hexponent : ExponentText ('E' :: (['+'] ++ ['9', '9', '9'])) :=
    .digits (by decide) (by decide) (by decide)
  have hnumber : AnyText 0 (['-'] ++ (['0'] ++ (['.', '5'] ++ ['E', '+', '9', '9', '9']))) :=
    .number (.number (by decide) .zero (.digits (by decide)) hexponent)
  have hhalf : AnyString ('\\' :: 'u' :: (['d', '8', '0', '0'] ++ ['"'])) :=
    .unit (.digits rfl rfl rfl rfl) .nil
  have hdeep := AnyText.single_item (.single_field hhalf hnumber)
  have hunit : CharText 'y' ('\\' :: 'u' :: ['0', '0', '7', '9']) :=
    .unit 'y' _ (.digits (w := 0) (x := 0) (y := 7) (z := 9) rfl rfl rfl rfl)
  have hkey : StringText ['x', 'y'] _ :=
    .cons (.plain 'x' (by decide) (by decide) (by decide)) (.cons hunit .nil)
  have hblank : Blanks [' '] := by decide
  have hother := Field.Text.field (f := .other "xy") hkey hblank hblank ⟨by decide, 2, hdeep⟩
  have hurl : StringText ['h', '/', '1'] _ :=
    .cons (.plain 'h' (by decide) (by decide) (by decide))
      (.cons (.escaped '/' '/' (by decide))
        (.cons (.plain '1' (by decide) (by decide) (by decide)) .nil))
  have hpeer := Field.Text.field (f := .peerUrls ["h/1"]) (encodeTail_text "peerURLs".toList)
    .nil .nil (.inr (.array (.items (.last .nil (.string "h/1" _ hurl) .nil))))
  have hend : Blanks ['\n'] := by decide
  have hobject := ObjectText.object .nil
    (.items (.more .nil hother hblank (.last .nil hpeer .nil))) hend
  refine Eq.subst (motive := ObjectText _) ?_ hobject
  decide +kernel

theorem shuffled_decodes :
    (ObjectText [.other "xy", .peerUrls ["h/1"]] shuffled.toList ∧
      Layout { peerUrls := ["h/1"] } [.other "xy", .peerUrls ["h/1"]] ∧
      decode shuffled = .ok { peerUrls := ["h/1"] }) ∧
    (ObjectText [.id "a", .id "b"] "\x7b\"id\":\"a\",\"id\":\"b\"\x7d".toList ∧
      ¬Distinct [.id "a", .id "b"] ∧
      decode "\x7b\"id\":\"a\",\"id\":\"b\"\x7d" = .error .mismatched) := by
  have layout : Layout { peerUrls := ["h/1"] } [.other "xy", .peerUrls ["h/1"]] :=
    ⟨by decide, by decide, by simp [Member.fields, Field.IsEmpty]⟩
  have hid : ∀ x : String, Field.Text (.id x) _ := fun x =>
    .field (f := .id x) (encodeTail_text "id".toList) .nil .nil
      (.inl (.string x _ (encodeTail_text x.toList)))
  have htwice : ObjectText [.id "a", .id "b"] "\x7b\"id\":\"a\",\"id\":\"b\"\x7d".toList := by
    have hobject := ObjectText.object .nil
      (.items (.more .nil (hid "a") .nil (.last .nil (hid "b") .nil))) .nil
    refine Eq.subst (motive := ObjectText _) ?_ hobject
    decide +kernel
  have repeated : ¬Distinct [.id "a", .id "b"] := by decide
  exact ⟨⟨shuffled_text, layout, (decode_any_layout.1 _ _ shuffled_text).1 _ layout⟩,
    htwice, repeated, (decode_any_layout.1 _ _ htwice).2 repeated⟩

/-- A key of half a surrogate pair is no text, and nothing is decoded from an object that has it. -/
theorem unpaired_key_refused :
    AnyText 1 "\x7b\"\\ud800\":0\x7d".toList ∧
      decode "\x7b\"\\ud800\":0\x7d" = .error .malformed := by
  have hhalf : AnyString ('\\' :: 'u' :: (['d', '8', '0', '0'] ++ ['"'])) :=
    .unit (.digits rfl rfl rfl rfl) .nil
  have hzero : AnyText 0 ([] ++ (['0'] ++ ([] ++ []))) :=
    .number (.number (by decide) .zero .absent .absent)
  refine ⟨Eq.subst (motive := AnyText 1) ?_ (AnyText.single_field hhalf hzero), ?_⟩ <;>
    decide +kernel

end NodeBootstrap.Member
