import NodeBootstrap.Settings.Conversion

/-! # Records

A record is a table of its fields, or a list of them in their order. -/

namespace NodeBootstrap.Settings

inductive RecordContent where
  | named (entries : List (String × Setting))
  | ordered (items : List Setting)

structure Record where
  /-- The key of the record; the root has none. -/
  key : String
  shape : Shape
  content : RecordContent

namespace Record

/-- Takes a setting for a record. -/
def ofSetting (shape : Shape) (key : String) (s : Setting) : Except LoadError Record :=
  match s with
  | .table _ entries => .ok ⟨key, shape, .named entries⟩
  | .list _ items => .ok ⟨key, shape, .ordered items⟩
  | _ => .error (.wrongShape (.found s.found shape) key)

def fieldKey (r : Record) (name : String) : String :=
  if r.key = "" then name else s!"{r.key}.{name}"

/-- The setting of a field with its key, if it is stated. -/
def stated? (r : Record) (position : Nat) (name : String) : Option (String × Setting) :=
  match r.content with
  | .named entries => (entries.lookup name).map fun s => (r.fieldKey name, s)
  | .ordered items => items[position]?.map fun s => (s!"{r.key}[{position}]", s)

/-- A field that may be left out. -/
def field {α : Type} (r : Record) (position : Nat) (name : String)
    (convert : String → Setting → Except LoadError α) : Except LoadError (Option α) :=
  match r.stated? position name with
  | some (key, s) => (convert key s).map some
  | none => .ok none

/-- Demands a field, which a list must be long enough to hold. -/
def demand {α : Type} (r : Record) (name : String) : Option α → Except LoadError α
  | some x => .ok x
  | none =>
    match r.content with
    | .named _ => .error (.missing (r.fieldKey name))
    | .ordered items => .error (.wrongShape (.length items.length r.shape) r.key)

/-- A field that a table may leave out, but not a list. -/
def demandPlace {α : Type} (r : Record) (name : String) (absent : α) (x : Option α) :
    Except LoadError α :=
  match r.content with
  | .named _ => .ok (x.getD absent)
  | .ordered _ => r.demand name x

end Record

end NodeBootstrap.Settings
