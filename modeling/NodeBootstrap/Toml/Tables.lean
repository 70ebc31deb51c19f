import NodeBootstrap.Toml.Value

/-! # Building TOML tables

A document is built statement by statement: headers open tables, and assignments put values into
the open one. What was defined may not be defined again, and a table grows only in the way in which
it came about. -/

namespace NodeBootstrap.Toml

/-- How a table came about. -/
inductive Origin where
  /-- By a header of its own. -/
  | header
  /-- By the header of a table below it. -/
  | implied
  /-- By a dotted key. -/
  | dotted
  deriving DecidableEq, Repr

inductive Item where
  /-- A value, which is closed to further definitions. -/
  | value (v : Toml)
  | table (origin : Origin) (entries : List (String × Item))
  /-- The tables of one double-bracket header, in order, never empty. -/
  | tables (elements : List (List (String × Item)))

abbrev Entries : Type := List (String × Item)

namespace Entries

def set (key : String) (item : Item) : Entries → Entries
  | [] => [(key, item)]
  | (k, i) :: rest => if k = key then (k, item) :: rest else (k, i) :: set key item rest

end Entries

/-- A change of a table, given how it came about. -/
abbrev Change : Type := Origin → Entries → Option (Origin × Entries)

/-- Changes the table at the end of a path, and makes the tables that are missing on the way. A path
in a dotted key does not lead through a table that has a header; an array of tables is entered at its
last element. -/
def descend (dotted : Bool) (change : Change) : List String → Change
  | [], origin, entries => change origin entries
  | key :: path, origin, entries =>
    match entries.lookup key with
    | none => do
      let (o, es) ← descend dotted change path (if dotted then .dotted else .implied) []
      some (origin, entries.set key (.table o es))
    | some (.value _) => none
    | some (.table o es) => do
      if dotted ∧ o = .header then none
      let (o, es) ← descend dotted change path o es
      some (origin, entries.set key (.table o es))
    | some (.tables elements) => do
      let last ← elements.getLast?
      let (_, es) ← descend dotted change path .header last
      some (origin, entries.set key (.tables (elements.dropLast ++ [es])))

/-- Opens the table of a header. -/
def openTable (key : String) : Change := fun origin entries =>
  match entries.lookup key with
  | none => some (origin, entries.set key (.table .header []))
  | some (.table .implied es) => some (origin, entries.set key (.table .header es))
  | some _ => none

/-- Opens one more table of an array. -/
def openElement (key : String) : Change := fun origin entries =>
  match entries.lookup key with
  | none => some (origin, entries.set key (.tables [[]]))
  | some (.tables elements) => some (origin, entries.set key (.tables (elements ++ [[]])))
  | some _ => none

/-- Puts a value into a table. A dotted key only extends tables that dotted keys made. -/
def assignKey (nested : Bool) (key : String) (value : Toml) : Change := fun origin entries =>
  if decide (origin = .dotted) ≠ nested then none
  else
    match entries.lookup key with
    | none => some (origin, entries.set key (.value value))
    | some _ => none

/-- Splits a path before its last key. -/
def splitLast : List String → Option (List String × String)
  | [] => none
  | [key] => some ([], key)
  | key :: rest => (splitLast rest).map fun (path, last) => (key :: path, last)

/-- The assignment of a value to a dotted key of a table. -/
def assign (keys : List String) (value : Toml) : Change := fun origin entries => do
  let (path, last) ← splitLast keys
  descend true (assignKey (path ≠ []) last value) path origin entries

inductive Statement where
  | header (keys : List String)
  | elementHeader (keys : List String)
  | assignment (keys : List String) (value : Toml)

/-- A document so far: its root table, and the path to the open table. -/
structure Draft where
  entries : Entries := []
  opened : List String := []

namespace Draft

def changed (d : Draft) (path : List String) (change : Change) : Option Entries :=
  (descend false change path .header d.entries).map Prod.snd

def step (d : Draft) : Statement → Option Draft
  | .header keys => do
    let (path, last) ← splitLast keys
    some ⟨← d.changed path (openTable last), keys⟩
  | .elementHeader keys => do
    let (path, last) ← splitLast keys
    some ⟨← d.changed path (openElement last), keys⟩
  | .assignment keys value => do
    some ⟨← d.changed d.opened (assign keys value), d.opened⟩

end Draft

mutual

/-- The value of a finished item. -/
def Item.toToml : Item → Toml
  | .value v => v
  | .table _ entries => .table (entriesToToml entries)
  | .tables elements => .array (elementsToToml elements)

def entriesToToml : List (String × Item) → List (String × Toml)
  | [] => []
  | (key, item) :: rest => (key, item.toToml) :: entriesToToml rest

def elementsToToml : List (List (String × Item)) → List Toml
  | [] => []
  | entries :: rest => .table (entriesToToml entries) :: elementsToToml rest

end

end NodeBootstrap.Toml
