import NodeBootstrap.Settings.KeyPath
import NodeBootstrap.Settings.Setting

/-! # Merging settings

A setting is put at the end of a key path. Tables and lists are made on the way, in place of whatever
else stands there; a table is merged key by key into what is there, anything else replaces it. -/

namespace NodeBootstrap

namespace Setting

/-- A table keeps its origin only as long as it is left as it was. -/
def asTable : Setting → Option String × List (String × Setting)
  | table o es => (o, es)
  | _ => (none, [])

def asList : Setting → Option String × List Setting
  | list o is => (o, is)
  | _ => (none, [])

def setEntry (key : String) (s : Setting) : List (String × Setting) → List (String × Setting)
  | [] => [(key, s)]
  | (k, old) :: rest => if k = key then (k, s) :: rest else (k, old) :: setEntry key s rest

theorem lookup_setEntry (key other : String) (s : Setting) (es : List (String × Setting)) :
    (setEntry key s es).lookup other = if other = key then some s else es.lookup other := by
  induction es with
  | nil => by_cases h : other = key <;> simp [setEntry, List.lookup_cons, beq_eq_false_iff_ne.mpr, h]
  | cons e rest ih =>
      obtain ⟨k, old⟩ := e
      by_cases hk : k = key
      · subst hk
        by_cases h : other = k <;>
          simp [setEntry, List.lookup_cons, beq_eq_false_iff_ne.mpr, h]
      · by_cases h : other = k
        · subst h
          simp [setEntry, hk]
        · simp [setEntry, List.lookup_cons, beq_eq_false_iff_ne.mpr h, hk, ih]

/-- The items with enough gaps that the position is among them, and the place of the position: gaps
are added at the end, or in front where it lies before the first item. -/
def reach (position : Int) (items : List Setting) : List Setting × Nat :=
  if 0 ≤ position then
    (items ++ List.replicate (position.toNat + 1 - items.length) gap, position.toNat)
  else if position.natAbs ≤ items.length then (items, items.length - position.natAbs)
  else (List.replicate (position.natAbs - items.length) gap ++ items, 0)

/-- Changes the setting at the end of the steps. -/
def update (f : Setting → Setting) : List Settings.PathStep → Setting → Setting
  | [], s => f s
  | .name key :: steps, s =>
    let (origin, es) := s.asTable
    table origin (setEntry key (update f steps ((es.lookup key).getD gap)) es)
  | .index position :: steps, s =>
    let (origin, is) := s.asList
    let (is, i) := reach position is
    list origin (is.modify i (update f steps))

mutual

/-- What becomes of an old setting when a new one is put in its place. -/
def merge (new old : Setting) : Setting :=
  match new with
  | table _ es => table old.asTable.1 (mergeEntries es old.asTable.2)
  | other => other

def mergeEntries (new old : List (String × Setting)) : List (String × Setting) :=
  match new with
  | [] => old
  | (key, s) :: rest =>
    mergeEntries rest (setEntry key (merge s ((old.lookup key).getD gap)) old)

end

/-- Puts a setting at the end of a key path. -/
def put (root : Setting) (path : Settings.KeyPath) (new : Setting) : Setting :=
  root.update (merge new) (.name path.head :: path.steps)

/-- Lays the entries of one source over the settings so far. -/
def overlay (root : Setting) (source : List (String × Setting)) : Setting :=
  source.foldl (fun root (key, s) => root.put (.ofString key) s) root

end Setting

end NodeBootstrap
