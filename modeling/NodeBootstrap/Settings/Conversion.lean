import NodeBootstrap.Decimal.Reading
import NodeBootstrap.Settings.Error
import NodeBootstrap.Settings.Setting
import NodeBootstrap.Text.Lowercase

/-! # Converting settings

A scalar setting is converted to what is wanted of it as far as that makes sense; its key and its
origin are part of the error where it does not. -/

namespace NodeBootstrap.Setting

open Settings Text

def found : Setting → Found
  | nothing _ => .nothing
  | boolean _ b => .boolean b
  | integer _ n => .integer n
  | natural _ n => .natural n
  | float _ x => .float x
  | text _ s => .text s
  | list _ _ => .sequence
  | table _ _ => .table

def mistaken {α : Type} (key : String) (wanted : Scalar) (s : Setting) : Except LoadError α :=
  .error (.wrongScalar s.found wanted key s.origin)

def toText (key : String) (s : Setting) : Except LoadError String :=
  match s with
  | text _ t => .ok t
  | boolean _ b => .ok (if b then "true" else "false")
  | integer _ n => .ok (toString n)
  | natural _ n => .ok (toString n)
  | float _ x => .ok (Decimal.render x)
  | _ => s.mistaken key .string

/-- The truth value that a word stands for. -/
def wordTruth? (lower : String) : Option Bool :=
  if lower ∈ ["true", "on", "yes"] then some true
  else if lower ∈ ["false", "off", "no"] then some false
  else none

/-- The digits one and zero are words for truth values as well. -/
def flagTruth? (lower : String) : Option Bool :=
  if lower = "1" then some true else if lower = "0" then some false else wordTruth? lower

def lowered (s : String) : String := String.ofList (lowercase s.toList)

def toFlag (key : String) (s : Setting) : Except LoadError Bool :=
  match s with
  | boolean _ b => .ok b
  | integer _ n => .ok (n ≠ 0)
  | natural _ n => .ok (n ≠ 0)
  | float _ x => .ok (! x.isZero)
  | text o t =>
    match flagTruth? (lowered t) with
    | some b => .ok b
    | none => (text o (lowered t)).mistaken key .boolean
  | _ => s.mistaken key .boolean

def limit64 : Nat := UInt64.size - 1

def toNat64 (key : String) (s : Setting) : Except LoadError Nat :=
  match s with
  | boolean _ b => .ok b.toNat
  | integer _ n => if 0 ≤ n then .ok n.toNat else s.mistaken key .unsigned64
  | natural _ n => .ok n
  | float _ x => .ok (x.toNatWithin limit64)
  | text _ t =>
    match wordTruth? (lowered t), Decimal.readNat? limit64 t.toList with
    | some b, _ => .ok b.toNat
    | none, some n => .ok n
    | none, none => s.mistaken key .integer
  | _ => s.mistaken key .integer

def toUInt64 (key : String) (s : Setting) : Except LoadError UInt64 :=
  (s.toNat64 key).map Nat.toUInt64

/-- The error of a number out of range no longer knows its origin. -/
def toUInt32 (key : String) (s : Setting) : Except LoadError UInt32 := do
  let n ← s.toNat64 key
  if n < UInt32.size then return n.toUInt32
  else (natural none n).mistaken key .unsigned32

/-- The items of a list, each with a key of its own. -/
def toTexts (key : String) (s : Setting) : Except LoadError (List String) :=
  match s with
  | list _ items => items.zipIdx.mapM fun (item, i) => item.toText s!"{key}[{i}]"
  | _ => .error (.wrongShape (.found s.found .sequence) key)

theorem mapM_toText (key : String) (origin : Option String) (ts : List String) (i : Nat) :
    ((ts.map (text origin)).zipIdx i).mapM (fun (item, i) => item.toText s!"{key}[{i}]") =
      Except.ok ts := by
  induction ts generalizing i with
  | nil => rfl
  | cons t ts ih =>
      rw [List.map_cons, List.zipIdx_cons, List.mapM_cons, ih]
      rfl

theorem toTexts_texts (key : String) (o origin : Option String) (ts : List String) :
    (list o (ts.map (text origin))).toTexts key = .ok ts :=
  mapM_toText key origin ts 0

/-- A text that may be left out by stating nothing. -/
def toOptionalText (key : String) (s : Setting) : Except LoadError (Option String) :=
  match s with
  | nothing _ => .ok none
  | _ => (s.toText key).map some

end NodeBootstrap.Setting
