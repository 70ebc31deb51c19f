import NodeBootstrap.Decimal.Reading
import NodeBootstrap.Log.Event
import NodeBootstrap.Text.Blank
import NodeBootstrap.Text.Parts

/-! # Log filters

A filter is a list of directives between commas. A directive names a level, a target, or both with a
sign of equality between them; a span and fields may follow the target in brackets. Of the directives
that an event meets, the one with the longest target says down to which level it is shown. -/

namespace NodeBootstrap.Log

/-- Shows events of a target that have the fields, up to a rank. -/
structure FilterRule where
  rank : Nat
  target : Option String := none
  span : Option String := none
  /-- Names of fields; one that demands a value as well is written with it. -/
  fields : List String := []
  deriving DecidableEq, Repr

inductive FilterFault where
  | invalid
  | level
  deriving DecidableEq, Repr

namespace FilterFault

def message : FilterFault → String
  | invalid => "invalid filter directive"
  | level =>
    "error parsing level filter: expected one of \"off\", \"error\", \"warn\", \"info\", " ++
      "\"debug\", \"trace\", or a number 0-5"

end FilterFault

namespace FilterRule

open Text

def levelWords : List (String × Nat) :=
  [("off", 0), ("error", 1), ("warn", 2), ("info", 3), ("debug", 4), ("trace", 5)]

/-- The rank of a level, by its number or by its name in any case; nothing stands for errors. -/
def rank? (s : List Char) : Option Nat :=
  if s = [] then some 1
  else Decimal.readNat? 5 s <|> levelWords.lookup (String.ofList (lowercaseAscii s))

/-- A level, or a target of which everything is shown. -/
def levelOrTarget (s : List Char) : FilterRule :=
  match rank? s with
  | some rank => { rank := rank }
  | none => { rank := 5, target := some (String.ofList s) }

def atLevel (r : FilterRule) (s : List Char) : Except FilterFault FilterRule :=
  match rank? s with
  | some rank => .ok { r with rank := rank }
  | none => .error .level

def canStart (c : Char) : Bool :=
  c.isAlphanum || c = '-' || c = ':' || c = '_' || (0x80 ≤ c.toNat && ! isBlank c)

/-- How far a directive was read: `from` is where the part being read starts. -/
inductive Stage where
  | start
  | word (first : Nat)
  | span (first : Nat)
  | field (first : Nat)
  | fields
  | closed
  | level (first : Nat)
  deriving DecidableEq, Repr

/-- One character further. Parts are cut out of `whole`, the directive with the blanks around it. -/
def step (whole : List Char) (i : Nat) (c : Char) (stage : Stage) (r : FilterRule) :
    Except FilterFault (Stage × FilterRule) :=
  let cut (first : Nat) : List Char := (whole.take i).drop first
  let text (first : Nat) : String := String.ofList (cut first)
  match stage with
  | .start =>
    if c = '[' then .ok (.span (i + 1), r)
    else if canStart c then .ok (.word i, r)
    else .error .invalid
  | .word first =>
    if c = '=' then .ok (.level (i + 1), { r with target := some (text first) })
    else if c = '[' then .ok (.span (i + 1), { r with target := some (text first) })
    else .ok (stage, r)
  | .span first =>
    if c = ']' then .ok (.closed, { r with span := some (text first) })
    else if c = '\x7b' then
      .ok (.field (i + 1), { r with span := if cut first = [] then none else some (text first) })
    else .ok (stage, r)
  | .field first =>
    if c ≠ '\x7d' then .ok (stage, r)
    else if cut first = [] then .error .invalid
    else .ok (.fields, { r with fields := r.fields ++ [text first] })
  | .fields => if c = ']' then .ok (.closed, r) else .error .invalid
  | .closed => if c = '=' then .ok (.level (i + 1), r) else .error .invalid
  | .level _ => .ok (stage, r)

def steps (whole : List Char) : Nat → List Char → Stage → FilterRule →
    Except FilterFault (Stage × FilterRule)
  | _, [], stage, r => .ok (stage, r)
  | i, c :: rest, stage, r => do
    let (stage, r) ← step whole i c stage r
    steps whole (i + 1) rest stage r

/-- Reads a directive. Its characters are gone through without the blanks around it, but its parts
are taken from the text with them. -/
def parse (whole : List Char) : Except FilterFault FilterRule := do
  let (stage, r) ← steps whole 0 (trim whole) .start { rank := 5 }
  match stage with
  | .word first => return levelOrTarget (whole.drop first)
  | .level first => r.atLevel (whole.drop first)
  | .closed => return r
  | _ => .error .invalid

/-- A rule about a span, or about values, says nothing about events outside of spans. -/
def concernsEvents (r : FilterRule) : Bool :=
  r.span.isNone && ! r.fields.any (·.contains '=')

def meets (r : FilterRule) (e : Event) : Bool :=
  r.target.all (fun t => t.isPrefixOf e.target) &&
    r.fields.all fun name => (e.fields.map Field.name).contains name

/-- The longer its target, the more specific is a rule; then the number of fields counts. -/
def specificity (r : FilterRule) : Nat × Nat :=
  ((r.target.map fun t => t.utf8ByteSize + 1).getD 0, r.fields.length)

/-- Whether a rule goes before another one that was stated earlier. -/
def outranks (later earlier : FilterRule) : Bool :=
  let (a, b) := later.specificity
  let (c, d) := earlier.specificity
  c < a || (c = a && d ≤ b)

end FilterRule

structure Filter where
  rules : List FilterRule
  deriving DecidableEq, Repr

namespace Filter

/-- Without any rule, errors are shown. -/
def fallback : Filter := ⟨[{ rank := 1 }]⟩

/-- The filter of a text, and the directives that are ignored, with the reasons. -/
def parse (s : String) : Filter × List (String × FilterFault) :=
  let pieces := (Text.parts ',' s.toList).filter (· ≠ [])
  let read := pieces.map fun piece => (piece, FilterRule.parse piece)
  let rules := read.filterMap fun (_, r) => r.toOption
  let ignored := read.filterMap fun (piece, r) =>
    match r with
    | .ok _ => none
    | .error fault => some (String.ofList piece, fault)
  (if rules = [] then fallback else ⟨rules.filter (·.concernsEvents)⟩, ignored)

/-- The rule that decides about an event. -/
def rule? (f : Filter) (e : Event) : Option FilterRule :=
  f.rules.foldl (fun best r =>
    if r.meets e then
      match best with
      | some b => if r.outranks b then some r else some b
      | none => some r
    else best) none

def shows (f : Filter) (e : Event) : Bool := (f.rule? e).any fun r => e.level.rank ≤ r.rank

end Filter

end NodeBootstrap.Log
