import NodeBootstrap.Decimal.Reading
import NodeBootstrap.Settings.Merging
import NodeBootstrap.Text.Lowercase
import NodeBootstrap.Text.Parts

/-! # Settings from the environment

A variable whose name starts with the program's own mark states a setting; two underscores separate
the parts of its key. A value is taken for a truth value, a whole number, a floating-point number or
a list, in this order, and else for a text. -/

namespace NodeBootstrap.Settings.Environment

open Text

/-- Where the settings of this source come from. -/
def origin : String := "the environment"

def mark : List Char := "kvfab__".toList

/-- The keys that hold lists. -/
def listKeys : List String := ["engine.machines"]

/-- A dot for each two underscores. -/
def dotted : List Char → List Char
  | '_' :: '_' :: rest => '.' :: dotted rest
  | c :: rest => c :: dotted rest
  | [] => []

/-- The key that a variable states, if it states one. -/
def key? (name : String) : Option String :=
  let lower := lowercase name.toList
  if mark.isPrefixOf lower then some (String.ofList (dotted (lower.drop mark.length))) else none

def truth? (s : List Char) : Option Bool :=
  let lower := String.ofList (lowercase s)
  if lower = "true" then some true else if lower = "false" then some false else none

def setting (key value : String) : Setting :=
  let s := value.toList
  match truth? s, Decimal.readInt64? s, Decimal.readFloat? s with
  | some b, _, _ => .boolean origin b
  | none, some n, _ => .integer origin n
  | none, none, some x => .float origin x
  | none, none, none =>
    if key ∈ listKeys then
      .list origin ((parts ',' s).map fun part => .text origin (String.ofList part))
    else .text origin value

/-- Adds what a variable states; the last one that states a key counts. -/
def state (stated : List (String × Setting)) (v : String × String) : List (String × Setting) :=
  match key? v.1 with
  | some key => Setting.setEntry key (setting key v.2) stated
  | none => stated

def settings (environment : List (String × String)) : List (String × Setting) :=
  environment.foldl state []

end NodeBootstrap.Settings.Environment
