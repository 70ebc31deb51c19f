import NodeBootstrap.Text.Quoted

/-! # Fields of a log event

A field has a name and a value. Values have two texts: the one for log lines, in which words of the
program are quoted, and a plain one. -/

namespace NodeBootstrap.Log

inductive FieldValue where
  /-- A word of the program's own. -/
  | word (text : String)
  /-- A text as it is displayed. -/
  | text (text : String)
  | number (value : Nat)
  | flag (value : Bool)
  | texts (items : List String)
  /-- The number of a started process. -/
  | process (number : Nat)
  | process? (number : Option Nat)
  deriving DecidableEq, Repr

namespace FieldValue

def flagText (value : Bool) : String := if value then "true" else "false"

def textsText (items : List String) : String :=
  "[" ++ ", ".intercalate (items.map Text.quoted) ++ "]"

/-- The value in a log line; `showProcess` says how process numbers are shown. -/
def inLine (showProcess : Nat → String) : FieldValue → String
  | word w => Text.quoted w
  | text t => t
  | number value => toString value
  | flag value => flagText value
  | texts items => textsText items
  | process pid => showProcess pid
  | process? (some pid) => s!"Some({showProcess pid})"
  | process? none => "None"

/-- The value where it stands alone. -/
def plain (showProcess : Nat → String) : FieldValue → String
  | word w => w
  | value => value.inLine showProcess

end FieldValue

structure Field where
  name : String
  value : FieldValue
  deriving DecidableEq, Repr

end NodeBootstrap.Log
