import NodeBootstrap.Text.Quoted
import NodeBootstrap.Decimal.Shortest

/-! # Errors of reading settings

A setting may be missing, may hold a value that cannot be taken for what is wanted, or may sit where
a structure of another shape belongs. -/

namespace NodeBootstrap.Settings

/-- What stands where something else is wanted. -/
inductive Found where
  | nothing
  | boolean (value : Bool)
  | integer (value : Int)
  | natural (value : Nat)
  | float (value : Decimal.Binary64)
  | text (value : String)
  | sequence
  | table
  deriving DecidableEq, Repr

namespace Found

/-- As a value that does not convert. -/
def asScalar : Found → String
  | nothing => "unit value"
  | boolean value => s!"boolean `{value}`"
  | integer value => s!"64-bit integer `{value}`"
  | natural value => s!"64-bit unsigned integer `{value}`"
  | float value => s!"floating point `{Decimal.render value}`"
  | text value => s!"string {Text.quoted value}"
  | sequence => "sequence"
  | table => "map"

/-- As a value of the wrong shape. -/
def asShape : Found → String
  | integer value => s!"integer `{value}`"
  | natural value => s!"integer `{value}`"
  | float value => s!"floating point `{Decimal.renderPointed value}`"
  | other => other.asScalar

end Found

/-- What a scalar is wanted as. -/
inductive Scalar where
  | string
  | boolean
  | integer
  | unsigned64
  | unsigned32
  deriving DecidableEq, Repr

namespace Scalar

def description : Scalar → String
  | string => "a string"
  | boolean => "a boolean"
  | integer => "an integer"
  | unsigned64 => "an unsigned 64 bit or less integer"
  | unsigned32 => "an unsigned 32 bit integer"

end Scalar

/-- What a structure is wanted as. -/
inductive Shape where
  | sequence
  /-- A record, by its name and the number of its fields. -/
  | record (name : String) (fields : Nat)
  deriving DecidableEq, Repr

namespace Shape

def description : Shape → String
  | sequence => "a sequence"
  | record name _ => s!"struct {name}"

def lengthDescription : Shape → String
  | sequence => "a sequence"
  | record name fields =>
    s!"struct {name} with {fields} elements"

end Shape

inductive Mismatch where
  | found (found : Found) (wanted : Shape)
  /-- A sequence too short for the record that it is read as. -/
  | length (length : Nat) (wanted : Shape)
  deriving DecidableEq, Repr

namespace Mismatch

def message : Mismatch → String
  | found f wanted => s!"invalid type: {f.asShape}, expected {wanted.description}"
  | length n wanted => s!"invalid length {n}, expected {wanted.lengthDescription}"

end Mismatch

inductive LoadError where
  | missing (key : String)
  /-- `origin` names the source of the value, where it has one. -/
  | wrongScalar (found : Found) (wanted : Scalar) (key : String) (origin : Option String)
  | wrongShape (mismatch : Mismatch) (key : String)
  | unsupportedFormat (path : String)
  | noFile (path : String)
  | malformed (source : String)
  | reported (text : String)
  deriving DecidableEq, Repr

namespace LoadError

def message : LoadError → String
  | missing key => s!"missing configuration field {Text.quoted key}"
  | wrongScalar found wanted key origin =>
    s!"invalid type: {found.asScalar}, expected {wanted.description} for key `{key}`" ++
      (match origin with
      | some source => s!" in {source}"
      | none => "")
  | wrongShape mismatch key => s!"{mismatch.message} for key `{key}`"
  | unsupportedFormat path => s!"configuration file \"{path}\" is not of a supported file format"
  | noFile path => s!"configuration file \"{path}\" not found"
  | malformed source => s!"{source} cannot be read"
  | reported text => text

end LoadError

end NodeBootstrap.Settings
