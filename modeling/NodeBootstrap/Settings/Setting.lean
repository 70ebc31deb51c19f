import NodeBootstrap.Decimal.Reading
import NodeBootstrap.Json.Value
import NodeBootstrap.Toml.Value

/-! # Settings

A tree of settings. A setting knows where it was stated, unless it came about by merging. -/

namespace NodeBootstrap

inductive Setting where
  | nothing (origin : Option String)
  | boolean (origin : Option String) (value : Bool)
  /-- A whole number of 64 bits with its sign. -/
  | integer (origin : Option String) (value : Int)
  /-- A whole number of 64 bits that has no sign. -/
  | natural (origin : Option String) (value : Nat)
  | float (origin : Option String) (value : Decimal.Binary64)
  | text (origin : Option String) (value : String)
  | list (origin : Option String) (items : List Setting)
  | table (origin : Option String) (entries : List (String × Setting))
  deriving Repr

namespace Setting

def origin : Setting → Option String
  | nothing o | boolean o _ | integer o _ | natural o _ | float o _ | text o _ | list o _
  | table o _ => o

/-- A gap, as in a list that was stated out of order. -/
def gap : Setting := nothing none

def emptyTable : Setting := table none []

mutual

def ofJson (origin : String) : Json → Setting
  | .null => nothing origin
  | .boolean b => boolean origin b
  | .number (.whole n) => if n < Decimal.signedLimit then integer origin n else natural origin n.toNat
  | .number (.float x) => float origin x
  | .string s => text origin s
  | .array items => list origin (ofJsonItems origin items)
  | .object fields => table origin (ofJsonFields origin fields)

def ofJsonItems (origin : String) : List Json → List Setting
  | [] => []
  | item :: items => ofJson origin item :: ofJsonItems origin items

def ofJsonFields (origin : String) : List (String × Json) → List (String × Setting)
  | [] => []
  | (key, value) :: fields => (key, ofJson origin value) :: ofJsonFields origin fields

end

mutual

def ofToml (origin : String) : Toml → Setting
  | .boolean b => boolean origin b
  | .integer n => integer origin n
  | .float x => float origin x
  | .string s => text origin s
  | .dateTime s => text origin s
  | .array items => list origin (ofTomlItems origin items)
  | .table entries => table origin (ofTomlEntries origin entries)

def ofTomlItems (origin : String) : List Toml → List Setting
  | [] => []
  | item :: items => ofToml origin item :: ofTomlItems origin items

def ofTomlEntries (origin : String) : List (String × Toml) → List (String × Setting)
  | [] => []
  | (key, value) :: entries => (key, ofToml origin value) :: ofTomlEntries origin entries

end

end Setting

end NodeBootstrap
