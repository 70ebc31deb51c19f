import NodeBootstrap.Decimal.Reading

/-! # Key paths

A key path leads to a setting: a name, followed by names after dots and by indices in brackets. An
index that is negative counts from the end of its list. -/

namespace NodeBootstrap.Settings

inductive PathStep where
  | name (key : String)
  | index (position : Int)
  deriving DecidableEq, Repr

structure KeyPath where
  head : String
  steps : List PathStep
  deriving DecidableEq, Repr

namespace KeyPath

def ofKey (key : String) : KeyPath := ⟨key, []⟩

def isNameChar (c : Char) : Bool := c.isAlphanum || c = '_' || c = '-'

def name? (s : List Char) : Option (String × List Char) :=
  match s.takeWhile isNameChar with
  | [] => none
  | cs => some (String.ofList cs, s.dropWhile isNameChar)

def isPadding (c : Char) : Bool := c = ' ' || c = '\t'

/-- An index, from after its opening bracket to its closing one. -/
def index? (s : List Char) : Option (Int × List Char) := do
  let inside := s.takeWhile (· ≠ ']')
  let ']' :: rest := s.dropWhile (· ≠ ']') | none
  let padded := inside.dropWhile isPadding
  let digits := (padded.reverse.dropWhile isPadding).reverse
  if digits.head? = some '+' then none
  let position ← Decimal.readInt64? digits
  some (position, rest)

def steps? : (rounds : Nat) → List Char → Option (List PathStep)
  | _, [] => some []
  | 0, _ => none
  | rounds + 1, c :: rest => do
    if c = '.' then
      let (key, rest) ← name? rest
      return .name key :: (← steps? rounds rest)
    else if c = '[' then
      let (position, rest) ← index? rest
      return .index position :: (← steps? rounds rest)
    else none

def parse? (s : List Char) : Option KeyPath := do
  let (head, rest) ← name? s
  return ⟨head, ← steps? rest.length rest⟩

/-- A key that is no path stands for itself. -/
def ofString (key : String) : KeyPath := (parse? key.toList).getD (ofKey key)

end KeyPath

end NodeBootstrap.Settings
