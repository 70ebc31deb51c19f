import NodeBootstrap.Text.Parts

/-! # Paths

A path as text, and the parts of it between slashes. -/

namespace NodeBootstrap.Os

structure FilePath where
  text : String
  deriving DecidableEq, Repr

namespace FilePath

def isAbsolute (p : FilePath) : Bool := p.text.toList.head? = some '/'

/-- A slash at the end demands a directory. -/
def endsInSlash (p : FilePath) : Bool := p.text.toList.getLast? = some '/'

/-- The parts between slashes; empty ones do not count. -/
def parts (p : FilePath) : List String :=
  ((Text.parts '/' p.text.toList).filter (· ≠ [])).map String.ofList

/-- The parts that matter: a dot does so only as the first part of a relative path. -/
def components (p : FilePath) : List String :=
  match p.parts with
  | [] => []
  | first :: rest =>
    (if first = "." ∧ p.isAbsolute then [] else [first]) ++ rest.filter (· ≠ ".")

def ofComponents (absolute : Bool) (components : List String) : FilePath :=
  ⟨(if absolute then "/" else "") ++ "/".intercalate components⟩

/-- The path without its last component; the path of a single name has an empty one above it. -/
def parent? (p : FilePath) : Option FilePath :=
  if p.components = [] then none
  else some (ofComponents p.isAbsolute p.components.dropLast)

/-- The last component, unless it leads upwards. -/
def fileName? (p : FilePath) : Option String :=
  p.components.getLast?.filter fun name => name ≠ ".." ∧ name ≠ "."

/-- What follows the last dot of the file name, unless the dot stands in front. -/
def extension? (p : FilePath) : Option String := do
  let name ← p.fileName?
  let reversed := name.toList.reverse
  let '.' :: stem := reversed.dropWhile (· ≠ '.') | none
  if stem = [] then none else some (String.ofList (reversed.takeWhile (· ≠ '.')).reverse)

/-- The path with more text after its file name, if it has one. -/
def appendToName? (p : FilePath) (suffix : String) : Option FilePath := do
  let name ← p.fileName?
  some (ofComponents p.isAbsolute (p.components.dropLast ++ [name ++ suffix]))

end FilePath

end NodeBootstrap.Os
