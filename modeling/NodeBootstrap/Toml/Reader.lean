import NodeBootstrap.Toml.Scalar
import NodeBootstrap.Toml.Tables

/-! # Reading TOML documents -/

namespace NodeBootstrap.Toml

/-- A key, an equals sign and a value. -/
def assignmentWith (value : List Char → Option (Toml × List Char)) (s : List Char) :
    Option ((List String × Toml) × List Char) := do
  let (keys, rest) ← keyPath (s.length + 1) s
  let '=' :: rest := rest | none
  let (v, rest) ← value (skipBlanks rest)
  some ((keys, v), rest)

/-- Items between commas up to `close`; a comma may stand after the last one. `rounds` bounds their
number. -/
def itemsWith {α : Type} (close : Char) (item : List Char → Option (α × List Char)) :
    (rounds : Nat) → List Char → Option (List α × List Char)
  | 0, _ => none
  | rounds + 1, s =>
    match skipSpace s with
    | [] => none
    | c :: rest =>
      if c = close then some ([], rest)
      else do
        let (x, rest) ← item (c :: rest)
        match skipSpace rest with
        | ',' :: rest =>
          let (xs, rest) ← itemsWith close item rounds rest
          some (x :: xs, rest)
        | c :: rest => if c = close then some ([x], rest) else none
        | [] => none

/-- The table of the assignments inside braces. -/
def inlineTable (assignments : List (List String × Toml)) : Option Toml := do
  let (_, entries) ← assignments.foldlM
    (fun (state : Origin × Entries) (a : List String × Toml) => assign a.1 a.2 state.1 state.2)
    (Origin.header, [])
  some (.table (entriesToToml entries))

/-- A value with at most `depth` arrays and tables around each other. -/
def value : (depth : Nat) → List Char → Option (Toml × List Char)
  | depth, s =>
    match s with
    | '[' :: rest =>
      match depth with
      | 0 => none
      | depth + 1 =>
        (itemsWith ']' (value depth) (rest.length + 1) rest).map fun (items, rest) =>
          (array items, rest)
    | '\x7b' :: rest =>
      match depth with
      | 0 => none
      | depth + 1 => do
        let (assignments, rest) ←
          itemsWith '\x7d' (assignmentWith (value depth)) (rest.length + 1) rest
        some (← inlineTable assignments, rest)
    | c :: rest =>
      if c = '"' ∨ c = '\'' then
        (string? (c :: rest)).map fun (cs, rest) => (string (String.ofList cs), rest)
      else do
        let (w, rest) := word (c :: rest)
        some (← scalar? w, rest)
    | [] => none

def maxDepth : Nat := 80

def statement (s : List Char) : Option (Statement × List Char) :=
  match s with
  | '[' :: '[' :: rest => do
    let (keys, rest) ← keyPath (rest.length + 1) rest
    let ']' :: ']' :: rest := rest | none
    some (.elementHeader keys, rest)
  | '[' :: rest => do
    let (keys, rest) ← keyPath (rest.length + 1) rest
    let ']' :: rest := rest | none
    some (.header keys, rest)
  | s => (assignmentWith (value maxDepth) s).map fun ((keys, v), rest) => (.assignment keys v, rest)

/-- The statements up to the end of the text, each on a line of its own. -/
def statements : (rounds : Nat) → Draft → List Char → Option Draft
  | 0, _, _ => none
  | rounds + 1, draft, s =>
    match skipSpace s with
    | [] => some draft
    | s => do
      let (st, rest) ← statement s
      let draft ← draft.step st
      statements rounds draft (← endLine rest)

def skipMark : List Char → List Char
  | '\uFEFF' :: rest => rest
  | s => s

/-- The entries of a document, which may start with a byte order mark. -/
def parse (s : List Char) : Option (List (String × Toml)) :=
  (statements (s.length + 1) {} (skipMark s)).map fun draft => entriesToToml draft.entries

end NodeBootstrap.Toml
