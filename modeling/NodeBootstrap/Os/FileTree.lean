import NodeBootstrap.Os.Error
import NodeBootstrap.Os.FilePath

/-! # File trees

Files and directories by the names that lead to them from the root, and a working directory, which
exists together with all directories above it. Names in a path are followed one by one. -/

namespace NodeBootstrap

open Os

inductive FileEntry where
  | directory
  | file (content : List UInt8)
  deriving DecidableEq, Repr

structure FileTree where
  /-- The path of the working directory. -/
  cwd : String
  entries : List (List String × FileEntry) := []
  deriving DecidableEq, Repr

namespace FileTree

def cwdParts (t : FileTree) : List String := (FilePath.mk t.cwd).parts

/-- What stands at a place, given by the names from the root. -/
def entry? (t : FileTree) (place : List String) : Option FileEntry :=
  if place.isPrefixOf t.cwdParts then some .directory else t.entries.lookup place

def set (t : FileTree) (place : List String) (e : FileEntry) : FileTree :=
  let rec replaced : List (List String × FileEntry) → List (List String × FileEntry)
    | [] => [(place, e)]
    | (p, old) :: rest => if p = place then (p, e) :: rest else (p, old) :: replaced rest
  { t with entries := replaced t.entries }

/-- Names have at most this many octets. -/
def maxName : Nat := 255

/-- Paths have fewer octets than this. -/
def pathLimit : Nat := 4096

/-- The place that a name leads to from a directory. -/
def child (place : List String) (name : String) : Except OsError (List String) :=
  if name = "." then .ok place
  else if name = ".." then .ok place.dropLast
  else if name.utf8ByteSize > maxName then .error .nameTooLong
  else .ok (place ++ [name])

/-- Follows names through directories. -/
def enter (t : FileTree) : List String → List String → Except OsError (List String)
  | place, [] => .ok place
  | place, name :: names => do
    let place ← child place name
    match t.entry? place with
    | some .directory => t.enter place names
    | some (.file _) => .error .notDirectory
    | none => .error .notFound

/-- The place of a path, and what stands there; all but the last name must lead through
directories. -/
def locate (t : FileTree) (p : FilePath) : Except OsError (List String × Option FileEntry) := do
  if p.text.contains '\x00' then .error .nulInPath
  else if p.text = "" then .error .notFound
  else if p.text.utf8ByteSize ≥ pathLimit then .error .nameTooLong
  else
    let start := if p.isAbsolute then [] else t.cwdParts
    match p.parts.getLast? with
    | none => return (start, some .directory)
    | some last =>
      let above ← t.enter start p.parts.dropLast
      let place ← child above last
      match t.entry? place with
      | some (.file content) =>
        if p.endsInSlash then .error .notDirectory else return (place, some (.file content))
      | entry => return (place, entry)

def exists? (t : FileTree) (p : FilePath) : Bool :=
  match t.locate p with
  | .ok (_, some _) => true
  | _ => false

def isFile (t : FileTree) (p : FilePath) : Bool :=
  match t.locate p with
  | .ok (_, some (.file _)) => true
  | _ => false

def isDirectory (t : FileTree) (p : FilePath) : Bool :=
  match t.locate p with
  | .ok (_, some .directory) => true
  | _ => false

def read (t : FileTree) (p : FilePath) : Except OsError (List UInt8) := do
  match ← t.locate p with
  | (_, some (.file content)) => return content
  | (_, some .directory) => .error .isDirectory
  | (_, none) => .error .notFound

/-- Creates a file or replaces its content. -/
def write (t : FileTree) (p : FilePath) (content : List UInt8) : Except OsError FileTree := do
  match ← t.locate p with
  | (_, some .directory) => .error .isDirectory
  | (place, _) => if p.endsInSlash then .error .isDirectory else return t.set place (.file content)

def makeDirectory (t : FileTree) (p : FilePath) : Except OsError FileTree := do
  match ← t.locate p with
  | (_, some _) => .error .alreadyExists
  | (place, none) => return t.set place .directory

/-- Makes a directory unless it is there, with the tree as it is afterwards. -/
def ensureDirectory (t : FileTree) (p : FilePath) : Except OsError Unit × FileTree :=
  match t.makeDirectory p with
  | .ok t => (.ok (), t)
  | .error e => (if t.isDirectory p then .ok () else .error e, t)

/-- Makes a directory and those above it that are missing; the names are given from the last to the
first. What was made stays even where a later step fails. -/
def makeDirectories (absolute : Bool) (t : FileTree) :
    List String → Except OsError Unit × FileTree
  | [] => (.ok (), t)
  | name :: above =>
    let p := FilePath.ofComponents absolute (name :: above).reverse
    match t.ensureDirectory p with
    | (.error .notFound, _) =>
      match t.makeDirectories absolute above with
      | (.ok (), t) => t.ensureDirectory p
      | failed => failed
    | done => done

/-- Makes the directories above a path. -/
def makeParents (t : FileTree) (p : FilePath) : Except OsError Unit × FileTree :=
  makeDirectories p.isAbsolute t p.components.dropLast.reverse

/-- The tree with a directory at a path, as far as it and those above it can be made. -/
def withDirectory (t : FileTree) (p : FilePath) : FileTree :=
  (makeDirectories p.isAbsolute t p.components.reverse).2

/-- The tree with a file at a path, unless something else is in its way. -/
def withFile (t : FileTree) (p : FilePath) (content : List UInt8) : FileTree :=
  let made := (t.makeParents p).2
  match made.write p content with
  | .ok t => t
  | .error _ => made

end FileTree

end NodeBootstrap
