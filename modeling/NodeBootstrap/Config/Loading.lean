import NodeBootstrap.Config.Decoding
import NodeBootstrap.Error
import NodeBootstrap.Json.Reader
import NodeBootstrap.Log.Event
import NodeBootstrap.Os.FileTree
import NodeBootstrap.Settings.Environment
import NodeBootstrap.Settings.Merging
import NodeBootstrap.Text.Utf8
import NodeBootstrap.Toml.Reader

/-! # Loading a configuration

A configuration is read from a file, whose extension tells its format, and the settings of the
environment are laid over it. Which formats there are besides JSON and TOML is left open, and so is
the order in which the entries of a source are taken: it matters where two of them reach the same
setting. -/

namespace NodeBootstrap

open Os Settings

/-- A format of files: what their names end in, and the entries of a document. -/
structure Format where
  extensions : List String
  entries? : (origin : String) → List Char → Option (List (String × Setting))

namespace Format

def json : Format where
  extensions := ["json"]
  entries? origin s :=
    match Json.parse s with
    | .ok (.object fields) => some (Setting.ofJsonFields origin fields)
    | _ => none

def toml : Format where
  extensions := ["toml"]
  entries? origin s := (Toml.parse s).map (Setting.ofTomlEntries origin)

def ofExtension? (formats : List Format) (extension : Option String) : Option Format :=
  formats.find? fun format => extension.any (· ∈ format.extensions)

end Format

/-- How sources are read: the formats in the order in which they are tried, and the order in which
the entries of a source are taken. Both are orders of hash tables, and may be others each time. -/
structure Reader where
  formats : List Format
  arrange : List (String × Setting) → List (String × Setting)
  arrange_perm : ∀ entries, (arrange entries).Perm entries
  ofExtension?_json : Format.ofExtension? formats (some "json") = some .json
  ofExtension?_toml : Format.ofExtension? formats (some "toml") = some .toml

namespace Config

/-- The path from the working directory, for messages. -/
def originOf (files : FileTree) (p : FilePath) : String :=
  let rec apart : List String → List String → List String
    | [], below => below
    | _ :: above, [] => ".." :: apart above []
    | a :: above, b :: below =>
      if a = b then apart above below else (a :: above).map (fun _ => "..") ++ b :: below
  let names := p.components.filter (· ≠ ".")
  "/".intercalate (if p.isAbsolute then apart files.cwdParts names else names)

/-- The path under the working directory, for messages. -/
def underCwd (files : FileTree) (p : FilePath) : String :=
  if p.isAbsolute then p.text else s!"{files.cwd}/{p.text}"

end Config

namespace Reader

open Config

/-- The file that a path means, and its format: the file itself, or, where a directory stands, a file
beside it whose name goes on with an extension. -/
def find (r : Reader) (files : FileTree) (p : FilePath) : Except LoadError (FilePath × Format) :=
  if files.isFile p then
    match Format.ofExtension? r.formats p.extension? with
    | some format => .ok (p, format)
    | none => .error (.unsupportedFormat (underCwd files p))
  else
    let beside (format : Format) (extension : String) : Option (FilePath × Format) :=
      ((p.appendToName? ("." ++ extension)).filter fun q => files.isFile q).map (·, format)
    match r.formats.findSome? fun format => format.extensions.findSome? (beside format) with
    | some found => .ok found
    | none => .error (.noFile p.text)

/-- The settings of a file. -/
def fileSettings (r : Reader) (files : FileTree) (p : FilePath) :
    Except Error (List (String × Setting)) := do
  let (p, format) ← (r.find files p).mapError .settings
  let content ← (files.read p).mapError .io
  let origin := originOf files p
  match format.entries? origin (Text.Utf8.decodeLossy (Text.Utf8.skipMark content)) with
  | some entries => return entries
  | none => .error (.settings (.malformed origin))

/-- Lays the entries of one source over the settings so far. -/
def overlay (r : Reader) (root : Setting) (source : List (String × Setting)) : Setting :=
  root.overlay (r.arrange source)

def load (r : Reader) (files : FileTree) (environment : List (String × String)) (path : String) :
    Except Error Config := do
  if ¬ files.exists? ⟨path⟩ then .error (.invalidConfig (.fileNotFound path))
  else
    let file ← r.fileSettings files ⟨path⟩
    let settings := r.overlay (r.overlay .emptyTable file) (Environment.settings environment)
    (Config.ofSetting settings).mapError .settings

/-- Takes the entries of a source as they stand. -/
def plain : Reader where
  formats := [.toml, .json]
  arrange := id
  arrange_perm := List.Perm.refl
  ofExtension?_json := rfl
  ofExtension?_toml := rfl

end Reader

namespace Config

def load (files : FileTree) (environment : List (String × String)) (path : String) :
    Except Error Config :=
  Reader.plain.load files environment path

/-- What loading from a path logs. -/
def loadEvent {α : Type} (path : String) : Except Error α → Log.Event
  | .ok _ => .configRead path
  | .error e => .configUnreadable path e

end Config

end NodeBootstrap
