import NodeBootstrap.CommandLine.Snapshot
import NodeBootstrap.Log.Line

/-! # The program

A session is run on a snapshot of the machine, which has no programs to start and no network. -/

namespace NodeBootstrap.CommandLine

/-- Adds what stands at a path to a tree. -/
def addPath (t : FileTree) (path : String) : IO FileTree := do
  try
    let place := (← IO.currentDir) / path
    if ← place.isDir then return t.withDirectory ⟨path⟩
    else return t.withFile ⟨path⟩ (← IO.FS.readBinFile place).toList
  catch _ => return t

def currentVariables : IO (List (String × String)) := do
  try return environmentOf (← IO.FS.readBinFile "/proc/self/environ").toList
  catch _ => return []

def snapshot (i : Invocation) : IO Machine := do
  let m : Machine :=
    { files := { cwd := (← IO.currentDir).toString }, environment := ← currentVariables }
  let files ← (configPaths i.config).foldlM addPath m.files
  match Config.load files m.environment i.config with
  | .ok c => return { m with files := ← (namedPaths c).foldlM addPath files }
  | .error _ => return { m with files := files }

def pieceText : Piece → String
  | .logged e => e.line toString
  | .printed text => text

def present (s : Session) : IO UInt32 := do
  s.output.forM fun piece => IO.println (pieceText piece)
  s.errors.forM IO.eprintln
  return s.exitCode.toUInt32

end NodeBootstrap.CommandLine

open NodeBootstrap CommandLine in
def main (arguments : List String) : IO UInt32 := do
  let m ← match parse arguments with
    | .run i => snapshot i
    | _ => pure { files := { cwd := "/" } }
  present (run (Http.Network.unreachable (σ := Unit)) () m arguments)
