import NodeBootstrap.Log.Event
import NodeBootstrap.Os.System

/-! # Supervising the engine

A supervisor starts the engine's program and records the number of its process in a file. -/

namespace NodeBootstrap

open Os

structure Supervisor where
  program : String
  pidFile : String
  /-- The process that was started last. -/
  child : Option Nat := none
  deriving DecidableEq, Repr

/-- How a start ended, with what was logged and what has changed. -/
structure Launch (μ : Type) where
  result : Except Error Unit
  events : List Log.Event
  supervisor : Supervisor
  machine : μ

namespace Supervisor

def ofConfig (c : Config) : Supervisor := { program := c.engine.program, pidFile := c.engine.pidFile }

/-- A process number in decimal digits, without a line end. -/
def pidContent (pid : Nat) : List UInt8 := (toString pid).toUTF8.toList

/-- Makes the directories above a path, if it names any. -/
def makeParents {μ : Type} (os : OperatingSystem μ) (p : FilePath) (state : μ) :
    Except OsError Unit × μ :=
  match p.parent? with
  | none => (.ok (), state)
  | some above => if above.text = "" then (.ok (), state) else os.makeDirectories above state

/-- Records a process number in a file, in a directory that may have to be made. -/
def record {μ : Type} (os : OperatingSystem μ) (path : String) (pid : Nat) (state : μ) :
    Except OsError Unit × μ :=
  match makeParents os ⟨path⟩ state with
  | (.error e, made) => (.error e, made)
  | (.ok (), made) => os.write ⟨path⟩ (pidContent pid) made

/-- A process whose number could not be recorded counts as started nevertheless. -/
def startOn {μ : Type} (os : OperatingSystem μ) (s : Supervisor) (state : μ)
    (arguments : List String) : Launch μ :=
  let launching := Log.Event.launching s.program arguments
  match os.spawn s.program arguments state with
  | .error cause => ⟨.error (.processStart s.program cause), [launching], s, state⟩
  | .ok (pid, spawned) =>
    let s := { s with child := some pid }
    match record os s.pidFile pid spawned with
    | (.error cause, left) => ⟨.error (.pidFile s.pidFile cause), [launching], s, left⟩
    | (.ok (), recorded) => ⟨.ok (), [launching, .launched pid s.pidFile], s, recorded⟩

def start (s : Supervisor) (m : Machine) (arguments : List String) : Launch Machine :=
  s.startOn Machine.system m arguments

end Supervisor

end NodeBootstrap
