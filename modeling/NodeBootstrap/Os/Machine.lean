import NodeBootstrap.Os.FileTree

/-! # Machines

What a node runs on: its files, its environment and the programs that it can start. -/

namespace NodeBootstrap

open Os

/-- What a program does with its arguments. -/
inductive Behaviour where
  | silent
  /-- Prints its arguments. -/
  | echo
  deriving DecidableEq, Repr

def Behaviour.output (arguments : List String) : Behaviour → List String
  | silent => []
  | echo => [" ".intercalate arguments]

structure Machine where
  files : FileTree
  environment : List (String × String) := []
  /-- The programs that are found by their name alone. -/
  programs : List (String × Behaviour) := []
  /-- The number of the process that starts next. -/
  nextPid : Nat := 1
  /-- What started programs printed. -/
  printed : List String := []
  deriving DecidableEq, Repr

namespace Machine

/-- The program of a name, or of a path where there is a slash in it. No file can be executed. -/
def program (m : Machine) (name : String) : Except OsError Behaviour :=
  if name.contains '/' then do
    match ← m.files.locate ⟨name⟩ with
    | (_, some _) => .error .permissionDenied
    | (_, none) => .error .notFound
  else
    match m.programs.lookup name with
    | some behaviour => .ok behaviour
    | none => .error .notFound

/-- Starts a program as a new process, of which the number is given. -/
def spawn (m : Machine) (name : String) (arguments : List String) :
    Except OsError (Nat × Machine) := do
  if (name :: arguments).any (·.contains '\x00') then .error .nulInArgument
  else
    let behaviour ← m.program name
    return (m.nextPid,
      { m with nextPid := m.nextPid + 1, printed := m.printed ++ behaviour.output arguments })

end Machine

end NodeBootstrap
