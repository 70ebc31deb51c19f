import NodeBootstrap.Os.Machine

/-! # Operating systems

What a supervisor asks of the system that it runs on. Each request is granted or refused with an
error, and what it has changed before it is refused stays changed; a process that is refused has
changed nothing. -/

namespace NodeBootstrap

open Os

/-- An operating system whose state is a `μ`. -/
structure OperatingSystem (μ : Type) where
  /-- Starts a program as a new process, of which the number is given. -/
  spawn : (program : String) → (arguments : List String) → μ → Except OsError (Nat × μ)
  /-- Makes a directory and those above it that are missing. -/
  makeDirectories : FilePath → μ → Except OsError Unit × μ
  /-- Creates a file or replaces its content. -/
  write : FilePath → List UInt8 → μ → Except OsError Unit × μ

namespace Machine

/-- The operating system of a machine. -/
def system : OperatingSystem Machine where
  spawn name arguments m := m.spawn name arguments
  makeDirectories p m :=
    let made := m.files.makeDirectories p.isAbsolute p.components.reverse
    (made.1, { m with files := made.2 })
  write p content m :=
    match m.files.write p content with
    | .error e => (.error e, m)
    | .ok written => (.ok (), { m with files := written })

end Machine

end NodeBootstrap
