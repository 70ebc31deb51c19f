import NodeBootstrap.Bootstrap.Application
import NodeBootstrap.CommandLine.Arguments
import NodeBootstrap.Config.Loading
import NodeBootstrap.Log.Filter

/-! # Sessions of the program

A session is one run of the program from its arguments to its exit code. -/

namespace NodeBootstrap.CommandLine

open Http Log

inductive Piece where
  | logged (e : Event)
  | printed (text : String)
  deriving DecidableEq, Repr

structure Session where
  exitCode : Nat
  output : List Piece
  /-- The lines of the error output. -/
  errors : List String

/-- The variable that may hold a filter. -/
def filterVariable : String := "RUST_LOG"

def defaultLevel : String := "info"

/-- The filter to start with, and whether it stands against the configuration. -/
def initialFilter (logLevel stated : Option String) : String × Bool :=
  match logLevel, stated with
  | some level, _ => (level, true)
  | none, some text => if Text.Blank text then (defaultLevel, false) else (text, true)
  | none, none => (defaultLevel, false)

def ignoredLines (ignored : List (String × FilterFault)) : List String :=
  ignored.map fun (directive, fault) => s!"ignoring `{directive}`: {fault.message}"

def linesOf (s : String) : List String := (Text.parts '\n' s.toList).map String.ofList

/-- What is said about an error that ends the program. -/
def report (e : Error) : List String :=
  linesOf s!"Error: {e.message}" ++
    match e.source? with
    | some source => ["", "Caused by:"] ++ (linesOf source).map ("    " ++ ·)
    | none => []

/-- What the events of a filter's choice show. -/
def shown (f : Filter) (events : List Event) : List Piece :=
  (events.filter f.shows).map .logged

def directiveLines (d : Directive) : List String :=
  [s!"--initial-cluster={d.members}", s!"--initial-cluster-state={d.state.text}"]

/-- What running a command came to: its events, and what is printed after them or the error. -/
structure Performed where
  events : List Event
  printed : List String
  result : Except Error (List String)

/-- Performs the command of an application. -/
def perform {ν : Type} (app : Application) (network : Network ν) (state : ν) (m : Machine) :
    Subcommand → Performed
  | .start =>
    let o := (Bootstrap.start app.config).run (app.surroundings network) (app.site state m)
    let done := match o.value with
      | .ok r => [.started r.directive.state r.pid]
      | .error _ => []
    ⟨o.events ++ done, o.state.machine.printed, o.value.map fun _ => []⟩
  | .initialCluster =>
    let o := (Bootstrap.initialCluster app.config).run (app.surroundings network) (app.site state m)
    ⟨o.events, o.state.machine.printed, o.value.map directiveLines⟩

/-- Everything from the loaded configuration on. -/
def performWith {ν : Type} (i : Invocation) (c : Config) (network : Network ν) (state : ν)
    (m : Machine) : Performed :=
  let loaded := Event.configLoaded i.config c.node.name c.node.index
  match Application.wire m.files c with
  | .error e => ⟨[loaded, .wiringFailed e], [], .error e⟩
  | .ok app =>
    let p := perform app network state m i.command
    { p with events := loaded :: p.events }

def runInvocation {ν : Type} (i : Invocation) (network : Network ν) (state : ν) (m : Machine) :
    Session :=
  let (text, pinned) := initialFilter i.logLevel (m.environment.lookup filterVariable)
  let (filter, ignored) := Filter.parse text
  let loaded := Config.load m.files m.environment i.config
  let first := shown filter [Config.loadEvent i.config loaded]
  match loaded with
  | .error e => ⟨1, first, ignoredLines ignored ++ report e⟩
  | .ok c =>
    let (filter, more) := if pinned then (filter, []) else Filter.parse c.logLevel
    let p := performWith i c network state m
    let output := first ++ shown filter p.events ++ p.printed.map .printed
    let errors := ignoredLines (ignored ++ more)
    match p.result with
    | .ok lines => ⟨0, output ++ lines.map .printed, errors⟩
    | .error e => ⟨1, output, errors ++ report e⟩

/-- Runs the program. -/
def run {ν : Type} (network : Network ν) (state : ν) (m : Machine) (arguments : List String) :
    Session :=
  match parse arguments with
  | .print lines => ⟨0, lines.map .printed, []⟩
  | .misuse => ⟨2, [], misuseHelp⟩
  | .run i => runInvocation i network state m

end NodeBootstrap.CommandLine
