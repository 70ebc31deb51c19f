import NodeBootstrap.CommandLine.Help

/-! # Command-line arguments

Arguments are gone through from the left. A call for help or for the version is answered as soon as
it is met; until then the first mistake ends the reading. -/

namespace NodeBootstrap.CommandLine

structure Invocation where
  command : Subcommand
  config : String
  logLevel : Option String
  deriving DecidableEq, Repr

inductive Request where
  | run (invocation : Invocation)
  | print (lines : List String)
  | misuse
  deriving DecidableEq, Repr

inductive Argument where
  /-- An option with its value. -/
  | option (name value : String)
  /-- An option that is given without a value. -/
  | long (name : String)
  /-- An option of one letter. -/
  | short (letter : Char)
  /-- What ends the options. -/
  | endOfOptions
  | plain (text : String)
  deriving DecidableEq, Repr

namespace Argument

def ofString (s : String) : Argument :=
  match s.toList with
  | ['-', '-'] => endOfOptions
  | '-' :: '-' :: rest =>
    let name := String.ofList (rest.takeWhile (· ≠ '='))
    match rest.dropWhile (· ≠ '=') with
    | _ :: value => option name (String.ofList value)
    | [] => long name
  | '-' :: letter :: _ => short letter
  | _ => plain s

/-- The options that take the next argument for their value where none is attached. -/
def takesValue (name : String) : Bool := name = "log-level" || name = "config"

/-- The arguments of a command line. An option that awaits its value lacks it where no plain
argument comes next; nothing after it matters then. -/
def readAll : (awaiting : Option String) → List String → List Argument
  | none, [] => []
  | some name, [] => [long name]
  | awaiting, s :: rest =>
    match awaiting, ofString s with
    | some name, plain value => option name value :: readAll none rest
    | some name, _ => [long name]
    | none, long name =>
      if takesValue name then readAll (some name) rest else long name :: readAll none rest
    | none, argument => argument :: readAll none rest

end Argument

/-- The options met so far. -/
structure Options where
  config : Option String := none
  logLevel : Option String := none
  deriving DecidableEq, Repr

/-- What is wanted once all arguments are read. The log level may be given before the command as
well, but counts more after it. -/
def finish (c : Subcommand) (outer : Option String) (o : Options) : Request :=
  match o.config with
  | some config => .run ⟨c, config, o.logLevel <|> outer⟩
  | none => .misuse

/-- The arguments after a command. No option may be given twice, and a path is not empty. -/
def afterCommand (c : Subcommand) (outer : Option String) (o : Options) :
    List Argument → Request
  | [] => finish c outer o
  | [.endOfOptions] => finish c outer o
  | .long "help" :: _ => .print c.help
  | .short 'h' :: _ => .print c.help
  | .option "log-level" level :: rest =>
    if o.logLevel.isSome then .misuse
    else afterCommand c outer { o with logLevel := some level } rest
  | .option "config" path :: rest =>
    if o.config.isSome ∨ path = "" then .misuse
    else afterCommand c outer { o with config := some path } rest
  | _ => .misuse

/-- The arguments after the command that shows help. -/
def helpFor : List Argument → Request
  | [] => .print topHelp
  | [.plain name] =>
    match Subcommand.ofName? name with
    | some c => .print c.help
    | none => if name = "help" then .print helpHelp else .misuse
  | _ => .misuse

/-- The arguments up to the command. -/
def beforeCommand (logLevel : Option String) : List Argument → Request
  | .long "help" :: _ => .print topHelp
  | .short 'h' :: _ => .print topHelp
  | .long "version" :: _ => .print [versionLine]
  | .short 'V' :: _ => .print [versionLine]
  | .option "log-level" level :: rest =>
    if logLevel.isSome then .misuse else beforeCommand (some level) rest
  | .plain name :: rest =>
    match Subcommand.ofName? name with
    | some c => afterCommand c logLevel {} rest
    | none => if name = "help" then helpFor rest else .misuse
  | _ => .misuse

def parse (arguments : List String) : Request :=
  beforeCommand none (Argument.readAll none arguments)

end NodeBootstrap.CommandLine
