/-! # Help texts -/

namespace NodeBootstrap.CommandLine

/-- The commands that do something. -/
inductive Subcommand where
  | start
  | initialCluster
  deriving DecidableEq, Repr

namespace Subcommand

def name : Subcommand → String
  | start => "start"
  | initialCluster => "initial-cluster"

def about : Subcommand → String
  | start => "Bootstrap the node, start the engine and wait for sync"
  | initialCluster => "Print the engine's --initial-cluster and --initial-cluster-state flags"

def ofName? (s : String) : Option Subcommand :=
  if s = "start" then some start
  else if s = "initial-cluster" then some initialCluster
  else none

end Subcommand

def programName : String := "kvfab"

def version : String := "0.7.0"

def versionLine : String := s!"{programName} {version}"

/-- Rows of two columns; the second one starts at the same place in each. -/
def rows (width : Nat) (entries : List (String × String)) : List String :=
  entries.map fun (left, right) =>
    "  " ++ left ++ "".pushn ' ' (width - left.length) ++ "  " ++ right

def helpAbout : String := "Print this message or the help of the given subcommand(s)"

def logLevelRow : String × String :=
  ("    --log-level <LOG_LEVEL>",
    "Log level (trace, debug, info, warn, error); overrides the config file")

def helpRow : String × String := ("-h, --help", "Print help")

/-- The help of the program as a whole. -/
def topHelp : List String :=
  ["Join a replicated KV store node to its cluster and wait until it is synced", "",
    s!"Usage: {programName} [OPTIONS] <COMMAND>", "", "Commands:"] ++
  rows 15 [(Subcommand.start.name, Subcommand.start.about),
    (Subcommand.initialCluster.name, Subcommand.initialCluster.about), ("help", helpAbout)] ++
  ["", "Options:"] ++ rows 27 [logLevelRow, helpRow, ("-V, --version", "Print version")]

def Subcommand.help (c : Subcommand) : List String :=
  [c.about, "", s!"Usage: {programName} {c.name} [OPTIONS] --config <CONFIG>", "", "Options:"] ++
  rows 27 [("    --config <CONFIG>", "Config file (JSON or TOML)"), logLevelRow, helpRow]

/-- The help of the command that shows help. -/
def helpHelp : List String :=
  [helpAbout, "", s!"Usage: {programName} help [COMMAND]...", "", "Arguments:"] ++
  rows 12 [("[COMMAND]...", "Print help for the subcommand(s)")]

/-- What is shown to those who cannot be understood. -/
def misuseHelp : List String :=
  ["error: the arguments are not understood", "",
    s!"Usage: {programName} [OPTIONS] <COMMAND>", "", "For more information, try '--help'."]

end NodeBootstrap.CommandLine
