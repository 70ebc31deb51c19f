import NodeBootstrap.CommandLine.Session

/-! # Snapshots

What has to be known of a machine for a session: its variables, and what stands at the paths that the
arguments and the configuration name. -/

namespace NodeBootstrap.CommandLine

/-- The pieces between the occurrences of an octet; nothing follows the last one. -/
def octetPieces (separator : UInt8) : List UInt8 → List (List UInt8)
  | [] => []
  | b :: rest =>
    if b = separator then [] :: octetPieces separator rest
    else
      match octetPieces separator rest with
      | [] => [[b]]
      | piece :: more => (b :: piece) :: more

/-- A variable as it is handed to a process: its name, a sign of equality and its value. -/
def assignment? (octets : List UInt8) : Option (String × String) :=
  let text := Text.Utf8.decodeLossy octets
  match text.dropWhile (· ≠ '=') with
  | _ :: value => some (String.ofList (text.takeWhile (· ≠ '=')), String.ofList value)
  | [] => none

/-- The variables of a process, each of which ends in a zero. -/
def environmentOf (block : List UInt8) : List (String × String) :=
  (octetPieces 0 block).filterMap assignment?

/-- The path of a configuration and those that it may stand for. -/
def configPaths (path : String) : List String :=
  path :: [".toml", ".json"].filterMap fun extension =>
    ((Os.FilePath.mk path).appendToName? extension).map Os.FilePath.text

/-- The paths that a configuration names for reading. -/
def namedPaths (c : Config) : List String :=
  c.engine.program ::
    [c.engine.tls.caCert, c.engine.tls.clientCert, c.engine.tls.clientKey].filterMap id

end NodeBootstrap.CommandLine
