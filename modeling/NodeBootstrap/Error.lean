import NodeBootstrap.Config.Fault
import NodeBootstrap.Os.Error
import NodeBootstrap.Settings.Error

/-! # Errors of a bootstrap -/

namespace NodeBootstrap

inductive Error where
  | io (cause : OsError)
  | settings (cause : Settings.LoadError)
  | invalidConfig (fault : ConfigFault)
  | tls (reason : String)
  /-- The cluster was not reached at `endpoint`, or does not serve there. -/
  | clusterUnavailable (endpoint reason : String)
  /-- The cluster refused to register the member. -/
  | memberRejected (status : Nat) (reason : String)
  | noEndpoints
  | processStart (program : String) (cause : OsError)
  | pidFile (path : String) (cause : OsError)
  | other (text : String)
  deriving DecidableEq, Repr

namespace Error

def message : Error → String
  | io cause => s!"I/O error: {cause.message}"
  | settings cause => s!"Config error: {cause.message}"
  | invalidConfig fault => s!"Invalid configuration: {fault.message}"
  | tls reason => s!"TLS setup failed: {reason}"
  | clusterUnavailable endpoint reason => s!"Cluster unavailable at {endpoint}: {reason}"
  | memberRejected status reason => s!"Member rejected ({status}): {reason}"
  | noEndpoints => "No cluster endpoints configured"
  | processStart program cause => s!"Failed to start {program}: {cause.message}"
  | pidFile path cause => s!"Failed to write pid file {path}: {cause.message}"
  | other text => text

/-- Whether asking again may help: the cluster was not reached, or there was nobody to ask. -/
def isRetryable : Error → Bool
  | clusterUnavailable .. | noEndpoints => true
  | _ => false

/-- The error behind this one, for a report that shows both. -/
def source? : Error → Option String
  | io cause => some cause.message
  | settings cause => some cause.message
  | processStart _ cause => some cause.message
  | pidFile _ cause => some cause.message
  | _ => none

end Error

end NodeBootstrap
