import NodeBootstrap.Config.Basic
import NodeBootstrap.Config.Fault
import NodeBootstrap.Text.Blank

/-! # Validation

The invariants that a bootstrap relies on, checked in a fixed order: the first one broken is the
fault reported. -/

namespace NodeBootstrap

open Text

namespace TlsConfig

/-- The files that TLS towards clients needs, with their dotted names. -/
def clientFiles (tls : TlsConfig) : List (String × Option String) :=
  [("engine.tls.ca_cert", tls.caCert),
    ("engine.tls.client_cert", tls.clientCert),
    ("engine.tls.client_key", tls.clientKey),
    ("engine.tls.server_cert", tls.serverCert),
    ("engine.tls.server_key", tls.serverKey)]

/-- The files that TLS between peers needs, with their dotted names. -/
def peerFiles (tls : TlsConfig) : List (String × Option String) :=
  [("engine.tls.peer_ca_cert", tls.peerCaCert),
    ("engine.tls.peer_cert", tls.peerCert),
    ("engine.tls.peer_key", tls.peerKey)]

end TlsConfig

/-- Whether a path is stated and not empty. -/
def Stated (path : Option String) : Prop := ∃ p, path = some p ∧ p ≠ ""

instance (path : Option String) : Decidable (Stated path) :=
  match path with
  | none => isFalse (by simp [Stated])
  | some p => if h : p = "" then isFalse (by simp [Stated, h]) else isTrue ⟨p, rfl, h⟩

/-- The first file of the list that is not stated. -/
def firstUnstated (files : List (String × Option String)) : Option String :=
  (files.find? fun f => ¬ Stated f.2).map Prod.fst

namespace Config

/-- The files that TLS needs on the transports that use it. -/
def requiredFiles (c : Config) : List (String × Option String) :=
  (if c.engine.clientRequireSsl then c.engine.tls.clientFiles else []) ++
    if c.engine.peerRequireSsl then c.engine.tls.peerFiles else []

def fault? (c : Config) : Option ConfigFault :=
  let e := c.engine
  if Blank c.node.name then some .emptyNodeName
  else if e.program = "" then some .emptyProgram
  else if (e.peerRequireSsl || e.clientRequireSsl) ∧ Blank e.advertiseUrlsDnsSuffix then
    some .missingDnsSuffix
  else if (!e.peerRequireSsl || !e.clientRequireSsl) ∧ Blank c.node.externalIp then
    some .missingExternalIp
  else (firstUnstated c.requiredFiles).map .missingTlsFile

def validate (c : Config) : Except ConfigFault Unit :=
  match c.fault? with
  | some fault => .error fault
  | none => .ok ()

end Config

end NodeBootstrap
