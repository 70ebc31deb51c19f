import NodeBootstrap.Config.Basic
import NodeBootstrap.Config.Fault

/-! # TLS files of the member API client -/

namespace NodeBootstrap

/-- The PEM files for mutual TLS towards the member API. -/
structure TlsFiles where
  caCert : String
  clientCert : String
  clientKey : String
  deriving DecidableEq, Repr

namespace Config

/-- A PEM file that must be configured. -/
def requireFile (key : String) : Option String → Except ConfigFault String
  | some path => .ok path
  | none => .error (.missingTlsFile key)

/-- The files are wanted only where clients must use TLS; an empty path counts as configured. -/
def tlsFiles (c : Config) : Except ConfigFault (Option TlsFiles) :=
  if c.engine.clientRequireSsl then do
    let tls := c.engine.tls
    let caCert ← requireFile "engine.tls.ca_cert" tls.caCert
    let clientCert ← requireFile "engine.tls.client_cert" tls.clientCert
    let clientKey ← requireFile "engine.tls.client_key" tls.clientKey
    return some ⟨caCert, clientCert, clientKey⟩
  else return none

end Config

end NodeBootstrap
