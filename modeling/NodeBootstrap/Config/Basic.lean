/-! # Configuration of one node

What the operator states about the node, its storage engine and the TLS material, with the defaults
of everything that may be left out. -/

namespace NodeBootstrap

structure NodeConfig where
  /-- Logical name of the node, before normalisation. -/
  name : String
  /-- Tells apart the nodes of one group. -/
  index : UInt32
  /-- Address at which others reach the node. -/
  externalIp : String := ""
  deriving DecidableEq, Repr

/-- PEM files. The client side serves both the member API client and the engine's client listener;
the peer side serves the engine alone. -/
structure TlsConfig where
  caCert : Option String := none
  clientCert : Option String := none
  clientKey : Option String := none
  serverCert : Option String := none
  serverKey : Option String := none
  peerCaCert : Option String := none
  peerCert : Option String := none
  peerKey : Option String := none
  deriving DecidableEq, Repr

structure EngineConfig where
  /-- The engine's executable. -/
  program : String
  dataDir : String := "./kvfab-data"
  /-- Where the process number of the started engine is recorded. -/
  pidFile : String := "./kvfab.pid"
  heartbeatIntervalMs : UInt64 := 50
  electionTimeoutMs : UInt64 := 1000
  peerRequireSsl : Bool := false
  clientRequireSsl : Bool := false
  /-- Domain of the `https` URLs. -/
  advertiseUrlsDnsSuffix : String := ""
  /-- Hosts at which the member API may be reached. -/
  machines : List String := []
  debug : Bool := false
  requestTimeoutMs : UInt64 := 5000
  tls : TlsConfig := {}
  deriving DecidableEq, Repr

structure Config where
  node : NodeConfig
  engine : EngineConfig
  logLevel : String := "info"
  deriving DecidableEq, Repr

end NodeBootstrap
