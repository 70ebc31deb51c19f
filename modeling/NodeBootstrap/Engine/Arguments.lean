import NodeBootstrap.Cluster.Directive

/-! # Command line of the engine -/

namespace NodeBootstrap

namespace Engine

/-- A flag with its value, or nothing where there is none. -/
def optional (flag : String) : Option String → List String
  | some value => [flag, value]
  | none => []

def clientTlsArguments (tls : TlsConfig) : List String :=
  "--client-cert-auth" :: optional "--trusted-ca-file" tls.caCert ++
    optional "--cert-file" tls.serverCert ++ optional "--key-file" tls.serverKey

def peerTlsArguments (tls : TlsConfig) : List String :=
  "--peer-client-cert-auth" :: optional "--peer-trusted-ca-file" tls.peerCaCert ++
    optional "--peer-cert-file" tls.peerCert ++ optional "--peer-key-file" tls.peerKey

/-- What the engine is told about this node alone. -/
def nodeArguments (e : EngineConfig) (self : Identity) : List String :=
  ["--name", self.name,
    "--data-dir", e.dataDir,
    "--heartbeat-interval", toString e.heartbeatIntervalMs.toNat,
    "--election-timeout", toString e.electionTimeoutMs.toNat,
    "--listen-peer-urls", self.listenPeerUrl,
    "--listen-client-urls", self.listenClientUrl,
    "--initial-advertise-peer-urls", self.advertisePeerUrl,
    "--advertise-client-urls", self.advertiseClientUrl]

def clusterArguments (d : Directive) : List String :=
  ["--initial-cluster", d.members, "--initial-cluster-state", d.state.text]

def arguments (c : Config) (self : Identity) (d : Directive) : List String :=
  let e := c.engine
  nodeArguments e self ++
    (if e.debug then ["--debug"] else []) ++
    (if e.clientRequireSsl then clientTlsArguments e.tls else []) ++
    (if e.peerRequireSsl then peerTlsArguments e.tls else []) ++
    clusterArguments d

end Engine

end NodeBootstrap
