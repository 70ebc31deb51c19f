import NodeBootstrap.Config.Basic
import NodeBootstrap.Settings.Record

/-! # Configuration from settings

Settings that no field asks for are ignored. -/

namespace NodeBootstrap

open Settings

def NodeConfig.ofSetting (key : String) (s : Setting) : Except LoadError NodeConfig := do
  let r ← Record.ofSetting (.record "NodeConfig" 3) key s
  let name ← r.field 0 "name" (fun k s => s.toText k)
  let index ← r.field 1 "index" (fun k s => s.toUInt32 k)
  let externalIp ← r.field 2 "external_ip" (fun k s => s.toText k)
  let name ← r.demand "name" name
  let index ← r.demand "index" index
  let d : NodeConfig := { name := name, index := index }
  return { d with externalIp := externalIp.getD d.externalIp }

def TlsConfig.ofSetting (key : String) (s : Setting) : Except LoadError TlsConfig := do
  let r ← Record.ofSetting (.record "TlsConfig" 8) key s
  let file (position : Nat) (name : String) : Except LoadError (Option String) := do
    r.demandPlace name none (← r.field position name (fun k s => s.toOptionalText k))
  let caCert ← file 0 "ca_cert"
  let clientCert ← file 1 "client_cert"
  let clientKey ← file 2 "client_key"
  let serverCert ← file 3 "server_cert"
  let serverKey ← file 4 "server_key"
  let peerCaCert ← file 5 "peer_ca_cert"
  let peerCert ← file 6 "peer_cert"
  let peerKey ← file 7 "peer_key"
  return ⟨caCert, clientCert, clientKey, serverCert, serverKey, peerCaCert, peerCert, peerKey⟩

def EngineConfig.ofSetting (key : String) (s : Setting) : Except LoadError EngineConfig := do
  let r ← Record.ofSetting (.record "EngineConfig" 12) key s
  let text (position : Nat) (name : String) := r.field position name (fun k s => s.toText k)
  let time (position : Nat) (name : String) := r.field position name (fun k s => s.toUInt64 k)
  let flag (position : Nat) (name : String) := r.field position name (fun k s => s.toFlag k)
  let program ← text 0 "program"
  let dataDir ← text 1 "data_dir"
  let pidFile ← text 2 "pid_file"
  let heartbeatIntervalMs ← time 3 "heartbeat_interval_ms"
  let electionTimeoutMs ← time 4 "election_timeout_ms"
  let peerRequireSsl ← flag 5 "peer_require_ssl"
  let clientRequireSsl ← flag 6 "client_require_ssl"
  let advertiseUrlsDnsSuffix ← text 7 "advertise_urls_dns_suffix"
  let machines ← r.field 8 "machines" (fun k s => s.toTexts k)
  let debug ← flag 9 "debug"
  let requestTimeoutMs ← time 10 "request_timeout_ms"
  let tls ← r.field 11 "tls" TlsConfig.ofSetting
  let d : EngineConfig := { program := ← r.demand "program" program }
  return { d with
    dataDir := dataDir.getD d.dataDir
    pidFile := pidFile.getD d.pidFile
    heartbeatIntervalMs := heartbeatIntervalMs.getD d.heartbeatIntervalMs
    electionTimeoutMs := electionTimeoutMs.getD d.electionTimeoutMs
    peerRequireSsl := peerRequireSsl.getD d.peerRequireSsl
    clientRequireSsl := clientRequireSsl.getD d.clientRequireSsl
    advertiseUrlsDnsSuffix := advertiseUrlsDnsSuffix.getD d.advertiseUrlsDnsSuffix
    machines := machines.getD d.machines
    debug := debug.getD d.debug
    requestTimeoutMs := requestTimeoutMs.getD d.requestTimeoutMs
    tls := tls.getD d.tls }

def Config.ofSetting (s : Setting) : Except LoadError Config := do
  let r ← Record.ofSetting (.record "Config" 3) "" s
  let node ← r.field 0 "node" NodeConfig.ofSetting
  let engine ← r.field 1 "engine" EngineConfig.ofSetting
  let logLevel ← r.field 2 "log_level" (fun k s => s.toText k)
  let node ← r.demand "node" node
  let engine ← r.demand "engine" engine
  let d : Config := { node := node, engine := engine }
  return { d with logLevel := logLevel.getD d.logLevel }

end NodeBootstrap
