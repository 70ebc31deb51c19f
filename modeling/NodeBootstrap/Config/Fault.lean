/-! # Faults of a configuration

Why a configuration cannot be used, apart from its file being unreadable. -/

namespace NodeBootstrap

inductive UrlError where
  | relativeWithoutBase
  | relativeToOpaqueBase
  | emptyHost
  | invalidPort
  | invalidIpv4
  | invalidIpv6
  | invalidDomainName
  | invalidDomainCharacter
  deriving DecidableEq, Repr

namespace UrlError

def message : UrlError → String
  | relativeWithoutBase => "relative URL without a base"
  | relativeToOpaqueBase => "relative URL with a cannot-be-a-base base"
  | emptyHost => "empty host"
  | invalidPort => "invalid port number"
  | invalidIpv4 => "invalid IPv4 address"
  | invalidIpv6 => "invalid IPv6 address"
  | invalidDomainName => "invalid international domain name"
  | invalidDomainCharacter => "invalid domain character"

end UrlError

inductive ConfigFault where
  | fileNotFound (path : String)
  | emptyNodeName
  | emptyProgram
  | missingDnsSuffix
  | missingExternalIp
  /-- A PEM file that TLS needs; `key` is its dotted name. -/
  | missingTlsFile (key : String)
  | badEndpoint (endpoint : String) (cause : UrlError)
  | reported (text : String)
  deriving DecidableEq, Repr

namespace ConfigFault

def message : ConfigFault → String
  | fileNotFound path => s!"config file not found: {path}"
  | emptyNodeName => "node.name cannot be empty"
  | emptyProgram => "engine.program cannot be empty"
  | missingDnsSuffix => "engine.advertise_urls_dns_suffix is required when ssl is enabled"
  | missingExternalIp => "node.external_ip is required for plain http advertise urls"
  | missingTlsFile key => s!"{key} is required when ssl is enabled"
  | badEndpoint endpoint cause => s!"bad endpoint {endpoint}: {cause.message}"
  | reported text => text

end ConfigFault

end NodeBootstrap
