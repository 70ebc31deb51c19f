import NodeBootstrap.Config.Basic
import NodeBootstrap.Text.Blank
import NodeBootstrap.Text.Lowercase

/-! # Identity of a node

The name and the URLs under which a node takes part in its cluster. All of it follows from the
configuration. -/

namespace NodeBootstrap

open Text

/-- Blanks and underscores separate the words of a name. -/
def hyphenate (c : Char) : Char := if c = '_' ∨ isBlank c then '-' else c

/-- The normal form of a name: trimmed, hyphens between its words, in lower case. -/
def kebab (s : List Char) : List Char := lowercase ((trim s).map hyphenate)

def kebabCase (name : String) : String := String.ofList (kebab name.toList)

def nodeName (name : String) (index : UInt32) : String := s!"{kebabCase name}-{index.toNat}"

/-- Port of the client traffic. -/
def clientPort : Nat := 4001

/-- Port of the traffic between members. -/
def peerPort : Nat := 7001

/-- Secure URLs name the host by its domain, plain ones by its address. -/
def advertiseUrl (secure : Bool) (name dnsSuffix externalIp : String) (port : Nat) : String :=
  if secure then s!"https://{name}.{dnsSuffix}:{port}" else s!"http://{externalIp}:{port}"

def listenUrl (secure : Bool) (port : Nat) : String :=
  if secure then s!"https://0.0.0.0:{port}" else s!"http://0.0.0.0:{port}"

structure Identity where
  name : String
  advertisePeerUrl : String
  advertiseClientUrl : String
  listenPeerUrl : String
  listenClientUrl : String
  deriving DecidableEq, Repr

namespace Config

def nodeName (c : Config) : String := NodeBootstrap.nodeName c.node.name c.node.index

def identity (c : Config) : Identity :=
  let e := c.engine
  { name := c.nodeName
    advertisePeerUrl :=
      advertiseUrl e.peerRequireSsl c.nodeName e.advertiseUrlsDnsSuffix c.node.externalIp peerPort
    advertiseClientUrl :=
      advertiseUrl e.clientRequireSsl c.nodeName e.advertiseUrlsDnsSuffix c.node.externalIp
        clientPort
    listenPeerUrl := listenUrl e.peerRequireSsl peerPort
    listenClientUrl := listenUrl e.clientRequireSsl clientPort }

/-- Where the member API of the cluster may answer, in the order of trial. -/
def clusterEndpoints (c : Config) : List String :=
  let e := c.engine
  if e.clientRequireSsl then [s!"https://{e.advertiseUrlsDnsSuffix}:{clientPort}"]
  else if e.machines.isEmpty then [c.identity.advertiseClientUrl]
  else e.machines.map fun machine => s!"http://{machine}:{clientPort}"

end Config

end NodeBootstrap
