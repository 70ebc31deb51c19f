import NodeBootstrap.Cluster.Directive
import NodeBootstrap.Error
import NodeBootstrap.Log.Field
import NodeBootstrap.Log.Level

/-! # Log events of a bootstrap

Each event has a level, a target, by which it can be filtered, and fields, of which the first names
the action. -/

namespace NodeBootstrap

namespace Bootstrap

/-- The phases of a start, in their order. -/
inductive Phase where
  | validation
  | discovery
  | launch
  | synchronisation
  deriving DecidableEq, Repr

namespace Phase

def failedAction : Phase → String
  | validation => "application.validate.failed"
  | discovery => "application.initial-cluster-state.failed"
  | launch => "application.supervisor-start.failed"
  | synchronisation => "application.verify-synced.failed"

end Phase

end Bootstrap

namespace Log

open Bootstrap

inductive Event where
  | configRead (path : String)
  | configUnreadable (path : String) (error : Error)
  | configLoaded (path node : String) (index : UInt32)
  | endpointFailed (endpoint : String) (error : Error)
  | membersListed (attempt count : Nat)
  | listFailed (attempt : Nat) (error : Error)
  | listExhausted (attempts : Nat)
  | alreadyMember (peerUrl : String)
  | adding (peerUrl : String)
  | added (id : String)
  | addFailed (error : Error)
  | directed (directive : Directive)
  | probeFailed (attempt : Nat) (error : Error)
  | synced (attempt : Nat)
  | syncFailed (attempts : Nat) (error : Error)
  | launching (program : String) (arguments : List String)
  | launched (pid : Nat) (pidFile : String)
  | wiringFailed (error : Error)
  | starting (self : Identity)
  | phaseFailed (phase : Phase) (error : Error)
  | ready (name : String) (pid : Option Nat)
  | started (state : ClusterState) (pid : Option Nat)
  deriving DecidableEq, Repr

namespace Event

def level : Event → Level
  | configRead .. | endpointFailed .. | probeFailed .. => .debug
  | configUnreadable .. | listFailed .. | addFailed .. | syncFailed .. | wiringFailed ..
  | phaseFailed .. => .error
  | _ => .info

def target : Event → String
  | configRead .. | configUnreadable .. => "kvfab::common::config"
  | endpointFailed .. => "kvfab::cluster::client"
  | membersListed .. | listFailed .. | listExhausted .. | alreadyMember .. | adding .. | added ..
  | addFailed .. | directed .. => "kvfab::cluster::membership"
  | probeFailed .. | synced .. | syncFailed .. => "kvfab::cluster::sync"
  | launching .. | launched .. => "kvfab::supervisor::process"
  | wiringFailed .. | starting .. | phaseFailed .. | ready .. => "kvfab::application"
  | configLoaded .. | started .. => "kvfab"

def action : Event → String
  | configRead .. => "config.loaded"
  | configUnreadable .. => "config.load.failed"
  | configLoaded .. => "kvfab.config.loaded"
  | endpointFailed .. => "client.endpoint.failed"
  | membersListed .. => "membership.member-list"
  | listFailed .. => "membership.member-list.failed"
  | listExhausted .. => "membership.member-list.exhausted"
  | alreadyMember .. => "membership.already-member"
  | adding .. => "membership.member-add"
  | added .. => "membership.member-add.done"
  | addFailed .. => "membership.member-add.failed"
  | directed .. => "membership.initial-cluster-state"
  | probeFailed .. => "sync.verify-synced.retry"
  | synced .. => "sync.verify-synced.done"
  | syncFailed .. => "sync.verify-synced.failed"
  | launching .. => "supervisor.start"
  | launched .. => "supervisor.started"
  | wiringFailed .. => "application.build.failed"
  | starting .. => "application.start"
  | phaseFailed phase _ => phase.failedAction
  | ready .. => "application.ready"
  | started .. => "kvfab.start.done"

/-- The fields after the action. -/
def details : Event → List Field
  | configRead path => [⟨"path", .text path⟩]
  | configUnreadable path error => [⟨"path", .text path⟩, ⟨"error", .text error.message⟩]
  | configLoaded path node index =>
    [⟨"path", .text path⟩, ⟨"node", .text node⟩, ⟨"index", .number index.toNat⟩]
  | endpointFailed endpoint error =>
    [⟨"endpoint", .text endpoint⟩, ⟨"error", .text error.message⟩]
  | membersListed attempt count => [⟨"attempt", .number attempt⟩, ⟨"count", .number count⟩]
  | listFailed attempt error =>
    [⟨"attempt", .number attempt⟩, ⟨"retryable", .flag error.isRetryable⟩,
      ⟨"error", .text error.message⟩]
  | listExhausted attempts => [⟨"attempts", .number attempts⟩]
  | alreadyMember peerUrl | adding peerUrl => [⟨"peer_url", .text peerUrl⟩]
  | added id => [⟨"id", .text id⟩]
  | addFailed error => [⟨"error", .text error.message⟩]
  | directed d => [⟨"members", .text d.members⟩, ⟨"state", .text d.state.text⟩]
  | probeFailed attempt error => [⟨"attempt", .number attempt⟩, ⟨"error", .text error.message⟩]
  | synced attempt => [⟨"attempt", .number attempt⟩]
  | syncFailed attempts error =>
    [⟨"attempts", .number attempts⟩, ⟨"error", .text error.message⟩]
  | launching program arguments => [⟨"program", .text program⟩, ⟨"args", .texts arguments⟩]
  | launched pid pidFile => [⟨"pid", .process pid⟩, ⟨"pid_file", .text pidFile⟩]
  | wiringFailed error => [⟨"error", .text error.message⟩]
  | starting self =>
    [⟨"name", .text self.name⟩, ⟨"peer_url", .text self.advertisePeerUrl⟩,
      ⟨"client_url", .text self.advertiseClientUrl⟩]
  | phaseFailed _ error => [⟨"error", .text error.message⟩]
  | ready name pid => [⟨"name", .text name⟩, ⟨"pid", .process? pid⟩]
  | started state pid => [⟨"state", .text state.text⟩, ⟨"pid", .process? pid⟩]

def fields (e : Event) : List Field := ⟨"action", .word e.action⟩ :: e.details

end Event

end Log

end NodeBootstrap
