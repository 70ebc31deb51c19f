import NodeBootstrap.Bootstrap.Discovery
import NodeBootstrap.Bootstrap.SyncGate
import NodeBootstrap.Config.Validation
import NodeBootstrap.Engine.Arguments

/-! # Starting a node

A start runs through four phases and stops at the first that fails: validation, discovery, launch of
the engine, and the sync gate. -/

namespace NodeBootstrap.Bootstrap

structure Report where
  directive : Directive
  pid : Option Nat
  deriving DecidableEq, Repr

def checked (c : Config) : Program (Except Error Unit) :=
  .done (c.validate.mapError .invalidConfig)

/-- The directive alone; a node that joins is registered on the way. -/
def initialCluster (c : Config) : Program (Except Error Directive) :=
  (checked c).orFail (.phaseFailed .validation) fun () => discover c.identity

/-- What follows once the directive is known. -/
def launchWith (c : Config) (d : Directive) : Program (Except Error Report) :=
  let launch : Program (Except Error Unit) :=
    .call (.launch (Engine.arguments c c.identity d)) .done
  launch.orFail (.phaseFailed .launch) fun () =>
    verifySynced.orFail (.phaseFailed .synchronisation) fun () =>
      .call .pid fun pid => .log (.ready c.identity.name pid) (.done (.ok ⟨d, pid⟩))

/-- Bootstraps the node up to the point where it serves reads. -/
def start (c : Config) : Program (Except Error Report) :=
  (checked c).orFail (.phaseFailed .validation) fun () =>
    .log (.starting c.identity) <|
      (discover c.identity).orFail (.phaseFailed .discovery) (launchWith c)

end NodeBootstrap.Bootstrap
