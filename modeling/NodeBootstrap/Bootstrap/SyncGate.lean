import NodeBootstrap.Bootstrap.Program

/-! # The sync gate

A node counts as synchronised once its own engine answers a trivial read. -/

namespace NodeBootstrap.Bootstrap

/-- How often the engine is probed before the node is given up. -/
def probeAttempts : Nat := 20

/-- Milliseconds to wait after each failed probe. -/
def probeRetryDelay : Nat := 1000

/-- Probes up to `left` more times; `last` is the error of the probe before. -/
def probe (attempt : Nat) (last : Error) : (left : Nat) → Program (Except Error Unit)
  | 0 => .log (.syncFailed probeAttempts last) (.done (.error last))
  | left + 1 =>
    .call (.ownNode .keys) fun
      | .ok () => .log (.synced attempt) (.done (.ok ()))
      | .error e =>
        .log (.probeFailed attempt e) <|
          .call (.sleep probeRetryDelay) fun () => probe (attempt + 1) e left

/-- The error of a gate that makes no attempt. -/
def neverProbed : Error := .other "sync probe never ran"

def verifySynced : Program (Except Error Unit) := probe 1 neverProbed probeAttempts

end NodeBootstrap.Bootstrap
