import NodeBootstrap.Bootstrap.Program

/-! # Discovery

Decides whether a node originates a cluster or joins one, and registers it where it joins. A cluster
that cannot be reached is taken for none at all; only a failed registration is fatal. -/

namespace NodeBootstrap.Bootstrap

open Log (Event)

/-- How often the members are asked for before the cluster is taken for none. -/
def listAttempts : Nat := 5

/-- Milliseconds to wait after each failed attempt. -/
def listRetryDelay : Nat := 1000

/-- Milliseconds for which a registration may settle before the engine starts. -/
def settleDelay : Nat := 2000

/-- The members of the cluster, with `left` attempts left, of which the next has the given
number. -/
def discoverMembers (attempt : Nat) : (left : Nat) → Program (List Member)
  | 0 => .log (.listExhausted listAttempts) (.done [])
  | left + 1 =>
    .call (.cluster .list) fun
      | .ok members => .log (.membersListed attempt members.length) (.done members)
      | .error e =>
        .log (.listFailed attempt e) <|
          .call (.sleep listRetryDelay) fun () => discoverMembers (attempt + 1) left

/-- Whether a member has the URL as its own. -/
def IsMember (peerUrl : String) (members : List Member) : Prop :=
  ∃ m ∈ members, m.peerUrl? = some peerUrl

instance (peerUrl : String) (members : List Member) : Decidable (IsMember peerUrl members) :=
  inferInstanceAs (Decidable (∃ _ ∈ _, _))

def announce (d : Directive) : Program (Except Error Directive) :=
  .log (.directed d) (.done (.ok d))

/-- Adds the node to a cluster that has members and not this one. -/
def register (self : Identity) (members : List Member) : Program (Except Error Directive) :=
  .log (.adding self.advertisePeerUrl) <|
    .call (.cluster (.add self.advertisePeerUrl)) fun
      | .error e => .log (.addFailed e) (.done (.error e))
      | .ok added =>
        .log (.added added.id) <|
          .call (.sleep settleDelay) fun () => announce (.join members self)

/-- What the node does about the members that it found. -/
def settle (self : Identity) (members : List Member) : Program (Except Error Directive) :=
  if members = [] then announce (.originate self)
  else if IsMember self.advertisePeerUrl members then
    .log (.alreadyMember self.advertisePeerUrl) (announce (.rejoin members))
  else register self members

def discover (self : Identity) : Program (Except Error Directive) :=
  (discoverMembers 1 listAttempts).bind (settle self)

end NodeBootstrap.Bootstrap
