import NodeBootstrap.Config.Identity
import NodeBootstrap.Member.Basic

/-! # Bootstrap directives

A directive tells the engine whether it originates a cluster or joins one, and who is in it. -/

namespace NodeBootstrap

inductive ClusterState where
  | new
  | existing
  deriving DecidableEq, Repr

namespace ClusterState

def text : ClusterState → String
  | new => "new"
  | existing => "existing"

theorem text_injective : Function.Injective text := by
  intro state state' h
  cases state <;> cases state' <;> first | rfl | exact absurd h (by decide)

end ClusterState

structure Directive where
  /-- Pairs `name=peerURL`, separated by commas. -/
  members : String
  state : ClusterState
  deriving DecidableEq, Repr

namespace Directive

def entry (name peerUrl : String) : String := s!"{name}={peerUrl}"

end Directive

namespace Identity

def entry (self : Identity) : String := Directive.entry self.name self.advertisePeerUrl

end Identity

namespace Member

/-- A member without a peer URL has an empty one here. -/
def entry (m : Member) : String := Directive.entry m.name (m.peerUrl?.getD "")

end Member

namespace Directive

def originate (self : Identity) : Directive := ⟨self.entry, .new⟩

/-- The directive of a node that is among the members already. -/
def rejoin (members : List Member) : Directive :=
  ⟨",".intercalate (members.map Member.entry), .existing⟩

/-- The directive of a node that was added after `members`. -/
def join (members : List Member) (self : Identity) : Directive :=
  ⟨",".intercalate (members.map Member.entry ++ [self.entry]), .existing⟩

end Directive

end NodeBootstrap
