import NodeBootstrap.Http.Status
import NodeBootstrap.Url.Basic

/-! # HTTP messages -/

namespace NodeBootstrap.Http

inductive Method where
  | get
  | post
  deriving DecidableEq, Repr

def Method.name : Method → String
  | get => "GET"
  | post => "POST"

structure Request where
  method : Method
  url : Url
  body : Option String := none
  deriving DecidableEq, Repr

inductive Body where
  | complete (octets : List UInt8)
  /-- A body that ends before all of it came. -/
  | cut
  deriving DecidableEq, Repr

structure Response where
  status : Status
  /-- Where a redirect leads. -/
  location : Option String := none
  body : Body := .complete []
  deriving DecidableEq, Repr

/-- A network, whose answers may depend on a state and change it; it may give none. -/
def Network (σ : Type) : Type := Request → σ → Option Response × σ

/-- A network that carries nothing. -/
def Network.unreachable {σ : Type} : Network σ := fun _ state => (none, state)

end NodeBootstrap.Http
