/-! # Cluster members -/

namespace NodeBootstrap

/-- A member as the cluster reports it. -/
structure Member where
  id : String := ""
  name : String := ""
  peerUrls : List String := []
  clientUrls : List String := []
  deriving DecidableEq, Repr

namespace Member

/-- The address that identifies a member towards its peers. -/
def peerUrl? (m : Member) : Option String := m.peerUrls.head?

end Member

end NodeBootstrap
