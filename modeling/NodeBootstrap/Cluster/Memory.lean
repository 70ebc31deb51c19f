import NodeBootstrap.Bootstrap.Start

/-! # A cluster in memory

A cluster whose member list is plain data, serving both as the cluster and as the node's own engine.
Its calls can be made to fail. -/

namespace NodeBootstrap

structure MemoryCluster where
  members : List Member := []
  /-- How many members were added so far. -/
  additions : Nat := 0
  /-- How many of the next lists fail. -/
  failingLists : Nat := 0
  /-- How many of the next reads fail. -/
  failingReads : Nat := 0
  /-- With what additions fail. -/
  addFault : Option Error := none
  deriving DecidableEq, Repr

namespace MemoryCluster

def down : Error := .clusterUnavailable "sim" "down"

/-- The identifier of the `n`-th added member, never used twice. -/
def memberId (n : Nat) : String := String.ofList (Nat.toDigits 16 (0x1000 + n))

/-- The member that is added next: unnamed, with the URL that it was added by. -/
def nextMember (s : MemoryCluster) (peerUrl : String) : Member :=
  { id := memberId (s.additions + 1), peerUrls := [peerUrl] }

def listed (s : MemoryCluster) : Except Error (List Member) × MemoryCluster :=
  if s.failingLists = 0 then (.ok s.members, s)
  else (.error down, { s with failingLists := s.failingLists - 1 })

def added (s : MemoryCluster) (peerUrl : String) : Except Error Member × MemoryCluster :=
  match s.addFault with
  | some e => (.error e, s)
  | none =>
    let m := s.nextMember peerUrl
    (.ok m, { s with members := s.members ++ [m], additions := s.additions + 1 })

def read (s : MemoryCluster) : Except Error Unit × MemoryCluster :=
  if s.failingReads = 0 then (.ok (), s)
  else (.error down, { s with failingReads := s.failingReads - 1 })

def answer (s : MemoryCluster) : (c : MemberCall) → Except Error c.Answer × MemoryCluster
  | .list => s.listed
  | .add peerUrl => s.added peerUrl
  | .keys => s.read

def api : MemberApi MemoryCluster := fun c s => ⟨(s.answer c).1, [], (s.answer c).2⟩

/-- `engine` says how a launch ends: with an error, or as a process with that number. -/
def surroundings (engine : Except Error Nat) : Surroundings MemoryCluster where
  cluster := api
  ownNode := api
  launch _ s := ⟨engine.map fun _ => (), [], s⟩
  pid _ := engine.toOption
  sleep _ s := s

def rename (s : MemoryCluster) (id name : String) : MemoryCluster :=
  let renamed (m : Member) : Member := { m with name := name }
  match s.members.findIdx? (·.id == id) with
  | some i => { s with members := s.members.modify i renamed }
  | none => s

/-- Takes the first member with the identifier out of the cluster. -/
def remove (s : MemoryCluster) (id : String) : MemoryCluster :=
  { s with members := s.members.eraseP (·.id == id) }

/-- What can happen to the cluster between two looks at it. -/
inductive Step where
  | start (c : Config) (engine : Except Error Nat)
  | initialCluster (c : Config)
  | failLists (count : Nat)
  | failReads (count : Nat)
  | failAdditions (fault : Option Error)
  | rename (id name : String)
  | remove (id : String)

def step (s : MemoryCluster) : Step → MemoryCluster
  | .start c engine => ((Bootstrap.start c).run (surroundings engine) s).state
  | .initialCluster c => ((Bootstrap.initialCluster c).run (surroundings (.ok 0)) s).state
  | .failLists count => { s with failingLists := count }
  | .failReads count => { s with failingReads := count }
  | .failAdditions fault => { s with addFault := fault }
  | .rename id name => s.rename id name
  | .remove id => s.remove id

end MemoryCluster

end NodeBootstrap
