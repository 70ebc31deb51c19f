import NodeBootstrap.Bootstrap.Start
import NodeBootstrap.Cluster.HttpClient
import NodeBootstrap.Engine.Supervisor

/-! # The application

The programs of a bootstrap, wired to HTTP clients and to a supervisor on a machine. -/

namespace NodeBootstrap

open Http

structure Application where
  config : Config
  cluster : HttpClient
  ownNode : HttpClient
  deriving DecidableEq, Repr

/-- What an application runs in: a network, a machine and the supervisor of the engine. -/
structure Site (ν : Type) where
  traffic : HttpClient.Traffic ν
  machine : Machine
  supervisor : Supervisor

namespace Application

/-- Wires the clients; whether the configuration is sound is only asked when the application runs. -/
def wire (files : FileTree) (c : Config) : Except Error Application := do
  let cluster ← HttpClient.forCluster files c
  let ownNode ← HttpClient.forOwnNode files c
  return ⟨c, cluster, ownNode⟩

/-- What a failed wiring logs. -/
def wireEvents {α : Type} : Except Error α → List Log.Event
  | .ok _ => []
  | .error e => [.wiringFailed e]

def throughTraffic {ν : Type} (api : MemberApi (HttpClient.Traffic ν)) : MemberApi (Site ν) :=
  fun c site =>
    let reply := api c site.traffic
    ⟨reply.answer, reply.events, { site with traffic := reply.state }⟩

def surroundings {ν : Type} (app : Application) (network : Network ν) : Surroundings (Site ν) where
  cluster := throughTraffic (app.cluster.api network)
  ownNode := throughTraffic (app.ownNode.api network)
  launch arguments site :=
    let launch := site.supervisor.start site.machine arguments
    ⟨launch.result, launch.events,
      { site with machine := launch.machine, supervisor := launch.supervisor }⟩
  pid site := site.supervisor.child
  sleep _ site := site

/-- The site of an application before it runs. -/
def site {ν : Type} (app : Application) (network : ν) (m : Machine) : Site ν :=
  ⟨⟨network, []⟩, m, Supervisor.ofConfig app.config⟩

end Application

end NodeBootstrap
