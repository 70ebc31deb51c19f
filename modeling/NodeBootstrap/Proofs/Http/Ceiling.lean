import NodeBootstrap.Bootstrap.Application
import NodeBootstrap.Proofs.Bootstrap.Cost
import NodeBootstrap.Proofs.Http.Failover

/-! # The ceiling of a bootstrap

Redirects are followed for each endpoint, endpoints are tried for each call, and calls are made
again where they fail. All three loops are bounded, so that there is a most that a start asks for,
whatever it meets. -/

namespace NodeBootstrap

variable {σ ν : Type}

namespace Http

theorem length_follow_le (network : Network σ) (left : Nat) (req : Request) (state : σ) :
    (follow network left req state).requests.length ≤ left + 1 := by
  fun_induction follow network left req state with
  | case4 req state r answered hanswer next left hnext http rest ih =>
      exact Nat.succ_le_succ ih
  | _ => exact Nat.succ_le_succ (Nat.zero_le _)

theorem length_send_le (network : Network σ) (req : Request) (state : σ) :
    (send network req state).requests.length ≤ 11 := by
  rw [send]
  split
  · exact length_follow_le network maxRedirects req state
  · exact Nat.zero_le _

end Http

namespace HttpClient

open Http

theorem length_dispatch_le (network : Network σ) (q : Question) (last : Error)
    (endpoints : List Url) (state : σ) :
    (dispatch network q last endpoints state).requests.length ≤ 11 * endpoints.length := by
  induction endpoints generalizing last state with
  | nil => exact Nat.le_refl 0
  | cons endpoint rest ih =>
      rw [dispatch]
      split
      · exact Nat.zero_le _
      · next url _ =>
        have hsent := length_send_le network ⟨q.method, url, q.body⟩ state
        dsimp only
        rw [List.length_cons, Nat.mul_add_one, Nat.add_comm]
        split
        · exact Nat.le_trans hsent (Nat.le_add_right 11 _)
        · rw [List.length_append]
          exact Nat.add_le_add hsent (ih _ _)

theorem length_api_le (client : HttpClient) (network : Network σ) (c : MemberCall)
    (traffic : Traffic σ) :
    (client.api network c traffic).state.requests.length ≤
      traffic.requests.length + 11 * client.endpoints.length := by
  rw [api, List.length_append]
  exact Nat.add_le_add_left (length_dispatch_le ..) _

end HttpClient

namespace Application

open Http

/-- How many requests a call can lead to. -/
def requestPrice (app : Application) : Call → Nat
  | .cluster _ => 11 * app.cluster.endpoints.length
  | .ownNode _ => 11 * app.ownNode.endpoints.length
  | _ => 0

theorem length_reply_le (app : Application) (network : Network ν) (call : Call) (site : Site ν) :
    ((app.surroundings network).reply call site).state.traffic.requests.length ≤
      site.traffic.requests.length + app.requestPrice call := by
  cases call with
  | cluster c => exact HttpClient.length_api_le app.cluster network c site.traffic
  | ownNode c => exact HttpClient.length_api_le app.ownNode network c site.traffic
  | launch => exact Nat.le_refl _
  | pid => exact Nat.le_refl _
  | sleep => exact Nat.le_refl _

/-- A node asks its own engine at one URL. -/
theorem length_ownNode_of_wire {files : FileTree} {c : Config} {app : Application}
    (h : wire files c = .ok app) : app.ownNode.endpoints.length = 1 := by
  obtain ⟨cluster, -, h⟩ := bind_eq_ok_iff.mp h
  obtain ⟨ownNode, hownNode, h⟩ := bind_eq_ok_iff.mp h
  obtain ⟨tls, -, hbuilt⟩ := bind_eq_ok_iff.mp hownNode
  obtain rfl := Except.ok.inj h
  exact (HttpClient.build_ok hbuilt).2.length_eq.symm

/-- A start calls on each endpoint of the cluster at most six times, and on its own engine at most
twenty times. -/
theorem length_start_le {files : FileTree} {c : Config} {app : Application}
    (h : wire files c = .ok app) (network : Network ν) (state : ν) (m : Machine) :
    ((Bootstrap.start c).run (app.surroundings network)
      (app.site state m)).state.traffic.requests.length ≤
        11 * (6 * app.cluster.endpoints.length + 20) := by
  have hownNode := length_ownNode_of_wire h
  have hmeasure := Program.measure_run_le (fun site : Site ν => site.traffic.requests.length)
    (app.length_reply_le network) (Bootstrap.start c) (app.site state m)
  have hcost := (Bootstrap.cost_start_le app.requestPrice (app.surroundings network) c
    (app.site state m) (fun _ => Nat.le_refl 0) rfl).1
  refine Nat.le_trans hmeasure ?_
  simp [site, Bootstrap.discoveryBudget, Bootstrap.joiningCost, Bootstrap.failedListPrice,
    Bootstrap.failedProbePrice, requestPrice, hownNode] at hcost ⊢
  omega

end Application

namespace Bootstrap

open Call (cost)

/-- What a start can ask of its surroundings, and what of a network. -/
structure CeilingSpec (c : Config) : Prop where
  calls : ∀ {σ : Type} (s : Surroundings σ) (state : σ),
    let calls := ((start c).run s state).calls
    calls.countP (Call.asks (· == .list)) ≤ 5 ∧ calls.countP (Call.asks MemberCall.adds) ≤ 1 ∧
      calls.countP Call.launches ≤ 1 ∧ calls.countP (Call.asks (· == .keys)) ≤ 20
  /-- In milliseconds: during discovery, during the whole run, and where that succeeds. -/
  pauses : ∀ {σ : Type} (s : Surroundings σ) (state : σ),
    cost Call.pause ((initialCluster c).run s state).calls ≤ 6000 ∧
      cost Call.pause ((start c).run s state).calls ≤ 26000 ∧
      ∀ report, ((start c).run s state).value = .ok report →
        cost Call.pause ((start c).run s state).calls ≤ 25000
  /-- The calls of discovery are those before the launch. -/
  first : ∀ {σ : Type} (s : Surroundings σ) (state : σ),
    ∃ later, ((start c).run s state).calls = ((initialCluster c).run s state).calls ++ later ∧
      ∀ call ∈ later.head?, call.launches
  /-- A cluster in memory is enough to be kept waiting for so long. -/
  attained : c.validate = .ok () → ∀ pid,
    let run reads := (start c).run (MemoryCluster.surroundings (.ok pid)) (.reluctant reads)
    (∀ reads, cost Call.pause ((initialCluster c).run (MemoryCluster.surroundings (.ok pid))
      (.reluctant reads)).calls = 6000) ∧
    cost Call.pause (run 20).calls = 26000 ∧
    (∃ d, (run 19).value = .ok ⟨d, some pid⟩) ∧ cost Call.pause (run 19).calls = 25000
  requests : ∀ {ν : Type} (files : FileTree) (app : Application),
    Application.wire files c = .ok app → ∀ (network : Http.Network ν) (state : ν) (m : Machine),
      ((start c).run (app.surroundings network) (app.site state m)).state.traffic.requests.length ≤
        11 * (6 * app.cluster.endpoints.length + 20)

/-- A configuration of a cluster with two endpoints. -/
def twoMachines : Config :=
  { node := { name := "kv", index := 1, externalIp := "10.0.0.6" }
    engine := { program := "kvd", machines := ["h1", "h2"] } }

/-- Where the client port of a host is. -/
def clientUrl (host : Host) : Url :=
  ⟨"http", some { host, port := some 4001 }, .rooted [""], none, none⟩

/-- There is a sound configuration that clients can be built for. -/
theorem exists_wired :
    ∃ c : Config, c.validate = .ok () ∧ ∃ app, Application.wire { cwd := "/" } c = .ok app := by
  have valid : twoMachines.validate = .ok () := by decide +kernel
  have wired : Application.wire { cwd := "/" } twoMachines =
      .ok ⟨twoMachines, ⟨[clientUrl (.name "h1"), clientUrl (.name "h2")]⟩,
        ⟨[clientUrl (.ipv4 0x0a000006)]⟩⟩ := by
    decide +kernel
  exact ⟨_, valid, _, wired⟩

theorem ceilingSpec (c : Config) : CeilingSpec c where
  calls := fun s state =>
    ⟨countP_start_le (Call.asks (· == .list)) rfl (fun _ => Nat.le_refl 0) s c state,
      countP_start_le (Call.asks MemberCall.adds) rfl (fun _ => Nat.le_refl 0) s c state,
      countP_start_le Call.launches rfl (fun _ => Nat.le_refl 1) s c state,
      countP_start_le (Call.asks (· == .keys)) rfl (fun _ => Nat.le_refl 0) s c state⟩
  pauses := fun s state => by
    have hdiscovery := cost_initialCluster_le Call.pause s c state
    rw [discoveryBudget_pause] at hdiscovery
    exact ⟨hdiscovery, pause_start_le s c state⟩
  first := fun s state => calls_start_eq s c state
  attained := fun valid pid => by
    refine ⟨fun reads => ?_, MemoryCluster.pause_reluctant_shut valid pid,
      MemoryCluster.pause_reluctant_open valid pid⟩
    rw [run_initialCluster_of_valid valid, ← joiningCost_pause c.identity]
    exact (MemoryCluster.discovered_reluctant _ (.ok pid) c reads).1
  requests := fun _ _ wired network state m => Application.length_start_le wired network state m

/-- There is a most that a start asks for, whatever it meets. -/
theorem start_ceiling : (∀ c, CeilingSpec c) ∧
    ∃ c : Config, c.validate = .ok () ∧ ∃ app, Application.wire { cwd := "/" } c = .ok app :=
  ⟨ceilingSpec, exists_wired⟩

end Bootstrap

end NodeBootstrap
