import Mathlib.Algebra.Ring.Nat
import NodeBootstrap.Proofs.Cluster.Origination

/-! # What a start costs

Every call has a price, so that calls, pauses and what is sent over a network are all counted in the
same way. However it is answered, a start costs no more than its two loops can spend; the cluster in
memory lets it spend all of it. -/

namespace NodeBootstrap

variable {σ : Type} {s : Surroundings σ} {state : σ}

namespace Call

variable (price : Call → Nat)

/-- What calls cost together. -/
def cost (calls : List Call) : Nat := (calls.map price).sum

@[simp] theorem cost_nil : cost price [] = 0 := rfl

@[simp] theorem cost_cons (call : Call) (calls : List Call) :
    cost price (call :: calls) = price call + cost price calls := List.sum_cons

@[simp] theorem cost_append (calls later : List Call) :
    cost price (calls ++ later) = cost price calls + cost price later := by
  simp [cost]

@[simp] theorem cost_attempts (c : Call) (pause n : Nat) :
    cost price (c.attempts pause n) = n * (price c + price (.sleep pause)) := by
  induction n with
  | zero => rw [Nat.zero_mul]; rfl
  | succ n ih =>
      rw [attempts] at ih
      rw [attempts, List.replicate_succ, List.flatten_cons, cost_append, ih, cost_cons, cost_cons,
        cost_nil, Nat.add_one_mul, Nat.add_comm, Nat.add_zero]

/-- Calls of one kind are counted by a price of one for each. -/
theorem cost_toNat (kind : Call → Bool) (calls : List Call) :
    cost (fun call => (kind call).toNat) calls = calls.countP kind := by
  induction calls with
  | nil => rfl
  | cons call calls ih =>
      rw [cost_cons, ih, List.countP_cons, Nat.add_comm]
      cases kind call <;> rfl

/-- For how long a call pauses. -/
def pause : Call → Nat
  | sleep ms => ms
  | _ => 0

@[simp] theorem pause_sleep (ms : Nat) : (sleep ms).pause = ms := rfl

@[simp] theorem pause_cluster (c : MemberCall) : (cluster c).pause = 0 := rfl

@[simp] theorem pause_ownNode (c : MemberCall) : (ownNode c).pause = 0 := rfl

@[simp] theorem pause_launch (arguments : List String) : (launch arguments).pause = 0 := rfl

/-- Whether a call asks the question, be it of the cluster or of this node's own engine. -/
def asks (question : MemberCall → Bool) : Call → Bool
  | cluster c => question c
  | ownNode c => question c
  | _ => false

/-- Whether a call starts the engine. -/
def launches : Call → Bool
  | launch _ => true
  | _ => false

end Call

/-- Whether a member is to be added, by whatever URL. -/
def MemberCall.adds : MemberCall → Bool
  | add _ => true
  | _ => false

/-- What each call adds at most, the run as a whole adds at most. -/
theorem Program.measure_run_le {α : Type} {price : Call → Nat} (measure : σ → Nat)
    (step : ∀ call now, measure (s.reply call now).state ≤ measure now + price call)
    (p : Program α) (state : σ) :
    measure (p.run s state).state ≤ measure state + Call.cost price (p.run s state).calls := by
  induction p generalizing state with
  | done => exact Nat.le_add_right _ _
  | log event next ih =>
      rw [run_log, Outcome.calls_after]
      exact ih state
  | call c next ih =>
      rw [run_call, Outcome.calls_after, List.filterMap_cons, Entry.call?_called, Call.cost_append,
        Call.cost_cons]
      have hfirst := step c state
      have hrest := ih (s.reply c state).answer (s.reply c state).state
      simp only [Outcome.state_after]
      omega

namespace Bootstrap

open Call (cost)

variable {c : Config} {price : Call → Nat}

/-! ## The most that each part costs -/

section
variable (price : Call → Nat)

/-- A list that fails, and its pause. -/
def failedListPrice : Nat := price (.cluster .list) + price (.sleep 1000)

/-- A probe that fails, and its pause. -/
def failedProbePrice : Nat := price (.ownNode .keys) + price (.sleep 1000)

/-- All lists fail but the last one, and the node is added. -/
def joiningCost (self : Identity) : Nat :=
  4 * failedListPrice price + price (.cluster .list) +
    (price (.cluster (.add self.advertisePeerUrl)) + price (.sleep 2000))

/-- The most that discovery can spend. Where all lists fail, nothing is added. -/
def discoveryBudget (self : Identity) : Nat :=
  max (5 * failedListPrice price) (joiningCost price self)

/-- All probes fail but the last one. -/
def openingCost : Nat := 19 * failedProbePrice price + price (.ownNode .keys)

end

theorem Listing.cost_le {calls : List Call} {members : List Member} {listed : σ}
    (h : Listing s state calls members listed) :
    cost price calls ≤ 4 * failedListPrice price + price (.cluster .list) ∨
      members = [] ∧ cost price calls = 5 * failedListPrice price := by
  cases h with
  | answered k members hk failed answer =>
      have hfailed : k * failedListPrice price ≤ 4 * failedListPrice price :=
        Nat.mul_le_mul_right _ (Nat.le_of_lt_succ hk)
      refine .inl ?_
      rw [Call.cost_append, Call.cost_attempts, Call.cost_cons, Call.cost_nil]
      exact Nat.add_le_add_right hfailed _
  | exhausted failed => exact .inr ⟨rfl, Call.cost_attempts price _ _ _⟩

theorem Settlement.calls_of_nil {self : Identity} {members : List Member}
    {addition : Except Error Member} {calls : List Call} {value : Except Error Directive}
    (h : Settlement self members addition calls value) (empty : members = []) : calls = [] := by
  cases h with
  | originates => rfl
  | rejoins => rfl
  | joins _ ne => exact absurd empty ne
  | refused _ ne => exact absurd empty ne

theorem Settlement.cost_le {self : Identity} {members : List Member}
    {addition : Except Error Member} {calls : List Call} {value : Except Error Directive}
    (h : Settlement self members addition calls value) :
    cost price calls ≤
      price (.cluster (.add self.advertisePeerUrl)) + price (.sleep 2000) := by
  cases h with
  | originates => exact Nat.zero_le _
  | rejoins => exact Nat.zero_le _
  | joins => simp
  | refused => simp

theorem cost_discover_le (price : Call → Nat) (s : Surroundings σ) (self : Identity) (state : σ) :
    cost price ((discover self).run s state).calls ≤ discoveryBudget price self := by
  have settlement := settle_settlement s self
    ((discoverMembers 1 listAttempts).run s state).value
    ((discoverMembers 1 listAttempts).run s state).state
  rw [calls_run_discover, Call.cost_append]
  rcases (discoverMembers_listing s state).cost_le with listed | ⟨empty, listed⟩
  · exact Nat.le_trans (Nat.add_le_add listed settlement.cost_le) (Nat.le_max_right _ _)
  · -- Where no list succeeds there are no members, and nothing more is called.
    rw [settlement.calls_of_nil empty, Call.cost_nil, listed]
    exact Nat.le_max_left _ _

theorem Probing.cost_of_error {calls : List Call} {e : Error} {probed : σ}
    (h : Probing s state calls (.error e) probed) :
    cost price calls = 20 * failedProbePrice price := by
  cases h with
  | shut => exact Call.cost_attempts price _ _ _

theorem Probing.cost_le_of_ok {calls : List Call} {probed : σ}
    (h : Probing s state calls (.ok ()) probed) : cost price calls ≤ openingCost price := by
  cases h with
  | opened k hk failed answer =>
      have hfailed : k * failedProbePrice price ≤ 19 * failedProbePrice price :=
        Nat.mul_le_mul_right _ (Nat.le_of_lt_succ hk)
      rw [Call.cost_append, Call.cost_attempts, Call.cost_cons, Call.cost_nil]
      exact Nat.add_le_add_right hfailed _

/-! ## The whole start -/

/-- A start spends at most what discovery, the launch and the gate can spend, and less where it
succeeds. Asking for the process number is free. -/
theorem cost_start_le (price : Call → Nat) (s : Surroundings σ) (c : Config) (state : σ)
    {launchPrice : Nat} (launch : ∀ arguments, price (.launch arguments) ≤ launchPrice)
    (free : price .pid = 0) :
    cost price ((start c).run s state).calls ≤
        discoveryBudget price c.identity + launchPrice + 20 * failedProbePrice price ∧
      ∀ report, ((start c).run s state).value = .ok report →
        cost price ((start c).run s state).calls ≤
          discoveryBudget price c.identity + launchPrice + openingCost price := by
  have hopening : openingCost price ≤ 20 * failedProbePrice price := by
    rw [openingCost, failedProbePrice]
    omega
  have hdiscovered := cost_discover_le price s c.identity state
  have started := start_started s c state
  generalize ((start c).run s state).calls = calls at started ⊢
  generalize ((start c).run s state).value = value at started ⊢
  cases started with
  | invalid => exact ⟨Nat.zero_le _, nofun⟩
  | undiscovered => exact ⟨by rw [discovered]; omega, nofun⟩
  | unlaunched d =>
      have hlaunch := launch (Engine.arguments c c.identity d)
      refine ⟨?_, nofun⟩
      rw [Call.cost_append, Call.cost_cons, Call.cost_nil, discovered]
      omega
  | unsynced d e probes probed _ _ _ probing =>
      have hlaunch := launch (Engine.arguments c c.identity d)
      refine ⟨?_, nofun⟩
      rw [Call.cost_append, Call.cost_cons, probing.cost_of_error, discovered]
      omega
  | ready d probes probed _ _ _ probing =>
      have hlaunch := launch (Engine.arguments c c.identity d)
      have hprobes : cost price (probes ++ [.pid]) ≤ openingCost price := by
        rw [Call.cost_append, Call.cost_cons, Call.cost_nil, free]
        exact probing.cost_le_of_ok
      rw [Call.cost_append, Call.cost_cons, discovered]
      exact ⟨by omega, fun _ _ => by omega⟩

/-- The calls of a start are those of discovery, followed by a launch or by nothing. -/
theorem calls_start_eq (s : Surroundings σ) (c : Config) (state : σ) :
    ∃ later, ((start c).run s state).calls = ((initialCluster c).run s state).calls ++ later ∧
      ∀ call ∈ later.head?, call.launches := by
  cases h : (asked s c state).value with
  | error e =>
      obtain ⟨-, hcalls, -⟩ := start_of_asked_error h
      exact ⟨[], hcalls.trans (List.append_nil _).symm, nofun⟩
  | ok d =>
      obtain ⟨later, hcalls, -⟩ := calls_start_of_asked_ok h
      exact ⟨_, hcalls, fun call hcall => Option.some.inj hcall ▸ rfl⟩

theorem cost_initialCluster_le (price : Call → Nat) (s : Surroundings σ) (c : Config) (state : σ) :
    cost price ((initialCluster c).run s state).calls ≤ discoveryBudget price c.identity := by
  cases valid : c.validate with
  | error fault =>
      rw [run_initialCluster_of_invalid valid]
      exact Nat.zero_le _
  | ok =>
      rw [run_initialCluster_of_valid valid]
      exact cost_discover_le price s c.identity state

/-- How many calls of a kind a start makes at most. -/
theorem countP_start_le (kind : Call → Bool) (free : kind .pid = false) {launches : Nat}
    (launch : ∀ arguments, (kind (.launch arguments)).toNat ≤ launches) (s : Surroundings σ)
    (c : Config) (state : σ) :
    ((start c).run s state).calls.countP kind ≤
      discoveryBudget (fun call => (kind call).toNat) c.identity + launches +
        20 * failedProbePrice fun call => (kind call).toNat := by
  rw [← Call.cost_toNat]
  exact (cost_start_le _ s c state launch (by rw [free]; rfl)).1

theorem joiningCost_pause (self : Identity) : joiningCost Call.pause self = 6000 := by
  simp [joiningCost, failedListPrice]

theorem discoveryBudget_pause (self : Identity) : discoveryBudget Call.pause self = 6000 := by
  simp [discoveryBudget, joiningCost_pause, failedListPrice]

theorem failedProbePrice_pause : failedProbePrice Call.pause = 1000 := rfl

theorem openingCost_pause : openingCost Call.pause = 19000 := rfl

theorem pause_start_le (s : Surroundings σ) (c : Config) (state : σ) :
    cost Call.pause ((start c).run s state).calls ≤ 26000 ∧
      ∀ report, ((start c).run s state).value = .ok report →
        cost Call.pause ((start c).run s state).calls ≤ 25000 := by
  have h := cost_start_le Call.pause s c state (fun _ => Nat.le_refl 0) rfl
  rw [discoveryBudget_pause, failedProbePrice_pause, openingCost_pause] at h
  exact h

end Bootstrap

/-! ## A cluster that lets everything be spent -/

namespace MemoryCluster

open Bootstrap
open Call (cost)

variable {c : Config} (price : Call → Nat)

/-- The cluster after some more reads. -/
def afterReads (s : MemoryCluster) (reads : Nat) : MemoryCluster :=
  { s with failingReads := s.failingReads - reads }

theorem stateAt_keys (engine : Except Error Nat) (pause : Nat) (s : MemoryCluster) (n : Nat) :
    (surroundings engine).stateAt (.ownNode .keys) pause s n = s.afterReads n := by
  induction n generalizing s with
  | zero => rfl
  | succ n ih =>
      have hfirst : ((surroundings engine).ownNode .keys s).state = s.afterReads 1 := by
        simp only [surroundings, api, answer, read]
        split
        · next h => rw [afterReads, h, Nat.zero_sub, ← h]
        · rfl
      calc
        (surroundings engine).stateAt (.ownNode .keys) pause s (n + 1)
          = (surroundings engine).stateAt (.ownNode .keys) pause (s.afterReads 1) n := by
            rw [← hfirst]
            rfl
        _ = s.afterReads (n + 1) := by
            rw [ih]
            simp only [afterReads, Nat.sub_sub, Nat.add_comm 1 n]

/-- As many reads fail as are meant to. -/
theorem answer_keys (engine : Except Error Nat) (pause : Nat) (s : MemoryCluster) (n : Nat) :
    ((surroundings engine).replyAt (.ownNode .keys) pause s n).answer =
      if s.failingReads ≤ n then .ok () else .error down := by
  rw [Surroundings.replyAt, stateAt_keys]
  simp only [Surroundings.reply_ownNode, surroundings, api, answer, read, afterReads,
    Nat.sub_eq_zero_iff_le]
  split <;> rfl

/-- A cluster that answers the last list only, with a member that has no URL, and fails some
reads. -/
def reluctant (reads : Nat) : MemoryCluster :=
  { members := [{}], failingLists := 4, failingReads := reads }

theorem listing_reluctant (engine : Except Error Nat) (reads : Nat) :
    Listing (surroundings engine) (reluctant reads)
      (Call.attempts (.cluster .list) 1000 4 ++ [.cluster .list]) [{}]
      { members := [{}], failingReads := reads } := by
  have hlast : (surroundings engine).replyAt (.cluster .list) 1000 (reluctant reads) 4 =
      ⟨.ok [{}], [], { members := [{}], failingReads := reads }⟩ := by
    rw [Surroundings.replyAt, stateAt_list]
    exact cluster_list_of_zero rfl engine
  have failed : ∀ i < 4, ∃ e, ((surroundings engine).replyAt (.cluster .list) 1000
      (reluctant reads) i).answer = .error e :=
    fun i hi => ⟨down, replyAt_list_of_lt hi engine 1000⟩
  have h := Listing.answered 4 [{}] (by omega) failed (congrArg Reply.answer hlast)
  rwa [hlast] at h

/-- No member that it lists is the node, which is added. -/
theorem discovered_reluctant (engine : Except Error Nat) (c : Config) (reads : Nat) :
    cost price (discovered (surroundings engine) c (reluctant reads)).calls =
        joiningCost price c.identity ∧
      (∃ d, (discovered (surroundings engine) c (reluctant reads)).value = .ok d) ∧
      (discovered (surroundings engine) c (reluctant reads)).state.failingReads = reads := by
  have foreign : ∀ m ∈ [({} : Member)], m.peerUrls.head? ≠ some c.identity.advertisePeerUrl :=
    fun m hm => List.mem_singleton.mp hm ▸ nofun
  have settlement := Settlement.joins _ (List.cons_ne_nil _ _) foreign
    (congrArg Reply.answer (cluster_add_of_none (s := { members := [{}], failingReads := reads })
      rfl engine c.identity.advertisePeerUrl))
  obtain ⟨hcalls, hvalue⟩ := (run_discover_iff (surroundings engine) c.identity (reluctant reads)
    _ _).mpr ⟨_, _, _, _, listing_reluctant engine reads, settlement, rfl⟩
  refine ⟨?_, ⟨_, hvalue⟩, congrArg failingReads (run_discover engine c.identity _).2⟩
  rw [discovered, hcalls]
  simp [joiningCost, failedListPrice, Nat.add_assoc]

theorem exists_failed_read {s : MemoryCluster} (engine : Except Error Nat) :
    ∀ i < s.failingReads, ∃ e,
      ((surroundings engine).replyAt (.ownNode .keys) 1000 s i).answer = .error e :=
  fun i hi => ⟨down, by rw [answer_keys, if_neg (Nat.not_le_of_lt hi)]⟩

theorem probing_of_lt {s : MemoryCluster} {n : Nat} (h : s.failingReads = n) (lt : n < 20)
    (engine : Except Error Nat) :
    ∃ probed, Probing (surroundings engine) s
      (Call.attempts (.ownNode .keys) 1000 n ++ [.ownNode .keys]) (.ok ()) probed := by
  subst h
  exact ⟨_, .opened _ lt (exists_failed_read engine) (by rw [answer_keys, if_pos (Nat.le_refl _)])⟩

theorem probing_of_le {s : MemoryCluster} (h : 20 ≤ s.failingReads) (engine : Except Error Nat) :
    ∃ probed, Probing (surroundings engine) s (Call.attempts (.ownNode .keys) 1000 20)
      (.error down) probed :=
  ⟨_, .shut down (fun i hi => exists_failed_read engine i (by omega))
    (by rw [answer_keys, if_neg (by omega)])⟩

/-- A gate that stays shut costs all its probes. -/
theorem start_reluctant_shut (valid : c.validate = .ok ()) (pid : Nat) :
    ∃ d, ((start c).run (surroundings (.ok pid)) (reluctant 20)).value = .error down ∧
      cost price ((start c).run (surroundings (.ok pid)) (reluctant 20)).calls =
        joiningCost price c.identity + price (.launch (Engine.arguments c c.identity d)) +
          20 * failedProbePrice price := by
  obtain ⟨hcost, ⟨d, found⟩, hreads⟩ := discovered_reluctant price (.ok pid) c 20
  obtain ⟨probed, hprobing⟩ := probing_of_le (Nat.le_of_eq hreads.symm) (.ok pid)
  obtain ⟨hcalls, hvalue⟩ := (Started.unsynced d _ _ _ valid found rfl hprobing).execution
  refine ⟨d, hvalue, ?_⟩
  rw [hcalls]
  simp [hcost, failedProbePrice, Nat.add_assoc]

/-- A gate that opens with the last probe saves the pause after it. -/
theorem start_reluctant_open (valid : c.validate = .ok ()) (pid : Nat) :
    ∃ d, ((start c).run (surroundings (.ok pid)) (reluctant 19)).value = .ok ⟨d, some pid⟩ ∧
      cost price ((start c).run (surroundings (.ok pid)) (reluctant 19)).calls =
        joiningCost price c.identity + price (.launch (Engine.arguments c c.identity d)) +
          (openingCost price + price .pid) := by
  obtain ⟨hcost, ⟨d, found⟩, hreads⟩ := discovered_reluctant price (.ok pid) c 19
  obtain ⟨probed, hprobing⟩ := probing_of_lt hreads (by omega) (.ok pid)
  obtain ⟨hcalls, hvalue⟩ := (Started.ready d _ _ valid found rfl hprobing).execution
  refine ⟨d, hvalue, ?_⟩
  rw [hcalls]
  simp [hcost, openingCost, failedProbePrice, Nat.add_assoc]

theorem pause_reluctant_shut (valid : c.validate = .ok ()) (pid : Nat) :
    cost Call.pause ((start c).run (surroundings (.ok pid)) (reluctant 20)).calls =
      26000 := by
  obtain ⟨d, -, h⟩ := start_reluctant_shut Call.pause valid pid
  rw [h, joiningCost_pause, failedProbePrice_pause, Call.pause_launch]

theorem pause_reluctant_open (valid : c.validate = .ok ()) (pid : Nat) :
    (∃ d, ((start c).run (surroundings (.ok pid)) (reluctant 19)).value =
      .ok ⟨d, some pid⟩) ∧
    cost Call.pause ((start c).run (surroundings (.ok pid)) (reluctant 19)).calls =
      25000 := by
  obtain ⟨d, hvalue, h⟩ := start_reluctant_open Call.pause valid pid
  refine ⟨⟨d, hvalue⟩, ?_⟩
  rw [h, joiningCost_pause, openingCost_pause, Call.pause_launch]
  rfl

end MemoryCluster

end NodeBootstrap
