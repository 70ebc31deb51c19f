import NodeBootstrap.Proofs.Bootstrap.Agreement
import NodeBootstrap.Proofs.Cluster.OwnEntry

/-! # When a node originates a cluster

A node originates a cluster where it sees no member: there is none, or five lists in a row failed, in
which case it does so beside the members that it could not see. Whether it is registered depends on
the cluster alone, and on nothing that happens after discovery. -/

namespace NodeBootstrap

open Bootstrap

/-- The last argument of the engine is the state of the directive. -/
theorem Engine.state_of_arguments {c : Config} {self : Identity} {d : Directive}
    {front : List String} {state : ClusterState}
    (h : arguments c self d = front ++ ["--initial-cluster-state", state.text]) :
    d.state = state := by
  obtain ⟨before, hbefore⟩ := exists_arguments_eq c self d
  have hlast := congrArg List.getLast? (hbefore.symm.trans h)
  simp only [List.getLast?_append_cons, List.getLast?_cons_cons, List.getLast?_singleton] at hlast
  exact ClusterState.text_injective (Option.some.inj hlast)

namespace MemoryCluster

variable {s : MemoryCluster} {c : Config} {engine : Except Error Nat}

/-! ## Lists that fail -/

theorem drained_drained (s : MemoryCluster) (first second : Nat) :
    (s.drained first).drained second = s.drained (first + second) := by
  simp only [drained, Nat.sub_sub]

theorem stateAt_list (engine : Except Error Nat) (pause : Nat) (s : MemoryCluster) (n : Nat) :
    (surroundings engine).stateAt (.cluster .list) pause s n = s.drained n := by
  induction n generalizing s with
  | zero => rfl
  | succ n ih =>
      have hfirst : ((surroundings engine).cluster .list s).state = s.drained 1 := by
        rcases Nat.eq_zero_or_pos s.failingLists with hzero | hpos
        · rw [cluster_list_of_zero hzero, drained_of_zero hzero]
        · rw [cluster_list_of_pos hpos]
          rfl
      calc
        (surroundings engine).stateAt (.cluster .list) pause s (n + 1)
          = (surroundings engine).stateAt (.cluster .list) pause (s.drained 1) n := by
            rw [← hfirst]
            rfl
        _ = s.drained (n + 1) := by rw [ih, drained_drained, Nat.add_comm]

/-- As many lists fail as are meant to. -/
theorem replyAt_list_of_lt {n : Nat} (h : n < s.failingLists) (engine : Except Error Nat)
    (pause : Nat) :
    ((surroundings engine).replyAt (.cluster .list) pause s n).answer = .error down := by
  have hpos : 0 < (s.drained n).failingLists := Nat.sub_pos_of_lt h
  rw [Surroundings.replyAt, stateAt_list, Surroundings.reply_cluster, cluster_list_of_pos hpos]

/-- A node that sees no answer asks five times and settles on there being no cluster. -/
theorem calls_discovered_of_le (h : 5 ≤ s.failingLists) (c : Config) (engine : Except Error Nat) :
    (discovered (surroundings engine) c s).calls = Call.attempts (.cluster .list) 1000 5 := by
  have failed : ∀ i < 5, ∃ e,
      ((surroundings engine).replyAt (.cluster .list) 1000 s i).answer = .error e :=
    fun i hi => ⟨down, replyAt_list_of_lt (Nat.lt_of_lt_of_le hi h) engine 1000⟩
  obtain ⟨hcalls, hvalue, -⟩ := (Listing.exhausted failed).execution
  rw [discovered, calls_run_discover, hcalls, hvalue, settle_nil, run_announce]
  exact List.append_nil _

/-! ## What is found, and who is registered -/

theorem asked_of_valid (valid : c.validate = .ok ()) (engine : Except Error Nat)
    (s : MemoryCluster) : (asked (surroundings engine) c s).value = s.directive c.identity := by
  rw [Bootstrap.asked_of_valid valid]
  exact (run_discover engine c.identity s).1

theorem directive_new_iff (s : MemoryCluster) (self : Identity) :
    (∃ d, s.directive self = .ok d ∧ d.state = .new) ↔
      s.members = [] ∨ listAttempts ≤ s.failingLists := by
  rw [← seen_eq_nil_iff]
  constructor
  · rintro ⟨d, hd, hnew⟩
    exact (state_of_directive hd).mp hnew
  · exact fun hnil => ⟨_, directive_of_nil hnil self, rfl⟩

/-- Seeing members means seeing all of them. -/
theorem seen_ne_nil_and_iff (s : MemoryCluster) (P : List Member → Prop) :
    s.seen listAttempts ≠ [] ∧ P (s.seen listAttempts) ↔
      (s.members ≠ [] ∧ s.failingLists < 5) ∧ P s.members := by
  have hne : s.seen listAttempts ≠ [] ↔ s.members ≠ [] ∧ s.failingLists < 5 := by
    rw [Ne, seen_eq_nil_iff, not_or, Nat.not_le]
    rfl
  rw [hne]
  refine and_congr_right fun hseen => ?_
  have hlt : s.failingLists < listAttempts := hseen.2
  rw [seen_of_lt hlt]

theorem directive_error_iff (s : MemoryCluster) (self : Identity) (e : Error) :
    s.directive self = .error e ↔
      (s.members ≠ [] ∧ s.failingLists < 5) ∧ ¬IsMember self.advertisePeerUrl s.members ∧
        s.addFault = some e := by
  rw [← seen_ne_nil_and_iff s fun members =>
    ¬IsMember self.advertisePeerUrl members ∧ s.addFault = some e, directive]
  by_cases hempty : s.seen listAttempts = []
  · simp [hempty]
  by_cases hmember : IsMember self.advertisePeerUrl (s.seen listAttempts)
  · simp [hempty, hmember]
  · cases hfault : s.addFault <;> simp [hempty, hmember]

theorem directive_existing_iff (s : MemoryCluster) (self : Identity) :
    (∃ d, s.directive self = .ok d ∧ d.state = .existing) ↔
      (s.members ≠ [] ∧ s.failingLists < 5) ∧
        (IsMember self.advertisePeerUrl s.members ∨ s.addFault = none) := by
  rw [← seen_ne_nil_and_iff s fun members =>
    IsMember self.advertisePeerUrl members ∨ s.addFault = none, directive]
  by_cases hempty : s.seen listAttempts = []
  · simp [hempty, Directive.originate]
  by_cases hmember : IsMember self.advertisePeerUrl (s.seen listAttempts)
  · simp [hempty, hmember, Directive.rejoin]
  · cases hfault : s.addFault <;> simp [hempty, hmember, Directive.join]

theorem registers_iff (s : MemoryCluster) (peerUrl : String) :
    s.Registers peerUrl ↔
      (s.members ≠ [] ∧ s.failingLists < 5) ∧ ¬IsMember peerUrl s.members ∧ s.addFault = none :=
  seen_ne_nil_and_iff s fun members => ¬IsMember peerUrl members ∧ s.addFault = none

/-! ## After discovery -/

/-- Launch and gate leave the cluster as it is but for the reads that fail. -/
theorem state_run_launchWith (engine : Except Error Nat) (c : Config) (d : Directive)
    (s : MemoryCluster) :
    ∃ reads, ((launchWith c d).run (surroundings engine) s).state =
      { s with failingReads := reads } := by
  refine Program.run_keeps (launchWith c d)
    (fun s' : MemoryCluster => ∃ reads, s' = { s with failingReads := reads }) ⟨_, rfl⟩ ?_
  rintro call hcall s' ⟨reads, rfl⟩
  rcases launchWith_gateCall hcall with rfl | hgate
  · exact ⟨reads, rfl⟩
  · cases hgate with
    | keys =>
        by_cases hreads : reads = 0
        · exact ⟨reads, by simp [surroundings, api, answer, read, hreads]⟩
        · exact ⟨reads - 1, by simp [surroundings, api, answer, read, hreads]⟩
    | sleep ms => exact ⟨reads, rfl⟩
    | pid => exact ⟨reads, rfl⟩

theorem step_start_of_valid (valid : c.validate = .ok ()) (engine : Except Error Nat)
    (s : MemoryCluster) :
    ∃ reads, s.step (.start c engine) =
      { s.step (.initialCluster c) with failingReads := reads } := by
  rw [step_initialCluster_of_valid valid, step]
  have hasked : (asked (surroundings engine) c s).state =
      s.registered c.identity.advertisePeerUrl := by
    rw [Bootstrap.asked_of_valid valid]
    exact (run_discover engine c.identity s).2
  cases h : (asked (surroundings engine) c s).value with
  | error e =>
      obtain ⟨-, -, hstate⟩ := start_of_asked_error h
      exact ⟨(s.registered c.identity.advertisePeerUrl).failingReads, hstate.trans hasked⟩
  | ok d =>
      rw [state_start_of_asked_ok h, hasked]
      exact state_run_launchWith engine c d _

/-! ## Coming up -/

/-- The directive that a node with the configuration is given. -/
def found (s : MemoryCluster) (c : Config) : Except Error Directive :=
  ((initialCluster c).run (surroundings (.ok 0)) s).value

/-- A start of the node. -/
def started (s : MemoryCluster) (c : Config) (engine : Except Error Nat) :
    Outcome MemoryCluster (Except Error Report) :=
  (start c).run (surroundings engine) s

theorem found_eq (valid : c.validate = .ok ()) (engine : Except Error Nat) (s : MemoryCluster) :
    s.found c = (asked (surroundings engine) c s).value := by
  rw [asked_of_valid valid]
  exact asked_of_valid valid (.ok 0) s

/-- What coming up does for a node and to its cluster, whether the node is started or only asks for
its directive, and however launch and gate end. -/
structure OriginationSpec (s : MemoryCluster) (c : Config) (engine : Except Error Nat) : Prop where
  new_iff : (∃ d, s.found c = .ok d ∧ d.state = .new) ↔ s.members = [] ∨ 5 ≤ s.failingLists
  existing_iff : (∃ d, s.found c = .ok d ∧ d.state = .existing) ↔
    (s.members ≠ [] ∧ s.failingLists < 5) ∧
      ((∃ m ∈ s.members, m.peerUrls.head? = some c.identity.advertisePeerUrl) ∨
        s.addFault = none)
  error_iff : ∀ e, s.found c = .error e ↔
    (s.members ≠ [] ∧ s.failingLists < 5) ∧
      (∀ m ∈ s.members, m.peerUrls.head? ≠ some c.identity.advertisePeerUrl) ∧
        s.addFault = some e
  /-- A start launches the engine with that very directive, or fails with that very error. -/
  launches_iff : ∀ arguments, .launch arguments ∈ (s.started c engine).calls ↔
    ∃ d, s.found c = .ok d ∧ arguments = Engine.arguments c c.identity d
  fails : ∀ e, s.found c = .error e → (s.started c engine).value = .error e
  /-- An engine is launched as new beside members only after five lists in a row that failed. -/
  beside : s.members ≠ [] → ∀ front,
    .launch (front ++ ["--initial-cluster-state", "new"]) ∈ (s.started c engine).calls →
      (∀ i < 5, ((surroundings engine).replyAt (.cluster .list) 1000 s i).answer = .error down) ∧
      ∃ later, (s.started c engine).calls = Call.attempts (.cluster .list) 1000 5 ++
        .launch (front ++ ["--initial-cluster-state", "new"]) :: later
  /-- The node is registered or the members stay as they are. -/
  registers : (s.step (.initialCluster c)).members = s.members ∨
    (s.step (.initialCluster c)).members =
      s.members ++ [s.nextMember c.identity.advertisePeerUrl]
  registers_iff : (s.step (.initialCluster c)).members =
      s.members ++ [s.nextMember c.identity.advertisePeerUrl] ↔
    (s.members ≠ [] ∧ s.failingLists < 5) ∧
      (∀ m ∈ s.members, m.peerUrls.head? ≠ some c.identity.advertisePeerUrl) ∧
        s.addFault = none
  consumes : (s.step (.initialCluster c)).failingLists = s.failingLists - min 5 s.failingLists
  /-- A start differs in the reads that its gate used up. -/
  same : ∃ reads, s.step (.start c engine) =
    { s.step (.initialCluster c) with failingReads := reads }

theorem launch_beside (valid : c.validate = .ok ()) (ne : s.members ≠ []) {front : List String}
    (h : .launch (front ++ ["--initial-cluster-state", "new"]) ∈ (s.started c engine).calls) :
    (∀ i < 5, ((surroundings engine).replyAt (.cluster .list) 1000 s i).answer = .error down) ∧
      ∃ later, (s.started c engine).calls = Call.attempts (.cluster .list) 1000 5 ++
        .launch (front ++ ["--initial-cluster-state", "new"]) :: later := by
  obtain ⟨-, d, hd, harguments⟩ := (launch_mem_calls_iff s c engine _).mp h
  have hnew : d.state = .new := Engine.state_of_arguments harguments.symm
  have hfailing : 5 ≤ s.failingLists :=
    ((directive_new_iff s c.identity).mp ⟨d, hd, hnew⟩).resolve_left ne
  have hasked : (asked (surroundings engine) c s).value = .ok d :=
    (asked_of_valid valid engine s).trans hd
  obtain ⟨later, hcalls, -⟩ := calls_start_of_asked_ok hasked
  rw [Bootstrap.asked_of_valid valid, calls_discovered_of_le hfailing, ← harguments] at hcalls
  exact ⟨fun i hi => replyAt_list_of_lt (Nat.lt_of_lt_of_le hi hfailing) engine 1000,
    later, hcalls⟩

theorem members_step_initialCluster (valid : c.validate = .ok ()) (s : MemoryCluster) :
    (s.step (.initialCluster c)).members =
      s.members ++ s.joining c.identity.advertisePeerUrl :=
  congrArg members (step_initialCluster_of_valid valid s)

theorem failingLists_registered (s : MemoryCluster) (peerUrl : String) :
    (s.registered peerUrl).failingLists = s.failingLists - 5 := rfl

theorem joining_eq_singleton_iff (s : MemoryCluster) (peerUrl : String) :
    s.joining peerUrl = [s.nextMember peerUrl] ↔ s.Registers peerUrl := by
  rw [joining]
  split <;> simp [*]

/-- In every state that steps lead to, it is known when a node originates a cluster, when it is
registered and when it fails. -/
theorem origination_spec (valid : c.validate = .ok ()) (s : MemoryCluster) (steps : List Step)
    (engine : Except Error Nat) : (s.after steps).OriginationSpec c engine := by
  generalize s.after steps = s
  have hfound : s.found c = s.directive c.identity := asked_of_valid valid (.ok 0) s
  exact
    { new_iff := hfound ▸ directive_new_iff s c.identity
      existing_iff := hfound ▸ directive_existing_iff s c.identity
      error_iff := fun e => by
        rw [hfound, directive_error_iff, not_isMember_iff]
      launches_iff := fun arguments => by
        rw [hfound, started, launch_mem_calls_iff]
        exact ⟨And.right, And.intro valid⟩
      fails := fun e h => (start_of_asked_error ((found_eq valid engine s).symm.trans h)).1
      beside := fun ne _ h => launch_beside valid ne h
      registers := by
        rw [members_step_initialCluster valid, joining]
        split
        · exact .inr rfl
        · exact .inl (List.append_nil _)
      registers_iff := by
        rw [members_step_initialCluster valid, List.append_cancel_left_eq,
          joining_eq_singleton_iff, MemoryCluster.registers_iff, not_isMember_iff]
      consumes := by
        rw [step_initialCluster_of_valid valid, failingLists_registered]
        omega
      same := step_start_of_valid valid engine s }

/-- A node whose cluster is out of reach for five lists is launched as the first one of a new
cluster, beside the member that is there. -/
theorem originates_beside_member :
    let s : MemoryCluster :=
      { members := [{ id := "1", name := "a", peerUrls := ["http://10.0.0.5:7001"] }] }
    let c : Config :=
      { node := { name := "kv", index := 1, externalIp := "10.0.0.6" }
        engine := { program := "kvd" } }
    c.validate = .ok () ∧ (s.after [.failLists 5]).OriginationSpec c (.ok 7) ∧
      (s.after [.failLists 5]).members ≠ [] ∧
      .launch (Engine.arguments c c.identity (.originate c.identity)) ∈
        ((s.after [.failLists 5]).started c (.ok 7)).calls := by
  intro s c
  have valid : c.validate = .ok () := by decide +kernel
  exact ⟨valid, origination_spec valid s [.failLists 5] (.ok 7), by decide +kernel, by decide +kernel⟩

end MemoryCluster

end NodeBootstrap
