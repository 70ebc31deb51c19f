import NodeBootstrap.Proofs.Bootstrap.Contract

/-! # A start agrees with asking for the directive

A node can be started, or asked for its directive alone. A start makes the calls of the other, fails
where it fails, and otherwise hands the engine the very directive that the other returns. -/

namespace NodeBootstrap

/-- The command line of the engine ends with the directive. -/
theorem Engine.exists_arguments_eq (c : Config) (self : Identity) (d : Directive) :
    ∃ front, Engine.arguments c self d = front ++
      ["--initial-cluster", d.members, "--initial-cluster-state", d.state.text] :=
  ⟨_, rfl⟩

namespace Bootstrap

variable {σ : Type} {s : Surroundings σ} {c : Config} {state : σ}

/-- The run that asks for the directive alone. -/
def asked (s : Surroundings σ) (c : Config) (state : σ) : Outcome σ (Except Error Directive) :=
  (initialCluster c).run s state

theorem asked_of_valid (valid : c.validate = .ok ()) (s : Surroundings σ) (state : σ) :
    asked s c state = discovered s c state :=
  run_initialCluster_of_valid valid s state

theorem valid_of_asked {d : Directive} (h : (asked s c state).value = .ok d) :
    c.validate = .ok () := by
  cases valid : c.validate with
  | ok => rfl
  | error fault =>
      rw [asked, run_initialCluster_of_invalid valid] at h
      cases h

theorem asked_discoveryCall {call : Call} (h : call ∈ (asked s c state).calls) :
    DiscoveryCall call := by
  cases valid : c.validate with
  | ok =>
      rw [asked_of_valid valid] at h
      exact discovered_discoveryCall h
  | error fault =>
      rw [asked, run_initialCluster_of_invalid valid] at h
      cases h

/-- Where there is no directive, a start comes to the same error by the same calls. -/
theorem start_of_asked_error {e : Error} (h : (asked s c state).value = .error e) :
    ((start c).run s state).value = .error e ∧
      ((start c).run s state).calls = (asked s c state).calls ∧
      ((start c).run s state).state = (asked s c state).state := by
  cases valid : c.validate with
  | error fault =>
      have hasked := run_initialCluster_of_invalid valid s state
      rw [asked, hasked] at h
      obtain rfl := Except.error.inj h
      rw [asked, hasked, run_start_of_invalid valid]
      exact ⟨rfl, rfl, rfl⟩
  | ok =>
      rw [asked_of_valid valid] at h ⊢
      obtain ⟨hvalue, hcalls⟩ := (start_started s c state).value_of_undiscovered valid h
      refine ⟨hvalue, hcalls, ?_⟩
      rw [run_start_of_undiscovered valid h]

/-- Where there is one, the engine is launched with it after the same calls. -/
theorem calls_start_of_asked_ok {d : Directive} (h : (asked s c state).value = .ok d) :
    ∃ later, ((start c).run s state).calls =
        (asked s c state).calls ++ .launch (Engine.arguments c c.identity d) :: later ∧
      ∀ call ∈ later, GateCall call := by
  have valid := valid_of_asked h
  rw [asked_of_valid valid] at h ⊢
  rcases (start_started s c state).cut_short_or_launched with
    ⟨cut, -⟩ | ⟨d', later, ⟨-, found⟩, hcalls, gate, -⟩
  · exact absurd ⟨valid, d, h⟩ cut
  · obtain rfl := Except.ok.inj (h.symm.trans found)
    exact ⟨later, hcalls, gate⟩

theorem state_start_of_asked_ok {d : Directive} (h : (asked s c state).value = .ok d) :
    ((start c).run s state).state =
      ((launchWith c d).run s (asked s c state).state).state := by
  have valid := valid_of_asked h
  rw [asked_of_valid valid] at h ⊢
  rw [run_start_of_discovered valid h, Outcome.state_after]

theorem directive_of_start {report : Report} (h : ((start c).run s state).value = .ok report) :
    (asked s c state).value = .ok report.directive := by
  obtain ⟨valid, found, -⟩ := ((start_started s c state).ready_iff report).mp h
  rw [asked_of_valid valid]
  exact found

/-- What a start has to do with asking for the directive alone. -/
structure Continues (alone : Outcome σ (Except Error Directive))
    (o : Outcome σ (Except Error Report)) : Prop where
  /-- The directive takes calls to the cluster and pauses, nothing else. -/
  asks : ∀ call ∈ alone.calls, DiscoveryCall call
  /-- Without a directive a start ends there, with the same error. -/
  failed : ∀ e, alone.value = .error e →
    o.value = .error e ∧ o.calls = alone.calls ∧ o.state = alone.state
  /-- With one, the engine is launched next, and the directive ends its command line. -/
  launched : ∀ d, alone.value = .ok d → ∃ front later,
    o.calls = alone.calls ++
      .launch (front ++
        ["--initial-cluster", d.members, "--initial-cluster-state", d.state.text]) :: later ∧
    ∀ call ∈ later, GateCall call
  reported : ∀ d, alone.value = .ok d → ∀ report, o.value = .ok report → report.directive = d

/-- From any state and in any surroundings, a start does what asking for the directive alone does,
and goes on from there. -/
theorem start_continues (s : Surroundings σ) (c : Config) (state : σ) :
    Continues ((initialCluster c).run s state) ((start c).run s state) where
  asks := fun _ hcall => asked_discoveryCall hcall
  failed := fun _ h => start_of_asked_error h
  launched := fun d h => by
    obtain ⟨front, hfront⟩ := Engine.exists_arguments_eq c c.identity d
    obtain ⟨later, hcalls, gate⟩ := calls_start_of_asked_ok h
    exact ⟨front, later, hfront ▸ hcalls, gate⟩
  reported := fun _ h _ hreport => Except.ok.inj ((directive_of_start hreport).symm.trans h)

end Bootstrap

end NodeBootstrap
