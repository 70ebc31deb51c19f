import NodeBootstrap.Proofs.Bootstrap.Phases

/-! # The contract of a start

Whatever the surroundings answer, the calls of a start keep to its phases, and a start is ready
exactly when every phase succeeded. All of it is read off the rules for a start. -/

namespace NodeBootstrap.Bootstrap

variable {σ : Type} {s : Surroundings σ} {c : Config} {state : σ}

/-! ## Which phase makes which calls -/

/-- The calls that discovery may make. -/
inductive DiscoveryCall : Call → Prop where
  | list : DiscoveryCall (.cluster .list)
  | add (peerUrl : String) : DiscoveryCall (.cluster (.add peerUrl))
  | sleep (ms : Nat) : DiscoveryCall (.sleep ms)

/-- The calls that may follow the launch. -/
inductive GateCall : Call → Prop where
  | keys : GateCall (.ownNode .keys)
  | sleep (ms : Nat) : GateCall (.sleep ms)
  | pid : GateCall .pid

theorem Listing.discoveryCall {calls : List Call} {members : List Member} {listed : σ}
    (h : Listing s state calls members listed) {call : Call} (hcall : call ∈ calls) :
    DiscoveryCall call := by
  cases h with
  | answered k members hk failed answer =>
      rcases List.mem_append.mp hcall with hattempt | hlast
      · exact Call.of_mem_attempts .list (.sleep 1000) hattempt
      · rw [List.mem_singleton.mp hlast]
        exact .list
  | exhausted failed => exact Call.of_mem_attempts .list (.sleep 1000) hcall

theorem Settlement.discoveryCall {self : Identity} {members : List Member}
    {addition : Except Error Member} {calls : List Call} {value : Except Error Directive}
    (h : Settlement self members addition calls value) {call : Call} (hcall : call ∈ calls) :
    DiscoveryCall call := by
  cases h with
  | originates => exact absurd hcall List.not_mem_nil
  | rejoins => exact absurd hcall List.not_mem_nil
  | joins =>
      rcases List.mem_cons.mp hcall with rfl | hsleep
      · exact .add _
      · rw [List.mem_singleton.mp hsleep]
        exact .sleep 2000
  | refused =>
      rw [List.mem_singleton.mp hcall]
      exact .add _

theorem discovered_discoveryCall {call : Call} (h : call ∈ (discovered s c state).calls) :
    DiscoveryCall call := by
  rw [discovered, calls_run_discover] at h
  rcases List.mem_append.mp h with hlist | hsettle
  · exact (discoverMembers_listing s state).discoveryCall hlist
  · exact (settle_settlement s _ _ _).discoveryCall hsettle

theorem Probing.gateCall {calls : List Call} {value : Except Error Unit} {probed : σ}
    (h : Probing s state calls value probed) {call : Call} (hcall : call ∈ calls) :
    GateCall call := by
  rcases h.call_eq hcall with rfl | rfl
  · exact .keys
  · exact .sleep 1000

theorem launchWith_gateCall {d : Directive} {call : Call}
    (h : call ∈ ((launchWith c d).run s state).calls) :
    call = .launch (Engine.arguments c c.identity d) ∨ GateCall call := by
  cases up : (launched s c d state).answer with
  | error e =>
      rw [run_launchWith_of_error up] at h
      exact .inl (by simpa [Outcome.calls, List.filterMap_cons] using h)
  | ok =>
      obtain ⟨probes, value, probed, hp⟩ := exists_probing s (launched s c d state).state
      cases value with
      | error e =>
          rw [(run_launchWith_of_unsynced up hp).1] at h
          exact (List.mem_cons.mp h).imp_right hp.gateCall
      | ok =>
          rw [(run_launchWith_of_synced up hp).1] at h
          refine (List.mem_cons.mp h).imp_right fun hlater => ?_
          rcases List.mem_append.mp hlater with hprobe | hpid
          · exact hp.gateCall hprobe
          · rw [List.mem_singleton.mp hpid]
            exact .pid

/-- A start either ends before the engine is launched, or launches it once, after discovery and
before the gate. -/
theorem Started.cut_short_or_launched {calls : List Call} {value : Except Error Report}
    (h : Started s c state calls value) :
    (¬(c.validate = .ok () ∧ ∃ d, (discovered s c state).value = .ok d) ∧
      ∀ call ∈ calls, DiscoveryCall call) ∨
    ∃ d later, (c.validate = .ok () ∧ (discovered s c state).value = .ok d) ∧
      calls = (discovered s c state).calls ++
        .launch (Engine.arguments c c.identity d) :: later ∧
      (∀ call ∈ later, GateCall call) ∧
      (later ≠ [] → (launched s c d (discovered s c state).state).answer = .ok ()) := by
  cases h with
  | invalid fault h =>
      refine .inl ⟨?_, fun _ hcall => absurd hcall List.not_mem_nil⟩
      rintro ⟨valid, -⟩
      rw [valid] at h
      cases h
  | undiscovered e valid h =>
      refine .inl ⟨?_, fun _ => discovered_discoveryCall⟩
      rintro ⟨-, d, found⟩
      rw [found] at h
      cases h
  | unlaunched d e valid found h =>
      refine .inr ⟨d, [], ⟨valid, found⟩, rfl, ?_, fun hne => absurd rfl hne⟩
      exact fun _ hcall => absurd hcall List.not_mem_nil
  | unsynced d e probes probed valid found up h =>
      exact .inr ⟨d, probes, ⟨valid, found⟩, rfl, fun _ => h.gateCall, fun _ => up⟩
  | ready d probes probed valid found up h =>
      refine .inr ⟨d, probes ++ [.pid], ⟨valid, found⟩, rfl, ?_, fun _ => up⟩
      intro call hcall
      rcases List.mem_append.mp hcall with hprobe | hpid
      · exact h.gateCall hprobe
      · rw [List.mem_singleton.mp hpid]
        exact .pid

/-! ## The contract of a start -/

/-- How probe `n`, counted from zero, is answered after a launch with the directive. -/
def probed (s : Surroundings σ) (c : Config) (d : Directive) (state : σ) (n : Nat) :
    Reply σ (Except Error Unit) :=
  s.replyAt (.ownNode .keys) 1000 (launched s c d (discovered s c state).state).state n

namespace Started

variable {calls : List Call} {value : Except Error Report}

theorem launch_iff (h : Started s c state calls value) (arguments : List String) :
    .launch arguments ∈ calls ↔
      c.validate = .ok () ∧ ∃ d, (discovered s c state).value = .ok d ∧
        arguments = Engine.arguments c c.identity d := by
  rcases h.cut_short_or_launched with ⟨hcut, hcalls⟩ | ⟨d, later, ⟨valid, found⟩, rfl, gate, -⟩
  · constructor
    · intro hmem
      cases hcalls _ hmem
    · rintro ⟨valid, d, found, -⟩
      exact absurd ⟨valid, d, found⟩ hcut
  · constructor
    · intro hmem
      rcases List.mem_append.mp hmem with hfront | hback
      · cases discovered_discoveryCall hfront
      · rcases List.mem_cons.mp hback with heq | hlater
        · exact ⟨valid, d, found, Call.launch.inj heq⟩
        · cases gate _ hlater
    · rintro ⟨-, d', found', rfl⟩
      cases found.symm.trans found'
      exact List.mem_append_right _ List.mem_cons_self

/-- Whatever surrounds a launch is discovery on the one side and the gate on the other. -/
theorem around_launch (h : Started s c state calls value) {before later : List Call}
    {arguments : List String} (split : calls = before ++ .launch arguments :: later) :
    before = (discovered s c state).calls ∧ ∀ call ∈ later, GateCall call := by
  rcases h.cut_short_or_launched with ⟨-, hcalls⟩ | ⟨d, gate, -, hcalls, hgate, -⟩
  · have hmem : .launch arguments ∈ calls := by simp [split]
    cases hcalls _ hmem
  · have hbefore : .launch arguments ∉ (discovered s c state).calls :=
      fun hmem => nomatch discovered_discoveryCall hmem
    have hlater : .launch arguments ∉ gate := fun hmem => nomatch hgate _ hmem
    rw [hcalls] at split
    obtain ⟨hfront, -, hback⟩ := (List.append_cons_inj_of_notMem hbefore hlater).mp split
    exact ⟨hfront.symm, hback ▸ hgate⟩

/-- The engine is only probed once it was launched. -/
theorem before_keys (h : Started s c state calls value) {before later : List Call}
    (split : calls = before ++ .ownNode .keys :: later) :
    ∃ d, (discovered s c state).value = .ok d ∧
      (launched s c d (discovered s c state).state).answer = .ok () ∧
      .launch (Engine.arguments c c.identity d) ∈ before := by
  rcases h.cut_short_or_launched with ⟨-, hcalls⟩ | ⟨d, gate, ⟨-, found⟩, hcalls, -, up⟩
  · have hmem : .ownNode .keys ∈ calls := by simp [split]
    cases hcalls _ hmem
  · rw [hcalls] at split
    rcases List.append_eq_append_iff.mp split with ⟨front, rfl, hback⟩ | ⟨back, hfront, hback⟩
    · cases front with
      | nil => cases (List.cons.inj hback).1
      | cons first front =>
          obtain ⟨rfl, rfl⟩ := List.cons.inj hback
          refine ⟨d, found, up (by simp), ?_⟩
          exact List.mem_append_right _ List.mem_cons_self
    · cases back with
      | nil => cases (List.cons.inj hback).1
      | cons first back =>
          obtain ⟨rfl, -⟩ := List.cons.inj hback
          have hmem : .ownNode .keys ∈ (discovered s c state).calls := by simp [hfront]
          cases discovered_discoveryCall hmem

/-- Neither client is ever sent what is meant for the other. -/
theorem apart (h : Started s c state calls value) :
    .cluster .keys ∉ calls ∧ .ownNode .list ∉ calls ∧
      ∀ peerUrl, .ownNode (.add peerUrl) ∉ calls := by
  have hkinds : ∀ call ∈ calls,
      DiscoveryCall call ∨ (∃ arguments, call = .launch arguments) ∨ GateCall call := by
    intro call hcall
    rcases h.cut_short_or_launched with ⟨-, hcalls⟩ | ⟨d, gate, -, rfl, hgate, -⟩
    · exact .inl (hcalls call hcall)
    · rcases List.mem_append.mp hcall with hfront | hback
      · exact .inl (discovered_discoveryCall hfront)
      · rcases List.mem_cons.mp hback with rfl | hlater
        · exact .inr (.inl ⟨_, rfl⟩)
        · exact .inr (.inr (hgate call hlater))
  refine ⟨fun hmem => ?_, fun hmem => ?_, fun peerUrl hmem => ?_⟩ <;>
    rcases hkinds _ hmem with hdiscovery | ⟨_, hlaunch⟩ | hgate <;> contradiction

/-- All derivations of a start agree on its calls and its result. -/
theorem unique (h : Started s c state calls value) {calls' : List Call}
    {value' : Except Error Report} (h' : Started s c state calls' value') :
    calls = calls' ∧ value = value' := by
  obtain ⟨rfl, rfl⟩ := h.execution
  exact h'.execution

theorem value_of_invalid (h : Started s c state calls value) {fault : ConfigFault}
    (invalid : c.validate = .error fault) :
    value = .error (.invalidConfig fault) ∧ calls = [] :=
  (h.unique (.invalid fault invalid)).symm

theorem value_of_undiscovered (h : Started s c state calls value)
    (valid : c.validate = .ok ()) {e : Error} (failed : (discovered s c state).value = .error e) :
    value = .error e ∧ calls = (discovered s c state).calls :=
  (h.unique (.undiscovered e valid failed)).symm

theorem value_of_unlaunched (h : Started s c state calls value) (valid : c.validate = .ok ())
    {d : Directive} (found : (discovered s c state).value = .ok d) {e : Error}
    (failed : (launched s c d (discovered s c state).state).answer = .error e) :
    value = .error e ∧
      calls = (discovered s c state).calls ++
        [.launch (Engine.arguments c c.identity d)] :=
  (h.unique (.unlaunched d e valid found failed)).symm

theorem value_of_unsynced (h : Started s c state calls value) (valid : c.validate = .ok ())
    {d : Directive} (found : (discovered s c state).value = .ok d)
    (up : (launched s c d (discovered s c state).state).answer = .ok ())
    (failed : ∀ i < 20, ∃ e, (probed s c d state i).answer = .error e) {e : Error}
    (final : (probed s c d state 19).answer = .error e) :
    value = .error e ∧
      calls = (discovered s c state).calls ++
        .launch (Engine.arguments c c.identity d) :: Call.attempts (.ownNode .keys) 1000 20 :=
  (h.unique (.unsynced d e _ _ valid found up (.shut e failed final))).symm

theorem ready_iff (h : Started s c state calls value) (report : Report) :
    value = .ok report ↔
      c.validate = .ok () ∧ (discovered s c state).value = .ok report.directive ∧
        (launched s c report.directive (discovered s c state).state).answer = .ok () ∧
        ∃ k < 20, (∀ i < k, ∃ e, (probed s c report.directive state i).answer = .error e) ∧
          (probed s c report.directive state k).answer = .ok () ∧
          report.pid = s.pid (probed s c report.directive state k).state := by
  constructor
  · rintro rfl
    cases h with
    | ready d probes probed valid found up gate =>
        cases gate with
        | opened k hk failed answer => exact ⟨valid, found, up, k, hk, failed, answer, rfl⟩
  · obtain ⟨d, pid⟩ := report
    dsimp only
    rintro ⟨valid, found, up, k, hk, failed, answer, rfl⟩
    exact (h.unique (.ready d _ _ valid found up (.opened k hk failed answer))).2

end Started

/-- Everything that a start promises about its calls and its result, whatever its surroundings
answer. -/
structure StartSpec (s : Surroundings σ) (c : Config) (state : σ)
    (o : Outcome σ (Except Error Report)) : Prop where
  /-- A configuration that does not validate is refused before anything is called. -/
  refused : ∀ fault, c.validate = .error fault →
    o.value = .error (.invalidConfig fault) ∧ o.calls = []
  /-- Discovery lists, adds and sleeps. -/
  discovers : ∀ call ∈ (discovered s c state).calls,
    call = .cluster .list ∨ (∃ peerUrl, call = .cluster (.add peerUrl)) ∨ ∃ ms, call = .sleep ms
  undiscovered : c.validate = .ok () → ∀ e, (discovered s c state).value = .error e →
    o.value = .error e ∧ o.calls = (discovered s c state).calls
  /-- The engine is launched exactly when discovery succeeded, with what was discovered. -/
  launches : ∀ arguments, .launch arguments ∈ o.calls ↔
    c.validate = .ok () ∧ ∃ d, (discovered s c state).value = .ok d ∧
      arguments = Engine.arguments c c.identity d
  /-- Discovery comes before the launch; after it come probes, pauses and the look at the process
  number, so that there is no second launch. -/
  launches_once : ∀ before arguments later, o.calls = before ++ .launch arguments :: later →
    before = (discovered s c state).calls ∧
      ∀ call ∈ later, call = .ownNode .keys ∨ (∃ ms, call = .sleep ms) ∨ call = .pid
  unlaunched : c.validate = .ok () → ∀ d, (discovered s c state).value = .ok d →
    ∀ e, (launched s c d (discovered s c state).state).answer = .error e →
      o.value = .error e ∧
        o.calls = (discovered s c state).calls ++ [.launch (Engine.arguments c c.identity d)]
  /-- The engine is probed only after a launch that succeeded. -/
  probes : ∀ before later, o.calls = before ++ .ownNode .keys :: later →
    ∃ d, (discovered s c state).value = .ok d ∧
      (launched s c d (discovered s c state).state).answer = .ok () ∧
      .launch (Engine.arguments c c.identity d) ∈ before
  /-- The cluster is never sent a read, the own engine never a list or an addition. -/
  apart : .cluster .keys ∉ o.calls ∧ .ownNode .list ∉ o.calls ∧
    ∀ peerUrl, .ownNode (.add peerUrl) ∉ o.calls
  /-- An engine that fails twenty probes is given up with the error of the last one. -/
  unsynced : c.validate = .ok () → ∀ d, (discovered s c state).value = .ok d →
    (launched s c d (discovered s c state).state).answer = .ok () →
    (∀ i < 20, ∃ e, (probed s c d state i).answer = .error e) →
    ∀ e, (probed s c d state 19).answer = .error e →
      o.value = .error e ∧
        o.calls = (discovered s c state).calls ++
          .launch (Engine.arguments c c.identity d) ::
            Call.attempts (.ownNode .keys) 1000 20
  /-- A start is ready exactly when every phase succeeded, the gate within twenty probes. -/
  ready : ∀ report, o.value = .ok report ↔
    c.validate = .ok () ∧ (discovered s c state).value = .ok report.directive ∧
      (launched s c report.directive (discovered s c state).state).answer = .ok () ∧
      ∃ k < 20, (∀ i < k, ∃ e, (probed s c report.directive state i).answer = .error e) ∧
        (probed s c report.directive state k).answer = .ok () ∧
        report.pid = s.pid (probed s c report.directive state k).state

theorem start_spec (s : Surroundings σ) (c : Config) (state : σ) :
    StartSpec s c state ((start c).run s state) := by
  have h := start_started s c state
  exact
    { refused := fun _ invalid => h.value_of_invalid invalid
      discovers := fun _ hcall => by
        cases discovered_discoveryCall hcall with
        | list => exact .inl rfl
        | add peerUrl => exact .inr (.inl ⟨peerUrl, rfl⟩)
        | sleep ms => exact .inr (.inr ⟨ms, rfl⟩)
      undiscovered := fun valid _ failed => h.value_of_undiscovered valid failed
      launches := h.launch_iff
      launches_once := fun _ _ _ split => by
        obtain ⟨hbefore, hlater⟩ := h.around_launch split
        refine ⟨hbefore, fun call hcall => ?_⟩
        cases hlater call hcall with
        | keys => exact .inl rfl
        | sleep ms => exact .inr (.inl ⟨ms, rfl⟩)
        | pid => exact .inr (.inr rfl)
      unlaunched := fun valid _ found _ failed => h.value_of_unlaunched valid found failed
      probes := fun _ _ split => h.before_keys split
      apart := h.apart
      unsynced := fun valid _ found up failed _ final =>
        h.value_of_unsynced valid found up failed final
      ready := h.ready_iff }

end NodeBootstrap.Bootstrap
