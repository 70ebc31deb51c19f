import NodeBootstrap.Bootstrap.Start
import NodeBootstrap.Proofs.Bootstrap.Discovery
import NodeBootstrap.Proofs.Bootstrap.SyncGate

/-! # The phases of a start

A start validates, discovers, launches and probes, in this order, and stops at the first phase that
fails. Each phase is followed through a lemma of its own, and rules for the whole put them together:
a run of a start is exactly what the rules derive. -/

namespace NodeBootstrap.Bootstrap

variable {σ : Type} {s : Surroundings σ} {c : Config} {state : σ}

/-! ## Validation -/

theorem run_checked_of_ok (h : c.validate = .ok ()) (s : Surroundings σ) (state : σ) :
    (checked c).run s state = ⟨.ok (), [], state⟩ := by
  rw [checked, h]
  rfl

theorem run_checked_of_error {fault : ConfigFault} (h : c.validate = .error fault)
    (s : Surroundings σ) (state : σ) :
    (checked c).run s state = ⟨.error (.invalidConfig fault), [], state⟩ := by
  rw [checked, h]
  rfl

theorem run_initialCluster_of_invalid {fault : ConfigFault} (h : c.validate = .error fault)
    (s : Surroundings σ) (state : σ) :
    (initialCluster c).run s state =
      ⟨.error (.invalidConfig fault),
        [.logged (.phaseFailed .validation (.invalidConfig fault))], state⟩ := by
  have hchecked := run_checked_of_error h s state
  rw [initialCluster, Program.run_orFail_error (congrArg Outcome.value hchecked), hchecked]
  rfl

theorem run_initialCluster_of_valid (h : c.validate = .ok ()) (s : Surroundings σ) (state : σ) :
    (initialCluster c).run s state = (discover c.identity).run s state := by
  have hchecked := run_checked_of_ok h s state
  rw [initialCluster, Program.run_orFail_ok (congrArg Outcome.value hchecked), hchecked]
  rfl

theorem run_start_of_invalid {fault : ConfigFault} (h : c.validate = .error fault)
    (s : Surroundings σ) (state : σ) :
    (start c).run s state =
      ⟨.error (.invalidConfig fault),
        [.logged (.phaseFailed .validation (.invalidConfig fault))], state⟩ := by
  have hchecked := run_checked_of_error h s state
  rw [start, Program.run_orFail_error (congrArg Outcome.value hchecked), hchecked]
  rfl

theorem run_start_of_valid (h : c.validate = .ok ()) (s : Surroundings σ) (state : σ) :
    (start c).run s state =
      (((discover c.identity).orFail (.phaseFailed .discovery) (launchWith c)).run s state).after
        [.logged (.starting c.identity)] := by
  have hchecked := run_checked_of_ok h s state
  rw [start, Program.run_orFail_ok (congrArg Outcome.value hchecked), hchecked]
  rfl

/-! ## Discovery -/

/-- Discovery as a start makes it. -/
def discovered (s : Surroundings σ) (c : Config) (state : σ) :
    Outcome σ (Except Error Directive) :=
  (discover c.identity).run s state

theorem run_start_of_undiscovered (valid : c.validate = .ok ()) {e : Error}
    (h : (discovered s c state).value = .error e) :
    (start c).run s state =
      ⟨.error e,
        .logged (.starting c.identity) ::
          ((discovered s c state).journal ++ [.logged (.phaseFailed .discovery e)]),
        (discovered s c state).state⟩ := by
  rw [run_start_of_valid valid, Program.run_orFail_error h]
  rfl

theorem run_start_of_discovered (valid : c.validate = .ok ()) {d : Directive}
    (h : (discovered s c state).value = .ok d) :
    (start c).run s state =
      ((launchWith c d).run s (discovered s c state).state).after
        (.logged (.starting c.identity) :: (discovered s c state).journal) := by
  rw [run_start_of_valid valid, Program.run_orFail_ok h, Outcome.after_after]
  rfl

/-! ## Launch and sync gate -/

/-- The launch of the engine with a directive. -/
def launched (s : Surroundings σ) (c : Config) (d : Directive) (state : σ) :
    Reply σ (Except Error Unit) :=
  s.launch (Engine.arguments c c.identity d) state

theorem run_launchWith_of_error {d : Directive} {e : Error}
    (h : (launched s c d state).answer = .error e) :
    (launchWith c d).run s state =
      ⟨.error e,
        .called (.launch (Engine.arguments c c.identity d)) ::
          ((launched s c d state).events.map .logged ++ [.logged (.phaseFailed .launch e)]),
        (launched s c d state).state⟩ := by
  have hlaunch : ((Program.call (.launch (Engine.arguments c c.identity d)) .done).run s
      state).value = .error e := h
  rw [launchWith, Program.run_orFail_error hlaunch]
  simp [Outcome.after, launched]

theorem run_launchWith_of_ok {d : Directive} (h : (launched s c d state).answer = .ok ()) :
    (launchWith c d).run s state =
      ((verifySynced.orFail (.phaseFailed .synchronisation) fun () =>
        .call .pid fun pid => .log (.ready c.identity.name pid) (.done (.ok ⟨d, pid⟩))).run s
          (launched s c d state).state).after
        (.called (.launch (Engine.arguments c c.identity d)) ::
          (launched s c d state).events.map .logged) := by
  have hlaunch : ((Program.call (.launch (Engine.arguments c c.identity d)) .done).run s
      state).value = .ok () := h
  rw [launchWith, Program.run_orFail_ok hlaunch]
  simp [Outcome.after, launched]

theorem run_launchWith_of_unsynced {d : Directive} {e : Error} {probes : List Call} {probed : σ}
    (h : (launched s c d state).answer = .ok ())
    (hp : Probing s (launched s c d state).state probes (.error e) probed) :
    ((launchWith c d).run s state).calls =
        .launch (Engine.arguments c c.identity d) :: probes ∧
      ((launchWith c d).run s state).value = .error e := by
  obtain ⟨hcalls, hvalue, -⟩ := hp.execution
  rw [run_launchWith_of_ok h, Program.run_orFail_error hvalue, Outcome.calls_after]
  refine ⟨?_, rfl⟩
  rw [Outcome.calls, List.filterMap_append, ← Outcome.calls, hcalls]
  simp [List.filterMap_cons]

theorem run_launchWith_of_synced {d : Directive} {probes : List Call} {probed : σ}
    (h : (launched s c d state).answer = .ok ())
    (hp : Probing s (launched s c d state).state probes (.ok ()) probed) :
    ((launchWith c d).run s state).calls =
        .launch (Engine.arguments c c.identity d) :: (probes ++ [.pid]) ∧
      ((launchWith c d).run s state).value = .ok ⟨d, s.pid probed⟩ := by
  obtain ⟨hcalls, hvalue, hstate⟩ := hp.execution
  rw [run_launchWith_of_ok h, Program.run_orFail_ok hvalue, hstate, Outcome.calls_after,
    Outcome.calls_after, ← Outcome.calls, hcalls]
  refine ⟨?_, rfl⟩
  simp [Outcome.calls, Outcome.after, List.filterMap_cons]

/-! ## Rules for a start -/

/-- How a start goes, with the calls that it makes and what it returns: one rule for each phase that
can end it. -/
inductive Started (s : Surroundings σ) (c : Config) (state : σ) :
    List Call → Except Error Report → Prop where
  | invalid (fault : ConfigFault) (h : c.validate = .error fault) :
      Started s c state [] (.error (.invalidConfig fault))
  | undiscovered (e : Error) (valid : c.validate = .ok ())
      (h : (discovered s c state).value = .error e) :
      Started s c state (discovered s c state).calls (.error e)
  | unlaunched (d : Directive) (e : Error) (valid : c.validate = .ok ())
      (found : (discovered s c state).value = .ok d)
      (h : (launched s c d (discovered s c state).state).answer = .error e) :
      Started s c state
        ((discovered s c state).calls ++ [.launch (Engine.arguments c c.identity d)])
        (.error e)
  | unsynced (d : Directive) (e : Error) (probes : List Call) (probed : σ)
      (valid : c.validate = .ok ()) (found : (discovered s c state).value = .ok d)
      (up : (launched s c d (discovered s c state).state).answer = .ok ())
      (h : Probing s (launched s c d (discovered s c state).state).state probes (.error e)
        probed) :
      Started s c state
        ((discovered s c state).calls ++ .launch (Engine.arguments c c.identity d) :: probes)
        (.error e)
  | ready (d : Directive) (probes : List Call) (probed : σ)
      (valid : c.validate = .ok ()) (found : (discovered s c state).value = .ok d)
      (up : (launched s c d (discovered s c state).state).answer = .ok ())
      (h : Probing s (launched s c d (discovered s c state).state).state probes (.ok ())
        probed) :
      Started s c state
        ((discovered s c state).calls ++
          .launch (Engine.arguments c c.identity d) :: (probes ++ [.pid]))
        (.ok ⟨d, s.pid probed⟩)

theorem calls_start_of_discovered (valid : c.validate = .ok ()) {d : Directive}
    (h : (discovered s c state).value = .ok d) :
    ((start c).run s state).calls =
      (discovered s c state).calls ++
        ((launchWith c d).run s (discovered s c state).state).calls := by
  rw [run_start_of_discovered valid h, Outcome.calls_after]
  rfl

theorem Started.execution {calls : List Call} {value : Except Error Report}
    (h : Started s c state calls value) :
    ((start c).run s state).calls = calls ∧ ((start c).run s state).value = value := by
  cases h with
  | invalid fault h =>
      rw [run_start_of_invalid h]
      exact ⟨rfl, rfl⟩
  | undiscovered e valid h =>
      rw [run_start_of_undiscovered valid h]
      refine ⟨?_, rfl⟩
      simp [Outcome.calls, List.filterMap_cons]
  | unlaunched d e valid found h =>
      rw [calls_start_of_discovered valid found, run_start_of_discovered valid found,
        run_launchWith_of_error h]
      refine ⟨?_, rfl⟩
      simp [Outcome.calls, List.filterMap_cons]
  | unsynced d e probes probed valid found up h =>
      obtain ⟨hcalls, hvalue⟩ := run_launchWith_of_unsynced up h
      rw [calls_start_of_discovered valid found, run_start_of_discovered valid found, hcalls]
      exact ⟨rfl, hvalue⟩
  | ready d probes probed valid found up h =>
      obtain ⟨hcalls, hvalue⟩ := run_launchWith_of_synced up h
      rw [calls_start_of_discovered valid found, run_start_of_discovered valid found, hcalls]
      exact ⟨rfl, hvalue⟩

theorem exists_started (s : Surroundings σ) (c : Config) (state : σ) :
    ∃ calls value, Started s c state calls value := by
  cases valid : c.validate with
  | error fault => exact ⟨_, _, .invalid fault valid⟩
  | ok =>
      cases found : (discovered s c state).value with
      | error e => exact ⟨_, _, .undiscovered e valid found⟩
      | ok d =>
          cases up : (launched s c d (discovered s c state).state).answer with
          | error e => exact ⟨_, _, .unlaunched d e valid found up⟩
          | ok =>
              obtain ⟨probes, value, probed, h⟩ :=
                exists_probing s (launched s c d (discovered s c state).state).state
              cases value with
              | error e => exact ⟨_, _, .unsynced d e probes probed valid found up h⟩
              | ok => exact ⟨_, _, .ready d probes probed valid found up h⟩

theorem start_started (s : Surroundings σ) (c : Config) (state : σ) :
    Started s c state ((start c).run s state).calls ((start c).run s state).value := by
  obtain ⟨calls, value, h⟩ := exists_started s c state
  obtain ⟨rfl, rfl⟩ := h.execution
  exact h

end NodeBootstrap.Bootstrap
