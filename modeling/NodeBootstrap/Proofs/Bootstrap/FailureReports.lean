import NodeBootstrap.Bootstrap.Application
import NodeBootstrap.Proofs.Bootstrap.Phases

/-! # Failures are reported

A start that fails says so once, in its last event, which tells the phase and the error; a start
that succeeds says nothing of the kind. The retries on the way log errors of their own, which are
told apart by their action. -/

namespace NodeBootstrap

namespace Log.Event

/-- Whether the event says that a phase of the application failed. -/
def reportsPhase : Event → Bool
  | phaseFailed .. | wiringFailed _ => true
  | _ => false

/-- The actions of all other events are told from such a text by their beginning or their length. -/
theorem reportsPhase_iff (event : Event) :
    event.reportsPhase ↔ ∃ phase, event.action = "application." ++ phase ++ ".failed" := by
  constructor
  · intro h
    cases event with
    | phaseFailed phase e =>
        cases phase with
        | validation => exact ⟨"validate", by simp [action, Bootstrap.Phase.failedAction]⟩
        | discovery =>
            exact ⟨"initial-cluster-state", by simp [action, Bootstrap.Phase.failedAction]⟩
        | launch => exact ⟨"supervisor-start", by simp [action, Bootstrap.Phase.failedAction]⟩
        | synchronisation => exact ⟨"verify-synced", by simp [action, Bootstrap.Phase.failedAction]⟩
    | wiringFailed e => exact ⟨"build", by simp [action]⟩
    | _ => cases h
  · rintro ⟨phase, h⟩
    have hchars := congrArg String.toList h
    have hfront : event.action.toList.take 12 = "application.".toList := by
      rw [hchars]
      simp
    have hlength : 19 ≤ event.action.toList.length := by
      rw [hchars]
      simp
    cases event <;> simp [action] at hfront hlength <;> rfl

end Log.Event

open Log (Event)

/-! ## What clients and supervisors log -/

theorem HttpClient.dispatch_discreet {ν : Type} (network : Http.Network ν) (q : Question)
    (last : Error) (endpoints : List Url) (state : ν) :
    ∀ event ∈ (dispatch network q last endpoints state).events, event.reportsPhase = false := by
  induction endpoints generalizing last state with
  | nil => exact fun _ h => absurd h List.not_mem_nil
  | cons endpoint rest ih =>
      rw [dispatch]
      split
      · exact fun _ h => absurd h List.not_mem_nil
      · dsimp only
        split
        · exact fun _ h => absurd h List.not_mem_nil
        · exact List.forall_mem_cons.mpr ⟨rfl, ih _ _⟩

theorem Supervisor.start_discreet (s : Supervisor) (m : Machine) (arguments : List String) :
    ∀ event ∈ (s.start m arguments).events, event.reportsPhase = false := by
  have hlaunching : ∀ event ∈ [Event.launching s.program arguments],
      event.reportsPhase = false := List.forall_mem_singleton.mpr rfl
  rw [start, startOn]
  split
  · exact hlaunching
  · dsimp only
    split
    · exact hlaunching
    · exact List.forall_mem_cons.mpr ⟨rfl, List.forall_mem_singleton.mpr rfl⟩

/-- Whatever an application is wired to reports no failed phase. -/
theorem Application.reply_discreet {ν : Type} (app : Application) (network : Http.Network ν)
    (call : Call) (now : Site ν) :
    ∀ event ∈ ((app.surroundings network).reply call now).events, event.reportsPhase = false := by
  cases call with
  | cluster c => exact HttpClient.dispatch_discreet _ _ _ _ _
  | ownNode c => exact HttpClient.dispatch_discreet _ _ _ _ _
  | launch arguments => exact Supervisor.start_discreet _ _ _
  | pid => exact fun _ h => absurd h List.not_mem_nil
  | sleep ms => exact fun _ h => absurd h List.not_mem_nil

namespace Program

variable {σ α β : Type} {s : Surroundings σ} {state : σ} {final : Event}

/-- A program reports no failed phase, however it is answered. -/
def Discreet (p : Program α) : Prop := p.LogsOnly fun event => event.reportsPhase = false

/-- The run ends with the event, and the program logs no failed phase before it. -/
structure ClosesWith (s : Surroundings σ) (state : σ) (p : Program α) (final : Event) : Prop where
  last : (p.run s state).events.getLast? = some final
  own : ∃ before, p.ownEvents s state = before ++ [final] ∧
    ∀ event ∈ before, event.reportsPhase = false

namespace ClosesWith

/-- The last event after others that were logged before. -/
theorem of_run_eq {p : Program α} {q : Program β} {mid : σ} {entries : List Entry}
    {own : List Event} (h : q.ClosesWith s mid final)
    (run : (p.run s state).events = entries.filterMap Entry.event? ++ (q.run s mid).events)
    (events : p.ownEvents s state = own ++ q.ownEvents s mid)
    (quiet : ∀ event ∈ own, event.reportsPhase = false) : p.ClosesWith s state final where
  last := by rw [run, List.getLast?_append, h.last, Option.some_or]
  own := by
    obtain ⟨before, hown, hquiet⟩ := h.own
    refine ⟨own ++ before, ?_, fun event hevent => ?_⟩
    · rw [events, hown, List.append_assoc]
    · exact (List.mem_append.mp hevent).elim (quiet event) (hquiet event)

theorem log {next : Program α} (h : next.ClosesWith s state final) {event : Event}
    (quiet : event.reportsPhase = false) : (log event next).ClosesWith s state final :=
  h.of_run_eq (Outcome.events_after [.logged event] _) rfl fun _ (hevent : _ ∈ [event]) =>
    List.mem_singleton.mp hevent ▸ quiet

/-- What fails is reported last. -/
theorem orFail_of_error {p : Program (Except Error α)} {e : Error} (discreet : p.Discreet)
    (h : (p.run s state).value = .error e) (failed : Error → Event)
    (f : α → Program (Except Error β)) : (p.orFail failed f).ClosesWith s state (failed e) where
  last := by
    rw [run_orFail_error h, Outcome.events, List.filterMap_append]
    exact List.getLast?_concat ..
  own := ⟨p.ownEvents s state, ownEvents_orFail_of_error h failed f, fun _ => discreet.of_mem⟩

theorem orFail_of_ok {p : Program (Except Error α)} {a : α} (discreet : p.Discreet)
    (h : (p.run s state).value = .ok a) (failed : Error → Event)
    {f : α → Program (Except Error β)} (rest : (f a).ClosesWith s (p.run s state).state final) :
    (p.orFail failed f).ClosesWith s state final :=
  rest.of_run_eq (by rw [run_orFail_ok h, Outcome.events_after]) (ownEvents_orFail_of_ok h failed f)
    fun _ => discreet.of_mem

/-- The last event is the only one that may report a failed phase. -/
theorem filter_own {p : Program α} (h : p.ClosesWith s state final) :
    (p.ownEvents s state).filter Event.reportsPhase = [final].filter Event.reportsPhase := by
  obtain ⟨before, hown, hbefore⟩ := h.own
  have hnone : before.filter Event.reportsPhase = [] := by
    simpa [List.filter_eq_nil_iff] using hbefore
  rw [hown, List.filter_append, hnone, List.nil_append]

end ClosesWith

end Program

namespace Bootstrap

variable {σ : Type} {s : Surroundings σ} {c : Config} {state : σ}

/-! ## What the phases log -/

theorem discreet_checked (c : Config) : (checked c).Discreet := trivial

theorem discreet_discoverMembers (attempt left : Nat) :
    (discoverMembers attempt left).Discreet := by
  induction left generalizing attempt with
  | zero => exact ⟨rfl, trivial⟩
  | succ left ih =>
      rintro (e | members)
      · exact ⟨rfl, fun _ => ih (attempt + 1)⟩
      · exact ⟨rfl, trivial⟩

theorem discreet_settle (self : Identity) (members : List Member) :
    (settle self members).Discreet := by
  rw [settle]
  split
  · exact ⟨rfl, trivial⟩
  · split
    · exact ⟨rfl, rfl, trivial⟩
    · refine ⟨rfl, ?_⟩
      rintro (e | added)
      · exact ⟨rfl, trivial⟩
      · exact ⟨rfl, fun _ => ⟨rfl, trivial⟩⟩

theorem discreet_discover (self : Identity) : (discover self).Discreet :=
  (discreet_discoverMembers 1 listAttempts).bind (discreet_settle self)

theorem discreet_probe (attempt : Nat) (last : Error) (left : Nat) :
    (probe attempt last left).Discreet := by
  induction left generalizing attempt last with
  | zero => exact ⟨rfl, trivial⟩
  | succ left ih =>
      rintro (e | _)
      · exact ⟨rfl, fun _ => ih (attempt + 1) e⟩
      · exact ⟨rfl, trivial⟩

theorem discreet_launch (c : Config) (d : Directive) :
    (Program.call (.launch (Engine.arguments c c.identity d)) .done).Discreet := fun _ => trivial

theorem getLast?_settle_of_error {self : Identity} {members : List Member} {e : Error}
    (h : ((settle self members).run s state).value = .error e) :
    ((settle self members).run s state).events.getLast? = some (.addFailed e) := by
  have settlement := settle_settlement s self members state
  rw [h] at settlement
  generalize ((settle self members).run s state).calls = calls at settlement
  cases settlement with
  | refused _ ne foreign refusal =>
      have hevents : ((settle self members).run s state).events =
          .adding self.advertisePeerUrl ::
            (s.cluster (.add self.advertisePeerUrl) state).events ++ [.addFailed e] := by
        rw [settle_of_not_isMember ne ((not_isMember_iff _ _).mpr foreign),
          run_register_of_error members refusal]
        simp [Outcome.events, List.filterMap_cons]
      rw [hevents, List.getLast?_concat]

/-- Discovery fails with a registration, and says so last. -/
theorem getLast?_discover_of_error {self : Identity} {e : Error}
    (h : ((discover self).run s state).value = .error e) :
    ((discover self).run s state).events.getLast? = some (.addFailed e) := by
  rw [value_run_discover] at h
  rw [discover, Program.run_bind, Outcome.events_after, List.getLast?_append,
    getLast?_settle_of_error h, Option.some_or]

/-! ## The phase that failed -/

/-- The phase that a start fails in, and its error. -/
inductive FailsIn (s : Surroundings σ) (c : Config) (state : σ) : Phase → Error → Prop where
  | validation (fault : ConfigFault) (h : c.validate = .error fault) :
      FailsIn s c state .validation (.invalidConfig fault)
  | discovery (e : Error) (valid : c.validate = .ok ())
      (h : (discovered s c state).value = .error e) : FailsIn s c state .discovery e
  | launch (d : Directive) (e : Error) (valid : c.validate = .ok ())
      (found : (discovered s c state).value = .ok d)
      (h : (launched s c d (discovered s c state).state).answer = .error e) :
      FailsIn s c state .launch e
  | synchronisation (d : Directive) (e : Error) (valid : c.validate = .ok ())
      (found : (discovered s c state).value = .ok d)
      (up : (launched s c d (discovered s c state).state).answer = .ok ())
      (h : (verifySynced.run s (launched s c d (discovered s c state).state).state).value =
        .error e) :
      FailsIn s c state .synchronisation e

theorem closes_start_of_valid (valid : c.validate = .ok ()) {final : Event}
    (h : ((discover c.identity).orFail (.phaseFailed .discovery) (launchWith c)).ClosesWith s state
      final) :
    (start c).ClosesWith s state final := by
  have hvalue := congrArg Outcome.value (run_checked_of_ok valid s state)
  exact .orFail_of_ok (discreet_checked c) hvalue _ (h.log rfl)

theorem closes_start_of_discovered (valid : c.validate = .ok ()) {d : Directive}
    (found : (discovered s c state).value = .ok d) {final : Event}
    (h : (launchWith c d).ClosesWith s (discovered s c state).state final) :
    (start c).ClosesWith s state final :=
  closes_start_of_valid valid (.orFail_of_ok (discreet_discover _) found _ h)

theorem closes_launchWith_of_error {d : Directive} {e : Error}
    (h : (launched s c d state).answer = .error e) :
    (launchWith c d).ClosesWith s state (.phaseFailed .launch e) :=
  .orFail_of_error (discreet_launch c d) h _ _

theorem closes_launchWith_of_unsynced {d : Directive} {e : Error}
    (up : (launched s c d state).answer = .ok ())
    (h : (verifySynced.run s (launched s c d state).state).value = .error e) :
    (launchWith c d).ClosesWith s state (.phaseFailed .synchronisation e) :=
  .orFail_of_ok (discreet_launch c d) up _ (.orFail_of_error (discreet_probe _ _ _) h _ _)

theorem closes_launchWith_of_synced {d : Directive}
    (up : (launched s c d state).answer = .ok ())
    (h : (verifySynced.run s (launched s c d state).state).value = .ok ()) :
    (launchWith c d).ClosesWith s state (.ready c.identity.name
      (s.pid (verifySynced.run s (launched s c d state).state).state)) :=
  .orFail_of_ok (discreet_launch c d) up _
    (.orFail_of_ok (discreet_probe _ _ _) h _
      ⟨rfl, [], rfl, fun _ hnil => absurd hnil List.not_mem_nil⟩)

theorem FailsIn.closes {phase : Phase} {e : Error} (h : FailsIn s c state phase e) :
    (start c).ClosesWith s state (.phaseFailed phase e) := by
  cases h with
  | validation fault h =>
      have hvalue := congrArg Outcome.value (run_checked_of_error h s state)
      exact .orFail_of_error (discreet_checked c) hvalue _ _
  | discovery e valid h =>
      exact closes_start_of_valid valid (.orFail_of_error (discreet_discover _) h _ _)
  | launch d e valid found h =>
      exact closes_start_of_discovered valid found (closes_launchWith_of_error h)
  | synchronisation d e valid found up h =>
      exact closes_start_of_discovered valid found (closes_launchWith_of_unsynced up h)

theorem exists_failsIn {e : Error} (hvalue : ((start c).run s state).value = .error e) :
    ∃ phase, FailsIn s c state phase e := by
  have started := start_started s c state
  rw [hvalue] at started
  generalize ((start c).run s state).calls = calls at started
  cases started with
  | invalid fault h => exact ⟨_, .validation fault h⟩
  | undiscovered e valid h => exact ⟨_, .discovery e valid h⟩
  | unlaunched d e valid found h => exact ⟨_, .launch d e valid found h⟩
  | unsynced d e probes probed valid found up h =>
      exact ⟨_, .synchronisation d e valid found up h.execution.2.1⟩

theorem closes_of_ok {report : Report} (hvalue : ((start c).run s state).value = .ok report) :
    (start c).ClosesWith s state (.ready c.identity.name report.pid) := by
  have started := start_started s c state
  rw [hvalue] at started
  generalize ((start c).run s state).calls = calls at started
  cases started with
  | ready d probes probed valid found up h =>
      obtain ⟨-, synced, rfl⟩ := h.execution
      exact closes_start_of_discovered valid found (closes_launchWith_of_synced up synced)

/-! ## Reports -/

/-- How a start, and a node that asks for its directive alone, report failures. -/
structure ReportSpec (s : Surroundings σ) (c : Config) (state : σ) : Prop where
  /-- A start that fails says last which phase failed and why, and says so once. -/
  failed : ∀ e, ((start c).run s state).value = .error e → ∃ phase, FailsIn s c state phase e ∧
    ((start c).run s state).events.getLast? = some (.phaseFailed phase e) ∧
    ((start c).ownEvents s state).filter Event.reportsPhase = [.phaseFailed phase e]
  /-- A start that succeeds says last that it is ready, and never that a phase failed. -/
  ready : ∀ report, ((start c).run s state).value = .ok report →
    ((start c).run s state).events.getLast? = some (.ready c.identity.name report.pid) ∧
    ((start c).ownEvents s state).filter Event.reportsPhase = []
  /-- What a start logs itself is in the log of its run, and nothing else is but what the
  surroundings log. Where they report no failed phase, all such reports of the run are those of the
  start. -/
  log : ((start c).ownEvents s state).Sublist ((start c).run s state).events ∧
    (∀ event ∈ ((start c).run s state).events, event ∈ (start c).ownEvents s state ∨
      ∃ call ∈ ((start c).run s state).calls, ∃ now, event ∈ (s.reply call now).events) ∧
    ((∀ call now, ∀ event ∈ (s.reply call now).events, event.reportsPhase = false) →
      ((start c).run s state).events.filter Event.reportsPhase =
        ((start c).ownEvents s state).filter Event.reportsPhase)
  wired : ∀ {ν : Type} (app : Application) (network : Http.Network ν) (site : Site ν),
    ((start c).run (app.surroundings network) site).events.filter Event.reportsPhase =
      ((start c).ownEvents (app.surroundings network) site).filter Event.reportsPhase
  /-- A node that does not get its directive logs the error last. -/
  alone : ∀ e, ((initialCluster c).run s state).value = .error e →
    ∃ final, ((initialCluster c).run s state).events.getLast? = some final ∧
      final.level = .error ∧ ∃ action, final.fields = [⟨"action", .word action⟩,
        ⟨"error", .text e.message⟩]
  /-- The reports are those events whose action says that a phase failed. -/
  reports_iff : ∀ event : Event, event.reportsPhase ↔
    ∃ phase, event.action = "application." ++ phase ++ ".failed"
  actions : Phase.failedAction .validation = "application.validate.failed" ∧
    Phase.failedAction .discovery = "application.initial-cluster-state.failed" ∧
    Phase.failedAction .launch = "application.supervisor-start.failed" ∧
    Phase.failedAction .synchronisation = "application.verify-synced.failed"
  failure : ∀ phase e, (Event.phaseFailed phase e).level = .error ∧
    (Event.phaseFailed phase e).fields =
      [⟨"action", .word phase.failedAction⟩, ⟨"error", .text e.message⟩]
  success : ∀ name pid, (Event.ready name pid).level = .info ∧
    (Event.ready name pid).fields = [⟨"action", .word "application.ready"⟩,
      ⟨"name", .text name⟩, ⟨"pid", .process? pid⟩]

theorem getLast?_initialCluster_of_error {e : Error}
    (h : ((initialCluster c).run s state).value = .error e) :
    ∃ final, ((initialCluster c).run s state).events.getLast? = some final ∧
      final.level = .error ∧ final.details = [⟨"error", .text e.message⟩] := by
  cases valid : c.validate with
  | error fault =>
      rw [run_initialCluster_of_invalid valid] at h ⊢
      obtain rfl := Except.error.inj h
      exact ⟨_, rfl, rfl, rfl⟩
  | ok =>
      rw [run_initialCluster_of_valid valid] at h ⊢
      exact ⟨_, getLast?_discover_of_error h, rfl, rfl⟩

/-- However its surroundings answer, a start reports exactly the failure that it ends with. -/
theorem failures_reported (s : Surroundings σ) (c : Config) (state : σ) : ReportSpec s c state where
  failed := fun e h => by
    obtain ⟨phase, hphase⟩ := exists_failsIn h
    exact ⟨phase, hphase, hphase.closes.last, hphase.closes.filter_own⟩
  ready := fun report h => ⟨(closes_of_ok h).last, (closes_of_ok h).filter_own⟩
  log := ⟨Program.ownEvents_sublist s _ state, fun _ => Program.own_or_foreign,
    fun quiet => Program.filter_events quiet _ state⟩
  wired := fun app network site => Program.filter_events (app.reply_discreet network) _ site
  alone := fun e h => by
    obtain ⟨final, hlast, hlevel, hdetails⟩ := getLast?_initialCluster_of_error h
    exact ⟨final, hlast, hlevel, final.action, by rw [Event.fields, hdetails]⟩
  reports_iff := Event.reportsPhase_iff
  actions := ⟨rfl, rfl, rfl, rfl⟩
  failure := fun _ _ => ⟨rfl, rfl⟩
  success := fun _ _ => ⟨rfl, rfl⟩

end Bootstrap

end NodeBootstrap
