import NodeBootstrap.Bootstrap.Program

/-! # What a program logs itself

A journal holds what a program logs and what its surroundings log while they answer. The events of
the program's own are told apart here; all others come from the surroundings. -/

namespace NodeBootstrap.Program

open Log (Event)

variable {σ α β : Type} {s : Surroundings σ} {state : σ}

/-- The events that a program logs itself. -/
def ownEvents (s : Surroundings σ) : Program α → σ → List Event
  | done _, _ => []
  | log event next, state => event :: next.ownEvents s state
  | call c next, state => (next (s.reply c state).answer).ownEvents s (s.reply c state).state

@[simp] theorem ownEvents_done (s : Surroundings σ) (value : α) (state : σ) :
    (done value).ownEvents s state = [] := rfl

@[simp] theorem ownEvents_log (s : Surroundings σ) (event : Event) (next : Program α)
    (state : σ) : (log event next).ownEvents s state = event :: next.ownEvents s state := rfl

@[simp] theorem ownEvents_call (s : Surroundings σ) (c : Call) (next : c.Answer → Program α)
    (state : σ) :
    (call c next).ownEvents s state =
      (next (s.reply c state).answer).ownEvents s (s.reply c state).state := rfl

theorem ownEvents_bind (s : Surroundings σ) (p : Program α) (f : α → Program β) (state : σ) :
    (p.bind f).ownEvents s state =
      p.ownEvents s state ++ (f (p.run s state).value).ownEvents s (p.run s state).state := by
  induction p generalizing state with
  | done => rfl
  | log event next ih => exact congrArg (event :: ·) (ih state)
  | call c next ih => exact ih _ _

theorem ownEvents_orFail_of_ok {p : Program (Except Error α)} {a : α}
    (h : (p.run s state).value = .ok a) (failed : Error → Event)
    (f : α → Program (Except Error β)) :
    (p.orFail failed f).ownEvents s state =
      p.ownEvents s state ++ (f a).ownEvents s (p.run s state).state := by
  rw [orFail, ownEvents_bind, h]

theorem ownEvents_orFail_of_error {p : Program (Except Error α)} {e : Error}
    (h : (p.run s state).value = .error e) (failed : Error → Event)
    (f : α → Program (Except Error β)) :
    (p.orFail failed f).ownEvents s state = p.ownEvents s state ++ [failed e] := by
  rw [orFail, ownEvents_bind, h]
  rfl

/-- What a program logs itself stands in the log of its run, in the same order. -/
theorem ownEvents_sublist (s : Surroundings σ) (p : Program α) (state : σ) :
    (p.ownEvents s state).Sublist (p.run s state).events := by
  induction p generalizing state with
  | done => exact List.Sublist.slnil
  | log event next ih =>
      rw [run_log, Outcome.events_after]
      exact (ih state).cons_cons event
  | call c next ih =>
      rw [run_call, Outcome.events_after]
      exact (ih _ _).trans (List.sublist_append_right _ _)

/-- Whatever else stands there was logged by the surroundings, in answer to a call of the run. -/
theorem own_or_foreign {p : Program α} {event : Event} (h : event ∈ (p.run s state).events) :
    event ∈ p.ownEvents s state ∨
      ∃ c ∈ (p.run s state).calls, ∃ now, event ∈ (s.reply c now).events := by
  induction p generalizing state with
  | done => cases h
  | log first next ih =>
      rw [run_log, Outcome.events_after] at h
      rw [run_log, Outcome.calls_after]
      rcases List.mem_cons.mp h with rfl | hlater
      · exact .inl List.mem_cons_self
      · exact (ih hlater).imp_left (List.mem_cons_of_mem first)
  | call c next ih =>
      rw [run_call, Outcome.events_after] at h
      rw [run_call, Outcome.calls_after, List.filterMap_cons, Entry.call?_called]
      rcases List.mem_append.mp h with hreply | hlater
      · have hevents : event ∈ (s.reply c state).events := by
          simpa [List.filterMap_cons] using hreply
        exact .inr ⟨c, List.mem_cons_self, state, hevents⟩
      · rcases ih _ hlater with hown | ⟨c', hc', hforeign⟩
        · exact .inl hown
        · exact .inr ⟨c', List.mem_cons_of_mem _ (List.mem_append_right _ hc'), hforeign⟩

/-- Events of a kind that the surroundings never log are logged by the program alone. -/
theorem filter_events {kind : Event → Bool}
    (quiet : ∀ c now, ∀ event ∈ (s.reply c now).events, kind event = false) (p : Program α)
    (state : σ) :
    (p.run s state).events.filter kind = (p.ownEvents s state).filter kind := by
  induction p generalizing state with
  | done => rfl
  | log event next ih =>
      rw [run_log, Outcome.events_after, List.filter_append, ih, ownEvents_log, List.filter_cons]
      cases h : kind event <;> simp [h]
  | call c next ih =>
      have hreply : ∀ event ∈ (s.reply c state).events, ¬kind event = true := by
        simpa using quiet c state
      rw [run_call, Outcome.events_after, List.filter_append, ih]
      simp [List.filterMap_cons, List.filter_eq_nil_iff.mpr hreply]

/-! ## What a program may log -/

/-- However a program is answered, what it logs itself is of a kind. -/
def LogsOnly (kind : Event → Prop) : Program α → Prop
  | done _ => True
  | log event next => kind event ∧ next.LogsOnly kind
  | call _ next => ∀ answer, (next answer).LogsOnly kind

theorem LogsOnly.bind {kind : Event → Prop} {p : Program α} {f : α → Program β}
    (first : p.LogsOnly kind) (rest : ∀ value, (f value).LogsOnly kind) :
    (p.bind f).LogsOnly kind := by
  induction p with
  | done value => exact rest value
  | log event next ih => exact ⟨first.1, ih first.2⟩
  | call c next ih => exact fun answer => ih answer (first answer)

theorem LogsOnly.of_mem {kind : Event → Prop} {p : Program α} (h : p.LogsOnly kind)
    {event : Event} (hevent : event ∈ p.ownEvents s state) : kind event := by
  induction p generalizing state with
  | done => cases hevent
  | log first next ih =>
      rcases List.mem_cons.mp hevent with rfl | hlater
      · exact h.1
      · exact ih h.2 hlater
  | call c next ih => exact ih _ (h _) hevent

end NodeBootstrap.Program
