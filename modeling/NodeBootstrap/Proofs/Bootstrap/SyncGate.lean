import NodeBootstrap.Bootstrap.SyncGate
import NodeBootstrap.Proofs.Bootstrap.Attempts

/-! # Correctness of the sync gate

The gate opens with the first probe that succeeds, and fails with the error of the last one. -/

namespace NodeBootstrap.Bootstrap

open Log (Event)

variable {σ : Type} {s : Surroundings σ} {state : σ}

/-- The probes of the gate. -/
@[reducible] def probing : Retry Unit where
  call := .ownNode .keys
  result := id
  pause := probeRetryDelay
  succeeded attempt _ := .synced attempt
  failed := .probeFailed

theorem run_probe_of_ok (h : (s.ownNode .keys state).answer = .ok ()) (attempt : Nat)
    (last : Error) (left : Nat) :
    (probe attempt last (left + 1)).run s state =
      ⟨.ok (), probing.entries attempt (s.ownNode .keys state),
        (s.ownNode .keys state).state⟩ := by
  simp only [probe, Program.run_call, Surroundings.reply_ownNode, Retry.entries, probing, id, h]
  simp [Outcome.after]

theorem run_probe_of_error (s : Surroundings σ) (attempt : Nat) (last : Error) (left : Nat)
    (state : σ) (e : Error) (h : (s.ownNode .keys state).answer = .error e) :
    (probe attempt last (left + 1)).run s state =
      ((probe (attempt + 1) e left).run s
        (s.sleep probeRetryDelay (s.ownNode .keys state).state)).after
          (probing.entries attempt (s.ownNode .keys state)) := by
  simp only [probe, Program.run_call, Surroundings.reply_ownNode, Retry.entries, probing, id, h]
  simp

/-- The first success opens the gate. -/
theorem run_probe_answered {k left : Nat} (hk : k < left)
    (failed : ∀ i < k, ∃ e, probing.resultAt s state i = .error e)
    (answered : probing.resultAt s state k = .ok ()) (attempt : Nat) (last : Error) :
    (probe attempt last left).run s state =
      ⟨.ok (), probing.journal s attempt state (k + 1),
        (s.replyAt (.ownNode .keys) probeRetryDelay state k).state⟩ := by
  obtain ⟨rest, rfl⟩ : ∃ rest, left = rest + 1 + k := ⟨left - k - 1, by omega⟩
  obtain ⟨last', hrun⟩ := Retry.run_of_failed (run_probe_of_error s) failed attempt last (rest + 1)
  rw [hrun, run_probe_of_ok answered, Retry.journal_succ_last]
  rfl

/-- Where no probe succeeds, the error of the last one is the result. -/
theorem run_probe_exhausted {left : Nat} {e : Error}
    (failed : ∀ i < left, ∃ e, probing.resultAt s state i = .error e)
    (final : probing.resultAt s state left = .error e) (attempt : Nat) (last : Error) :
    (probe attempt last (left + 1)).run s state =
      ⟨.error e,
        probing.journal s attempt state (left + 1) ++ [.logged (.syncFailed probeAttempts e)],
        s.sleep probeRetryDelay (s.replyAt (.ownNode .keys) probeRetryDelay state left).state⟩ := by
  obtain ⟨last', hrun⟩ := Retry.run_of_failed (run_probe_of_error s) failed attempt last 1
  rw [Nat.add_comm 1 left] at hrun
  rw [hrun, run_probe_of_error s _ _ _ _ e final, Retry.journal_succ_last]
  simp [probe, Outcome.after, Surroundings.replyAt]

/-- How the engine is probed: up to twenty times, with a second's pause after each failure. The
rules give the calls, the result and the state afterwards. -/
inductive Probing (s : Surroundings σ) (state : σ) :
    List Call → Except Error Unit → σ → Prop where
  | opened (k : Nat) (hk : k < 20)
      (failed : ∀ i < k, ∃ e, (s.replyAt (.ownNode .keys) 1000 state i).answer = .error e)
      (answer : (s.replyAt (.ownNode .keys) 1000 state k).answer = .ok ()) :
      Probing s state (Call.attempts (.ownNode .keys) 1000 k ++ [.ownNode .keys]) (.ok ())
        (s.replyAt (.ownNode .keys) 1000 state k).state
  | shut (e : Error)
      (failed : ∀ i < 20, ∃ e, (s.replyAt (.ownNode .keys) 1000 state i).answer = .error e)
      (final : (s.replyAt (.ownNode .keys) 1000 state 19).answer = .error e) :
      Probing s state (Call.attempts (.ownNode .keys) 1000 20) (.error e)
        (s.sleep 1000 (s.replyAt (.ownNode .keys) 1000 state 19).state)

theorem Probing.execution {calls : List Call} {value : Except Error Unit} {probed : σ}
    (h : Probing s state calls value probed) :
    (verifySynced.run s state).calls = calls ∧ (verifySynced.run s state).value = value ∧
      (verifySynced.run s state).state = probed := by
  cases h with
  | opened k hk failed answer =>
      have hk' : k < probeAttempts := hk
      rw [verifySynced, run_probe_answered hk' failed answer]
      refine ⟨?_, rfl, rfl⟩
      rw [Outcome.calls, Retry.journal_succ_last, List.filterMap_append,
        Retry.calls_journal failed, Retry.calls_entries_of_ok answer]
      rfl
  | shut e failed final =>
      have failed' : ∀ i < 19, ∃ e, probing.resultAt s state i = .error e :=
        fun i hi => failed i (by omega)
      have hall : ∀ i < 19 + 1, ∃ e, probing.resultAt s state i = .error e := failed
      rw [verifySynced, probeAttempts, run_probe_exhausted failed' final]
      refine ⟨?_, rfl, rfl⟩
      rw [Outcome.calls, List.filterMap_append, Retry.calls_journal hall]
      simp [probeRetryDelay]

theorem exists_probing (s : Surroundings σ) (state : σ) :
    ∃ calls value probed, Probing s state calls value probed := by
  rcases probing.first_success_or_all_failed s state 20 with ⟨k, hk, failed, _, h⟩ | failed
  · exact ⟨_, _, _, .opened k hk failed h⟩
  · obtain ⟨e, final⟩ := failed 19 (by omega)
    exact ⟨_, _, _, .shut e failed final⟩

theorem verifySynced_probing (s : Surroundings σ) (state : σ) :
    Probing s state (verifySynced.run s state).calls (verifySynced.run s state).value
      (verifySynced.run s state).state := by
  obtain ⟨calls, value, probed, h⟩ := exists_probing s state
  obtain ⟨rfl, rfl, rfl⟩ := h.execution
  exact h

theorem Probing.call_eq {calls : List Call} {value : Except Error Unit} {probed : σ}
    (h : Probing s state calls value probed) {call : Call} (hcall : call ∈ calls) :
    call = .ownNode .keys ∨ call = .sleep 1000 := by
  have hattempt {n : Nat} (h : call ∈ Call.attempts (.ownNode .keys) 1000 n) :
      call = .ownNode .keys ∨ call = .sleep 1000 :=
    Call.of_mem_attempts (P := fun call => call = .ownNode .keys ∨ call = .sleep 1000)
      (.inl rfl) (.inr rfl) h
  cases h with
  | opened k hk failed answer =>
      exact (List.mem_append.mp hcall).elim hattempt fun hlast => .inl (List.mem_singleton.mp hlast)
  | shut e failed final => exact hattempt hcall

/-! ## What the gate logs -/

theorem ownEvents_probe_of_ok (h : (s.ownNode .keys state).answer = .ok ()) (attempt : Nat)
    (last : Error) (left : Nat) :
    (probe attempt last (left + 1)).ownEvents s state = [.synced attempt] := by
  simp only [probe, Program.ownEvents_call, Surroundings.reply_ownNode, h]
  rfl

theorem ownEvents_probe_of_error (s : Surroundings σ) (attempt : Nat) (last : Error) (left : Nat)
    (state : σ) (e : Error) (h : (s.ownNode .keys state).answer = .error e) :
    (probe attempt last (left + 1)).ownEvents s state =
      .probeFailed attempt e ::
        (probe (attempt + 1) e left).ownEvents s
          (s.sleep probeRetryDelay (s.ownNode .keys state).state) := by
  simp only [probe, Program.ownEvents_call, Surroundings.reply_ownNode, h]
  rfl

theorem ownEvents_probe_answered {errors : List Error} {left : Nat} (short : errors.length < left)
    (failed : probing.FailsWith s state errors)
    (answered : probing.resultAt s state errors.length = .ok ()) (attempt : Nat) (last : Error) :
    (probe attempt last left).ownEvents s state =
      probing.failures attempt errors ++ [.synced (attempt + errors.length)] := by
  obtain ⟨rest, rfl⟩ : ∃ rest, left = rest + 1 + errors.length :=
    ⟨left - errors.length - 1, by omega⟩
  rw [Retry.ownEvents_of_failed (ownEvents_probe_of_error s) failed, ownEvents_probe_of_ok answered]

theorem ownEvents_probe_exhausted {errors : List Error} {e : Error}
    (failed : probing.FailsWith s state (errors ++ [e])) (attempt : Nat) (last : Error) :
    (probe attempt last (errors ++ [e]).length).ownEvents s state =
      probing.failures attempt (errors ++ [e]) ++ [.syncFailed probeAttempts e] := by
  have hevents := Retry.ownEvents_of_failed (ownEvents_probe_of_error s) failed attempt last 0
  rw [Nat.zero_add, List.getLast?_concat] at hevents
  exact hevents

/-! ## The gate as a whole -/

/-- How the gate goes where probe `n`, counted from zero, ends as `probes n`: which calls it makes,
what it returns, and what it logs itself. -/
inductive Gate (probes : Nat → Except Error Unit) :
    List Call → Except Error Unit → List Event → Prop where
  | opened (errors : List Error) (short : errors.length < 20)
      (failed : ∀ i (h : i < errors.length), probes i = .error errors[i])
      (answer : probes errors.length = .ok ()) :
      Gate probes (Call.attempts (.ownNode .keys) 1000 errors.length ++ [.ownNode .keys]) (.ok ())
        ((errors.zipIdx 1).map (fun (e, n) => .probeFailed n e) ++ [.synced (errors.length + 1)])
  | shut (errors : List Error) (final : Error) (all : (errors ++ [final]).length = 20)
      (failed : ∀ i (h : i < (errors ++ [final]).length),
        probes i = .error (errors ++ [final])[i]) :
      Gate probes (Call.attempts (.ownNode .keys) 1000 20) (.error final)
        (((errors ++ [final]).zipIdx 1).map (fun (e, n) => .probeFailed n e) ++
          [.syncFailed 20 final])

/-- A gate that stays shut made a last probe, and that one failed with the last error. -/
theorem final_of_failed {probes : Nat → Except Error Unit} {errors : List Error} {final : Error}
    (all : (errors ++ [final]).length = 20)
    (failed : ∀ i (h : i < (errors ++ [final]).length), probes i = .error (errors ++ [final])[i]) :
    probes 19 = .error final := by
  have hlast : errors.length = 19 := by simpa using all
  have h := failed 19 (by omega)
  rwa [List.getElem_append_right (by omega), List.getElem_singleton] at h

/-- How the probes of the gate end. -/
def probeAt (s : Surroundings σ) (state : σ) (n : Nat) : Except Error Unit :=
  (s.replyAt (.ownNode .keys) 1000 state n).answer

theorem Gate.execution {calls : List Call} {value : Except Error Unit} {events : List Event}
    (h : Gate (probeAt s state) calls value events) :
    (verifySynced.run s state).calls = calls ∧ (verifySynced.run s state).value = value ∧
      verifySynced.ownEvents s state = events := by
  cases h with
  | opened errors short failed answer =>
      have hfailed : probing.FailsWith s state errors := failed
      have hshort : errors.length < probeAttempts := short
      obtain ⟨hcalls, hvalue, -⟩ :=
        (Probing.opened errors.length short hfailed.failed answer).execution
      refine ⟨hcalls, hvalue, ?_⟩
      rw [verifySynced, ownEvents_probe_answered hshort hfailed answer, Nat.add_comm 1]
      rfl
  | shut errors final all failed =>
      have hfailed : probing.FailsWith s state (errors ++ [final]) := failed
      obtain ⟨hcalls, hvalue, -⟩ :=
        (Probing.shut final (all ▸ hfailed.failed) (final_of_failed all failed)).execution
      refine ⟨hcalls, hvalue, ?_⟩
      have hevents := ownEvents_probe_exhausted hfailed 1 neverProbed
      rw [all] at hevents
      exact hevents

theorem exists_gate (s : Surroundings σ) (state : σ) :
    ∃ calls value events, Gate (probeAt s state) calls value events := by
  rcases probing.first_success_or_all_failed s state 20 with ⟨k, hk, failed, _, h⟩ | failed
  · obtain ⟨errors, rfl, hfailed⟩ := Retry.exists_failsWith failed
    exact ⟨_, _, _, .opened errors hk hfailed h⟩
  · obtain ⟨errors, hlength, hfailed⟩ := Retry.exists_failsWith failed
    rcases List.eq_nil_or_concat' errors with rfl | ⟨front, final, rfl⟩
    · cases hlength
    · exact ⟨_, _, _, .shut front final hlength hfailed⟩

theorem gate_iff (s : Surroundings σ) (state : σ) (calls : List Call) (value : Except Error Unit)
    (events : List Event) :
    ((verifySynced.run s state).calls = calls ∧ (verifySynced.run s state).value = value ∧
        verifySynced.ownEvents s state = events) ↔
      Gate (probeAt s state) calls value events := by
  refine ⟨?_, Gate.execution⟩
  rintro ⟨rfl, rfl, rfl⟩
  obtain ⟨calls, value, events, h⟩ := exists_gate s state
  obtain ⟨rfl, rfl, rfl⟩ := h.execution
  exact h

namespace Gate

variable {probes : Nat → Except Error Unit} {calls : List Call} {value : Except Error Unit}
  {events : List Event}

theorem ok_iff (h : Gate probes calls value events) :
    value = .ok () ↔ ∃ i < 20, probes i = .ok () := by
  cases h with
  | opened errors short failed answer => exact ⟨fun _ => ⟨_, short, answer⟩, fun _ => rfl⟩
  | shut errors final all failed =>
      refine ⟨nofun, ?_⟩
      rintro ⟨i, hi, hok⟩
      rw [failed i (by omega)] at hok
      cases hok

/-- The first success ends the probes; there is a pause after each one before it. -/
theorem counts_of_opened (h : Gate probes calls value events) {m : Nat} (hm : m < 20)
    (failed : ∀ i < m, ∃ e, probes i = .error e) (answer : probes m = .ok ()) :
    value = .ok () ∧ calls.count (.ownNode .keys) = m + 1 ∧ calls.count (.sleep 1000) = m ∧
      calls.length = m + 1 + m := by
  cases h with
  | opened errors short hfailed hanswer =>
      have hlength : errors.length = m := by
        by_contra hne
        rcases Nat.lt_or_gt_of_ne hne with hlt | hgt
        · obtain ⟨e, he⟩ := failed _ hlt
          cases hanswer.symm.trans he
        · cases answer.symm.trans (hfailed m hgt)
      subst hlength
      simp [Call.count_attempts, Call.length_attempts]
      omega
  | shut errors final all hfailed => cases answer.symm.trans (hfailed m (by omega))

/-- Where no probe succeeds, the result is that of the last one. -/
theorem counts_of_shut (h : Gate probes calls value events)
    (failed : ∀ i < 20, ∃ e, probes i = .error e) :
    value = probes 19 ∧ calls.count (.ownNode .keys) = 20 ∧ calls.count (.sleep 1000) = 20 ∧
      calls.length = 40 := by
  cases h with
  | opened errors short hfailed hanswer =>
      obtain ⟨e, he⟩ := failed _ short
      cases hanswer.symm.trans he
  | shut errors final all hfailed =>
      have hfinal : probes 19 = .error final := final_of_failed all hfailed
      simp [hfinal, Call.count_attempts, Call.length_attempts]

end Gate

/-- Nobody but the engine logs anything in answer to the gate. -/
theorem own_or_engine {event : Event} (h : event ∈ (verifySynced.run s state).events) :
    event ∈ verifySynced.ownEvents s state ∨ ∃ now, event ∈ (s.ownNode .keys now).events := by
  rcases Program.own_or_foreign h with hown | ⟨c, hc, now, hforeign⟩
  · exact .inl hown
  · rcases (verifySynced_probing s state).call_eq hc with rfl | rfl
    · exact .inr ⟨now, hforeign⟩
    · cases hforeign

/-- All that the gate promises: `probes n` is how probe `n`, counted from zero, ends, and `logged`
what the gate itself logs. -/
structure GateSpec (s : Surroundings σ) (probes : Nat → Except Error Unit)
    (o : Outcome σ (Except Error Unit)) (logged : List Event) : Prop where
  /-- Calls, result and log are exactly what the rules derive. -/
  derived : ∀ calls value events, (o.calls = calls ∧ o.value = value ∧ logged = events) ↔
    Gate probes calls value events
  ok_iff : o.value = .ok () ↔ ∃ i < 20, probes i = .ok ()
  /-- A gate that opens makes no call beyond the probes up to the first success and a pause after
  each of those that failed. -/
  opened : ∀ m < 20, (∀ i < m, ∃ e, probes i = .error e) → probes m = .ok () →
    o.value = .ok () ∧ o.calls.count (.ownNode .keys) = m + 1 ∧ o.calls.count (.sleep 1000) = m ∧
      o.calls.length = m + 1 + m
  shut : (∀ i < 20, ∃ e, probes i = .error e) →
    o.value = probes 19 ∧ o.calls.count (.ownNode .keys) = 20 ∧
      o.calls.count (.sleep 1000) = 20 ∧ o.calls.length = 40
  /-- The error of a gate that makes no attempt only ever comes from the last probe. -/
  placeholder : o.value = .error (.other "sync probe never ran") →
    probes 19 = .error (.other "sync probe never ran")
  /-- The log of the run is that of the gate, with what the engine logs in answer to the probes. -/
  log : logged.Sublist o.events ∧
    ∀ event ∈ o.events, event ∈ logged ∨ ∃ now, event ∈ (s.ownNode .keys now).events
  retry : ∀ attempt e, (Event.probeFailed attempt e).level = .debug ∧
    (Event.probeFailed attempt e).fields = [⟨"action", .word "sync.verify-synced.retry"⟩,
      ⟨"attempt", .number attempt⟩, ⟨"error", .text e.message⟩]
  done : ∀ attempt, (Event.synced attempt).level = .info ∧
    (Event.synced attempt).fields = [⟨"action", .word "sync.verify-synced.done"⟩,
      ⟨"attempt", .number attempt⟩]
  failed : ∀ attempts e, (Event.syncFailed attempts e).level = .error ∧
    (Event.syncFailed attempts e).fields = [⟨"action", .word "sync.verify-synced.failed"⟩,
      ⟨"attempts", .number attempts⟩, ⟨"error", .text e.message⟩]

/-- The gate keeps its promises however the engine answers. -/
theorem gate_spec (s : Surroundings σ) (state : σ) :
    GateSpec s (fun n => (s.replyAt (.ownNode .keys) 1000 state n).answer)
      (verifySynced.run s state) (verifySynced.ownEvents s state) := by
  have hgate := (gate_iff s state _ _ _).mp ⟨rfl, rfl, rfl⟩
  exact
    { derived := gate_iff s state
      ok_iff := hgate.ok_iff
      opened := fun _ hm failed answer => hgate.counts_of_opened hm failed answer
      shut := fun failed => hgate.counts_of_shut failed
      placeholder := fun h => by
        have hnone : ∀ i < 20, ∃ e, probeAt s state i = .error e := by
          intro i hi
          cases hprobe : probeAt s state i with
          | error e => exact ⟨e, rfl⟩
          | ok => cases h.symm.trans (hgate.ok_iff.mpr ⟨i, hi, hprobe⟩)
        exact (hgate.counts_of_shut hnone).1.symm.trans h
      log := ⟨Program.ownEvents_sublist s verifySynced state, fun _ => own_or_engine⟩
      retry := fun _ _ => ⟨rfl, rfl⟩
      done := fun _ => ⟨rfl, rfl⟩
      failed := fun _ _ => ⟨rfl, rfl⟩ }

end NodeBootstrap.Bootstrap
