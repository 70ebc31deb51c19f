import Mathlib.Data.List.Basic
import NodeBootstrap.Proofs.Bootstrap.OwnEvents

/-! # Repeated attempts

A call that is made again and again, with a pause after each time that failed. Discovery and the
sync gate both have this shape; what they do apart from it is a parameter here. -/

namespace NodeBootstrap

open Log (Event)

variable {σ α β : Type}

namespace Surroundings

/-- The state in which attempt `n`, counted from zero, is made. -/
def stateAt (s : Surroundings σ) (c : Call) (pause : Nat) (state : σ) : Nat → σ
  | 0 => state
  | n + 1 => s.stateAt c pause (s.sleep pause (s.reply c state).state) n

/-- How attempt `n` is answered. -/
def replyAt (s : Surroundings σ) (c : Call) (pause : Nat) (state : σ) (n : Nat) :
    Reply σ c.Answer :=
  s.reply c (s.stateAt c pause state n)

end Surroundings

/-- A call made `n` times, each time followed by a pause. -/
def Call.attempts (c : Call) (pause n : Nat) : List Call :=
  (List.replicate n [c, .sleep pause]).flatten

/-- What holds of the call and of the pause holds of everything that the attempts call. -/
theorem Call.of_mem_attempts {P : Call → Prop} {c call : Call} {pause n : Nat} (hcall : P c)
    (hsleep : P (.sleep pause)) (h : call ∈ c.attempts pause n) : P call := by
  obtain ⟨calls, hcalls, hmem⟩ := List.mem_flatten.mp h
  rw [(List.mem_replicate.mp hcalls).2] at hmem
  rcases List.mem_cons.mp hmem with rfl | hlast
  · exact hcall
  · rw [List.mem_singleton.mp hlast]
    exact hsleep

theorem Call.length_attempts (c : Call) (pause n : Nat) :
    (c.attempts pause n).length = n * 2 := by
  simp [Call.attempts]

theorem Call.count_attempts (c : Call) (pause n : Nat) (call : Call) :
    (c.attempts pause n).count call = n * [c, .sleep pause].count call := by
  simp [Call.attempts, List.count_flatten]

/-- What is called, when its answer is a success, how long to pause after a failure, and what is
logged about either. -/
structure Retry (α : Type) where
  call : Call
  result : call.Answer → Except Error α
  pause : Nat
  succeeded : Nat → α → Event
  failed : Nat → Error → Event

namespace Retry

variable {r : Retry α} {s : Surroundings σ} {state : σ}

/-- The result of attempt `n`. -/
def resultAt (r : Retry α) (s : Surroundings σ) (state : σ) (n : Nat) : Except Error α :=
  r.result (s.replyAt r.call r.pause state n).answer

/-- Of any number of attempts, either one is the first success or all fail. -/
theorem first_success_or_all_failed (r : Retry α) (s : Surroundings σ) (state : σ) (n : Nat) :
    (∃ k < n, (∀ i < k, ∃ e, r.resultAt s state i = .error e) ∧
      ∃ a, r.resultAt s state k = .ok a) ∨
    ∀ i < n, ∃ e, r.resultAt s state i = .error e := by
  induction n with
  | zero => exact .inr fun i hi => (Nat.not_lt_zero i hi).elim
  | succ n ih =>
      rcases ih with ⟨k, hk, h⟩ | failed
      · exact .inl ⟨k, by omega, h⟩
      · cases hn : r.resultAt s state n with
        | ok a => exact .inl ⟨n, n.lt_succ_self, failed, a, hn⟩
        | error e =>
            refine .inr fun i hi => ?_
            rcases Nat.lt_succ_iff_lt_or_eq.mp hi with hi | rfl
            · exact failed i hi
            · exact ⟨e, hn⟩

/-- What an attempt leaves in the journal. -/
def entries (r : Retry α) (attempt : Nat) (reply : Reply σ r.call.Answer) : List Entry :=
  .called r.call :: reply.events.map .logged ++
    match r.result reply.answer with
    | .ok a => [.logged (r.succeeded attempt a)]
    | .error e => [.logged (r.failed attempt e), .called (.sleep r.pause)]

/-- The journal of `n` attempts, of which the first has the given number. -/
def journal (r : Retry α) (s : Surroundings σ) (attempt : Nat) (state : σ) (n : Nat) :
    List Entry :=
  (List.range n).flatMap fun i => r.entries (attempt + i) (s.replyAt r.call r.pause state i)

theorem calls_entries_of_ok {attempt : Nat} {reply : Reply σ r.call.Answer} {a : α}
    (h : r.result reply.answer = .ok a) :
    (r.entries attempt reply).filterMap Entry.call? = [r.call] := by
  simp [entries, h]

theorem calls_entries_of_error {attempt : Nat} {reply : Reply σ r.call.Answer} {e : Error}
    (h : r.result reply.answer = .error e) :
    (r.entries attempt reply).filterMap Entry.call? = [r.call, .sleep r.pause] := by
  simp [entries, h, List.filterMap_cons]

theorem journal_succ (r : Retry α) (s : Surroundings σ) (attempt : Nat) (state : σ) (n : Nat) :
    r.journal s attempt state (n + 1) =
      r.entries attempt (s.reply r.call state) ++
        r.journal s (attempt + 1) (s.sleep r.pause (s.reply r.call state).state) n := by
  simp only [journal, List.range_succ_eq_map, List.flatMap_cons, List.flatMap_map,
    Nat.add_zero, Nat.succ_eq_add_one, Nat.add_assoc, Nat.add_comm 1]
  rfl

theorem journal_succ_last (r : Retry α) (s : Surroundings σ) (attempt : Nat) (state : σ)
    (n : Nat) :
    r.journal s attempt state (n + 1) =
      r.journal s attempt state n ++
        r.entries (attempt + n) (s.replyAt r.call r.pause state n) := by
  simp [journal, List.range_succ]

theorem calls_journal {n : Nat} (failed : ∀ i < n, ∃ e, r.resultAt s state i = .error e)
    (attempt : Nat) :
    (r.journal s attempt state n).filterMap Entry.call? = r.call.attempts r.pause n := by
  induction n with
  | zero => rfl
  | succ n ih =>
      obtain ⟨e, he⟩ := failed n n.lt_succ_self
      rw [journal_succ_last, List.filterMap_append, ih fun i hi => failed i (by omega),
        calls_entries_of_error he, Call.attempts, Call.attempts, List.replicate_succ',
        List.flatten_append]
      simp

/-- A loop that pauses after a failure, and goes on with one attempt less, leaves `k` failures
behind it. What it carries along is the last error. -/
theorem run_of_failed {loop : Nat → Error → Nat → Program β}
    (step : ∀ attempt last left state e, r.result (s.reply r.call state).answer = .error e →
      (loop attempt last (left + 1)).run s state =
        ((loop (attempt + 1) e left).run s (s.sleep r.pause (s.reply r.call state).state)).after
          (r.entries attempt (s.reply r.call state)))
    {k : Nat} (failed : ∀ i < k, ∃ e, r.resultAt s state i = .error e)
    (attempt : Nat) (last : Error) (left : Nat) :
    ∃ final, (loop attempt last (left + k)).run s state =
      ((loop (attempt + k) final left).run s (s.stateAt r.call r.pause state k)).after
        (r.journal s attempt state k) := by
  -- Attempts are taken off the front, as the loop makes them: every later one starts from the state
  -- after the first.
  induction k generalizing state attempt last with
  | zero => exact ⟨last, rfl⟩
  | succ k ih =>
      obtain ⟨e, he⟩ := failed 0 k.succ_pos
      have hfailed : ∀ i < k, ∃ e,
          r.resultAt s (s.sleep r.pause (s.reply r.call state).state) i = .error e :=
        fun i hi => failed (i + 1) (Nat.succ_lt_succ hi)
      obtain ⟨final, hrun⟩ := ih hfailed (attempt + 1) e
      refine ⟨final, ?_⟩
      rw [← Nat.add_assoc, step attempt last (left + k) state e he, hrun, journal_succ,
        Outcome.after_after, Nat.add_right_comm]
      rfl

/-! ## What is logged about failures -/

/-- The first attempts fail with these errors, in this order. -/
def FailsWith (r : Retry α) (s : Surroundings σ) (state : σ) (errors : List Error) : Prop :=
  ∀ i (h : i < errors.length), r.resultAt s state i = .error errors[i]

theorem FailsWith.failed {errors : List Error} (h : r.FailsWith s state errors) :
    ∀ i < errors.length, ∃ e, r.resultAt s state i = .error e :=
  fun i hi => ⟨errors[i], h i hi⟩

theorem exists_failsWith {n : Nat} (failed : ∀ i < n, ∃ e, r.resultAt s state i = .error e) :
    ∃ errors : List Error, errors.length = n ∧ r.FailsWith s state errors := by
  choose error herror using failed
  refine ⟨List.ofFn fun i : Fin n => error i i.isLt, List.length_ofFn, fun i hi => ?_⟩
  rw [List.getElem_ofFn]
  exact herror i _

/-- One event for each failure, the first of which has the given number. -/
def failures (r : Retry α) (attempt : Nat) (errors : List Error) : List Event :=
  (errors.zipIdx attempt).map fun (e, n) => r.failed n e

/-- What such a loop logs itself about the failures, before it goes on with the last error. -/
theorem ownEvents_of_failed {loop : Nat → Error → Nat → Program β}
    (step : ∀ attempt last left state e, r.result (s.reply r.call state).answer = .error e →
      (loop attempt last (left + 1)).ownEvents s state =
        r.failed attempt e ::
          (loop (attempt + 1) e left).ownEvents s (s.sleep r.pause (s.reply r.call state).state))
    {errors : List Error} (failed : r.FailsWith s state errors) (attempt : Nat) (last : Error)
    (left : Nat) :
    (loop attempt last (left + errors.length)).ownEvents s state =
      r.failures attempt errors ++
        (loop (attempt + errors.length) (errors.getLast?.getD last) left).ownEvents s
          (s.stateAt r.call r.pause state errors.length) := by
  induction errors generalizing state attempt last with
  | nil => rfl
  | cons e errors ih =>
      have hfirst : r.result (s.reply r.call state).answer = .error e := failed 0 (by simp)
      have hrest : r.FailsWith s (s.sleep r.pause (s.reply r.call state).state) errors :=
        fun i hi => failed (i + 1) (Nat.succ_lt_succ hi)
      rw [List.length_cons, ← Nat.add_assoc, step attempt last _ state e hfirst,
        ih hrest (attempt + 1) e, List.getLast?_cons, Nat.add_right_comm, Nat.add_assoc attempt]
      rfl

end Retry

end NodeBootstrap
