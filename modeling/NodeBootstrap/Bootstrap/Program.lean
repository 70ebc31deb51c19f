import NodeBootstrap.Log.Event
import NodeBootstrap.Member.Basic

/-! # Programs that call on their surroundings

A bootstrap is a program: a finite tree of calls, each followed by what is done with its answer. The
surroundings answer; running a program in them yields its value, the state they end in, and a
journal of everything that was called and logged, in order. -/

namespace NodeBootstrap

open Log (Event)

/-- What the member API of a cluster can be asked. -/
inductive MemberCall where
  | list
  | add (peerUrl : String)
  | keys
  deriving DecidableEq, Repr

namespace MemberCall

/-- What is answered unless the call fails. -/
@[reducible] def Answer : MemberCall → Type
  | list => List Member
  | add _ => Member
  | keys => Unit

end MemberCall

inductive Call where
  /-- Asks the cluster. -/
  | cluster (c : MemberCall)
  /-- Asks this node's own engine. -/
  | ownNode (c : MemberCall)
  /-- Starts the engine. -/
  | launch (arguments : List String)
  /-- Asks for the process number of the engine. -/
  | pid
  | sleep (milliseconds : Nat)
  deriving DecidableEq, Repr

namespace Call

@[reducible] def Answer : Call → Type
  | cluster c => Except Error c.Answer
  | ownNode c => Except Error c.Answer
  | launch _ => Except Error Unit
  | pid => Option Nat
  | sleep _ => Unit

end Call

inductive Program (α : Type) : Type where
  | done (value : α)
  | log (event : Event) (next : Program α)
  | call (c : Call) (next : c.Answer → Program α)

namespace Program

def bind {α β : Type} (p : Program α) (f : α → Program β) : Program β :=
  match p with
  | done value => f value
  | log event next => log event (next.bind f)
  | call c next => call c fun answer => (next answer).bind f

instance : Monad Program where
  pure := done
  bind := bind

theorem bind_done {α : Type} (p : Program α) : p.bind done = p := by
  induction p with
  | done => rfl
  | log event next ih => simp only [bind, ih]
  | call c next ih => simp only [bind, ih]

theorem bind_assoc {α β γ : Type} (p : Program α) (f : α → Program β) (g : β → Program γ) :
    (p.bind f).bind g = p.bind fun a => (f a).bind g := by
  induction p with
  | done => rfl
  | log event next ih => simp only [bind, ih]
  | call c next ih => simp only [bind, ih]

/-- Goes on with the value, or stops with the error after what `failed` does about it. -/
def orFail {α β : Type} (p : Program (Except Error α)) (failed : Error → Event)
    (f : α → Program (Except Error β)) : Program (Except Error β) :=
  p.bind fun
    | .ok value => f value
    | .error e => log (failed e) (done (.error e))

end Program

/-- An answer, the events logged on the way to it, and the state after it. -/
structure Reply (σ α : Type) where
  answer : α
  events : List Event
  state : σ

/-- A member API, whose answers may depend on a state and change it. -/
abbrev MemberApi (σ : Type) : Type := (c : MemberCall) → σ → Reply σ (Except Error c.Answer)

structure Surroundings (σ : Type) where
  cluster : MemberApi σ
  ownNode : MemberApi σ
  launch : List String → σ → Reply σ (Except Error Unit)
  pid : σ → Option Nat
  sleep : Nat → σ → σ

namespace Surroundings

def reply {σ : Type} (s : Surroundings σ) : (c : Call) → σ → Reply σ c.Answer
  | .cluster c, state => s.cluster c state
  | .ownNode c, state => s.ownNode c state
  | .launch arguments, state => s.launch arguments state
  | .pid, state => ⟨s.pid state, [], state⟩
  | .sleep ms, state => ⟨(), [], s.sleep ms state⟩

@[simp] theorem reply_cluster {σ : Type} (s : Surroundings σ) (c : MemberCall) (state : σ) :
    s.reply (.cluster c) state = s.cluster c state := rfl

@[simp] theorem reply_ownNode {σ : Type} (s : Surroundings σ) (c : MemberCall) (state : σ) :
    s.reply (.ownNode c) state = s.ownNode c state := rfl

@[simp] theorem reply_launch {σ : Type} (s : Surroundings σ) (arguments : List String)
    (state : σ) : s.reply (.launch arguments) state = s.launch arguments state := rfl

@[simp] theorem reply_pid {σ : Type} (s : Surroundings σ) (state : σ) :
    s.reply .pid state = ⟨s.pid state, [], state⟩ := rfl

@[simp] theorem reply_sleep {σ : Type} (s : Surroundings σ) (ms : Nat) (state : σ) :
    s.reply (.sleep ms) state = ⟨(), [], s.sleep ms state⟩ := rfl

end Surroundings

inductive Entry where
  | called (c : Call)
  | logged (e : Event)
  deriving DecidableEq, Repr

namespace Entry

def call? : Entry → Option Call
  | called c => some c
  | logged _ => none

def event? : Entry → Option Event
  | called _ => none
  | logged e => some e

@[simp] theorem call?_called (c : Call) : (called c).call? = some c := rfl

@[simp] theorem call?_logged (e : Event) : (logged e).call? = none := rfl

@[simp] theorem event?_called (c : Call) : (called c).event? = none := rfl

@[simp] theorem event?_logged (e : Event) : (logged e).event? = some e := rfl

@[simp] theorem call?_comp_logged : call? ∘ logged = fun _ => none := rfl

@[simp] theorem event?_comp_logged : event? ∘ logged = some := rfl

end Entry

structure Outcome (σ α : Type) where
  value : α
  journal : List Entry
  state : σ

namespace Outcome

def calls {σ α : Type} (o : Outcome σ α) : List Call := o.journal.filterMap Entry.call?

def events {σ α : Type} (o : Outcome σ α) : List Event := o.journal.filterMap Entry.event?

/-- The same outcome after what was done before. -/
def after {σ α : Type} (entries : List Entry) (o : Outcome σ α) : Outcome σ α :=
  { o with journal := entries ++ o.journal }

@[simp] theorem after_nil {σ α : Type} (o : Outcome σ α) : o.after [] = o := rfl

@[simp] theorem after_after {σ α : Type} (before entries : List Entry) (o : Outcome σ α) :
    (o.after entries).after before = o.after (before ++ entries) := by
  simp [after]

@[simp] theorem value_after {σ α : Type} (entries : List Entry) (o : Outcome σ α) :
    (o.after entries).value = o.value := rfl

@[simp] theorem state_after {σ α : Type} (entries : List Entry) (o : Outcome σ α) :
    (o.after entries).state = o.state := rfl

@[simp] theorem calls_after {σ α : Type} (entries : List Entry) (o : Outcome σ α) :
    (o.after entries).calls = entries.filterMap Entry.call? ++ o.calls := by
  simp [after, calls]

@[simp] theorem events_after {σ α : Type} (entries : List Entry) (o : Outcome σ α) :
    (o.after entries).events = entries.filterMap Entry.event? ++ o.events := by
  simp [after, events]

end Outcome

namespace Program

def run {σ α : Type} (s : Surroundings σ) : Program α → σ → Outcome σ α
  | done value, state => ⟨value, [], state⟩
  | log event next, state => (next.run s state).after [.logged event]
  | call c next, state =>
    let reply := s.reply c state
    ((next reply.answer).run s reply.state).after (.called c :: reply.events.map .logged)

@[simp] theorem run_done {σ α : Type} (s : Surroundings σ) (value : α) (state : σ) :
    (done value).run s state = ⟨value, [], state⟩ := rfl

@[simp] theorem run_log {σ α : Type} (s : Surroundings σ) (event : Event) (next : Program α)
    (state : σ) :
    (log event next).run s state = (next.run s state).after [.logged event] := rfl

@[simp] theorem run_call {σ α : Type} (s : Surroundings σ) (c : Call)
    (next : c.Answer → Program α) (state : σ) :
    (call c next).run s state =
      ((next (s.reply c state).answer).run s (s.reply c state).state).after
        (.called c :: (s.reply c state).events.map .logged) := rfl

/-- One program after another runs from the state in which the first one ends, with its value. -/
theorem run_bind {σ α β : Type} (s : Surroundings σ) (p : Program α) (f : α → Program β)
    (state : σ) :
    (p.bind f).run s state =
      ((f (p.run s state).value).run s (p.run s state).state).after (p.run s state).journal := by
  induction p generalizing state with
  | done => rfl
  | log event next ih => simp [bind, run, ih, Outcome.after]
  | call c next ih => simp [bind, run, ih, Outcome.after]

/-- What every call that is made keeps, the run as a whole keeps. -/
theorem run_keeps {σ α : Type} {s : Surroundings σ} (p : Program α) (keep : σ → Prop) {state : σ}
    (start : keep state)
    (step : ∀ c ∈ (p.run s state).calls, ∀ state, keep state → keep (s.reply c state).state) :
    keep (p.run s state).state := by
  induction p generalizing state with
  | done => exact start
  | log event next ih =>
      rw [run_log, Outcome.calls_after] at step
      exact ih start step
  | call c next ih =>
      rw [run_call, Outcome.calls_after, List.filterMap_cons, Entry.call?_called] at step
      have hfirst := step c List.mem_cons_self state start
      exact ih _ hfirst fun c hc => step c (List.mem_append_right _ hc)

theorem run_orFail_ok {σ α β : Type} {s : Surroundings σ} {p : Program (Except Error α)}
    {state : σ} {a : α} (h : (p.run s state).value = .ok a) (failed : Error → Event)
    (f : α → Program (Except Error β)) :
    (p.orFail failed f).run s state =
      ((f a).run s (p.run s state).state).after (p.run s state).journal := by
  rw [orFail, run_bind, h]

theorem run_orFail_error {σ α β : Type} {s : Surroundings σ} {p : Program (Except Error α)}
    {state : σ} {e : Error} (h : (p.run s state).value = .error e) (failed : Error → Event)
    (f : α → Program (Except Error β)) :
    (p.orFail failed f).run s state =
      ⟨.error e, (p.run s state).journal ++ [.logged (failed e)], (p.run s state).state⟩ := by
  rw [orFail, run_bind, h]
  simp [Outcome.after]

end Program

end NodeBootstrap
