import Mathlib.Logic.Function.Basic
import NodeBootstrap.Proofs.Cluster.Registration

/-! # Nodes that come up side by side

Any number of nodes run their programs against one cluster in memory. They take turns: a move of a
node logs one event or makes one call, which is answered at once. Which node moves next is left
open, and so is which calls fail. What was called and answered is kept in order. -/

namespace NodeBootstrap

open Bootstrap

open Log (Event)

/-! ## Programs of bounded length -/

namespace Program

variable {α : Type}

/-- The program ends after at most so many events and calls, whatever it is answered. -/
inductive Within : Nat → Program α → Prop where
  | done (n : Nat) (value : α) : Within n (.done value)
  | log {n : Nat} {next : Program α} (event : Event) (rest : Within n next) :
      Within (n + 1) (.log event next)
  | call {n : Nat} {c : Call} {next : c.Answer → Program α}
      (rest : ∀ answer, Within n (next answer)) : Within (n + 1) (.call c next)

theorem Within.mono {p : Program α} {n k : Nat} (h : p.Within n) (hk : n ≤ k) : p.Within k := by
  induction h generalizing k with
  | done n value => exact .done k value
  | log event _ ih =>
      obtain ⟨k, rfl⟩ := Nat.exists_eq_add_of_le' (Nat.le_of_add_left_le hk)
      exact .log event (ih (Nat.le_of_succ_le_succ hk))
  | call _ ih =>
      obtain ⟨k, rfl⟩ := Nat.exists_eq_add_of_le' (Nat.le_of_add_left_le hk)
      exact .call fun answer => ih answer (Nat.le_of_succ_le_succ hk)

end Program

namespace Bootstrap

theorem announce_within (d : Directive) : (announce d).Within 1 := .log _ (.done 0 _)

theorem register_within (self : Identity) (members : List Member) :
    (register self members).Within 5 := by
  refine .log _ (.call fun answer => ?_)
  cases answer with
  | error e => exact .log _ (.done 2 _)
  | ok added => exact .log _ (.call fun () => announce_within _)

theorem settle_within (self : Identity) (members : List Member) :
    (settle self members).Within 5 := by
  by_cases hempty : members = []
  · rw [hempty, settle_nil]
    exact (announce_within _).mono (by omega)
  by_cases hmember : IsMember self.advertisePeerUrl members
  · rw [settle_of_isMember hmember]
    exact .log _ ((announce_within _).mono (by omega))
  · rw [settle_of_not_isMember hempty hmember]
    exact register_within self members

theorem discoverMembers_within (self : Identity) (attempt left : Nat) :
    ((discoverMembers attempt left).bind (settle self)).Within (3 * left + 4) := by
  induction left generalizing attempt with
  | zero => exact .log _ ((announce_within _).mono (by omega))
  | succ left ih =>
      refine .call fun answer => ?_
      cases answer with
      | error e => exact .log _ (.call fun () => ih (attempt + 1))
      | ok members => exact .log _ ((settle_within self members).mono (by omega))

/-- Discovery ends after nineteen events and calls at the latest. -/
theorem discover_within (self : Identity) : (discover self).Within 19 :=
  discoverMembers_within self 1 listAttempts

end Bootstrap

/-! ## Moves -/

/-- A call of a node and its answer. -/
structure Exchange (ι : Type) where
  node : ι
  /-- The members that the cluster held when the call was made. -/
  held : List Member
  call : Call
  answer : call.Answer

structure Move (ι : Type) where
  node : ι
  /-- With what a call of the cluster fails. -/
  fault : Option Error

structure Deployment (ι : Type) where
  cluster : MemoryCluster
  /-- What the nodes have left to do. -/
  programs : ι → Program (Except Error Directive)
  history : List (Exchange ι) := []

variable {ι : Type}

namespace Exchange

/-- A list that was answered. -/
def listed (i : ι) (members : List Member) : Exchange ι :=
  ⟨i, members, .cluster .list, .ok members⟩

/-- An addition that was answered. -/
def added (i : ι) (held : List Member) (peerUrl : String) (m : Member) : Exchange ι :=
  ⟨i, held, .cluster (.add peerUrl), .ok m⟩

/-- The node and the member, where a member was added. -/
def addition? : Exchange ι → Option (ι × Member)
  | ⟨node, _, .cluster (.add _), .ok m⟩ => some (node, m)
  | _ => none

@[simp] theorem addition?_listed (i : ι) (members : List Member) :
    (listed i members).addition? = none := rfl

@[simp] theorem addition?_added (i : ι) (held : List Member) (peerUrl : String) (m : Member) :
    (added i held peerUrl m).addition? = some (i, m) := rfl

theorem node_of_addition? {x : Exchange ι} {a : ι × Member} (h : x.addition? = some a) :
    a.1 = x.node := by
  unfold addition? at h
  split at h
  · rw [← Option.some.inj h]
  · cases h

end Exchange

/-- A cluster in memory any call of which may fail without effect. -/
def MemoryCluster.flaky : (fault : Option Error) → Surroundings MemoryCluster
  | none => surroundings (.ok 0)
  | some e => { surroundings (.ok 0) with cluster := fun _ s => ⟨.error e, [], s⟩ }

namespace Deployment

open MemoryCluster

/-- The members that were added, in order, each with the node that added it. -/
def additions (history : List (Exchange ι)) : List (ι × Member) :=
  history.filterMap Exchange.addition?

@[simp] theorem additions_nil : additions ([] : List (Exchange ι)) = [] := rfl

@[simp] theorem additions_cons (x : Exchange ι) (history : List (Exchange ι)) :
    additions (x :: history) = x.addition?.toList ++ additions history := by
  rw [additions, List.filterMap_cons]
  cases x.addition? <;> rfl

@[simp] theorem additions_append (earlier later : List (Exchange ι)) :
    additions (earlier ++ later) = additions earlier ++ additions later :=
  List.filterMap_append

/-- Every node is about to find out how to start. -/
def initial (selves : ι → Identity) (s : MemoryCluster) : Deployment ι :=
  { cluster := s
    programs := fun i => discover (selves i) }

/-- What a node returned, once it has. -/
def returned (w : Deployment ι) (i : ι) : Option (Except Error Directive) :=
  match w.programs i with
  | .done value => some value
  | _ => none

theorem returned_eq_some_iff {w : Deployment ι} {i : ι} {value : Except Error Directive} :
    w.returned i = some value ↔ w.programs i = .done value := by
  rw [returned]
  cases w.programs i <;> simp

variable [DecidableEq ι]

/-- The next event or call of a node. A node that has returned does nothing more. -/
def move (w : Deployment ι) (m : Move ι) : Deployment ι :=
  match w.programs m.node with
  | .done _ => w
  | .log _ next => { w with programs := Function.update w.programs m.node next }
  | .call c next =>
    let reply := (flaky m.fault).reply c w.cluster
    { cluster := reply.state
      programs := Function.update w.programs m.node (next reply.answer)
      history := w.history ++ [⟨m.node, w.cluster.members, c, reply.answer⟩] }

def after (w : Deployment ι) (moves : List (Move ι)) : Deployment ι := moves.foldl move w

@[simp] theorem after_nil (w : Deployment ι) : w.after [] = w := rfl

@[simp] theorem after_cons (w : Deployment ι) (m : Move ι) (moves : List (Move ι)) :
    w.after (m :: moves) = (w.move m).after moves := rfl

variable {w : Deployment ι} {m : Move ι} {i : ι}

theorem move_of_done {value : Except Error Directive} (h : w.programs m.node = .done value) :
    w.move m = w := by
  rw [move, h]

theorem move_of_log {event : Event} {next : Program (Except Error Directive)}
    (h : w.programs m.node = .log event next) :
    w.move m = { w with programs := Function.update w.programs m.node next } := by
  rw [move, h]

theorem move_of_call {c : Call} {next : c.Answer → Program (Except Error Directive)}
    (h : w.programs m.node = .call c next) :
    w.move m =
      { cluster := ((flaky m.fault).reply c w.cluster).state
        programs := Function.update w.programs m.node
          (next ((flaky m.fault).reply c w.cluster).answer)
        history := w.history ++
          [⟨m.node, w.cluster.members, c, ((flaky m.fault).reply c w.cluster).answer⟩] } := by
  rw [move, h]

theorem programs_move_of_ne (h : m.node ≠ i) : (w.move m).programs i = w.programs i := by
  cases hp : w.programs m.node with
  | done => rw [move_of_done hp]
  | log event next =>
      rw [move_of_log hp]
      exact Function.update_of_ne h.symm ..
  | call c next =>
      rw [move_of_call hp]
      exact Function.update_of_ne h.symm ..

theorem programs_move_of_log {event : Event} {next : Program (Except Error Directive)}
    (h : w.programs m.node = .log event next) : (w.move m).programs m.node = next := by
  rw [move_of_log h]
  exact Function.update_self ..

theorem programs_move_of_call {c : Call} {next : c.Answer → Program (Except Error Directive)}
    (h : w.programs m.node = .call c next) :
    (w.move m).programs m.node = next ((flaky m.fault).reply c w.cluster).answer := by
  rw [move_of_call h]
  exact Function.update_self ..

/-! ## A node that is left alone -/

/-- A node that nobody interrupts and nothing fails for runs its program in the cluster. -/
theorem exists_after_alone (p : Program (Except Error Directive)) (w : Deployment ι)
    (h : w.programs i = p) :
    ∃ count, (w.after (.replicate count ⟨i, none⟩)).returned i =
        some (p.run (surroundings (.ok 0)) w.cluster).value ∧
      (w.after (.replicate count ⟨i, none⟩)).cluster =
        (p.run (surroundings (.ok 0)) w.cluster).state := by
  induction p generalizing w with
  | done value => exact ⟨0, returned_eq_some_iff.mpr h, rfl⟩
  | log event next ih =>
      have hmove : w.move ⟨i, none⟩ = _ := move_of_log h
      obtain ⟨count, hreturned, hcluster⟩ := ih (w.move ⟨i, none⟩) (programs_move_of_log h)
      refine ⟨count + 1, ?_, ?_⟩
      · rw [List.replicate_succ, after_cons, hreturned, hmove, Program.run_log,
          Outcome.value_after]
      · rw [List.replicate_succ, after_cons, hcluster, hmove, Program.run_log,
          Outcome.state_after]
  | call c next ih =>
      have hmove : w.move ⟨i, none⟩ = _ := move_of_call h
      obtain ⟨count, hreturned, hcluster⟩ := ih _ (w.move ⟨i, none⟩) (programs_move_of_call h)
      refine ⟨count + 1, ?_, ?_⟩
      · rw [List.replicate_succ, after_cons, hreturned, hmove, Program.run_call,
          Outcome.value_after]
        rfl
      · rw [List.replicate_succ, after_cons, hcluster, hmove, Program.run_call,
          Outcome.state_after]
        rfl

/-! ## Every node returns -/

theorem within_move {n : Nat} (h : (w.programs m.node).Within n) :
    ((w.move m).programs m.node).Within (n - 1) := by
  cases hp : w.programs m.node with
  | done value =>
      rw [move_of_done hp, hp]
      exact .done _ value
  | log event next =>
      rw [hp] at h
      rw [programs_move_of_log hp]
      cases h with
      | log _ rest => exact rest
  | call c next =>
      rw [hp] at h
      rw [programs_move_of_call hp]
      cases h with
      | call rest => exact rest _

/-- A node has returned once it has made as many moves as its program can take. -/
theorem exists_returned {n : Nat} (moves : List (Move ι)) (h : (w.programs i).Within n)
    (hmoves : n ≤ (moves.map Move.node).count i) :
    ∃ value, (w.after moves).returned i = some value := by
  induction moves generalizing w n with
  | nil =>
      obtain rfl : n = 0 := Nat.le_zero.mp hmoves
      generalize hp : w.programs i = p at h
      cases h with
      | done _ value => exact ⟨value, returned_eq_some_iff.mpr hp⟩
  | cons m moves ih =>
      by_cases hm : m.node = i
      · subst hm
        rw [List.map_cons, List.count_cons_self] at hmoves
        exact ih (within_move h) (Nat.sub_le_of_le_add hmoves)
      · rw [List.map_cons, List.count_cons_of_ne hm] at hmoves
        refine ih ?_ hmoves
        rw [programs_move_of_ne hm]
        exact h

theorem exists_returned_initial (selves : ι → Identity) (s : MemoryCluster) {moves : List (Move ι)}
    (hmoves : 19 ≤ (moves.map Move.node).count i) :
    ∃ value, ((initial selves s).after moves).returned i = some value :=
  exists_returned moves (discover_within (selves i)) hmoves

end Deployment

end NodeBootstrap
