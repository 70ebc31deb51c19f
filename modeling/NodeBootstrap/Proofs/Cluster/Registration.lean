import NodeBootstrap.Cluster.Memory
import NodeBootstrap.Proofs.Bootstrap.Contract

/-! # Registrations in a cluster in memory

A node registers itself at most once, however often it is started and whatever fails on the way. The
reason is that a node adds itself only to a list of members that it is not in, and that this list is
the one that the addition extends. -/

namespace NodeBootstrap

open Bootstrap

namespace MemoryCluster

variable {s : MemoryCluster} {engine : Except Error Nat}

/-- The cluster after a sequence of steps. -/
def after (s : MemoryCluster) (steps : List Step) : MemoryCluster := steps.foldl step s

@[simp] theorem after_nil (s : MemoryCluster) : s.after [] = s := rfl

@[simp] theorem after_cons (s : MemoryCluster) (first : Step) (steps : List Step) :
    s.after (first :: steps) = (s.step first).after steps := rfl

/-- How many members have the URL as their own. -/
def registrations (s : MemoryCluster) (peerUrl : String) : Nat :=
  (s.members.map Member.peerUrl?).count (some peerUrl)

theorem registrations_eq_zero_iff (s : MemoryCluster) (peerUrl : String) :
    s.registrations peerUrl = 0 ↔ ¬IsMember peerUrl s.members := by
  simp [registrations, IsMember, List.count_eq_zero]

/-! ## Calls in memory -/

theorem cluster_list_of_zero (h : s.failingLists = 0) (engine : Except Error Nat) :
    (surroundings engine).cluster .list s = ⟨.ok s.members, [], s⟩ := by
  simp [surroundings, api, answer, listed, h]

theorem cluster_list_of_pos (h : 0 < s.failingLists) (engine : Except Error Nat) :
    (surroundings engine).cluster .list s =
      ⟨.error down, [], { s with failingLists := s.failingLists - 1 }⟩ := by
  simp [surroundings, api, answer, listed, Nat.ne_of_gt h]

theorem cluster_add_of_none (h : s.addFault = none) (engine : Except Error Nat)
    (peerUrl : String) :
    (surroundings engine).cluster (.add peerUrl) s =
      ⟨.ok (s.nextMember peerUrl), [],
        { s with
          members := s.members ++ [s.nextMember peerUrl]
          additions := s.additions + 1 }⟩ := by
  simp [surroundings, api, answer, added, h]

theorem cluster_add_of_some {e : Error} (h : s.addFault = some e) (engine : Except Error Nat)
    (peerUrl : String) :
    (surroundings engine).cluster (.add peerUrl) s = ⟨.error e, [], s⟩ := by
  simp [surroundings, api, answer, added, h]

theorem members_reply (s : MemoryCluster) {call : Call}
    (hcluster : ∀ peerUrl, call ≠ .cluster (.add peerUrl))
    (hnode : ∀ peerUrl, call ≠ .ownNode (.add peerUrl)) :
    (((surroundings engine).reply call s).state).members = s.members := by
  have hlisted : s.listed.2.members = s.members := by
    rw [listed]
    split <;> rfl
  have hread : s.read.2.members = s.members := by
    rw [read]
    split <;> rfl
  cases call with
  | cluster c =>
      cases c with
      | list => exact hlisted
      | add peerUrl => exact absurd rfl (hcluster peerUrl)
      | keys => exact hread
  | ownNode c =>
      cases c with
      | list => exact hlisted
      | add peerUrl => exact absurd rfl (hnode peerUrl)
      | keys => exact hread
  | launch => rfl
  | pid => rfl
  | sleep => rfl

/-- A program that adds nothing leaves the members as they are. -/
theorem members_run {α : Type} (p : Program α) (s : MemoryCluster)
    (hcluster : ∀ peerUrl, .cluster (.add peerUrl) ∉ (p.run (surroundings engine) s).calls)
    (hnode : ∀ peerUrl, .ownNode (.add peerUrl) ∉ (p.run (surroundings engine) s).calls) :
    (p.run (surroundings engine) s).state.members = s.members := by
  refine p.run_keeps (fun s' : MemoryCluster => s'.members = s.members) rfl fun call hcall s' hs' => ?_
  rw [members_reply s' (fun u hu => hcluster u (hu ▸ hcall)) fun u hu => hnode u (hu ▸ hcall)]
  exact hs'

/-! ## Discovery in memory -/

/-- The cluster after the failures that a discovery meets. -/
def drained (s : MemoryCluster) (attempts : Nat) : MemoryCluster :=
  { s with failingLists := s.failingLists - attempts }

/-- What discovery knows of the members. -/
def seen (s : MemoryCluster) (attempts : Nat) : List Member :=
  if s.failingLists < attempts then s.members else []

theorem drained_of_zero (h : s.failingLists = 0) (attempts : Nat) : s.drained attempts = s := by
  rw [drained, h, Nat.zero_sub, ← h]

theorem run_discoverMembers (engine : Except Error Nat) (attempt left : Nat)
    (s : MemoryCluster) :
    ((discoverMembers attempt left).run (surroundings engine) s).value = s.seen left ∧
      ((discoverMembers attempt left).run (surroundings engine) s).state = s.drained left := by
  induction left generalizing attempt s with
  | zero => exact ⟨rfl, rfl⟩
  | succ left ih =>
      rcases Nat.eq_zero_or_pos s.failingLists with hzero | hpos
      · have hlist := cluster_list_of_zero hzero engine
        rw [run_discoverMembers_of_ok (congrArg Reply.answer hlist), hlist,
          drained_of_zero hzero, seen, hzero, if_pos left.succ_pos]
        exact ⟨rfl, rfl⟩
      · have hlist := cluster_list_of_pos hpos engine
        rw [run_discoverMembers_of_error _ _ .noEndpoints _ _ _ (congrArg Reply.answer hlist),
          hlist]
        obtain ⟨hvalue, hstate⟩ := ih (attempt + 1) (s.drained 1)
        refine ⟨hvalue.trans ?_, hstate.trans ?_⟩
        · have hlt : s.failingLists - 1 < left ↔ s.failingLists < left + 1 := by omega
          simp only [seen, drained, hlt]
        · simp only [drained, Nat.sub_sub, Nat.add_comm 1 left]

theorem seen_of_ne_nil {attempts : Nat} (h : s.seen attempts ≠ []) :
    s.seen attempts = s.members := by
  rw [seen] at h ⊢
  split at h
  · next hlt => rw [if_pos hlt]
  · exact absurd rfl h

/-- Whether discovery adds a node with that URL. -/
def Registers (s : MemoryCluster) (peerUrl : String) : Prop :=
  s.seen listAttempts ≠ [] ∧ ¬IsMember peerUrl (s.seen listAttempts) ∧ s.addFault = none

instance (s : MemoryCluster) (peerUrl : String) : Decidable (s.Registers peerUrl) :=
  inferInstanceAs (Decidable (_ ∧ _ ∧ _))

/-- The members that discovery adds. -/
def joining (s : MemoryCluster) (peerUrl : String) : List Member :=
  if s.Registers peerUrl then [s.nextMember peerUrl] else []

/-- The cluster after a discovery. -/
def registered (s : MemoryCluster) (peerUrl : String) : MemoryCluster :=
  { s.drained listAttempts with
    members := s.members ++ s.joining peerUrl
    additions := s.additions + (s.joining peerUrl).length }

/-- What a discovery finds. -/
def directive (s : MemoryCluster) (self : Identity) : Except Error Directive :=
  if s.seen listAttempts = [] then .ok (.originate self)
  else if IsMember self.advertisePeerUrl (s.seen listAttempts) then
    .ok (.rejoin (s.seen listAttempts))
  else
    match s.addFault with
    | some e => .error e
    | none => .ok (.join (s.seen listAttempts) self)

theorem registered_of_not_registers {peerUrl : String} (h : ¬s.Registers peerUrl) :
    s.registered peerUrl = s.drained listAttempts := by
  rw [registered, joining, if_neg h, List.append_nil]
  rfl

theorem run_settle (engine : Except Error Nat) (self : Identity) (s : MemoryCluster) :
    ((settle self (s.seen listAttempts)).run (surroundings engine)
        (s.drained listAttempts)).value = s.directive self ∧
      ((settle self (s.seen listAttempts)).run (surroundings engine)
        (s.drained listAttempts)).state = s.registered self.advertisePeerUrl := by
  by_cases hempty : s.seen listAttempts = []
  · rw [registered_of_not_registers fun h => h.1 hempty, directive, if_pos hempty, hempty]
    exact ⟨rfl, rfl⟩
  by_cases hmember : IsMember self.advertisePeerUrl (s.seen listAttempts)
  · rw [registered_of_not_registers fun h => h.2.1 hmember, directive, if_neg hempty,
      if_pos hmember, settle_of_isMember hmember]
    exact ⟨rfl, rfl⟩
  rw [directive, if_neg hempty, if_neg hmember, settle_of_not_isMember hempty hmember]
  cases hfault : s.addFault with
  | some e =>
      have hadd := cluster_add_of_some (s := s.drained listAttempts) hfault engine
        self.advertisePeerUrl
      have hnot : ¬s.Registers self.advertisePeerUrl := fun h => nomatch hfault.symm.trans h.2.2
      rw [registered_of_not_registers hnot,
        run_register_of_error _ (congrArg Reply.answer hadd), hadd]
      exact ⟨rfl, rfl⟩
  | none =>
      have hadd := cluster_add_of_none (s := s.drained listAttempts) hfault engine
        self.advertisePeerUrl
      rw [registered, joining, if_pos ⟨hempty, hmember, hfault⟩,
        run_register_of_ok _ (congrArg Reply.answer hadd), hadd]
      exact ⟨rfl, rfl⟩

theorem run_discover (engine : Except Error Nat) (self : Identity) (s : MemoryCluster) :
    ((discover self).run (surroundings engine) s).value = s.directive self ∧
      ((discover self).run (surroundings engine) s).state =
        s.registered self.advertisePeerUrl := by
  obtain ⟨hvalue, hstate⟩ := run_discoverMembers engine 1 listAttempts s
  rw [discover, Program.run_bind, Outcome.value_after, Outcome.state_after, hvalue, hstate]
  exact run_settle engine self s

/-! ## Starts in memory -/

theorem members_run_launchWith (engine : Except Error Nat) (c : Config) (d : Directive)
    (s : MemoryCluster) :
    ((launchWith c d).run (surroundings engine) s).state.members = s.members := by
  refine members_run _ s (fun u hu => ?_) fun u hu => ?_
  all_goals
    rcases launchWith_gateCall hu with hlaunch | hgate
    · cases hlaunch
    · cases hgate

theorem members_start_of_invalid {c : Config} {fault : ConfigFault}
    (h : c.validate = .error fault) (engine : Except Error Nat) (s : MemoryCluster) :
    (s.step (.start c engine)).members = s.members := by
  rw [step, run_start_of_invalid h]

theorem members_start_of_valid {c : Config} (h : c.validate = .ok ()) (engine : Except Error Nat)
    (s : MemoryCluster) :
    (s.step (.start c engine)).members =
      s.members ++ s.joining c.identity.advertisePeerUrl := by
  obtain ⟨-, hstate⟩ := run_discover engine c.identity s
  rw [step]
  cases found : (discovered (surroundings engine) c s).value with
  | error e =>
      rw [run_start_of_undiscovered h found]
      exact congrArg members hstate
  | ok d =>
      rw [run_start_of_discovered h found, Outcome.state_after, members_run_launchWith]
      exact congrArg members hstate

theorem members_initialCluster_of_invalid {c : Config} {fault : ConfigFault}
    (h : c.validate = .error fault) (s : MemoryCluster) :
    (s.step (.initialCluster c)).members = s.members := by
  rw [step, run_initialCluster_of_invalid h]

theorem step_initialCluster_of_valid {c : Config} (h : c.validate = .ok ())
    (s : MemoryCluster) :
    s.step (.initialCluster c) = s.registered c.identity.advertisePeerUrl := by
  rw [step, run_initialCluster_of_valid h]
  exact (run_discover (.ok 0) c.identity s).2

/-- What bringing up a node may do to the members. -/
structure Extends (s : MemoryCluster) (c : Config) (s' : MemoryCluster) : Prop where
  /-- The members stay as they are, and at most one comes after them. -/
  appended : ∃ new, s'.members = s.members ++ new ∧ new.length ≤ 1 ∧
    ∀ m ∈ new, m.peerUrls = [c.identity.advertisePeerUrl] ∧ m.name = "" ∧ m.clientUrls = []
  invalid : c.validate ≠ .ok () → s'.members = s.members
  refused : s.addFault ≠ none → s'.members = s.members

theorem joining_of_fault (h : s.addFault ≠ none) (peerUrl : String) : s.joining peerUrl = [] :=
  if_neg fun registers => h registers.2.2

theorem Extends.of_members {c : Config} {s' : MemoryCluster}
    (invalid : ∀ fault, c.validate = .error fault → s'.members = s.members)
    (valid : c.validate = .ok () →
      s'.members = s.members ++ s.joining c.identity.advertisePeerUrl) : s.Extends c s' := by
  cases h : c.validate with
  | error fault =>
      have hsame := invalid fault h
      exact ⟨⟨[], by simpa using hsame, Nat.zero_le 1, by simp⟩, fun _ => hsame, fun _ => hsame⟩
  | ok =>
      have happended := valid h
      refine ⟨⟨_, happended, ?_, ?_⟩, fun hinvalid => absurd h hinvalid, fun hfault => ?_⟩
      · rw [joining]
        split <;> simp
      · intro m hm
        rw [joining] at hm
        split at hm
        · rw [List.mem_singleton.mp hm]
          exact ⟨rfl, rfl, rfl⟩
        · cases hm
      · rw [happended, joining_of_fault hfault, List.append_nil]

theorem extends_start (s : MemoryCluster) (c : Config) (engine : Except Error Nat) :
    s.Extends c (s.step (.start c engine)) :=
  .of_members (fun _ h => members_start_of_invalid h engine s)
    fun h => members_start_of_valid h engine s

theorem extends_initialCluster (s : MemoryCluster) (c : Config) :
    s.Extends c (s.step (.initialCluster c)) :=
  .of_members (fun _ h => members_initialCluster_of_invalid h s)
    fun h => congrArg members (step_initialCluster_of_valid h s)

/-! ## At most one registration -/

theorem registrations_congr {s' : MemoryCluster} (h : s'.members = s.members) (peerUrl : String) :
    s'.registrations peerUrl = s.registrations peerUrl := by
  rw [registrations, registrations, h]

/-- Whoever joins had no registration before. -/
theorem registrations_joining_le {s' : MemoryCluster} {own : String}
    (h : s'.members = s.members ++ s.joining own) (peerUrl : String) :
    s'.registrations peerUrl ≤ max 1 (s.registrations peerUrl) := by
  by_cases hregisters : s.Registers own
  · -- What discovery saw is the very list that the addition extends.
    have hforeign := hregisters.2.1
    rw [seen_of_ne_nil hregisters.1] at hforeign
    have hnone : s.registrations own = 0 := (s.registrations_eq_zero_iff own).mpr hforeign
    have hsum : s'.registrations peerUrl =
        s.registrations peerUrl + [some own].count (some peerUrl) := by
      rw [registrations, h, joining, if_pos hregisters, List.map_append, List.count_append]
      rfl
    by_cases hown : own = peerUrl
    · subst hown
      rw [hsum, hnone, List.count_singleton_self]
      omega
    · have hother : [some own].count (some peerUrl) = 0 := by
        rw [List.count_eq_zero, List.mem_singleton, Option.some.injEq]
        exact Ne.symm hown
      rw [hsum, hother]
      omega
  · rw [joining, if_neg hregisters, List.append_nil] at h
    rw [registrations_congr h]
    omega

theorem peerUrls_modify_name (members : List Member) (i : Nat) (name : String) :
    (members.modify i fun m => { m with name := name }).map Member.peerUrl? =
      members.map Member.peerUrl? := by
  refine List.ext_getElem? fun j => ?_
  rw [List.getElem?_map, List.getElem?_map, List.getElem?_modify, Option.map_eq_map,
    Option.map_map]
  split <;> rfl

theorem registrations_rename (s : MemoryCluster) (id name peerUrl : String) :
    (s.rename id name).registrations peerUrl = s.registrations peerUrl := by
  rw [rename]
  split
  · rw [registrations, peerUrls_modify_name, registrations]
  · rfl

theorem registrations_remove_le (s : MemoryCluster) (id peerUrl : String) :
    (s.remove id).registrations peerUrl ≤ s.registrations peerUrl :=
  (List.eraseP_sublist.map Member.peerUrl?).count_le _

/-- No step gives a node a second registration. -/
theorem registrations_step_le (s : MemoryCluster) (next : Step) (peerUrl : String) :
    (s.step next).registrations peerUrl ≤ max 1 (s.registrations peerUrl) := by
  have hsame : ∀ {s' : MemoryCluster}, s'.members = s.members →
      s'.registrations peerUrl ≤ max 1 (s.registrations peerUrl) := by
    intro s' h
    rw [registrations_congr h]
    exact Nat.le_max_right 1 _
  cases next with
  | start c engine =>
      cases h : c.validate with
      | error fault => exact hsame (members_start_of_invalid h engine s)
      | ok => exact registrations_joining_le (members_start_of_valid h engine s) peerUrl
  | initialCluster c =>
      cases h : c.validate with
      | error fault => exact hsame (members_initialCluster_of_invalid h s)
      | ok =>
          have hmembers := congrArg members (step_initialCluster_of_valid h s)
          exact registrations_joining_le hmembers peerUrl
  | failLists count => exact hsame rfl
  | failReads count => exact hsame rfl
  | failAdditions fault => exact hsame rfl
  | rename id name =>
      rw [step, registrations_rename]
      exact Nat.le_max_right 1 _
  | remove id => exact Nat.le_trans (registrations_remove_le s id peerUrl) (Nat.le_max_right 1 _)

theorem registrations_after_le (s : MemoryCluster) (steps : List Step) (peerUrl : String) :
    (s.after steps).registrations peerUrl ≤ max 1 (s.registrations peerUrl) := by
  induction steps generalizing s with
  | nil => exact Nat.le_max_right 1 _
  | cons first steps ih =>
      have hfirst := s.registrations_step_le first peerUrl
      have hrest := ih (s.step first)
      rw [after_cons]
      omega

/-- Along any run a node has at most one registration, or as many as it started with; and bringing
up a node at most appends its own. -/
theorem registers_once (s : MemoryCluster) (steps : List Step) :
    (∀ peerUrl, (s.after steps).registrations peerUrl ≤ max 1 (s.registrations peerUrl)) ∧
      ∀ c, (∀ engine, (s.after steps).Extends c ((s.after steps).step (.start c engine))) ∧
        (s.after steps).Extends c ((s.after steps).step (.initialCluster c)) :=
  ⟨s.registrations_after_le steps, fun c =>
    ⟨(s.after steps).extends_start c, (s.after steps).extends_initialCluster c⟩⟩

end MemoryCluster

end NodeBootstrap
