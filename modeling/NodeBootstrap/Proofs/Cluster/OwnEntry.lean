import NodeBootstrap.Proofs.Cluster.Registration

/-! # The own entry of a node

The engine is handed the entries of all members. A node that originates a cluster or joins one
writes its own entry itself; a node that is a member already takes the one that the cluster reports,
under the name that the cluster knows. A node that was registered and never ran has no name yet, so
that its own entry is not handed over. -/

namespace NodeBootstrap

open Bootstrap

namespace Engine

theorem clusterArguments_injective : Function.Injective clusterArguments := by
  intro d d' h
  obtain ⟨members, state⟩ := d
  obtain ⟨members', state'⟩ := d'
  simp only [clusterArguments, List.cons.injEq, true_and, and_true] at h
  obtain ⟨rfl, hstate⟩ := h
  rw [ClusterState.text_injective hstate]

/-- The command line tells which directive it was built from. -/
theorem arguments_inj {c : Config} {self : Identity} {d d' : Directive} :
    arguments c self d = arguments c self d' ↔ d = d' := by
  constructor
  · intro h
    exact clusterArguments_injective (List.append_cancel_left h)
  · rintro rfl
    rfl

end Engine

theorem nodeName_ne_empty (name : String) (index : UInt32) : nodeName name index ≠ "" := by
  intro h
  have hlength := congrArg String.length h
  simp [nodeName] at hlength

theorem Config.name_ne_empty (c : Config) : c.identity.name ≠ "" :=
  nodeName_ne_empty c.node.name c.node.index

namespace MemoryCluster

variable {s : MemoryCluster} {c : Config} {engine : Except Error Nat}

/-! ## Entries of a directive -/

/-- The entries of the directive that discovery finds. -/
def entries (s : MemoryCluster) (self : Identity) : List String :=
  if s.seen listAttempts = [] then [self.entry]
  else if IsMember self.advertisePeerUrl (s.seen listAttempts) then
    (s.seen listAttempts).map Member.entry
  else (s.seen listAttempts).map Member.entry ++ [self.entry]

theorem members_of_directive {self : Identity} {d : Directive} (h : s.directive self = .ok d) :
    d.members = ",".intercalate (s.entries self) := by
  rw [directive] at h
  rw [entries]
  split at h
  · obtain rfl := Except.ok.inj h
    rw [if_pos ‹_›, String.intercalate_singleton]
    rfl
  · rw [if_neg ‹_›]
    split at h
    · obtain rfl := Except.ok.inj h
      rw [if_pos ‹_›]
      rfl
    · rw [if_neg ‹_›]
      split at h
      · cases h
      · obtain rfl := Except.ok.inj h
        rfl

/-- The own entry is there unless the node is a member already, and no member is written like it. -/
theorem entry_mem_entries_iff (s : MemoryCluster) (self : Identity) :
    self.entry ∈ s.entries self ↔
      (IsMember self.advertisePeerUrl (s.seen listAttempts) →
        ∃ m ∈ s.seen listAttempts, m.entry = self.entry) := by
  rw [entries]
  by_cases hempty : s.seen listAttempts = []
  · rw [if_pos hempty, hempty]
    constructor
    · rintro - ⟨m, hm, -⟩
      cases hm
    · intro _
      exact List.mem_singleton_self _
  by_cases hmember : IsMember self.advertisePeerUrl (s.seen listAttempts)
  · rw [if_neg hempty, if_pos hmember, List.mem_map]
    exact ⟨fun h _ => h, fun h => h hmember⟩
  · rw [if_neg hempty, if_neg hmember]
    constructor
    · exact fun _ h => absurd h hmember
    · exact fun _ => List.mem_append_right _ (List.mem_singleton_self _)

theorem launch_mem_calls_iff (s : MemoryCluster) (c : Config) (engine : Except Error Nat)
    (arguments : List String) :
    .launch arguments ∈ ((start c).run (surroundings engine) s).calls ↔
      c.validate = .ok () ∧ ∃ d, s.directive c.identity = .ok d ∧
        arguments = Engine.arguments c c.identity d := by
  rw [(start_started (surroundings engine) c s).launch_iff, discovered,
    (run_discover engine c.identity s).1]

/-! ## The same directive a second time -/

theorem directive_of_nil (h : s.seen listAttempts = []) (self : Identity) :
    s.directive self = .ok (.originate self) := if_pos h

theorem directive_of_isMember {self : Identity}
    (h : IsMember self.advertisePeerUrl (s.seen listAttempts)) :
    s.directive self = .ok (.rejoin (s.seen listAttempts)) := by
  obtain ⟨m, hm, own⟩ := h
  rw [directive, if_neg (List.ne_nil_of_mem hm), if_pos ⟨m, hm, own⟩]

theorem directive_of_registers {self : Identity} (h : s.Registers self.advertisePeerUrl) :
    s.directive self = .ok (.join (s.seen listAttempts) self) := by
  obtain ⟨hne, hforeign, hfault⟩ := h
  rw [directive, if_neg hne, if_neg hforeign, hfault]

/-- A directive originates a cluster exactly when discovery saw no member. -/
theorem state_of_directive {self : Identity} {d : Directive} (h : s.directive self = .ok d) :
    d.state = .new ↔ s.seen listAttempts = [] := by
  by_cases hempty : s.seen listAttempts = []
  · rw [directive_of_nil hempty] at h
    obtain rfl := Except.ok.inj h
    exact ⟨fun _ => hempty, fun _ => rfl⟩
  refine ⟨fun hnew => ?_, fun hnil => absurd hnil hempty⟩
  rw [directive, if_neg hempty] at h
  split at h
  · obtain rfl := Except.ok.inj h
    cases hnew
  · split at h
    · cases h
    · obtain rfl := Except.ok.inj h
      cases hnew

theorem seen_of_lt {attempts : Nat} (h : s.failingLists < attempts) :
    s.seen attempts = s.members := if_pos h

theorem seen_of_le {attempts : Nat} (h : attempts ≤ s.failingLists) : s.seen attempts = [] :=
  if_neg (Nat.not_lt.mpr h)

theorem seen_eq_nil_iff (s : MemoryCluster) (attempts : Nat) :
    s.seen attempts = [] ↔ s.members = [] ∨ attempts ≤ s.failingLists := by
  rcases Nat.lt_or_ge s.failingLists attempts with hlt | hle
  · rw [seen_of_lt hlt]
    exact ⟨.inl, fun h => h.resolve_right (Nat.not_le.mpr hlt)⟩
  · rw [seen_of_le hle]
    exact ⟨fun _ => .inr hle, fun _ => rfl⟩

theorem length_entry (name peerUrl : String) :
    (Directive.entry name peerUrl).length = name.length + 1 + peerUrl.length := by
  have hentry : Directive.entry name peerUrl = name ++ "=" ++ peerUrl := rfl
  rw [hentry, String.length_append, String.length_append]
  rfl

/-- The node that was just added is not written as it writes itself. -/
theorem rejoin_ne_join {self : Identity} (named : self.name ≠ "") {members : List Member}
    (ne : members ≠ []) (s : MemoryCluster) :
    Directive.rejoin (members ++ [s.nextMember self.advertisePeerUrl]) ≠
      .join members self := by
  intro h
  have htext := congrArg Directive.members h
  have hne : members.map Member.entry ≠ [] := List.map_eq_nil_iff.not.mpr ne
  simp only [Directive.rejoin, Directive.join, List.map_append, List.map_singleton] at htext
  rw [String.intercalate_append_of_ne_nil hne (List.cons_ne_nil _ _),
    String.intercalate_append_of_ne_nil hne (List.cons_ne_nil _ _), String.intercalate_singleton,
    String.intercalate_singleton] at htext
  have hlength := congrArg String.length htext
  have hadded : (s.nextMember self.advertisePeerUrl).entry.length =
      1 + self.advertisePeerUrl.length := by
    simp [Member.entry, length_entry, nextMember, Member.peerUrl?]
  have hself : self.entry.length = self.name.length + 1 + self.advertisePeerUrl.length :=
    length_entry _ _
  -- The two texts differ in the last entry alone, which lacks the name in the first.
  rw [String.length_append _ self.entry, String.length_append _ (Member.entry _), hadded, hself]
    at hlength
  have hname : self.name.length = 0 := by omega
  exact named (String.length_eq_zero_iff.mp hname)

theorem registers_of_directive {self : Identity} {d : Directive} (h : s.directive self = .ok d)
    (ne : s.seen listAttempts ≠ [])
    (foreign : ¬IsMember self.advertisePeerUrl (s.seen listAttempts)) :
    s.Registers self.advertisePeerUrl := by
  refine ⟨ne, foreign, ?_⟩
  cases hfault : s.addFault with
  | none => rfl
  | some e =>
      rw [directive, if_neg ne, if_neg foreign, hfault] at h
      cases h

theorem directive_registered_ne {self : Identity} (named : self.name ≠ "")
    (h : s.Registers self.advertisePeerUrl) :
    (s.registered self.advertisePeerUrl).directive self ≠ s.directive self := by
  have hseen := seen_of_ne_nil h.1
  have hagain : (s.registered self.advertisePeerUrl).seen listAttempts =
      s.members ++ [s.nextMember self.advertisePeerUrl] := by
    have hlt : s.failingLists < listAttempts :=
      Nat.lt_of_not_le fun hle => h.1 (seen_of_le hle)
    have hagain : s.failingLists - listAttempts < listAttempts :=
      Nat.lt_of_le_of_lt (Nat.sub_le _ _) hlt
    rw [seen_of_lt hagain, registered, joining, if_pos h]
  have hmember : IsMember self.advertisePeerUrl
      ((s.registered self.advertisePeerUrl).seen listAttempts) := by
    rw [hagain]
    exact ⟨_, List.mem_append_right _ (List.mem_singleton_self _), rfl⟩
  have hne := h.1
  rw [directive_of_isMember hmember, directive_of_registers h, hagain, hseen]
  rw [hseen] at hne
  exact fun heq => rejoin_ne_join named hne s (Except.ok.inj heq)

theorem directive_drained_of_lt (h : s.failingLists < listAttempts) (self : Identity) :
    (s.drained listAttempts).directive self = s.directive self := by
  have hagain : s.failingLists - listAttempts < listAttempts :=
    Nat.lt_of_le_of_lt (Nat.sub_le _ _) h
  rw [directive, directive, seen_of_lt (s := s.drained listAttempts) hagain, seen_of_lt h]
  rfl

theorem seen_drained_eq_nil_iff (h : listAttempts ≤ s.failingLists) :
    (s.drained listAttempts).seen listAttempts = [] ↔
      s.members = [] ∨ 2 * listAttempts ≤ s.failingLists := by
  have hagain : listAttempts ≤ s.failingLists - listAttempts ↔
      2 * listAttempts ≤ s.failingLists := by omega
  rw [seen_eq_nil_iff, ← hagain]
  rfl

/-- A second discovery finds the directive of the first one unless the first one added the node, or
was the only one that could not reach the cluster. -/
theorem directive_registered_iff {self : Identity} (named : self.name ≠ "") {d : Directive}
    (h : s.directive self = .ok d) :
    (s.registered self.advertisePeerUrl).directive self = .ok d ↔
      s.members = [] ∨ 2 * listAttempts ≤ s.failingLists ∨
        (s.failingLists < listAttempts ∧ IsMember self.advertisePeerUrl s.members) := by
  by_cases hregisters : s.Registers self.advertisePeerUrl
  · have hseen := seen_of_ne_nil hregisters.1
    obtain ⟨hne, hforeign, -⟩ := id hregisters
    rw [hseen] at hne hforeign
    refine ⟨fun hsame => ?_, ?_⟩
    · exact absurd (hsame.trans h.symm) (directive_registered_ne named hregisters)
    · rintro (hnil | htwice | ⟨-, hown⟩)
      · exact absurd hnil hne
      · exact absurd (seen_of_le (by omega)) hregisters.1
      · exact absurd hown hforeign
  rw [registered_of_not_registers hregisters]
  rcases Nat.lt_or_ge s.failingLists listAttempts with hlt | hle
  · refine ⟨fun _ => ?_, fun _ => (directive_drained_of_lt hlt self).trans h⟩
    by_cases hnil : s.members = []
    · exact .inl hnil
    by_cases hown : IsMember self.advertisePeerUrl s.members
    · exact .inr (.inr ⟨hlt, hown⟩)
    · rw [← seen_of_lt hlt] at hnil hown
      exact absurd (registers_of_directive h hnil hown) hregisters
  · have hseen := seen_of_le hle
    have hnew := (state_of_directive h).mpr hseen
    constructor
    · intro hsame
      have hempty := (seen_drained_eq_nil_iff hle).mp ((state_of_directive hsame).mp hnew)
      exact hempty.imp_right .inl
    · intro hcond
      have hempty : s.members = [] ∨ 2 * listAttempts ≤ s.failingLists :=
        hcond.imp_right fun h => h.resolve_right fun ⟨hlt, _⟩ => by omega
      rw [directive_of_nil ((seen_drained_eq_nil_iff hle).mpr hempty), ← h,
        directive_of_nil hseen]

/-! ## What a start hands over -/

/-- Which entries the engine is handed by a start, when the own one is among them, and when a
directive that was asked for before is handed over unchanged. -/
structure OwnEntrySpec (s : MemoryCluster) (c : Config) (engine : Except Error Nat) : Prop where
  handed : ∀ arguments, .launch arguments ∈ ((start c).run (surroundings engine) s).calls →
    ∃ before clusterState, arguments = before ++
      ["--initial-cluster", ",".intercalate (s.entries c.identity),
        "--initial-cluster-state", clusterState]
  /-- A node that discovery takes for a member is handed its entry only if the cluster writes some
  member like it, which it does not do for one that was added and never named. -/
  own : c.identity.entry ∈ s.entries c.identity ↔
    (IsMember c.identity.advertisePeerUrl (s.seen listAttempts) →
      ∃ m ∈ s.seen listAttempts, m.entry = c.identity.entry)
  /-- A directive that was asked for is handed over by the next start exactly if there was no
  member, or the cluster was out of reach both times, or the node was a member before. -/
  again : ∀ d, ((initialCluster c).run (surroundings (.ok 0)) s).value = .ok d →
    (.launch (Engine.arguments c c.identity d) ∈
        ((start c).run (surroundings engine) (s.step (.initialCluster c))).calls ↔
      s.members = [] ∨ 2 * listAttempts ≤ s.failingLists ∨
        (s.failingLists < listAttempts ∧
          IsMember c.identity.advertisePeerUrl s.members))

theorem arguments_handed {arguments : List String}
    (h : .launch arguments ∈ ((start c).run (surroundings engine) s).calls) :
    ∃ before clusterState, arguments = before ++
      ["--initial-cluster", ",".intercalate (s.entries c.identity),
        "--initial-cluster-state", clusterState] := by
  obtain ⟨-, d, hd, rfl⟩ := (launch_mem_calls_iff s c engine arguments).mp h
  rw [← members_of_directive hd]
  exact ⟨_, d.state.text, rfl⟩

theorem launch_again_iff {d : Directive}
    (h : ((initialCluster c).run (surroundings (.ok 0)) s).value = .ok d) :
    .launch (Engine.arguments c c.identity d) ∈
        ((start c).run (surroundings engine) (s.step (.initialCluster c))).calls ↔
      s.members = [] ∨ 2 * listAttempts ≤ s.failingLists ∨
        (s.failingLists < listAttempts ∧ IsMember c.identity.advertisePeerUrl s.members) := by
  have valid : c.validate = .ok () := by
    cases hvalid : c.validate with
    | ok => rfl
    | error fault =>
        rw [run_initialCluster_of_invalid hvalid] at h
        cases h
  rw [run_initialCluster_of_valid valid, (run_discover (.ok 0) c.identity s).1] at h
  rw [launch_mem_calls_iff, step_initialCluster_of_valid valid,
    ← directive_registered_iff c.name_ne_empty h]
  constructor
  · rintro ⟨-, d', hd', hsame⟩
    rw [Engine.arguments_inj.mp hsame]
    exact hd'
  · exact fun hd => ⟨valid, d, hd, rfl⟩

/-! ## Nodes that were registered and never named -/

/-- Whether a step gives a member a name. -/
def Step.Names : Step → Prop
  | .rename _ _ => True
  | _ => False

/-- No member with the URL has a name. -/
def Unnamed (s : MemoryCluster) (peerUrl : String) : Prop :=
  ∀ m ∈ s.members, m.peerUrl? = some peerUrl → m.name = ""

theorem Unnamed.extends {s' : MemoryCluster} {peerUrl : String} (h : s.Unnamed peerUrl)
    (hs : s.Extends c s') : s'.Unnamed peerUrl := by
  obtain ⟨new, hmembers, -, hnew⟩ := hs.appended
  intro m hm own
  rw [hmembers] at hm
  rcases List.mem_append.mp hm with hold | hadded
  · exact h m hold own
  · exact (hnew m hadded).2.1

theorem Unnamed.step {peerUrl : String} (h : s.Unnamed peerUrl) {next : Step}
    (hnext : ¬next.Names) : (s.step next).Unnamed peerUrl := by
  cases next with
  | start c engine => exact h.extends (s.extends_start c engine)
  | initialCluster c => exact h.extends (s.extends_initialCluster c)
  | failLists count => exact h
  | failReads count => exact h
  | failAdditions fault => exact h
  | rename id name => exact absurd trivial hnext
  | remove id => exact fun m hm => h m (List.mem_of_mem_eraseP hm)

theorem Unnamed.after {peerUrl : String} (h : s.Unnamed peerUrl) {steps : List Step}
    (hsteps : ∀ next ∈ steps, ¬next.Names) : (s.after steps).Unnamed peerUrl := by
  induction steps generalizing s with
  | nil => exact h
  | cons first steps ih =>
      have hfirst := h.step (hsteps first List.mem_cons_self)
      exact ih hfirst fun next hnext => hsteps next (List.mem_cons_of_mem _ hnext)

theorem Unnamed.entry_ne {self : Identity} (named : self.name ≠ "")
    (h : s.Unnamed self.advertisePeerUrl) {m : Member} (hm : m ∈ s.members)
    (own : m.peerUrl? = some self.advertisePeerUrl) : m.entry ≠ self.entry := by
  intro heq
  have hlength := congrArg String.length heq
  rw [Member.entry, Identity.entry, length_entry, length_entry, h m hm own, own] at hlength
  have hname : self.name.length = 0 := by
    simp only [Option.getD_some, String.length_empty] at hlength
    omega
  exact named (String.length_eq_zero_iff.mp hname)

/-- After any steps, the entries that a start hands over are known, and exactly when the own one is
among them. Where no step gives a name, a registration made on the way never writes it. -/
theorem own_entry_spec (s : MemoryCluster) (steps : List Step) (c : Config)
    (engine : Except Error Nat) :
    (s.after steps).OwnEntrySpec c engine ∧
      (s.Unnamed c.identity.advertisePeerUrl → (∀ next ∈ steps, ¬next.Names) →
        ∀ m ∈ (s.after steps).members, m.peerUrl? = some c.identity.advertisePeerUrl →
          m.entry ≠ c.identity.entry) := by
  refine ⟨?_, ?_⟩
  · exact
      { handed := fun _ h => arguments_handed h
        own := entry_mem_entries_iff _ _
        again := fun _ h => launch_again_iff h }
  · intro unnamed hsteps m hm own
    exact (unnamed.after hsteps).entry_ne c.name_ne_empty hm own

/-- A node that asks for its directive is registered without a name, so that its start is handed a
nameless entry in the place of its own. -/
theorem registered_node_loses_entry :
    let s : MemoryCluster :=
      { members := [{ id := "1", name := "a", peerUrls := ["http://10.0.0.5:7001"] }] }
    let c : Config :=
      { node := { name := "kv", index := 1, externalIp := "10.0.0.6" }
        engine := { program := "kvd" } }
    c.validate = .ok () ∧ c.identity.entry = "kv-1=http://10.0.0.6:7001" ∧
      ((initialCluster c).run (surroundings (.ok 0)) s).value =
        .ok ⟨"a=http://10.0.0.5:7001,kv-1=http://10.0.0.6:7001", .existing⟩ ∧
      .launch (Engine.arguments c c.identity
          ⟨"a=http://10.0.0.5:7001,=http://10.0.0.6:7001", .existing⟩) ∈
        ((start c).run (surroundings (.ok 7)) (s.after [.initialCluster c])).calls := by
  decide +kernel

end MemoryCluster

end NodeBootstrap
