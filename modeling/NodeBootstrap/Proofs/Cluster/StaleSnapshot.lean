import NodeBootstrap.Proofs.Cluster.ConcurrentRegistration

/-! # The members that a joining node knows

A node that joins is handed the members that it listed, and itself. Whoever was added between its
list and its own addition is a member by then and is not handed over. -/

namespace NodeBootstrap

open Bootstrap MemoryCluster

/-- The text of a directive tells whether more members were known. -/
theorem Directive.join_append_eq_iff {members : List Member} (ne : members ≠ [])
    (newcomers : List Member) (self : Identity) :
    join (members ++ newcomers) self = join members self ↔ newcomers = [] := by
  constructor
  · intro h
    by_contra hnew
    have htext := congrArg Directive.members h
    have hmembers : members.map Member.entry ≠ [] := List.map_eq_nil_iff.not.mpr ne
    have hnewcomers : newcomers.map Member.entry ≠ [] := List.map_eq_nil_iff.not.mpr hnew
    have hself : [self.entry] ≠ [] := List.cons_ne_nil _ _
    simp only [join, List.map_append] at htext
    rw [String.intercalate_append_of_ne_nil (List.append_ne_nil_of_left_ne_nil hmembers _) hself,
      String.intercalate_append_of_ne_nil hmembers hnewcomers,
      String.intercalate_append_of_ne_nil hmembers hself] at htext
    have hlength := congrArg String.length htext
    have hcomma : ",".length = 1 := rfl
    simp only [String.length_append, hcomma] at hlength
    omega
  · rintro rfl
    rw [List.append_nil]

namespace Deployment

variable {ι : Type} {selves : ι → Identity} {s : MemoryCluster} {w : Deployment ι} {i : ι}
  {members held : List Member} {m : Member} {earlier between later : List (Exchange ι)}

/-! ## Between a list and an addition -/

theorem additions_of_split {peerUrl : String} (split : w.history = earlier ++ .listed i members ::
    (between ++ .added i held peerUrl m :: later)) :
    additions w.history =
      additions earlier ++ (additions between ++ (i, m) :: additions later) := by
  simp [split]

/-- The cluster that the node is added to has grown by what was added since its list. -/
theorem Sound.grown (h : Sound selves s w) {peerUrl : String}
    (split : w.history = earlier ++ .listed i members ::
      (between ++ .added i held peerUrl m :: later)) :
    held = members ++ (additions between).map Prod.snd := by
  have hsplit : w.history = (earlier ++ .listed i members :: between) ++
      .added i held peerUrl m :: later := by
    rw [split, List.append_assoc, List.cons_append]
  have hheld : held = s.members ++ (additions _).map Prod.snd := h.held_of_split hsplit
  rw [hheld, h.listed_eq split]
  simp

variable [DecidableEq ι]

/-- Nobody is listed who was added only afterwards. -/
theorem Sound.unseen (h : Sound selves s w)
    (distinct : Function.Injective fun i => (selves i).advertisePeerUrl) {peerUrl : String}
    (split : w.history = earlier ++ .listed i members ::
      (between ++ .added i held peerUrl m :: later)) {a : ι × Member}
    (ha : a ∈ additions between) : ¬IsMember (selves a.1).advertisePeerUrl members := by
  have hadditions := additions_of_split split
  have hbetween : a.1 ∈ (additions between).map Prod.fst := List.mem_map_of_mem ha
  intro hmember
  rw [h.listed_eq split] at hmember
  rcases h.isMember_or_added distinct split hmember with hknown | hearlier
  · refine h.foreign ?_ hknown
    rw [hadditions, List.map_append, List.map_append]
    exact List.mem_append_right _ (List.mem_append_left _ hbetween)
  · -- It would have been added twice.
    have honce := h.once
    rw [hadditions, List.map_append, List.map_append] at honce
    exact List.disjoint_of_nodup_append honce hearlier (List.mem_append_left _ hbetween)

/-! ## The directive of a node that joins -/

/-- How a node came to join with a directive: it listed `members`, the `newcomers` were added, and
then it was added itself, to a cluster that held `held`. -/
structure Joins (selves : ι → Identity) (w : Deployment ι) (i : ι) (d : Directive)
    (members held : List Member) (newcomers : List (ι × Member)) : Prop where
  history : ∃ earlier between later m, w.history = earlier ++ .listed i members ::
    (between ++ .added i held (selves i).advertisePeerUrl m :: later) ∧
      additions between = newcomers
  grown : held = members ++ newcomers.map Prod.snd
  directive : d = ⟨",".intercalate
    (rendered members ++ [(selves i).name ++ "=" ++ (selves i).advertisePeerUrl]), .existing⟩
  /-- Once added, the node returns that directive and never an error. -/
  returned : ∀ value, w.returned i = some value → value = .ok d
  /-- The newcomers are other nodes, each with a member of its own. -/
  others : ∀ a ∈ newcomers, a.1 ≠ i ∧ a.2.Enters (selves a.1)
  once : (newcomers.map Prod.fst).Nodup
  /-- No newcomer is among the members listed. -/
  unseen : ∀ a ∈ newcomers, ¬IsMember (selves a.1).advertisePeerUrl members
  /-- Only without newcomers is it the directive for all members that the cluster held. -/
  whole : d = .join held (selves i) ↔ newcomers = []

theorem Sound.exists_joins (h : Sound selves s w)
    (distinct : Function.Injective fun i => (selves i).advertisePeerUrl)
    (added : i ∈ (additions w.history).map Prod.fst) :
    ∃ d members held newcomers, Joins selves w i d members held newcomers := by
  obtain ⟨stage, htracks, hleft⟩ := h.tracked i
  cases htracks with
  | found _ never => exact absurd added never
  | @joined members held m earlier between later split ne _ _ meanwhile _ =>
      have hadditions := additions_of_split split
      have honce := h.once
      rw [hadditions, List.map_append, List.map_append] at honce
      refine ⟨.join members (selves i), members, held, additions between,
        { history := ⟨earlier, between, later, m, split, rfl⟩
          grown := h.grown split
          directive := rfl
          returned := fun value hvalue => ?_
          others := fun a ha => ⟨fun hi => meanwhile (hi ▸ List.mem_map_of_mem ha), ?_⟩
          once := honce.of_append_right.of_append_left
          unseen := fun a ha => h.unseen distinct split ha
          whole := ?_ }⟩
      · rw [returned_eq_some_iff.mp hvalue] at hleft
        cases hleft
        rfl
      · refine h.enters a ?_
        rw [hadditions]
        exact List.mem_append_right _ (List.mem_append_left _ ha)
      · rw [h.grown split, eq_comm, Directive.join_append_eq_iff ne, List.map_eq_nil_iff]

/-- A node that was added while others came up is handed the members that it listed, then itself.
Exactly the nodes that were added since its list are missing. -/
theorem joins_snapshot (distinct : Function.Injective fun i => (selves i).advertisePeerUrl)
    (s : MemoryCluster) (moves : List (Move ι)) (i : ι)
    (added : i ∈ (additions ((Deployment.initial selves s).after moves).history).map Prod.fst) :
    ∃ d members held newcomers,
      Joins selves ((Deployment.initial selves s).after moves) i d members held newcomers ∧
        (19 ≤ (moves.map Move.node).count i →
          ((Deployment.initial selves s).after moves).returned i = some (.ok d)) := by
  have h := (Sound.initial selves s).after moves
  obtain ⟨d, members, held, newcomers, hjoins⟩ := h.exists_joins distinct added
  refine ⟨d, members, held, newcomers, hjoins, fun hmoves => ?_⟩
  obtain ⟨value, hvalue⟩ := exists_returned_initial selves s hmoves
  rw [hvalue, hjoins.returned value hvalue]

/-- Both nodes list the only member before either is added. -/
theorem second_joins_snapshot :
    let moves : List (Move Bool) := (List.replicate 19 [⟨false, none⟩, ⟨true, none⟩]).flatten
    let w := (Deployment.initial twoNodes oneMember).after moves
    (Function.Injective fun second => (twoNodes second).advertisePeerUrl) ∧
      true ∈ (additions w.history).map Prod.fst ∧
      ∃ d members held newcomers,
        Joins twoNodes w true d members held newcomers ∧ w.returned true = some (.ok d) := by
  intro moves w
  have hadded : true ∈ (additions w.history).map Prod.fst := by decide +kernel
  obtain ⟨d, members, held, newcomers, hjoins, hreturned⟩ :=
    joins_snapshot twoNodes_distinct oneMember moves true hadded
  exact ⟨twoNodes_distinct, hadded, d, members, held, newcomers, hjoins,
    hreturned (by decide +kernel)⟩

/-- The node that is added second joins a cluster that holds the first, with a directive that lacks
it. No call fails. -/
theorem joined_without_newcomer :
    let moves : List (Move Bool) := (List.replicate 7 [⟨false, none⟩, ⟨true, none⟩]).flatten
    let w := (Deployment.initial twoNodes oneMember).after moves
    (twoNodes false).advertisePeerUrl ≠ (twoNodes true).advertisePeerUrl ∧
      oneMember.members ≠ [] ∧ (∀ m ∈ moves, m.fault = none) ∧
      (w.history.filter fun x => x.addition?.isSome).map
          (fun x => (x.node, x.held.map Member.peerUrls)) =
        [(false, [["http://h1:7001"]]), (true, [["http://h1:7001"], ["http://h2:7001"]])] ∧
      w.returned true = some (.ok ⟨"a=http://h1:7001,c=http://h3:7001", .existing⟩) ∧
      ¬"http://h2:7001".toList <:+: "a=http://h1:7001,c=http://h3:7001".toList := by
  decide +kernel

end Deployment

end NodeBootstrap
