import Mathlib.Data.Bool.Basic
import Mathlib.Data.List.Count
import Mathlib.Data.List.Nodup
import Mathlib.Data.Option.Basic
import NodeBootstrap.Proofs.Cluster.Deployment

/-! # Registrations by nodes that come up side by side

Between the list that a node finds and its own addition, other nodes may be added. Still no
registration is lost and none is made twice: a node adds itself once at the most and nobody else
adds its URL, so that its list, however old, is right about the node itself. -/

namespace NodeBootstrap

open Bootstrap MemoryCluster

/-! ## What a node may do next -/

inductive Stage where
  /-- The members that the node has found, none at first. -/
  | found (members : List Member)
  /-- The node was added after it had found the members. -/
  | joined (members : List Member)

/-- How often the node was added. -/
def Stage.additions : Stage → Nat
  | found _ => 0
  | joined _ => 1

/-- What may be left of a discovery at each stage. -/
inductive Discovering (self : Identity) : Stage → Program (Except Error Directive) → Prop where
  | log {stage : Stage} {event : Log.Event} {next : Program (Except Error Directive)}
      (rest : Discovering self stage next) : Discovering self stage (.log event next)
  | sleep {stage : Stage} {milliseconds : Nat} {next : Unit → Program (Except Error Directive)}
      (rest : Discovering self stage (next ())) :
      Discovering self stage (.call (.sleep milliseconds) next)
  | list {next : Except Error (List Member) → Program (Except Error Directive)}
      (failed : ∀ e, Discovering self (.found []) (next (.error e)))
      (answered : ∀ members, Discovering self (.found members) (next (.ok members))) :
      Discovering self (.found []) (.call (.cluster .list) next)
  | add {members : List Member} {next : Except Error Member → Program (Except Error Directive)}
      (ne : members ≠ []) (foreign : ¬IsMember self.advertisePeerUrl members)
      (failed : ∀ e, Discovering self (.found members) (next (.error e)))
      (answered : ∀ m, Discovering self (.joined members) (next (.ok m))) :
      Discovering self (.found members) (.call (.cluster (.add self.advertisePeerUrl)) next)
  | originate : Discovering self (.found []) (.done (.ok (.originate self)))
  | rejoin {members : List Member} (own : IsMember self.advertisePeerUrl members) :
      Discovering self (.found members) (.done (.ok (.rejoin members)))
  | join {members : List Member} :
      Discovering self (.joined members) (.done (.ok (.join members self)))
  | refused {members : List Member} {e : Error} :
      Discovering self (.found members) (.done (.error e))

theorem settle_discovering (self : Identity) (members : List Member) :
    Discovering self (.found members) (settle self members) := by
  by_cases hempty : members = []
  · rw [hempty, settle_nil]
    exact .log .originate
  by_cases hmember : IsMember self.advertisePeerUrl members
  · rw [settle_of_isMember hmember]
    exact .log (.log (.rejoin hmember))
  · rw [settle_of_not_isMember hempty hmember]
    exact .log (.add hempty hmember (fun _ => .log .refused) fun _ => .log (.sleep (.log .join)))

theorem discoverMembers_discovering (self : Identity) (attempt left : Nat) :
    Discovering self (.found []) ((discoverMembers attempt left).bind (settle self)) := by
  induction left generalizing attempt with
  | zero => exact .log (settle_discovering self [])
  | succ left ih =>
      refine .list (fun e => ?_) fun members => ?_
      · exact .log (.sleep (ih (attempt + 1)))
      · exact .log (settle_discovering self members)

theorem discover_discovering (self : Identity) :
    Discovering self (.found []) (discover self) :=
  discoverMembers_discovering self 1 listAttempts

/-- The member that a cluster enters for a node: unnamed, and known by its URL only. -/
def Member.Enters (m : Member) (self : Identity) : Prop :=
  m.peerUrls = [self.advertisePeerUrl] ∧ m.name = "" ∧ m.clientUrls = []

theorem Member.Enters.peerUrl?_eq {m : Member} {self : Identity} (h : m.Enters self) :
    m.peerUrl? = some self.advertisePeerUrl := by
  rw [peerUrl?, h.1, List.head?_cons]

namespace Deployment

variable {ι : Type} {history : List (Exchange ι)} {x : Exchange ι} {i : ι} {self : Identity}
  {stage : Stage}

/-! ## What the history holds of a node -/

/-- What the history holds of a node at each stage. A node that has joined listed the members, and
other nodes at the most were added until it was added itself, once. -/
inductive Tracks (self : Identity) (history : List (Exchange ι)) (i : ι) : Stage → Prop where
  | found {members : List Member}
      (listed : members ≠ [] → ∃ earlier later, history = earlier ++ .listed i members :: later)
      (never : i ∉ (additions history).map Prod.fst) : Tracks self history i (.found members)
  | joined {members held : List Member} {m : Member} {earlier between later : List (Exchange ι)}
      (split : history = earlier ++ .listed i members ::
        (between ++ .added i held self.advertisePeerUrl m :: later))
      (ne : members ≠ []) (foreign : ¬IsMember self.advertisePeerUrl members)
      (before : i ∉ (additions earlier).map Prod.fst)
      (meanwhile : i ∉ (additions between).map Prod.fst)
      (afterwards : i ∉ (additions later).map Prod.fst) : Tracks self history i (.joined members)

theorem Tracks.concat (h : Tracks self history i stage)
    (hx : x.addition? = none ∨ x.node ≠ i) : Tracks self (history ++ [x]) i stage := by
  have hnever : ∀ {part : List (Exchange ι)}, i ∉ (additions part).map Prod.fst →
      i ∉ (additions (part ++ [x])).map Prod.fst := by
    intro part hpart hi
    rw [additions_append, List.map_append] at hi
    rcases List.mem_append.mp hi with hold | hnew
    · exact hpart hold
    · obtain ⟨a, hadd, rfl⟩ : ∃ a, x.addition? = some a ∧ a.1 = i := by simpa using hnew
      rcases hx with hnone | hne
      · cases hnone.symm.trans hadd
      · exact hne (Exchange.node_of_addition? hadd).symm
  cases h with
  | found listed never =>
      refine .found (fun ne => ?_) (hnever never)
      obtain ⟨earlier, later, rfl⟩ := listed ne
      exact ⟨earlier, later ++ [x], by rw [List.append_assoc, List.cons_append]⟩
  | @joined members held m earlier between later split ne foreign before meanwhile afterwards =>
      have hsplit : history ++ [x] = earlier ++ .listed i members ::
          (between ++ .added i held self.advertisePeerUrl m :: (later ++ [x])) := by
        rw [split]
        simp only [List.append_assoc, List.cons_append]
      exact .joined hsplit ne foreign before meanwhile (hnever afterwards)

theorem Tracks.listed {known : List Member} (h : Tracks self history i (.found known))
    (members : List Member) : Tracks self (history ++ [.listed i members]) i (.found members) := by
  cases h with
  | found _ never => exact .found (fun _ => ⟨history, [], rfl⟩) (by simpa using never)

theorem Tracks.added {members : List Member} (h : Tracks self history i (.found members))
    (ne : members ≠ []) (foreign : ¬IsMember self.advertisePeerUrl members) (held : List Member)
    (m : Member) :
    Tracks self (history ++ [.added i held self.advertisePeerUrl m]) i (.joined members) := by
  cases h with
  | found listed never =>
      obtain ⟨earlier, later, rfl⟩ := listed ne
      have hnever : i ∉ (additions earlier).map Prod.fst ∧ i ∉ (additions later).map Prod.fst := by
        simpa using never
      have hsplit : earlier ++ .listed i members :: later ++
          [.added i held self.advertisePeerUrl m] = earlier ++ .listed i members ::
            (later ++ .added i held self.advertisePeerUrl m :: []) := by
        rw [List.append_assoc, List.cons_append]
      exact .joined hsplit ne foreign hnever.1 hnever.2 (by simp)

theorem Tracks.count_eq [DecidableEq ι] (h : Tracks self history i stage) :
    ((additions history).map Prod.fst).count i = stage.additions := by
  cases h with
  | found _ never => exact List.count_eq_zero.mpr never
  | joined split _ _ before meanwhile afterwards =>
      simp [split, List.count_eq_zero.mpr before, List.count_eq_zero.mpr meanwhile,
        List.count_eq_zero.mpr afterwards, Stage.additions]

/-! ## The history accounts for the cluster -/

/-- The members are those of the start and those that were added, at any moment; and what is left of
a node's program fits its past. -/
structure Sound (selves : ι → Identity) (s : MemoryCluster) (w : Deployment ι) : Prop where
  members : w.cluster.members = s.members ++ (additions w.history).map Prod.snd
  held : ∀ earlier x, earlier ++ [x] <+: w.history →
    x.held = s.members ++ (additions earlier).map Prod.snd
  enters : ∀ a ∈ additions w.history, a.2.Enters (selves a.1)
  tracked : ∀ i, ∃ stage, Tracks (selves i) w.history i stage ∧
    Discovering (selves i) stage (w.programs i)

variable {selves : ι → Identity} {s : MemoryCluster} {w : Deployment ι}

theorem Sound.initial (selves : ι → Identity) (s : MemoryCluster) :
    Sound selves s (initial selves s) where
  members := (List.append_nil _).symm
  held _ _ h := absurd (List.prefix_nil.mp h) (by simp)
  enters _ ha := nomatch ha
  tracked i := ⟨.found [], .found (fun ne => absurd rfl ne) List.not_mem_nil,
    discover_discovering (selves i)⟩

/-! ## What the account says of one node -/

theorem Sound.held_of_split (h : Sound selves s w) {earlier later : List (Exchange ι)}
    (split : w.history = earlier ++ x :: later) :
    x.held = s.members ++ (additions earlier).map Prod.snd := by
  refine h.held earlier x ⟨later, ?_⟩
  rw [split, List.append_assoc, List.singleton_append]

theorem Sound.listed_eq (h : Sound selves s w) {members : List Member}
    {earlier later : List (Exchange ι)} (split : w.history = earlier ++ .listed i members :: later) :
    members = s.members ++ (additions earlier).map Prod.snd :=
  h.held_of_split split

theorem Sound.returned (h : Sound selves s w) {value : Except Error Directive}
    (hreturned : w.returned i = some value) :
    ∃ stage, Tracks (selves i) w.history i stage ∧ Discovering (selves i) stage (.done value) := by
  have htracked := h.tracked i
  rwa [returned_eq_some_iff.mp hreturned] at htracked

/-- Where a node was added, its URL was nobody's at the start. -/
theorem Sound.foreign (h : Sound selves s w) (hadded : i ∈ (additions w.history).map Prod.fst) :
    ¬IsMember (selves i).advertisePeerUrl s.members := by
  obtain ⟨_, htracks, -⟩ := h.tracked i
  cases htracks with
  | found _ never => exact absurd hadded never
  | joined split _ foreign =>
      rintro ⟨m, hm, own⟩
      refine foreign ⟨m, ?_, own⟩
      rw [h.listed_eq split]
      exact List.mem_append_left _ hm

/-- A node that is a member at some moment was one at the start or was added before that moment. -/
theorem Sound.isMember_or_added (h : Sound selves s w)
    (distinct : Function.Injective fun i => (selves i).advertisePeerUrl)
    {earlier later : List (Exchange ι)} (split : w.history = earlier ++ later)
    (hmember : IsMember (selves i).advertisePeerUrl
      (s.members ++ (additions earlier).map Prod.snd)) :
    IsMember (selves i).advertisePeerUrl s.members ∨ i ∈ (additions earlier).map Prod.fst := by
  obtain ⟨m, hm, own⟩ := hmember
  rcases List.mem_append.mp hm with hold | hnew
  · exact .inl ⟨m, hold, own⟩
  · obtain ⟨a, ha, rfl⟩ := List.mem_map.mp hnew
    have henters : a.2.Enters (selves a.1) := by
      refine h.enters a ?_
      rw [split, additions_append]
      exact List.mem_append_left _ ha
    have hsame : a.1 = i := distinct (Option.some.inj (henters.peerUrl?_eq.symm.trans own))
    exact .inr (hsame ▸ List.mem_map_of_mem ha)

/-- A node that found itself among the members was one at the start. -/
theorem Sound.isMember_of_rejoin (h : Sound selves s w)
    (distinct : Function.Injective fun i => (selves i).advertisePeerUrl) {members : List Member}
    (htracks : Tracks (selves i) w.history i (.found members))
    (own : IsMember (selves i).advertisePeerUrl members) :
    IsMember (selves i).advertisePeerUrl s.members := by
  cases htracks with
  | found listed never =>
      have hne : members ≠ [] := by
        rintro rfl
        simp [IsMember] at own
      obtain ⟨earlier, later, split⟩ := listed hne
      rw [h.listed_eq split] at own
      refine (h.isMember_or_added distinct split own).resolve_right fun hadded => never ?_
      rw [split, additions_append, List.map_append]
      exact List.mem_append_left _ hadded

variable [DecidableEq ι]

/-! ## Every move keeps the account -/

/-- A call keeps the account if it changes the members by what it adds, adds only the caller, and
what the caller does next fits. -/
theorem Sound.exchange (h : Sound selves s w) {c : Call} {answer : c.Answer}
    {cluster : MemoryCluster} {next : Program (Except Error Directive)}
    (hx : x = ⟨i, w.cluster.members, c, answer⟩) (added : Option Member)
    (adds : x.addition? = added.map fun m => (i, m))
    (changed : cluster.members = w.cluster.members ++ added.toList)
    (own : ∀ m ∈ added, m.Enters (selves i))
    (tracks : Tracks (selves i) (w.history ++ [x]) i stage)
    (rest : Discovering (selves i) stage next) :
    Sound selves s ⟨cluster, Function.update w.programs i next, w.history ++ [x]⟩ where
  members := by
    rw [changed, h.members]
    cases added <;> simp [adds]
  held earlier y hy := by
    rcases List.prefix_concat_iff.mp hy with hlast | hearlier
    · obtain ⟨rfl, hyx⟩ := List.append_inj' hlast rfl
      rw [List.singleton_inj.mp hyx, hx]
      exact h.members
    · exact h.held earlier y hearlier
  enters a ha := by
    rw [additions_append] at ha
    rcases List.mem_append.mp ha with hold | hnew
    · exact h.enters a hold
    · obtain ⟨m, hm, rfl⟩ : ∃ m, m ∈ added ∧ (i, m) = a := by simpa [adds] using hnew
      exact own m hm
  tracked j := by
    by_cases hj : j = i
    · subst hj
      exact ⟨stage, tracks, by simpa using rest⟩
    · -- The others keep their stage: the new exchange adds none of them.
      obtain ⟨stage, htracks, hrest⟩ := h.tracked j
      refine ⟨stage, htracks.concat (.inr ?_), by simpa [Function.update_of_ne hj] using hrest⟩
      rw [hx]
      exact Ne.symm hj

theorem flaky_sleep (fault : Option Error) (milliseconds : Nat) (s : MemoryCluster) :
    (flaky fault).reply (.sleep milliseconds) s = ⟨(), [], s⟩ := by
  cases fault <;> rfl

theorem flaky_list (fault : Option Error) (s : MemoryCluster) :
    ∃ s', s'.members = s.members ∧
      ((∃ e, (flaky fault).cluster .list s = ⟨.error e, [], s'⟩) ∨
        (flaky fault).cluster .list s = ⟨.ok s.members, [], s'⟩) := by
  cases fault with
  | some e => exact ⟨s, rfl, .inl ⟨e, rfl⟩⟩
  | none =>
      rcases Nat.eq_zero_or_pos s.failingLists with hzero | hpos
      · exact ⟨s, rfl, .inr (cluster_list_of_zero hzero _)⟩
      · exact ⟨{ s with failingLists := s.failingLists - 1 }, rfl,
          .inl ⟨down, cluster_list_of_pos hpos _⟩⟩

theorem flaky_add (fault : Option Error) (s : MemoryCluster) (self : Identity) :
    (∃ e, (flaky fault).cluster (.add self.advertisePeerUrl) s = ⟨.error e, [], s⟩) ∨
      ∃ m s', (flaky fault).cluster (.add self.advertisePeerUrl) s = ⟨.ok m, [], s'⟩ ∧
        s'.members = s.members ++ [m] ∧ m.Enters self := by
  cases fault with
  | some e => exact .inl ⟨e, rfl⟩
  | none =>
      cases hfault : s.addFault with
      | some e => exact .inl ⟨e, cluster_add_of_some hfault _ _⟩
      | none => exact .inr ⟨_, _, cluster_add_of_none hfault _ _, rfl, rfl, rfl, rfl⟩

theorem Sound.move (h : Sound selves s w) (m : Move ι) : Sound selves s (w.move m) := by
  obtain ⟨stage, htracks, hleft⟩ := h.tracked m.node
  generalize hp : w.programs m.node = p at hleft
  cases hleft with
  | log rest =>
      rw [move_of_log hp]
      refine { h with tracked := fun j => ?_ }
      by_cases hj : j = m.node
      · subst hj
        exact ⟨stage, htracks, by simpa using rest⟩
      · simpa [Function.update_of_ne hj] using h.tracked j
  | sleep rest =>
      rw [move_of_call hp, flaky_sleep]
      exact h.exchange rfl none rfl (by simp) (by simp) (htracks.concat (.inl rfl)) rest
  | list failed answered =>
      obtain ⟨s', hmembers, ⟨e, hreply⟩ | hreply⟩ := flaky_list m.fault w.cluster
      · rw [move_of_call hp, Surroundings.reply_cluster, hreply]
        exact h.exchange rfl none rfl (by simpa using hmembers) (by simp)
          (htracks.concat (.inl rfl)) (failed e)
      · rw [move_of_call hp, Surroundings.reply_cluster, hreply]
        exact h.exchange rfl none rfl (by simpa using hmembers) (by simp) (htracks.listed _)
          (answered _)
  | add ne foreign failed answered =>
      obtain ⟨e, hreply⟩ | ⟨entered, s', hreply, hmembers, henters⟩ :=
        flaky_add m.fault w.cluster (selves m.node)
      · rw [move_of_call hp, Surroundings.reply_cluster, hreply]
        exact h.exchange rfl none rfl (by simp) (by simp) (htracks.concat (.inl rfl)) (failed e)
      · rw [move_of_call hp, Surroundings.reply_cluster, hreply]
        exact h.exchange rfl (some entered) rfl (by simpa using hmembers) (by simpa using henters)
          (htracks.added ne foreign _ entered) (answered entered)
  | originate => rwa [move_of_done hp]
  | rejoin => rwa [move_of_done hp]
  | join => rwa [move_of_done hp]
  | refused => rwa [move_of_done hp]

theorem Sound.after (h : Sound selves s w) (moves : List (Move ι)) :
    Sound selves s (w.after moves) := by
  induction moves generalizing w with
  | nil => exact h
  | cons m moves ih => exact ih (h.move m)

/-! ## What every node can rely on -/

theorem Sound.once (h : Sound selves s w) : ((additions w.history).map Prod.fst).Nodup := by
  refine List.nodup_iff_count_le_one.mpr fun i => ?_
  obtain ⟨stage, htracks, -⟩ := h.tracked i
  rw [htracks.count_eq]
  cases stage with
  | found => exact Nat.zero_le 1
  | joined => exact Nat.le_refl 1

/-- Nobody but the node itself adds its URL. -/
theorem Sound.registrations (h : Sound selves s w)
    (distinct : Function.Injective fun i => (selves i).advertisePeerUrl) (i : ι) :
    w.cluster.registrations (selves i).advertisePeerUrl =
      s.registrations (selves i).advertisePeerUrl +
        ((additions w.history).map Prod.fst).count i := by
  have hurls : ((additions w.history).map Prod.snd).map Member.peerUrl? =
      ((additions w.history).map Prod.fst).map fun j => some (selves j).advertisePeerUrl := by
    rw [List.map_map, List.map_map]
    exact List.map_congr_left fun a ha => (h.enters a ha).peerUrl?_eq
  have hinjective : Function.Injective fun j => some (selves j).advertisePeerUrl :=
    (Option.some_injective String).comp distinct
  rw [MemoryCluster.registrations, MemoryCluster.registrations, h.members, List.map_append,
    List.count_append, hurls]
  exact congrArg _ (List.count_map_of_injective _ _ hinjective i)

theorem Sound.registrations_of_existing (h : Sound selves s w)
    (distinct : Function.Injective fun i => (selves i).advertisePeerUrl) {d : Directive}
    (hreturned : w.returned i = some (.ok d)) (existing : d.state = .existing) :
    w.cluster.registrations (selves i).advertisePeerUrl =
      max 1 (s.registrations (selves i).advertisePeerUrl) := by
  obtain ⟨stage, htracks, hdone⟩ := h.returned hreturned
  have hcount := htracks.count_eq
  rw [h.registrations distinct, hcount]
  cases hdone with
  | originate => cases existing
  | rejoin own =>
      have hsome : s.registrations (selves i).advertisePeerUrl ≠ 0 := by
        rw [Ne, registrations_eq_zero_iff, not_not]
        exact h.isMember_of_rejoin distinct htracks own
      rw [Stage.additions, Nat.add_zero, Nat.max_eq_right (Nat.one_le_iff_ne_zero.mpr hsome)]
  | join =>
      have hadded : i ∈ (additions w.history).map Prod.fst := by
        rw [← List.count_pos_iff, hcount]
        exact Nat.one_pos
      rw [(s.registrations_eq_zero_iff _).mpr (h.foreign hadded)]
      rfl

theorem Sound.not_added_of_returned (h : Sound selves s w) {value : Except Error Directive}
    (hreturned : w.returned i = some value) (hvalue : ∀ d, value = .ok d → d.state = .new) :
    i ∉ (additions w.history).map Prod.fst := by
  obtain ⟨stage, htracks, hdone⟩ := h.returned hreturned
  rw [← List.count_eq_zero, htracks.count_eq]
  cases hdone with
  | originate => rfl
  | rejoin => rfl
  | join => cases hvalue _ rfl
  | refused => rfl

/-- What can be relied on at any moment while nodes come up side by side. -/
structure RegistrationSpec (selves : ι → Identity) (s : MemoryCluster) (w : Deployment ι) :
    Prop where
  /-- The members of the start, then one for each addition, in the order of the additions. -/
  members : w.cluster.members = s.members ++ (additions w.history).map Prod.snd
  enters : ∀ a ∈ additions w.history, a.2.Enters (selves a.1)
  once : ((additions w.history).map Prod.fst).Nodup
  known : ∀ i, IsMember (selves i).advertisePeerUrl s.members →
    i ∉ (additions w.history).map Prod.fst
  existing : ∀ i d, w.returned i = some (.ok d) → d.state = .existing →
    w.cluster.registrations (selves i).advertisePeerUrl =
      max 1 (s.registrations (selves i).advertisePeerUrl)
  new : ∀ i d, w.returned i = some (.ok d) → d.state = .new →
    i ∉ (additions w.history).map Prod.fst
  failed : ∀ i e, w.returned i = some (.error e) → i ∉ (additions w.history).map Prod.fst

/-- However the moves of nodes with different URLs are ordered and whichever calls fail, no
registration is lost or made twice, and every node that is given its moves returns. -/
theorem registers_side_by_side
    (distinct : Function.Injective fun i => (selves i).advertisePeerUrl) (s : MemoryCluster)
    (moves : List (Move ι)) :
    RegistrationSpec selves s ((Deployment.initial selves s).after moves) ∧
      ∀ i, 19 ≤ (moves.map Move.node).count i →
        ∃ value, ((Deployment.initial selves s).after moves).returned i = some value := by
  have h := (Sound.initial selves s).after moves
  refine ⟨?_, fun i hmoves => exists_returned_initial selves s hmoves⟩
  exact
    { members := h.members
      enters := h.enters
      once := h.once
      known := fun i hmember hadded => h.foreign hadded hmember
      existing := fun i d => h.registrations_of_existing distinct
      new := fun i d hreturned hnew =>
        h.not_added_of_returned hreturned fun _ hd => Except.ok.inj hd ▸ hnew
      failed := fun i e hreturned => h.not_added_of_returned hreturned fun _ hd => nomatch hd }

/-! ## Two nodes -/

def twoNodes (second : Bool) : Identity :=
  if second then
    ⟨"c", "http://h3:7001", "http://h3:4001", "http://0.0.0.0:7001", "http://0.0.0.0:4001"⟩
  else ⟨"b", "http://h2:7001", "http://h2:4001", "http://0.0.0.0:7001", "http://0.0.0.0:4001"⟩

/-- The cluster that the two nodes come up beside. -/
def oneMember : MemoryCluster :=
  { members := [{ id := "1", name := "a", peerUrls := ["http://h1:7001"] }] }

theorem twoNodes_distinct :
    Function.Injective fun second => (twoNodes second).advertisePeerUrl :=
  Bool.injective_iff.mpr (by decide)

/-- Both find a single member, one of them at its second attempt, and both are added. -/
theorem two_register_side_by_side :
    let moves : List (Move Bool) :=
      ⟨true, some down⟩ :: (List.replicate 19 [⟨true, none⟩, ⟨false, none⟩]).flatten
    let w := (Deployment.initial twoNodes oneMember).after moves
    (Function.Injective fun second => (twoNodes second).advertisePeerUrl) ∧
      (additions w.history).map Prod.fst = [false, true] ∧
      w.cluster.members.map Member.peerUrls =
        [["http://h1:7001"], ["http://h2:7001"], ["http://h3:7001"]] ∧
      RegistrationSpec twoNodes oneMember w ∧
      ∀ second, ∃ value, w.returned second = some value := by
  intro moves w
  obtain ⟨hspec, hreturned⟩ := registers_side_by_side twoNodes_distinct oneMember moves
  refine ⟨twoNodes_distinct, by decide +kernel, by decide +kernel, hspec, fun second => ?_⟩
  exact hreturned second (by cases second <;> decide +kernel)

end Deployment

end NodeBootstrap
