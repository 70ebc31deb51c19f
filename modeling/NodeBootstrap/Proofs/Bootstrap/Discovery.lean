import NodeBootstrap.Bootstrap.Discovery
import NodeBootstrap.Proofs.Bootstrap.Attempts

/-! # Correctness of discovery

Discovery is described by rules that do not run it: one relation for how the members are asked for,
another for what the node does about them. A run of discovery is exactly what the rules derive, in
all surroundings. -/

namespace NodeBootstrap.Bootstrap

variable {σ : Type} {s : Surroundings σ} {state : σ}

/-! ## Asking for the members -/

/-- The attempts to list the members. -/
@[reducible] def listing : Retry (List Member) where
  call := .cluster .list
  result := id
  pause := listRetryDelay
  succeeded attempt members := .membersListed attempt members.length
  failed := .listFailed

theorem run_discoverMembers_of_ok {members : List Member}
    (h : (s.cluster .list state).answer = .ok members) (attempt left : Nat) :
    (discoverMembers attempt (left + 1)).run s state =
      ⟨members, listing.entries attempt (s.cluster .list state),
        (s.cluster .list state).state⟩ := by
  simp only [discoverMembers, Program.run_call, Surroundings.reply_cluster, Retry.entries,
    listing, id, h]
  simp [Outcome.after]

theorem run_discoverMembers_of_error (s : Surroundings σ) (attempt : Nat) (_last : Error)
    (left : Nat) (state : σ) (e : Error) (h : (s.cluster .list state).answer = .error e) :
    (discoverMembers attempt (left + 1)).run s state =
      ((discoverMembers (attempt + 1) left).run s
        (s.sleep listRetryDelay (s.cluster .list state).state)).after
          (listing.entries attempt (s.cluster .list state)) := by
  simp only [discoverMembers, Program.run_call, Surroundings.reply_cluster, Retry.entries,
    listing, id, h]
  simp

/-- The first success ends the attempts. -/
theorem run_discoverMembers_answered {k left : Nat} {members : List Member} (hk : k < left)
    (failed : ∀ i < k, ∃ e, listing.resultAt s state i = .error e)
    (answered : listing.resultAt s state k = .ok members) (attempt : Nat) :
    (discoverMembers attempt left).run s state =
      ⟨members, listing.journal s attempt state (k + 1),
        (s.replyAt (.cluster .list) listRetryDelay state k).state⟩ := by
  obtain ⟨rest, rfl⟩ : ∃ rest, left = rest + 1 + k := ⟨left - k - 1, by omega⟩
  obtain ⟨_, hrun⟩ := Retry.run_of_failed (run_discoverMembers_of_error s) failed attempt
    .noEndpoints (rest + 1)
  rw [hrun, run_discoverMembers_of_ok answered, Retry.journal_succ_last]
  rfl

/-- A cluster that never answers is taken for none. -/
theorem run_discoverMembers_exhausted {left : Nat}
    (failed : ∀ i < left, ∃ e, listing.resultAt s state i = .error e) (attempt : Nat) :
    (discoverMembers attempt left).run s state =
      ⟨[], listing.journal s attempt state left ++ [.logged (.listExhausted listAttempts)],
        s.stateAt (.cluster .list) listRetryDelay state left⟩ := by
  obtain ⟨_, hrun⟩ := Retry.run_of_failed (run_discoverMembers_of_error s) failed attempt
    .noEndpoints 0
  rw [Nat.zero_add] at hrun
  rw [hrun]
  rfl

/-- How the members are asked for: up to five times, with a second's pause after each time that
failed. The rules give the calls, the members found and the state afterwards. -/
inductive Listing (s : Surroundings σ) (state : σ) : List Call → List Member → σ → Prop where
  | answered (k : Nat) (members : List Member) (hk : k < 5)
      (failed : ∀ i < k, ∃ e, (s.replyAt (.cluster .list) 1000 state i).answer = .error e)
      (answer : (s.replyAt (.cluster .list) 1000 state k).answer = .ok members) :
      Listing s state (Call.attempts (.cluster .list) 1000 k ++ [.cluster .list]) members
        (s.replyAt (.cluster .list) 1000 state k).state
  | exhausted
      (failed : ∀ i < 5, ∃ e, (s.replyAt (.cluster .list) 1000 state i).answer = .error e) :
      Listing s state (Call.attempts (.cluster .list) 1000 5) []
        (s.stateAt (.cluster .list) 1000 state 5)

theorem Listing.execution {calls : List Call} {members : List Member} {listed : σ}
    (h : Listing s state calls members listed) :
    ((discoverMembers 1 listAttempts).run s state).calls = calls ∧
      ((discoverMembers 1 listAttempts).run s state).value = members ∧
      ((discoverMembers 1 listAttempts).run s state).state = listed := by
  cases h with
  | answered k members hk failed answer =>
      have hk' : k < listAttempts := hk
      rw [run_discoverMembers_answered hk' failed answer]
      refine ⟨?_, rfl, rfl⟩
      rw [Outcome.calls, Retry.journal_succ_last, List.filterMap_append,
        Retry.calls_journal failed, Retry.calls_entries_of_ok answer]
      rfl
  | exhausted failed =>
      have failed' : ∀ i < listAttempts, ∃ e, listing.resultAt s state i = .error e := failed
      rw [run_discoverMembers_exhausted failed']
      refine ⟨?_, rfl, rfl⟩
      rw [Outcome.calls, List.filterMap_append, Retry.calls_journal failed']
      simp [listRetryDelay, listAttempts]

theorem exists_listing (s : Surroundings σ) (state : σ) :
    ∃ calls members listed, Listing s state calls members listed := by
  rcases listing.first_success_or_all_failed s state 5 with ⟨k, hk, failed, members, h⟩ | failed
  · exact ⟨_, _, _, .answered k members hk failed h⟩
  · exact ⟨_, _, _, .exhausted failed⟩

theorem discoverMembers_listing (s : Surroundings σ) (state : σ) :
    Listing s state ((discoverMembers 1 listAttempts).run s state).calls
      ((discoverMembers 1 listAttempts).run s state).value
      ((discoverMembers 1 listAttempts).run s state).state := by
  obtain ⟨calls, members, listed, h⟩ := exists_listing s state
  obtain ⟨rfl, rfl, rfl⟩ := h.execution
  exact h

/-! ## What to do about them -/

@[simp] theorem run_announce (s : Surroundings σ) (d : Directive) (state : σ) :
    (announce d).run s state = ⟨.ok d, [.logged (.directed d)], state⟩ := rfl

theorem run_register_of_ok {self : Identity} {added : Member} (members : List Member)
    (h : (s.cluster (.add self.advertisePeerUrl) state).answer = .ok added) :
    (register self members).run s state =
      ⟨.ok (.join members self),
        .logged (.adding self.advertisePeerUrl) ::
          .called (.cluster (.add self.advertisePeerUrl)) ::
            ((s.cluster (.add self.advertisePeerUrl) state).events.map .logged ++
              [.logged (.added added.id), .called (.sleep settleDelay),
                .logged (.directed (.join members self))]),
        s.sleep settleDelay (s.cluster (.add self.advertisePeerUrl) state).state⟩ := by
  simp only [register, Program.run_log, Program.run_call, Surroundings.reply_cluster, h]
  simp [Outcome.after]

theorem run_register_of_error {self : Identity} {e : Error} (members : List Member)
    (h : (s.cluster (.add self.advertisePeerUrl) state).answer = .error e) :
    (register self members).run s state =
      ⟨.error e,
        .logged (.adding self.advertisePeerUrl) ::
          .called (.cluster (.add self.advertisePeerUrl)) ::
            ((s.cluster (.add self.advertisePeerUrl) state).events.map .logged ++
              [.logged (.addFailed e)]),
        (s.cluster (.add self.advertisePeerUrl) state).state⟩ := by
  simp only [register, Program.run_log, Program.run_call, Surroundings.reply_cluster, h]
  simp [Outcome.after]

theorem settle_nil (self : Identity) : settle self [] = announce (.originate self) := rfl

theorem settle_of_isMember {self : Identity} {members : List Member}
    (h : IsMember self.advertisePeerUrl members) :
    settle self members =
      .log (.alreadyMember self.advertisePeerUrl) (announce (.rejoin members)) := by
  obtain ⟨m, hm, own⟩ := h
  rw [settle, if_neg (List.ne_nil_of_mem hm), if_pos ⟨m, hm, own⟩]

theorem settle_of_not_isMember {self : Identity} {members : List Member} (ne : members ≠ [])
    (h : ¬IsMember self.advertisePeerUrl members) :
    settle self members = register self members := by
  rw [settle, if_neg ne, if_neg h]

/-- The members as a directive writes them: the name, an equals sign and the first peer URL, if
there is one. -/
def rendered (members : List Member) : List String :=
  members.map fun m => m.name ++ "=" ++ m.peerUrls.head?.getD ""

/-- What a node does about the members that it found, where an attempt to add it ends as given: the
calls that it makes and what it returns. -/
inductive Settlement (self : Identity) (members : List Member) (addition : Except Error Member) :
    List Call → Except Error Directive → Prop where
  | originates (empty : members = []) :
      Settlement self members addition []
        (.ok ⟨self.name ++ "=" ++ self.advertisePeerUrl, .new⟩)
  | rejoins (m : Member) (hm : m ∈ members)
      (own : m.peerUrls.head? = some self.advertisePeerUrl) :
      Settlement self members addition [] (.ok ⟨",".intercalate (rendered members), .existing⟩)
  | joins (added : Member) (ne : members ≠ [])
      (foreign : ∀ m ∈ members, m.peerUrls.head? ≠ some self.advertisePeerUrl)
      (accepted : addition = .ok added) :
      Settlement self members addition
        [.cluster (.add self.advertisePeerUrl), .sleep 2000]
        (.ok ⟨",".intercalate (rendered members ++ [self.name ++ "=" ++ self.advertisePeerUrl]),
          .existing⟩)
  | refused (e : Error) (ne : members ≠ [])
      (foreign : ∀ m ∈ members, m.peerUrls.head? ≠ some self.advertisePeerUrl)
      (refusal : addition = .error e) :
      Settlement self members addition [.cluster (.add self.advertisePeerUrl)] (.error e)

theorem not_isMember_iff (peerUrl : String) (members : List Member) :
    ¬IsMember peerUrl members ↔ ∀ m ∈ members, m.peerUrls.head? ≠ some peerUrl := by
  simp [IsMember, Member.peerUrl?]

theorem Settlement.execution {self : Identity} {members : List Member} {calls : List Call}
    {value : Except Error Directive}
    (h : Settlement self members (s.cluster (.add self.advertisePeerUrl) state).answer calls
      value) :
    ((settle self members).run s state).calls = calls ∧
      ((settle self members).run s state).value = value := by
  cases h with
  | originates empty =>
      rw [empty, settle_nil]
      exact ⟨rfl, rfl⟩
  | rejoins m hm own =>
      rw [settle_of_isMember ⟨m, hm, own⟩]
      exact ⟨rfl, rfl⟩
  | joins added ne foreign accepted =>
      rw [settle_of_not_isMember ne ((not_isMember_iff _ _).mpr foreign),
        run_register_of_ok members accepted]
      refine ⟨?_, rfl⟩
      simp [Outcome.calls, List.filterMap_cons, settleDelay]
  | refused e ne foreign refusal =>
      rw [settle_of_not_isMember ne ((not_isMember_iff _ _).mpr foreign),
        run_register_of_error members refusal]
      refine ⟨?_, rfl⟩
      simp [Outcome.calls, List.filterMap_cons]

theorem exists_settlement (self : Identity) (members : List Member)
    (addition : Except Error Member) :
    ∃ calls value, Settlement self members addition calls value := by
  by_cases empty : members = []
  · exact ⟨_, _, .originates empty⟩
  by_cases h : IsMember self.advertisePeerUrl members
  · obtain ⟨m, hm, own⟩ := h
    exact ⟨_, _, .rejoins m hm own⟩
  · have foreign := (not_isMember_iff _ _).mp h
    cases addition with
    | ok added => exact ⟨_, _, .joins added empty foreign rfl⟩
    | error e => exact ⟨_, _, .refused e empty foreign rfl⟩

theorem settle_settlement (s : Surroundings σ) (self : Identity) (members : List Member)
    (state : σ) :
    Settlement self members (s.cluster (.add self.advertisePeerUrl) state).answer
      ((settle self members).run s state).calls ((settle self members).run s state).value := by
  obtain ⟨calls, value, h⟩ := exists_settlement self members
    (s.cluster (.add self.advertisePeerUrl) state).answer
  obtain ⟨rfl, rfl⟩ := h.execution
  exact h

theorem Settlement.calls_isPrefix {self : Identity} {members : List Member}
    {addition : Except Error Member} {calls : List Call} {value : Except Error Directive}
    (h : Settlement self members addition calls value) :
    calls <+: [.cluster (.add self.advertisePeerUrl), .sleep settleDelay] := by
  cases h with
  | originates => exact List.nil_prefix
  | rejoins => exact List.nil_prefix
  | joins => exact List.prefix_rfl
  | refused => exact List.prefix_append [_] _

/-- Beside members nobody originates a cluster. -/
theorem Settlement.existing_or_refused {self : Identity} {members : List Member}
    {addition : Except Error Member} {calls : List Call} {value : Except Error Directive}
    (h : Settlement self members addition calls value) (ne : members ≠ []) :
    (∃ own, own <+: [self.name ++ "=" ++ self.advertisePeerUrl] ∧
      value = .ok ⟨",".intercalate (rendered members ++ own), .existing⟩) ∨
    ∃ e, addition = .error e ∧ value = .error e := by
  cases h with
  | originates empty => exact absurd empty ne
  | rejoins => exact .inl ⟨[], List.nil_prefix, by rw [List.append_nil]⟩
  | joins => exact .inl ⟨_, List.prefix_rfl, rfl⟩
  | refused e _ _ refusal => exact .inr ⟨e, refusal, rfl⟩

/-! ## Discovery as a whole -/

theorem calls_run_discover (s : Surroundings σ) (self : Identity) (state : σ) :
    ((discover self).run s state).calls =
      ((discoverMembers 1 listAttempts).run s state).calls ++
        ((settle self ((discoverMembers 1 listAttempts).run s state).value).run s
          ((discoverMembers 1 listAttempts).run s state).state).calls := by
  rw [discover, Program.run_bind, Outcome.calls_after]
  rfl

theorem value_run_discover (s : Surroundings σ) (self : Identity) (state : σ) :
    ((discover self).run s state).value =
      ((settle self ((discoverMembers 1 listAttempts).run s state).value).run s
        ((discoverMembers 1 listAttempts).run s state).state).value := by
  rw [discover, Program.run_bind, Outcome.value_after]

theorem state_run_discover (s : Surroundings σ) (self : Identity) (state : σ) :
    ((discover self).run s state).state =
      ((settle self ((discoverMembers 1 listAttempts).run s state).value).run s
        ((discoverMembers 1 listAttempts).run s state).state).state := by
  rw [discover, Program.run_bind, Outcome.state_after]

/-- Discovery makes exactly the calls, and returns exactly the result, that the rules derive from
the answers of the cluster: listing first, then settling on the members listed. -/
theorem run_discover_iff (s : Surroundings σ) (self : Identity) (state : σ) (calls : List Call)
    (value : Except Error Directive) :
    (((discover self).run s state).calls = calls ∧
      ((discover self).run s state).value = value) ↔
    ∃ listing members listed settling,
      Listing s state listing members listed ∧
      Settlement self members (s.cluster (.add self.advertisePeerUrl) listed).answer
        settling value ∧
      calls = listing ++ settling := by
  rw [calls_run_discover, value_run_discover]
  constructor
  · rintro ⟨rfl, rfl⟩
    exact ⟨_, _, _, _, discoverMembers_listing s state, settle_settlement s self _ _, rfl⟩
  · rintro ⟨listing, members, listed, settling, hl, hs, rfl⟩
    obtain ⟨rfl, rfl, rfl⟩ := hl.execution
    obtain ⟨rfl, rfl⟩ := hs.execution
    exact ⟨rfl, rfl⟩

end NodeBootstrap.Bootstrap
