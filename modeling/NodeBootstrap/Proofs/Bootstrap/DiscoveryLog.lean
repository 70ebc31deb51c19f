import NodeBootstrap.Cluster.Script
import NodeBootstrap.Proofs.Bootstrap.Discovery
import NodeBootstrap.Proofs.Log.Lines
import NodeBootstrap.Proofs.Results

/-! # The log of discovery

Discovery logs every attempt to list the members and everything that it does about them. The lines of
its log tell which calls were made and how it ended, whatever names, addresses and error texts stand
in them. -/

namespace NodeBootstrap

open Log (Event Shown)

/-! ## Reading the log -/

namespace Log.Shown

/-- The calls that a line of the log tells of. -/
def calls (s : Shown) : List Call :=
  if s.action = "membership.member-list.failed" then [.cluster .list, .sleep 1000]
  else if s.action = "membership.member-list" then [.cluster .list]
  else if s.action = "membership.member-add" then
    [.cluster (.add (String.ofList (s.after "peer_url")))]
  else if s.action = "membership.member-add.done" then [.sleep 2000]
  else []

/-- A directive is shown as its members and its state. The state comes last and is one of two words,
so that it is told from the members whatever stands in them. -/
def directive (s : Shown) : Directive :=
  let text := s.after "members"
  if " state=new".toList <:+ text then ⟨String.ofList (text.take (text.length - 10)), .new⟩
  else ⟨String.ofList (text.take (text.length - 15)), .existing⟩

/-- The directive or the text of the error that a line of the log tells of. -/
def result? (s : Shown) : Option (Except String Directive) :=
  if s.action = "membership.initial-cluster-state" then some (.ok s.directive)
  else if s.action = "membership.member-add.failed" then
    some (.error (String.ofList (s.after "error")))
  else none

variable (showProcess : Nat → String)

@[simp] theorem calls_listFailed (attempt : Nat) (e : Error) :
    (ofEvent showProcess (.listFailed attempt e)).calls = [.cluster .list, .sleep 1000] := rfl

@[simp] theorem calls_membersListed (attempt count : Nat) :
    (ofEvent showProcess (.membersListed attempt count)).calls = [.cluster .list] := rfl

@[simp] theorem calls_listExhausted (attempts : Nat) :
    (ofEvent showProcess (.listExhausted attempts)).calls = [] := rfl

@[simp] theorem calls_alreadyMember (peerUrl : String) :
    (ofEvent showProcess (.alreadyMember peerUrl)).calls = [] := rfl

@[simp] theorem calls_adding (peerUrl : String) :
    (ofEvent showProcess (.adding peerUrl)).calls = [.cluster (.add peerUrl)] := by
  change [Call.cluster (.add (String.ofList ((ofEvent showProcess (.adding peerUrl)).after _)))] = _
  rw [after_ofEvent_singleton rfl, String.ofList_toList]

@[simp] theorem calls_added (id : String) :
    (ofEvent showProcess (.added id)).calls = [.sleep 2000] := rfl

@[simp] theorem calls_addFailed (e : Error) :
    (ofEvent showProcess (.addFailed e)).calls = [] := rfl

@[simp] theorem calls_directed (d : Directive) :
    (ofEvent showProcess (.directed d)).calls = [] := rfl

@[simp] theorem result?_addFailed (e : Error) :
    (ofEvent showProcess (.addFailed e)).result? = some (.error e.message) := by
  change some (Except.error (String.ofList ((ofEvent showProcess (.addFailed e)).after _))) = _
  rw [after_ofEvent_singleton rfl, String.ofList_toList]

theorem after_members (d : Directive) :
    (ofEvent showProcess (.directed d)).after "members" =
      d.members.toList ++ (" state=" ++ d.state.text).toList := by
  have hafter := after_ofEvent (e := .directed d) rfl showProcess
  rw [List.flatMap_singleton] at hafter
  exact hafter

theorem take_append_sub {α : Type} (s ending : List α) :
    (s ++ ending).take ((s ++ ending).length - ending.length) = s := by
  rw [List.length_append, Nat.add_sub_cancel, List.take_left]

@[simp] theorem result?_directed (d : Directive) :
    (ofEvent showProcess (.directed d)).result? = some (.ok d) := by
  change some (Except.ok (directive _)) = _
  obtain ⟨members, state⟩ := d
  rw [directive, after_members]
  cases state with
  | new =>
      have htext : (" state=" ++ ClusterState.new.text).toList = " state=new".toList := rfl
      have hlength : 10 = " state=new".toList.length := rfl
      rw [htext, if_pos (List.suffix_append _ _), hlength, take_append_sub, String.ofList_toList]
  | existing =>
      have htext : (" state=" ++ ClusterState.existing.text).toList = " state=existing".toList := rfl
      have hlength : 15 = " state=existing".toList.length := rfl
      have hnot : ¬" state=new".toList <:+ members.toList ++ " state=existing".toList := by
        intro hnew
        have hending := List.suffix_of_suffix_length_le hnew
          (List.suffix_append members.toList " state=existing".toList) (by decide)
        exact absurd hending (by decide)
      rw [htext, if_neg hnot, hlength, take_append_sub, String.ofList_toList]

end Log.Shown

/-- Whether an event is about a list of the members. -/
def Log.Event.reportsList : Event → Bool
  | membersListed .. | listFailed .. | listExhausted .. => true
  | _ => false

namespace Bootstrap

variable {σ : Type} {s : Surroundings σ} {state : σ}

/-! ## What discovery logs -/

theorem ownEvents_discoverMembers_of_ok {members : List Member}
    (h : (s.cluster .list state).answer = .ok members) (attempt left : Nat) :
    (discoverMembers attempt (left + 1)).ownEvents s state =
      [.membersListed attempt members.length] := by
  simp only [discoverMembers, Program.ownEvents_call, Surroundings.reply_cluster, h]
  rfl

theorem ownEvents_discoverMembers_of_error (s : Surroundings σ) (attempt : Nat) (_last : Error)
    (left : Nat) (state : σ) (e : Error) (h : (s.cluster .list state).answer = .error e) :
    (discoverMembers attempt (left + 1)).ownEvents s state =
      .listFailed attempt e ::
        (discoverMembers (attempt + 1) left).ownEvents s
          (s.sleep listRetryDelay (s.cluster .list state).state) := by
  simp only [discoverMembers, Program.ownEvents_call, Surroundings.reply_cluster, h]
  rfl

theorem ownEvents_discoverMembers_answered {errors : List Error} {members : List Member}
    {left : Nat} (short : errors.length < left) (failed : listing.FailsWith s state errors)
    (answered : listing.resultAt s state errors.length = .ok members) (attempt : Nat) :
    (discoverMembers attempt left).ownEvents s state =
      listing.failures attempt errors ++
        [.membersListed (attempt + errors.length) members.length] := by
  obtain ⟨rest, rfl⟩ : ∃ rest, left = rest + 1 + errors.length :=
    ⟨left - errors.length - 1, by omega⟩
  rw [Retry.ownEvents_of_failed (ownEvents_discoverMembers_of_error s) failed attempt .noEndpoints,
    ownEvents_discoverMembers_of_ok answered]

theorem ownEvents_discoverMembers_exhausted {errors : List Error}
    (failed : listing.FailsWith s state errors) (attempt : Nat) :
    (discoverMembers attempt errors.length).ownEvents s state =
      listing.failures attempt errors ++ [.listExhausted listAttempts] := by
  have hevents := Retry.ownEvents_of_failed (ownEvents_discoverMembers_of_error s) failed attempt
    .noEndpoints 0
  rw [Nat.zero_add] at hevents
  exact hevents

/-- How list call `n` of discovery, counted from zero, ends. -/
def listAt (s : Surroundings σ) (state : σ) (n : Nat) : Except Error (List Member) :=
  (s.replyAt (.cluster .list) 1000 state n).answer

/-- The failed attempts, numbered from one. -/
def listFailures (errors : List Error) : List Event :=
  (errors.zipIdx 1).map fun (e, n) => .listFailed n e

/-- What is called and logged until the members are known, where list call `n` ends as `lists n`. -/
inductive Inquiry (lists : Nat → Except Error (List Member)) :
    List Call → List Member → List Event → Prop where
  | answered (errors : List Error) (members : List Member) (short : errors.length < 5)
      (failed : ∀ i (h : i < errors.length), lists i = .error errors[i])
      (answer : lists errors.length = .ok members) :
      Inquiry lists (Call.attempts (.cluster .list) 1000 errors.length ++ [.cluster .list]) members
        (listFailures errors ++ [.membersListed (errors.length + 1) members.length])
  | exhausted (errors : List Error) (all : errors.length = 5)
      (failed : ∀ i (h : i < errors.length), lists i = .error errors[i]) :
      Inquiry lists (Call.attempts (.cluster .list) 1000 errors.length) []
        (listFailures errors ++ [.listExhausted 5])

theorem Inquiry.execution {calls : List Call} {members : List Member} {events : List Event}
    (h : Inquiry (listAt s state) calls members events) :
    ((discoverMembers 1 listAttempts).run s state).calls = calls ∧
      ((discoverMembers 1 listAttempts).run s state).value = members ∧
      (discoverMembers 1 listAttempts).ownEvents s state = events := by
  cases h with
  | answered errors members short failed answer =>
      have hfailed : listing.FailsWith s state errors := failed
      obtain ⟨hcalls, hvalue, -⟩ :=
        (Listing.answered errors.length members short hfailed.failed answer).execution
      have hshort : errors.length < listAttempts := short
      refine ⟨hcalls, hvalue, ?_⟩
      rw [ownEvents_discoverMembers_answered hshort hfailed answer, Nat.add_comm 1]
      rfl
  | exhausted errors all failed =>
      have hfailed : listing.FailsWith s state errors := failed
      obtain ⟨hcalls, hvalue, -⟩ := (Listing.exhausted (all ▸ hfailed.failed)).execution
      refine ⟨all ▸ hcalls, hvalue, ?_⟩
      have hevents := ownEvents_discoverMembers_exhausted hfailed 1
      rw [all] at hevents
      exact hevents

theorem exists_inquiry (s : Surroundings σ) (state : σ) :
    ∃ calls members events, Inquiry (listAt s state) calls members events := by
  rcases listing.first_success_or_all_failed s state 5 with ⟨k, hk, failed, members, h⟩ | failed
  · obtain ⟨errors, rfl, hfailed⟩ := Retry.exists_failsWith failed
    exact ⟨_, _, _, .answered errors members hk hfailed h⟩
  · obtain ⟨errors, hlength, hfailed⟩ := Retry.exists_failsWith failed
    exact ⟨_, _, _, .exhausted errors hlength hfailed⟩

theorem discoverMembers_inquiry (s : Surroundings σ) (state : σ) :
    Inquiry (listAt s state) ((discoverMembers 1 listAttempts).run s state).calls
      ((discoverMembers 1 listAttempts).run s state).value
      ((discoverMembers 1 listAttempts).ownEvents s state) := by
  obtain ⟨calls, members, events, h⟩ := exists_inquiry s state
  obtain ⟨rfl, rfl, rfl⟩ := h.execution
  exact h

/-- What is called, returned and logged about members that are known. -/
inductive Conclusion (peerUrl : String) :
    List Call → Except Error Directive → List Event → Prop where
  | originates (d : Directive) : Conclusion peerUrl [] (.ok d) [.directed d]
  | rejoins (d : Directive) :
      Conclusion peerUrl [] (.ok d) [.alreadyMember peerUrl, .directed d]
  | joins (d : Directive) (id : String) :
      Conclusion peerUrl [.cluster (.add peerUrl), .sleep 2000] (.ok d)
        [.adding peerUrl, .added id, .directed d]
  | refused (e : Error) :
      Conclusion peerUrl [.cluster (.add peerUrl)] (.error e) [.adding peerUrl, .addFailed e]

theorem ownEvents_register (s : Surroundings σ) (self : Identity) (members : List Member)
    (state : σ) :
    (register self members).ownEvents s state = .adding self.advertisePeerUrl ::
      match (s.cluster (.add self.advertisePeerUrl) state).answer with
      | .ok added => [.added added.id, .directed (.join members self)]
      | .error e => [.addFailed e] := by
  simp only [register, Program.ownEvents_log, Program.ownEvents_call, Surroundings.reply_cluster]
  cases (s.cluster (.add self.advertisePeerUrl) state).answer <;> rfl

theorem settle_conclusion (s : Surroundings σ) (self : Identity) (members : List Member)
    (state : σ) :
    Conclusion self.advertisePeerUrl ((settle self members).run s state).calls
      ((settle self members).run s state).value ((settle self members).ownEvents s state) := by
  by_cases empty : members = []
  · rw [empty, settle_nil]
    exact .originates _
  by_cases own : IsMember self.advertisePeerUrl members
  · rw [settle_of_isMember own]
    exact .rejoins _
  have foreign := (not_isMember_iff _ _).mp own
  have hevents := ownEvents_register s self members state
  rw [← settle_of_not_isMember empty own] at hevents
  cases hadded : (s.cluster (.add self.advertisePeerUrl) state).answer with
  | ok added =>
      obtain ⟨hcalls, hvalue⟩ := (Settlement.joins added empty foreign hadded).execution
      rw [hcalls, hvalue, hevents, hadded]
      exact .joins _ _
  | error e =>
      obtain ⟨hcalls, hvalue⟩ := (Settlement.refused e empty foreign hadded).execution
      rw [hcalls, hvalue, hevents, hadded]
      exact .refused e

/-! ## What the log tells -/

/-- The calls that the lines of a log tell of. -/
def told (lines : List String) : List Call := lines.flatMap fun line => (Shown.ofLine line).calls

/-- The result that the last line of a log tells of. -/
def outcome? (lines : List String) : Option (Except String Directive) :=
  lines.getLast?.bind fun line => (Shown.ofLine line).result?

variable (showProcess : Nat → String)

theorem told_append (lines lines' : List String) :
    told (lines ++ lines') = told lines ++ told lines' :=
  List.flatMap_append

theorem told_listFailures (errors : List Error) :
    told ((listFailures errors).map (Event.line showProcess)) =
      Call.attempts (.cluster .list) 1000 errors.length := by
  rw [listFailures]
  generalize 1 = first
  induction errors generalizing first with
  | nil => rfl
  | cons e errors ih =>
      have hrest := ih (first + 1)
      rw [told] at hrest
      rw [told, List.zipIdx_cons, List.map_cons, List.map_cons, List.flatMap_cons, hrest,
        Shown.ofLine_line, Shown.calls_listFailed]
      rfl

theorem Inquiry.calls_eq_told {lists : Nat → Except Error (List Member)} {calls : List Call}
    {members : List Member} {events : List Event} (h : Inquiry lists calls members events) :
    calls = told (events.map (Event.line showProcess)) := by
  cases h with
  | answered errors members =>
      rw [List.map_append, told_append, told_listFailures, told, List.map_singleton,
        List.flatMap_singleton, Shown.ofLine_line, Shown.calls_membersListed]
  | exhausted errors =>
      rw [List.map_append, told_append, told_listFailures, told, List.map_singleton,
        List.flatMap_singleton, Shown.ofLine_line, Shown.calls_listExhausted, List.append_nil]

/-- The event that holds a result. -/
def resultEvent : Except Error Directive → Event
  | .ok d => .directed d
  | .error e => .addFailed e

theorem result?_resultEvent (value : Except Error Directive) :
    (Shown.ofEvent showProcess (resultEvent value)).result? = some (value.mapError Error.message) := by
  cases value with
  | ok d => exact Shown.result?_directed showProcess d
  | error e => exact Shown.result?_addFailed showProcess e

/-- The failed attempts, how the list was had or given up, and what follows. -/
theorem Inquiry.exists_errors {lists : Nat → Except Error (List Member)} {calls : List Call}
    {members : List Member} {events : List Event} (h : Inquiry lists calls members events)
    (rest : List Event) :
    ∃ errors : List Error, (∀ i (h : i < errors.length), lists i = .error errors[i]) ∧
      ((∃ members, errors.length < 5 ∧ lists errors.length = .ok members ∧
          events ++ rest = listFailures errors ++
            .membersListed (errors.length + 1) members.length :: rest) ∨
        errors.length = 5 ∧ events ++ rest = listFailures errors ++ .listExhausted 5 :: rest) := by
  cases h with
  | answered errors members short failed answer =>
      exact ⟨errors, failed, .inl ⟨members, short, answer, List.append_assoc _ _ _⟩⟩
  | exhausted errors all failed =>
      exact ⟨errors, failed, .inr ⟨all, List.append_assoc _ _ _⟩⟩

namespace Conclusion

variable {peerUrl : String} {calls : List Call} {value : Except Error Directive}
  {events : List Event}

theorem calls_eq_told (h : Conclusion peerUrl calls value events) :
    calls = told (events.map (Event.line showProcess)) := by
  cases h <;> simp [told, Shown.ofLine_line]

/-- The last event holds the result. -/
theorem getLast?_eq (h : Conclusion peerUrl calls value events) :
    events.getLast? = some (resultEvent value) := by
  cases h <;> rfl

/-- Nothing is said about lists any more. -/
theorem reportsList_eq_false (h : Conclusion peerUrl calls value events) {event : Event}
    (hevent : event ∈ events) : event.reportsList = false := by
  revert event
  cases h <;> simp [Event.reportsList]

end Conclusion

section
variable (s : Surroundings σ) (self : Identity) (state : σ)

theorem ownEvents_discover :
    (discover self).ownEvents s state =
      (discoverMembers 1 listAttempts).ownEvents s state ++
        (settle self ((discoverMembers 1 listAttempts).run s state).value).ownEvents s
          ((discoverMembers 1 listAttempts).run s state).state :=
  Program.ownEvents_bind s _ _ state

theorem calls_run_discover_eq_told :
    ((discover self).run s state).calls =
      told (((discover self).ownEvents s state).map (Event.line showProcess)) := by
  rw [calls_run_discover, ownEvents_discover, List.map_append, told_append,
    ← (discoverMembers_inquiry s state).calls_eq_told showProcess,
    ← (settle_conclusion s self _ _).calls_eq_told showProcess]

theorem getLast?_ownEvents_discover :
    ((discover self).ownEvents s state).getLast? =
      some (resultEvent ((discover self).run s state).value) := by
  rw [ownEvents_discover, List.getLast?_append, (settle_conclusion s self _ _).getLast?_eq,
    Option.some_or, value_run_discover]

theorem outcome?_discover :
    outcome? (((discover self).ownEvents s state).map (Event.line showProcess)) =
      some (((discover self).run s state).value.mapError Error.message) := by
  rw [outcome?, List.getLast?_map, getLast?_ownEvents_discover, Option.map_some, Option.bind_some,
    Shown.ofLine_line, result?_resultEvent]

end

/-- All that the log of discovery promises: `lists n` is how list call `n`, counted from zero, ends,
and `logged` what discovery itself logs. -/
structure LogSpec (s : Surroundings σ) (lists : Nat → Except Error (List Member))
    (o : Outcome σ (Except Error Directive)) (logged : List Event) : Prop where
  /-- The attempts that failed come first, numbered from one, then how the list was had or given up;
  nothing after that is about lists. -/
  listing : ∃ (errors : List Error) (rest : List Event),
    (∀ i (h : i < errors.length), lists i = .error errors[i]) ∧
    (∀ event ∈ rest, event.reportsList = false) ∧
    ((∃ members, errors.length < 5 ∧ lists errors.length = .ok members ∧
        logged = (errors.zipIdx 1).map (fun (e, n) => .listFailed n e) ++
          .membersListed (errors.length + 1) members.length :: rest) ∨
      errors.length = 5 ∧
        logged = (errors.zipIdx 1).map (fun (e, n) => .listFailed n e) ++ .listExhausted 5 :: rest)
  ok_iff : ∀ d, logged.getLast? = some (.directed d) ↔ o.value = .ok d
  error_iff : ∀ e, logged.getLast? = some (.addFailed e) ↔ o.value = .error e
  /-- Calls and result can be read off the lines, the error as far as it is displayed. -/
  told : ∀ showProcess, told (logged.map (Event.line showProcess)) = o.calls ∧
    outcome? (logged.map (Event.line showProcess)) = some (o.value.mapError Error.message)
  /-- The log of the run is that of discovery, with what the cluster logs in answer to calls. -/
  log : logged.Sublist o.events ∧
    ∀ event ∈ o.events, event ∈ logged ∨ ∃ c ∈ o.calls, ∃ now, event ∈ (s.reply c now).events
  listFailed : ∀ attempt e, (Event.listFailed attempt e).level = .error ∧
    (Event.listFailed attempt e).fields = [⟨"action", .word "membership.member-list.failed"⟩,
      ⟨"attempt", .number attempt⟩, ⟨"retryable", .flag e.isRetryable⟩, ⟨"error", .text e.message⟩]
  membersListed : ∀ attempt count, (Event.membersListed attempt count).level = .info ∧
    (Event.membersListed attempt count).fields = [⟨"action", .word "membership.member-list"⟩,
      ⟨"attempt", .number attempt⟩, ⟨"count", .number count⟩]
  listExhausted : ∀ attempts, (Event.listExhausted attempts).level = .info ∧
    (Event.listExhausted attempts).fields =
      [⟨"action", .word "membership.member-list.exhausted"⟩, ⟨"attempts", .number attempts⟩]
  directed : ∀ d, (Event.directed d).level = .info ∧
    (Event.directed d).fields = [⟨"action", .word "membership.initial-cluster-state"⟩,
      ⟨"members", .text d.members⟩, ⟨"state", .text d.state.text⟩]
  addFailed : ∀ e, (Event.addFailed e).level = .error ∧
    (Event.addFailed e).fields = [⟨"action", .word "membership.member-add.failed"⟩,
      ⟨"error", .text e.message⟩]

theorem log_spec (s : Surroundings σ) (self : Identity) (state : σ) :
    LogSpec s (listAt s state) ((discover self).run s state) ((discover self).ownEvents s state) where
  listing := by
    rw [ownEvents_discover]
    obtain ⟨errors, failed, hlisting⟩ := (discoverMembers_inquiry s state).exists_errors _
    exact ⟨errors, _, failed, fun _ => (settle_conclusion s self _ _).reportsList_eq_false, hlisting⟩
  ok_iff d := by
    rw [getLast?_ownEvents_discover]
    cases ((discover self).run s state).value <;> simp [resultEvent, eq_comm]
  error_iff e := by
    rw [getLast?_ownEvents_discover]
    cases ((discover self).run s state).value <;> simp [resultEvent, eq_comm]
  told showProcess := ⟨(calls_run_discover_eq_told showProcess s self state).symm,
    outcome?_discover showProcess s self state⟩
  log := ⟨Program.ownEvents_sublist s _ state, fun _ => Program.own_or_foreign⟩
  listFailed _ _ := ⟨rfl, rfl⟩
  membersListed _ _ := ⟨rfl, rfl⟩
  listExhausted _ := ⟨rfl, rfl⟩
  directed _ := ⟨rfl, rfl⟩
  addFailed _ := ⟨rfl, rfl⟩

/-- The log of discovery is faithful: it holds all that `LogSpec` says, and two runs of a node whose
logs read the same made the same calls and ended alike, in whatever surroundings. -/
theorem log_faithful {σ τ : Type} (s : Surroundings σ) (t : Surroundings τ) (self : Identity)
    (state : σ) (state' : τ) (showProcess : Nat → String) :
    LogSpec s (fun n => (s.replyAt (.cluster .list) 1000 state n).answer)
      ((discover self).run s state) ((discover self).ownEvents s state) ∧
    (((discover self).ownEvents s state).map (Event.line showProcess) =
        ((discover self).ownEvents t state').map (Event.line showProcess) →
      ((discover self).run s state).calls = ((discover self).run t state').calls ∧
      ((∃ d, ((discover self).run s state).value = .ok d ∧
          ((discover self).run t state').value = .ok d) ∨
        ∃ e e', ((discover self).run s state).value = .error e ∧
          ((discover self).run t state').value = .error e' ∧ e.message = e'.message)) := by
  refine ⟨log_spec s self state, fun hlog => ⟨?_, ?_⟩⟩
  · rw [calls_run_discover_eq_told showProcess s, hlog, calls_run_discover_eq_told showProcess t]
  · have hshown := outcome?_discover showProcess s self state
    rw [hlog, outcome?_discover showProcess t, Option.some.injEq] at hshown
    exact ok_or_error_of_mapError_eq hshown.symm

/-- Two errors that are displayed the same leave the same log, though another answer was given. -/
theorem like_errors_logged_alike :
    let self : Identity :=
      { name := "b", advertisePeerUrl := "http://h2:7001", advertiseClientUrl := "http://h2:4001"
        listenPeerUrl := "http://0.0.0.0:7001", listenClientUrl := "http://0.0.0.0:4001" }
    let first : MemberScript :=
      { lists := [.error (.tls "builder error"), .ok [{ name := "a", peerUrls := ["http://h1"] }]]
        additions := [.error (.memberRejected 409 "peerURL exists")] }
    let second : MemberScript :=
      { lists := [.error (.other "TLS setup failed: builder error"), .ok [{ name := "c" }]]
        additions := [.error (.other "Member rejected (409): peerURL exists")] }
    let run := (discover self).run MemberScript.surroundings
    ((discover self).ownEvents MemberScript.surroundings first).map (Event.line toString) =
        ((discover self).ownEvents MemberScript.surroundings second).map (Event.line toString) ∧
      (run first).value ≠ (run second).value ∧ (run first).calls = (run second).calls ∧
      ∃ e e', (run first).value = .error e ∧ (run second).value = .error e' ∧
        e.message = e'.message := by
  intro self first second run
  have hfirst : (discover self).ownEvents MemberScript.surroundings first =
      [.listFailed 1 (.tls "builder error"), .membersListed 2 1, .adding "http://h2:7001",
        .addFailed (.memberRejected 409 "peerURL exists")] := by
    decide +kernel
  have hsecond : (discover self).ownEvents MemberScript.surroundings second =
      [.listFailed 1 (.other "TLS setup failed: builder error"), .membersListed 2 1,
        .adding "http://h2:7001", .addFailed (.other "Member rejected (409): peerURL exists")] := by
    decide +kernel
  have hlisted : (Event.listFailed 1 (.tls "builder error")).line toString =
      (Event.listFailed 1 (.other "TLS setup failed: builder error")).line toString :=
    Event.line_congr rfl rfl rfl
  have hadded : (Event.addFailed (.memberRejected 409 "peerURL exists")).line toString =
      (Event.addFailed (.other "Member rejected (409): peerURL exists")).line toString :=
    Event.line_congr rfl rfl rfl
  have hlog : ((discover self).ownEvents MemberScript.surroundings first).map
        (Event.line toString) =
      ((discover self).ownEvents MemberScript.surroundings second).map (Event.line toString) := by
    simp only [hfirst, hsecond, List.map_cons, hlisted, hadded]
  obtain ⟨hcalls, halike⟩ := (log_faithful MemberScript.surroundings MemberScript.surroundings self
    first second toString).2 hlog
  have hrejected : (run first).value = .error (.memberRejected 409 "peerURL exists") := by
    decide +kernel
  have hother : (run second).value = .error (.other "Member rejected (409): peerURL exists") := by
    decide +kernel
  refine ⟨hlog, ?_, hcalls, ?_⟩
  · rw [hrejected, hother]
    simp
  · rcases halike with ⟨d, hok, -⟩ | herror
    · cases hrejected.symm.trans hok
    · exact herror

end Bootstrap

end NodeBootstrap
