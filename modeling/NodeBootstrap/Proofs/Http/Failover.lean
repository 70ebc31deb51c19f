import NodeBootstrap.Cluster.HttpClient
import NodeBootstrap.Proofs.Results

/-! # Failover between endpoints

The rules here say which endpoints are passed over and how a question to all of them ends; they do
not run the dispatch. A dispatch is exactly what the rules derive. Endpoints that were passed over
leave behind their log events, what was sent to them and the state of the network; what follows
does not depend on them otherwise. -/

namespace NodeBootstrap

namespace HttpClient

open Http

variable {σ : Type} {network : Network σ} {q : Question} {state mid : σ}

/-! ## One endpoint -/

/-- What came of a request to `url` counts for nothing, for the given reason. -/
inductive Unusable (url : Url) : Except SendFault Response → String → Prop where
  | transport (fault : SendFault) :
      Unusable url (.error fault) (fault.message url.withoutUser)
  | serverError (r : Response) (h : r.status.code / 100 = 5) :
      Unusable url (.ok r) r.status.text

/-- An endpoint that was passed over, what was sent to it, and why it was passed over. -/
structure PassedOver where
  endpoint : Url
  requests : List Request
  reason : String

namespace PassedOver

def error (p : PassedOver) : Error := .clusterUnavailable p.endpoint.text p.reason

def event (p : PassedOver) : Log.Event := .endpointFailed p.endpoint.text p.error

theorem level_event (p : PassedOver) : p.event.level = .debug := rfl

theorem fields_event (p : PassedOver) :
    p.event.fields = [⟨"action", .word "client.endpoint.failed"⟩,
      ⟨"endpoint", .text p.endpoint.text⟩, ⟨"error", .text p.error.message⟩] := rfl

end PassedOver

theorem failure?_of_unusable {url : Url} {outcome : Except SendFault Response} {reason : String}
    (h : Unusable url outcome reason) (endpoint : Url) :
    failure? endpoint url outcome = .error (.clusterUnavailable endpoint.text reason) := by
  cases h with
  | transport fault => rfl
  | serverError r h => simp [failure?, Status.isServerError, h]

theorem failure?_of_ok {r : Response} (usable : r.status.code / 100 ≠ 5) (endpoint url : Url) :
    failure? endpoint url (.ok r) = .ok r := by
  simp [failure?, Status.isServerError, usable]

/-- What a request comes to is an answer or counts for nothing. -/
theorem usable_or_unusable (url : Url) (outcome : Except SendFault Response) :
    (∃ r, outcome = .ok r ∧ r.status.code / 100 ≠ 5) ∨ ∃ reason, Unusable url outcome reason := by
  cases outcome with
  | error fault => exact .inr ⟨_, .transport fault⟩
  | ok r =>
      by_cases h : r.status.code / 100 = 5
      · exact .inr ⟨_, .serverError r h⟩
      · exact .inl ⟨r, rfl, h⟩

/-- The same dispatch after endpoints that were passed over. -/
def Dispatched.after (passed : List PassedOver) (d : Dispatched σ) : Dispatched σ :=
  { d with
    events := passed.map PassedOver.event ++ d.events
    requests := passed.flatMap PassedOver.requests ++ d.requests }

@[simp] theorem Dispatched.after_nil (d : Dispatched σ) : d.after [] = d := rfl

@[simp] theorem Dispatched.after_after (before passed : List PassedOver) (d : Dispatched σ) :
    (d.after passed).after before = d.after (before ++ passed) := by
  simp [after]

theorem dispatch_cons_of_unjoinable {endpoint : Url} {cause : UrlError}
    (unjoinable : endpoint.join q.path = .error cause) (last : Error) (rest : List Url)
    (state : σ) :
    dispatch network q last (endpoint :: rest) state =
      ⟨.error (.invalidConfig (.badEndpoint endpoint.text cause)), [], [], state⟩ := by
  simp only [dispatch, unjoinable]

theorem dispatch_cons_of_usable {endpoint url : Url} {r : Response}
    (joined : endpoint.join q.path = .ok url)
    (answer : (send network ⟨q.method, url, q.body⟩ state).outcome = .ok r)
    (usable : r.status.code / 100 ≠ 5) (last : Error) (rest : List Url) :
    dispatch network q last (endpoint :: rest) state =
      ⟨.ok (endpoint, r), [], (send network ⟨q.method, url, q.body⟩ state).requests,
        (send network ⟨q.method, url, q.body⟩ state).state⟩ := by
  simp only [dispatch, joined, answer, failure?_of_ok usable]

theorem dispatch_cons_of_unusable {endpoint url : Url} {reason : String}
    (joined : endpoint.join q.path = .ok url)
    (unusable : Unusable url (send network ⟨q.method, url, q.body⟩ state).outcome reason)
    (last : Error) (rest : List Url) :
    dispatch network q last (endpoint :: rest) state =
      (dispatch network q (.clusterUnavailable endpoint.text reason) rest
        (send network ⟨q.method, url, q.body⟩ state).state).after
          [⟨endpoint, (send network ⟨q.method, url, q.body⟩ state).requests, reason⟩] := by
  simp only [dispatch, joined, failure?_of_unusable unusable]
  simp [Dispatched.after, PassedOver.event, PassedOver.error]

/-! ## Endpoints passed over -/

/-- Endpoints are passed over one after another, each asked in the state that the one before left. -/
inductive Passing (network : Network σ) (q : Question) : σ → List PassedOver → σ → Prop where
  | nil (state : σ) : Passing network q state [] state
  | cons {state after : σ} {endpoint url : Url} {reason : String} {passed : List PassedOver}
      (joined : endpoint.join q.path = .ok url)
      (unusable : Unusable url (send network ⟨q.method, url, q.body⟩ state).outcome reason)
      (rest : Passing network q (send network ⟨q.method, url, q.body⟩ state).state passed after) :
      Passing network q state
        (⟨endpoint, (send network ⟨q.method, url, q.body⟩ state).requests, reason⟩ :: passed) after

/-- The error that a dispatch carries along. -/
def carried (last : Error) (passed : List PassedOver) : Error :=
  passed.foldl (fun _ p => p.error) last

theorem Passing.dispatch_append {passed : List PassedOver}
    (h : Passing network q state passed mid) (last : Error) (rest : List Url) :
    dispatch network q last (passed.map PassedOver.endpoint ++ rest) state =
      (dispatch network q (carried last passed) rest mid).after passed := by
  induction h generalizing last with
  | nil => rfl
  | cons joined unusable _ ih =>
      rw [List.map_cons, List.cons_append, dispatch_cons_of_unusable joined unusable, ih,
        Dispatched.after_after]
      rfl

/-! ## Dispatch as a whole -/

/-- How a question to endpoints ends: with the first answer, at the first endpoint that the path
cannot be joined to, or with the reason of the last endpoint when all were passed over. -/
inductive Dispatching (network : Network σ) (q : Question) (endpoints : List Url) (state : σ) :
    Dispatched σ → Prop where
  | answered (passed : List PassedOver) {mid : σ} {endpoint url : Url} (later : List Url)
      {r : Response}
      (split : endpoints = passed.map PassedOver.endpoint ++ endpoint :: later)
      (passing : Passing network q state passed mid)
      (joined : endpoint.join q.path = .ok url)
      (answer : (send network ⟨q.method, url, q.body⟩ mid).outcome = .ok r)
      (usable : r.status.code / 100 ≠ 5) :
      Dispatching network q endpoints state
        ⟨.ok (endpoint, r), passed.map PassedOver.event,
          passed.flatMap PassedOver.requests ++
            (send network ⟨q.method, url, q.body⟩ mid).requests,
          (send network ⟨q.method, url, q.body⟩ mid).state⟩
  | unjoinable (passed : List PassedOver) {mid : σ} {endpoint : Url} (later : List Url)
      {cause : UrlError}
      (split : endpoints = passed.map PassedOver.endpoint ++ endpoint :: later)
      (passing : Passing network q state passed mid)
      (refused : endpoint.join q.path = .error cause) :
      Dispatching network q endpoints state
        ⟨.error (.invalidConfig (.badEndpoint endpoint.text cause)),
          passed.map PassedOver.event, passed.flatMap PassedOver.requests, mid⟩
  | exhausted (passed : List PassedOver) (final : PassedOver) {mid : σ}
      (all : endpoints = (passed ++ [final]).map PassedOver.endpoint)
      (passing : Passing network q state (passed ++ [final]) mid) :
      Dispatching network q endpoints state
        ⟨.error (.clusterUnavailable final.endpoint.text final.reason),
          (passed ++ [final]).map PassedOver.event,
          (passed ++ [final]).flatMap PassedOver.requests, mid⟩

theorem Dispatching.execution {endpoints : List Url} {d : Dispatched σ}
    (h : Dispatching network q endpoints state d) (last : Error) :
    dispatch network q last endpoints state = d := by
  cases h with
  | answered passed later split passing joined answer usable =>
      rw [split, passing.dispatch_append, dispatch_cons_of_usable joined answer usable]
      simp [Dispatched.after]
  | unjoinable passed later split passing refused =>
      rw [split, passing.dispatch_append, dispatch_cons_of_unjoinable refused]
      simp [Dispatched.after]
  | exhausted passed final all passing =>
      have hrun := passing.dispatch_append last []
      rw [List.append_nil, ← all] at hrun
      rw [hrun]
      simp [dispatch, Dispatched.after, carried, PassedOver.error]

/-- An endpoint that is passed over comes before what the others come to. -/
theorem Dispatching.cons {endpoint url : Url} {reason : String} {rest : List Url}
    {d : Dispatched σ} (joined : endpoint.join q.path = .ok url)
    (unusable : Unusable url (send network ⟨q.method, url, q.body⟩ state).outcome reason)
    (h : Dispatching network q rest (send network ⟨q.method, url, q.body⟩ state).state d) :
    Dispatching network q (endpoint :: rest) state
      (d.after [⟨endpoint, (send network ⟨q.method, url, q.body⟩ state).requests, reason⟩]) := by
  cases h with
  | answered passed later split passing joined' answer usable =>
      have h := Dispatching.answered (⟨endpoint, _, reason⟩ :: passed) later
        (congrArg (endpoint :: ·) split) (passing.cons joined unusable) joined' answer usable
      simpa [Dispatched.after] using h
  | unjoinable passed later split passing refused =>
      have h := Dispatching.unjoinable (⟨endpoint, _, reason⟩ :: passed) later
        (congrArg (endpoint :: ·) split) (passing.cons joined unusable) refused
      simpa [Dispatched.after] using h
  | exhausted passed final all passing =>
      have h := Dispatching.exhausted (⟨endpoint, _, reason⟩ :: passed) final
        (congrArg (endpoint :: ·) all) (passing.cons joined unusable)
      simpa [Dispatched.after] using h

/-- An endpoint decides the dispatch, or is passed over. -/
theorem decided_or_passed (network : Network σ) (q : Question) (endpoint : Url)
    (rest : List Url) (state : σ) :
    (∃ d, Dispatching network q (endpoint :: rest) state d) ∨
      ∃ url reason, endpoint.join q.path = .ok url ∧
        Unusable url (send network ⟨q.method, url, q.body⟩ state).outcome reason := by
  cases joined : endpoint.join q.path with
  | error cause => exact .inl ⟨_, .unjoinable [] rest rfl (.nil state) joined⟩
  | ok url =>
      rcases usable_or_unusable url (send network ⟨q.method, url, q.body⟩ state).outcome with
        ⟨r, answer, usable⟩ | ⟨reason, unusable⟩
      · exact .inl ⟨_, .answered [] rest rfl (.nil state) joined answer usable⟩
      · exact .inr ⟨url, reason, rfl, unusable⟩

theorem exists_dispatching (network : Network σ) (q : Question) (endpoint : Url)
    (rest : List Url) (state : σ) :
    ∃ d, Dispatching network q (endpoint :: rest) state d := by
  induction rest generalizing endpoint state with
  | nil =>
      rcases decided_or_passed network q endpoint [] state with h | ⟨url, reason, joined, unusable⟩
      · exact h
      · exact ⟨_, .exhausted [] _ rfl ((Passing.nil _).cons joined unusable)⟩
  | cons next rest ih =>
      rcases decided_or_passed network q endpoint (next :: rest) state with
        h | ⟨url, reason, joined, unusable⟩
      · exact h
      · obtain ⟨d, h⟩ := ih next (send network ⟨q.method, url, q.body⟩ state).state
        exact ⟨_, h.cons joined unusable⟩

theorem dispatch_iff {endpoints : List Url} (ne : endpoints ≠ []) (last : Error)
    (d : Dispatched σ) :
    dispatch network q last endpoints state = d ↔ Dispatching network q endpoints state d := by
  refine ⟨?_, fun h => h.execution last⟩
  rintro rfl
  obtain ⟨endpoint, rest, rfl⟩ := List.exists_cons_of_ne_nil ne
  obtain ⟨d, h⟩ := exists_dispatching network q endpoint rest state
  rw [h.execution last]
  exact h

/-- The error from before counts only where there is no endpoint. -/
theorem dispatch_last_irrelevant {endpoints : List Url} (ne : endpoints ≠ []) (last last' : Error)
    (state : σ) :
    dispatch network q last endpoints state = dispatch network q last' endpoints state :=
  (dispatch_iff ne last _).mpr ((dispatch_iff ne last' _).mp rfl)

/-- Dispatch goes on after endpoints that were passed over as if it began there. -/
theorem Passing.dispatch_resumes {passed : List PassedOver}
    (h : Passing network q state passed mid) {rest : List Url} (ne : rest ≠ []) (last : Error) :
    dispatch network q last (passed.map PassedOver.endpoint ++ rest) state =
      (dispatch network q last rest mid).after passed := by
  rw [h.dispatch_append, dispatch_last_irrelevant ne _ last]

/-! ## Clients -/

theorem parse_of_endpoint {text : String} {url : Url} (h : endpoint text = .ok url) :
    Url.parse text = .ok url := by
  rw [endpoint] at h
  cases hparse : Url.parse text with
  | error cause =>
      rw [hparse] at h
      cases h
  | ok parsed =>
      rw [hparse] at h
      exact congrArg Except.ok (Except.ok.inj h)

theorem build_ok {files : FileTree} {texts : List String} {tls : Option TlsFiles}
    {client : HttpClient} (h : build files texts tls = .ok client) :
    texts ≠ [] ∧
      List.Forall₂ (fun text url => Url.parse text = .ok url) texts client.endpoints := by
  rw [build] at h
  split at h
  · cases h
  · next ne =>
      obtain ⟨urls, hurls, hchecked⟩ := bind_eq_ok_iff.mp h
      have hclient : client = ⟨urls⟩ := by
        cases tls with
        | none => exact (Except.ok.inj hchecked).symm
        | some tls =>
            obtain ⟨_, _, hbuilt⟩ := bind_eq_ok_iff.mp hchecked
            exact (Except.ok.inj hbuilt).symm
      rw [hclient]
      exact ⟨ne, (forall₂_of_mapM_eq_ok hurls).imp fun _ _ => parse_of_endpoint⟩

/-- What a call comes to, once its question was dispatched. -/
def concluded (c : MemberCall) : Except Error (Url × Response) → Except Error c.Answer
  | .ok (endpoint, r) => answer endpoint r c
  | .error e => .error e

/-- All that dispatching promises for a client that was built from texts, on any network. -/
structure DispatchSpec (texts : List String) (client : HttpClient) (network : Network σ) :
    Prop where
  /-- The endpoints are those of the texts, in their order. -/
  endpoints : List.Forall₂ (fun text url => Url.parse text = .ok url) texts client.endpoints
  /-- A dispatch comes to exactly what the rules derive. -/
  derived : ∀ q state d, dispatch network q .noEndpoints client.endpoints state = d ↔
    Dispatching network q client.endpoints state d
  /-- The event of an endpoint that was passed over is for debugging, and tells its error. -/
  logged : ∀ p : PassedOver, p.event.level = .debug ∧
    p.event.fields = [⟨"action", .word "client.endpoint.failed"⟩,
      ⟨"endpoint", .text p.endpoint.text⟩, ⟨"error", .text p.error.message⟩]
  /-- Endpoints that are passed over come before what the others come to. -/
  resumed : ∀ q state passed mid rest, rest ≠ [] →
    client.endpoints = passed.map PassedOver.endpoint ++ rest →
      Passing network q state passed mid →
        dispatch network q .noEndpoints client.endpoints state =
          (dispatch network q .noEndpoints rest mid).after passed
  /-- A call dispatches its question once and judges by what that came to. -/
  called : ∀ c traffic, ∃ d, Dispatching network (question c) client.endpoints traffic.network d ∧
    client.api network c traffic =
      ⟨concluded c d.outcome, d.events, ⟨d.state, traffic.requests ++ d.requests⟩⟩

theorem dispatch_spec {files : FileTree} {texts : List String} {tls : Option TlsFiles}
    {client : HttpClient} (built : build files texts tls = .ok client) (network : Network σ) :
    DispatchSpec texts client network := by
  obtain ⟨hne, hparsed⟩ := build_ok built
  have ne : client.endpoints ≠ [] := by
    intro hnil
    rw [hnil] at hparsed
    exact hne (List.forall₂_nil_right_iff.mp hparsed)
  exact
    { endpoints := hparsed
      derived := fun _ _ d => dispatch_iff ne .noEndpoints d
      logged := fun p => ⟨p.level_event, p.fields_event⟩
      resumed := fun _ _ _ _ _ hrest hsplit passing => by
        rw [hsplit]
        exact passing.dispatch_resumes hrest .noEndpoints
      called := fun c traffic => ⟨_, (dispatch_iff ne .noEndpoints _).mp rfl, by
        rw [api]
        rfl⟩ }

/-- Of two endpoints of which the first gives no answer, the second one decides. -/
theorem second_endpoint_decides :
    let network : Network Nat := fun _ n =>
      (if n = 0 then none else some { status := ⟨200⟩ }, n + 1)
    let h1 : Url := ⟨"http", some { host := .name "h1", port := some 4001 }, .rooted [""], none, none⟩
    let h2 : Url := ⟨"http", some { host := .name "h2", port := some 4001 }, .rooted [""], none, none⟩
    build { cwd := "/" } ["http://h1:4001", "http://h2:4001"] none = .ok ⟨[h1, h2]⟩ ∧
      DispatchSpec ["http://h1:4001", "http://h2:4001"] ⟨[h1, h2]⟩ network ∧
      (dispatch network (question .list) .noEndpoints [h1, h2] 0).outcome =
        .ok (h2, { status := ⟨200⟩ }) := by
  intro network h1 h2
  have built : build { cwd := "/" } ["http://h1:4001", "http://h2:4001"] none =
      .ok ⟨[h1, h2]⟩ := by decide +kernel
  exact ⟨built, dispatch_spec built network, by decide +kernel⟩

end HttpClient

end NodeBootstrap
