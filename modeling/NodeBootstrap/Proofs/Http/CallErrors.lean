import NodeBootstrap.Proofs.Http.Redirects
import NodeBootstrap.Proofs.Url.Joining

/-! # What a call can fail with

A call to the member API over HTTP is decided by the first endpoint that answers. It succeeds only on
an answer of success; a refusal to register a member is told apart from everything else; whatever
remains says which endpoint the cluster was not available at. -/

namespace NodeBootstrap

namespace HttpClient

open Http

variable {σ : Type} {network : Network σ} {client : HttpClient} {c : MemberCall} {state : σ}

/-! ## Where the paths lead -/

/-- The segments of the path that a call asks at. -/
def segments : MemberCall → List String
  | .list | .add _ => ["v2", "members"]
  | .keys => ["v2", "keys", ""]

theorem fromRoot_membersPath : Url.FromRoot membersPath ["v2", "members"] where
  slash := ⟨'v', "2/members".toList, by decide +kernel, by decide +kernel⟩
  noQuery := by decide +kernel
  noFragment := by decide +kernel
  read := by decide +kernel

theorem fromRoot_keysPath : Url.FromRoot keysPath ["v2", "keys", ""] where
  slash := ⟨'v', "2/keys/".toList, by decide +kernel, by decide +kernel⟩
  noQuery := by decide +kernel
  noFragment := by decide +kernel
  read := by decide +kernel

theorem fromRoot_question (c : MemberCall) : Url.FromRoot (question c).path (segments c) := by
  cases c with
  | list => exact fromRoot_membersPath
  | add peerUrl => exact fromRoot_membersPath
  | keys => exact fromRoot_keysPath

/-! ## The endpoint that answers -/

/-- The endpoint is the first one that is not passed over, and this is its answer. -/
inductive Answering (network : Network σ) (q : Question) (endpoints : List Url) (state : σ) :
    Url → Response → Prop where
  | first {passed : List PassedOver} {mid : σ} {endpoint url : Url} {later : List Url}
      {r : Response}
      (split : endpoints = passed.map PassedOver.endpoint ++ endpoint :: later)
      (passing : Passing network q state passed mid)
      (joined : endpoint.join q.path = .ok url)
      (answer : (send network ⟨q.method, url, q.body⟩ mid).outcome = .ok r)
      (usable : r.status.code / 100 ≠ 5) : Answering network q endpoints state endpoint r

/-- All endpoints are passed over. -/
def Silent (network : Network σ) (q : Question) (endpoints : List Url) (state : σ) : Prop :=
  ∃ passed after, endpoints = passed.map PassedOver.endpoint ∧ Passing network q state passed after

theorem Answering.mem {q : Question} {endpoints : List Url} {endpoint : Url} {r : Response}
    (h : Answering network q endpoints state endpoint r) : endpoint ∈ endpoints := by
  cases h with
  | first split =>
      rw [split]
      exact List.mem_append_right _ List.mem_cons_self

/-- How a call ends: with what its answer comes to, at an endpoint that cannot be asked, or with the
last endpoint where none answers. -/
inductive Ending (client : HttpClient) (network : Network σ) (c : MemberCall) (state : σ) :
    Except Error c.Answer → Prop where
  | answered {endpoint : Url} {r : Response}
      (h : Answering network (question c) client.endpoints state endpoint r) :
      Ending client network c state (answer endpoint r c)
  | unjoinable {endpoint : Url} {cause : UrlError} (mem : endpoint ∈ client.endpoints)
      (refused : endpoint.join (question c).path = .error cause) :
      Ending client network c state (.error (.invalidConfig (.badEndpoint endpoint.text cause)))
  | silent {final : Url} {reason : String}
      (h : Silent network (question c) client.endpoints state)
      (last : client.endpoints.getLast? = some final) :
      Ending client network c state (.error (.clusterUnavailable final.text reason))

theorem ending (ne : client.endpoints ≠ []) (network : Network σ) (c : MemberCall)
    (traffic : Traffic σ) :
    Ending client network c traffic.network (client.api network c traffic).answer := by
  have hdispatch := (dispatch_iff ne .noEndpoints _).mp
    (Eq.refl (dispatch network (question c) .noEndpoints client.endpoints traffic.network))
  have hconcluded : (client.api network c traffic).answer = concluded c
    (dispatch network (question c) .noEndpoints client.endpoints traffic.network).outcome := rfl
  rw [hconcluded]
  generalize dispatch network _ _ _ _ = d at hdispatch
  cases hdispatch with
  | answered passed later split passing joined answer usable =>
      exact .answered (.first split passing joined answer usable)
  | unjoinable passed later split passing refused =>
      refine .unjoinable ?_ refused
      rw [split]
      exact List.mem_append_right _ List.mem_cons_self
  | exhausted passed final all passing =>
      refine .silent ⟨_, _, all, passing⟩ ?_
      rw [all, List.map_append, List.map_singleton, List.getLast?_concat]

theorem Answering.api {traffic : Traffic σ} {endpoint : Url} {r : Response}
    (h : Answering network (question c) client.endpoints traffic.network endpoint r) :
    (client.api network c traffic).answer = answer endpoint r c := by
  cases h with
  | first split passing joined answer usable =>
      have hdispatch := (Dispatching.answered _ _ split passing joined answer usable).execution
        .noEndpoints
      rw [HttpClient.api, hdispatch]

/-! ## What an answer comes to -/

/-- What a call reads off a body. -/
def Reads : (c : MemberCall) → Body → c.Answer → Prop
  | .list, body, members =>
    ∃ octets, body = .complete octets ∧ Member.decodeListBytes octets = .ok members
  | .add _, body, m => ∃ octets, body = .complete octets ∧ Member.decodeBytes octets = .ok m
  | .keys, _, () => True

theorem decoded_eq_ok_iff {α : Type} (endpoint : Url) (decode : List UInt8 → Except Json.Fault α)
    (body : Body) (a : α) :
    decoded endpoint decode body = .ok a ↔
      ∃ octets, body = .complete octets ∧ decode octets = .ok a := by
  cases body with
  | cut => simp [decoded]
  | complete octets => cases h : decode octets <;> simp [decoded, Except.mapError, h]

theorem decoded_eq_error {α : Type} {endpoint : Url} {decode : List UInt8 → Except Json.Fault α}
    {body : Body} {e : Error} (h : decoded endpoint decode body = .error e) :
    e = .clusterUnavailable endpoint.text undecodable := by
  cases body with
  | cut => exact (Except.error.inj h).symm
  | complete octets =>
      cases hdecode : decode octets with
      | ok a => simp [decoded, Except.mapError, hdecode] at h
      | error fault => simpa [decoded, Except.mapError, hdecode] using h.symm

theorem answer_eq_ok_iff (endpoint : Url) (r : Response) (c : MemberCall) (a : c.Answer) :
    answer endpoint r c = .ok a ↔ r.status.code / 100 = 2 ∧ Reads c r.body a := by
  cases c with
  | list =>
      by_cases h : r.status.code / 100 = 2
      · simp [answer, listAnswer, Status.isSuccess, h, decoded_eq_ok_iff, Reads]
      · simp [answer, listAnswer, Status.isSuccess, h]
  | add peerUrl => exact addAnswer_eq_ok_iff endpoint r a
  | keys =>
      by_cases h : r.status.code / 100 = 2 <;>
        simp [answer, keysAnswer, Status.isSuccess, h, Reads]

/-- A refusal needs no body that can be read. -/
theorem addAnswer_of_clientError {r : Response} (h : r.status.code / 100 = 4) (endpoint : Url) :
    addAnswer endpoint r = .error (.memberRejected r.status.code (bodyText r.body)) := by
  simp [addAnswer, Status.isClientError, h]

theorem answer_eq_error {endpoint : Url} {r : Response} {e : Error}
    (h : answer endpoint r c = .error e) :
    ((∃ peerUrl, c = .add peerUrl) ∧ r.status.code / 100 = 4 ∧
        e = .memberRejected r.status.code (bodyText r.body)) ∨
      ∃ reason, e = .clusterUnavailable endpoint.text reason := by
  cases c with
  | list =>
      simp only [answer, listAnswer] at h
      split at h
      · exact .inr ⟨_, decoded_eq_error h⟩
      · exact .inr ⟨_, (Except.error.inj h).symm⟩
  | add peerUrl =>
      by_cases hrefused : r.status.code / 100 = 4
      · rw [answer, addAnswer_of_clientError hrefused] at h
        exact .inl ⟨⟨peerUrl, rfl⟩, hrefused, (Except.error.inj h).symm⟩
      · simp only [answer, addAnswer, Status.isClientError, hrefused] at h
        split at h
        · contradiction
        · split at h
          · exact .inr ⟨_, decoded_eq_error h⟩
          · exact .inr ⟨_, (Except.error.inj h).symm⟩
  | keys =>
      simp only [answer, keysAnswer] at h
      split at h
      · cases h
      · exact .inr ⟨_, (Except.error.inj h).symm⟩

/-! ## Calls -/

/-- What a call promises about its result, in terms of the endpoint that answers. -/
structure CallSpec (client : HttpClient) (network : Network σ) (c : MemberCall) (state : σ)
    (result : Except Error c.Answer) : Prop where
  /-- A call succeeds exactly on an answer of success that can be read. -/
  ok_iff : ∀ a, result = .ok a ↔ ∃ endpoint r,
    Answering network (question c) client.endpoints state endpoint r ∧
      r.status.code / 100 = 2 ∧ Reads c r.body a
  /-- Only a registration can be rejected; it is, with the status, exactly if the answer puts the
  blame on the client, whatever its body. -/
  rejected_iff : ∀ status, (∃ reason, result = .error (.memberRejected status reason)) ↔
    (∃ peerUrl, c = .add peerUrl) ∧ ∃ endpoint r,
      Answering network (question c) client.endpoints state endpoint r ∧
        r.status.code = status ∧ status / 100 = 4
  /-- The configuration is to blame only for an endpoint to which no path can be joined. -/
  invalid : ∀ fault, result = .error (.invalidConfig fault) → ∃ endpoint ∈ client.endpoints,
    (∃ text, endpoint.path = .rootless text) ∧
      endpoint.join (question c).path = .error .relativeToOpaqueBase ∧
      fault = .badEndpoint endpoint.text .relativeToOpaqueBase
  /-- Any other error says where the cluster was not available: at the endpoint that answered, or at
  the last one if none did. -/
  unavailable : ∀ e, result = .error e → (∀ status reason, e ≠ .memberRejected status reason) →
    (∀ fault, e ≠ .invalidConfig fault) →
      ∃ endpoint ∈ client.endpoints, ∃ reason, e = .clusterUnavailable endpoint.text reason ∧
        ((∃ r, Answering network (question c) client.endpoints state endpoint r) ∨
          Silent network (question c) client.endpoints state ∧
            client.endpoints.getLast? = some endpoint)
  /-- A list or a read that fails may be tried again, unless an endpoint cannot be asked. -/
  retryable : c = .list ∨ c = .keys → ∀ e, result = .error e →
    (∀ fault, e ≠ .invalidConfig fault) → e.isRetryable

namespace Ending

variable {result : Except Error c.Answer}

theorem invalid (h : Ending client network c state result) {fault : ConfigFault}
    (hfault : result = .error (.invalidConfig fault)) :
    ∃ endpoint ∈ client.endpoints, (∃ text, endpoint.path = .rootless text) ∧
      endpoint.join (question c).path = .error .relativeToOpaqueBase ∧
      fault = .badEndpoint endpoint.text .relativeToOpaqueBase := by
  cases h with
  | answered h =>
      rcases answer_eq_error hfault with ⟨-, -, he⟩ | ⟨reason, he⟩
      · cases he
      · cases he
  | @unjoinable endpoint cause mem refused =>
      obtain ⟨hpath, rfl⟩ := (fromRoot_question c).exists_rootless refused
      cases hfault
      exact ⟨endpoint, mem, hpath, refused, rfl⟩
  | silent => cases hfault

theorem unavailable (h : Ending client network c state result) {e : Error}
    (herror : result = .error e) (notRejected : ∀ status reason, e ≠ .memberRejected status reason)
    (valid : ∀ fault, e ≠ .invalidConfig fault) :
    ∃ endpoint ∈ client.endpoints, ∃ reason, e = .clusterUnavailable endpoint.text reason ∧
      ((∃ r, Answering network (question c) client.endpoints state endpoint r) ∨
        Silent network (question c) client.endpoints state ∧
          client.endpoints.getLast? = some endpoint) := by
  cases h with
  | @answered endpoint r h =>
      rcases answer_eq_error herror with ⟨-, -, he⟩ | ⟨reason, he⟩
      · exact absurd he (notRejected _ _)
      · exact ⟨endpoint, h.mem, reason, he, .inl ⟨r, h⟩⟩
  | unjoinable => exact absurd (Except.error.inj herror).symm (valid _)
  | @silent final reason h last =>
      exact ⟨final, List.mem_of_getLast? last, reason, (Except.error.inj herror).symm,
        .inr ⟨h, last⟩⟩

theorem rejected (h : Ending client network c state result) {status : Nat} {reason : String}
    (hrejected : result = .error (.memberRejected status reason)) :
    (∃ peerUrl, c = .add peerUrl) ∧ ∃ endpoint r,
      Answering network (question c) client.endpoints state endpoint r ∧
        r.status.code = status ∧ status / 100 = 4 := by
  cases h with
  | @answered endpoint r h =>
      rcases answer_eq_error hrejected with ⟨hadd, hcode, he⟩ | ⟨reason, he⟩
      · obtain ⟨rfl, -⟩ := Error.memberRejected.inj he
        exact ⟨hadd, endpoint, r, h, rfl, hcode⟩
      · cases he
  | unjoinable => cases hrejected
  | silent => cases hrejected

end Ending

theorem call_spec (ne : client.endpoints ≠ []) (network : Network σ) (c : MemberCall)
    (traffic : Traffic σ) :
    CallSpec client network c traffic.network (client.api network c traffic).answer := by
  have h := ending ne network c traffic
  refine ⟨fun a => ⟨fun hok => ?_, ?_⟩, fun status => ⟨?_, ?_⟩, fun fault => h.invalid,
    fun e => h.unavailable, fun hread e herror valid => ?_⟩
  · generalize (client.api network c traffic).answer = result at h hok
    cases h with
    | @answered endpoint r h => exact ⟨endpoint, r, h, (answer_eq_ok_iff endpoint r c a).mp hok⟩
    | unjoinable => cases hok
    | silent => cases hok
  · rintro ⟨endpoint, r, hanswering, hread⟩
    rw [hanswering.api]
    exact (answer_eq_ok_iff endpoint r c a).mpr hread
  · rintro ⟨reason, hrejected⟩
    exact h.rejected hrejected
  · rintro ⟨⟨peerUrl, rfl⟩, endpoint, r, hanswering, rfl, hcode⟩
    rw [hanswering.api]
    exact ⟨_, addAnswer_of_clientError hcode endpoint⟩
  · have notRejected : ∀ status reason, e ≠ .memberRejected status reason := by
      rintro status reason rfl
      obtain ⟨⟨peerUrl, rfl⟩, -⟩ := h.rejected herror
      rcases hread with hlist | hkeys
      · cases hlist
      · cases hkeys
    obtain ⟨endpoint, -, reason, rfl, -⟩ := h.unavailable herror notRejected valid
    rfl

/-! ## Construction -/

theorem checkTls_ne_noEndpoints (files : FileTree) (tls : TlsFiles) :
    checkTls files tls ≠ .error .noEndpoints := by
  have hread : ∀ {path : String} {e : Error},
      (files.read ⟨path⟩).mapError .io = .error e → e ≠ .noEndpoints := by
    intro path e h
    obtain ⟨cause, rfl⟩ := exists_of_mapError_eq_error h
    exact nofun
  intro h
  rcases error_of_bind_eq_error h with hca | ⟨_, -, h⟩
  · exact hread hca rfl
  rcases error_of_bind_eq_error h with hcert | ⟨_, -, h⟩
  · exact hread hcert rfl
  rcases error_of_bind_eq_error h with hkey | ⟨_, -, h⟩
  · exact hread hkey rfl
  split at h <;> cases h

theorem build_noEndpoints_iff (files : FileTree) (texts : List String) (tls : Option TlsFiles) :
    build files texts tls = .error .noEndpoints ↔ texts = [] := by
  refine ⟨fun h => ?_, fun h => by rw [build, if_pos h]⟩
  by_contra ne
  rw [build, if_neg ne] at h
  rcases error_of_bind_eq_error h with hparse | ⟨urls, -, h⟩
  · obtain ⟨text, -, htext⟩ := exists_of_mapM_eq_error hparse
    obtain ⟨cause, hcause⟩ := exists_of_mapError_eq_error htext
    cases hcause
  · cases tls with
    | none => cases h
    | some tls =>
        rcases error_of_bind_eq_error h with hchecked | ⟨_, -, h⟩
        · exact checkTls_ne_noEndpoints files tls hchecked
        · cases h

theorem clusterEndpoints_ne_nil (c : Config) : c.clusterEndpoints ≠ [] := by
  rw [Config.clusterEndpoints]
  split
  · exact List.cons_ne_nil _ _
  · split
    · exact List.cons_ne_nil _ _
    · next hmachines =>
        rw [Ne, List.map_eq_nil_iff, ← List.isEmpty_iff]
        exact hmachines

/-- A client that is built for a configuration has endpoints, or fails for another reason. -/
theorem wiring_ne_noEndpoints (files : FileTree) (c : Config) {texts : List String}
    (ne : texts ≠ []) :
    (c.tlsFiles.mapError Error.invalidConfig >>= build files texts) ≠ .error .noEndpoints := by
  intro h
  rcases error_of_bind_eq_error h with htls | ⟨tls, -, h⟩
  · obtain ⟨cause, hcause⟩ := exists_of_mapError_eq_error htls
    cases hcause
  · exact ne ((build_noEndpoints_iff files texts tls).mp h)

theorem endpoints_ne_nil {files : FileTree} {texts : List String} {tls : Option TlsFiles}
    (built : build files texts tls = .ok client) : client.endpoints ≠ [] := by
  obtain ⟨ne, parsed⟩ := build_ok built
  intro hnil
  rw [hnil] at parsed
  exact ne (List.forall₂_nil_right_iff.mp parsed)

/-- Which errors a client comes to, in its calls and before there is one. -/
structure ErrorSpec (texts : List String) (client : HttpClient) (network : Network σ) : Prop where
  /-- The endpoints are those of the texts, in their order. -/
  parsed : List.Forall₂ (fun text url => Url.parse text = .ok url) texts client.endpoints
  calls : ∀ c traffic,
    CallSpec client network c traffic.network (client.api network c traffic).answer
  /-- No call comes to an error of any other kind. -/
  kinds : ∀ c traffic e, (client.api network c traffic).answer = .error e →
    (∃ fault, e = .invalidConfig fault) ∨ (∃ status reason, e = .memberRejected status reason) ∨
      ∃ endpoint reason, e = .clusterUnavailable endpoint reason
  noEndpoints_iff : ∀ files texts tls,
    build files texts tls = .error .noEndpoints ↔ texts = []
  /-- The clients of a configuration are given endpoints. -/
  wired : ∀ files (c : Config), c.clusterEndpoints ≠ [] ∧
    forCluster files c ≠ .error .noEndpoints ∧ forOwnNode files c ≠ .error .noEndpoints

theorem errors_told_apart {files : FileTree} {texts : List String} {tls : Option TlsFiles}
    (built : build files texts tls = .ok client) (network : Network σ) :
    ErrorSpec texts client network where
  parsed := (build_ok built).2
  calls := call_spec (endpoints_ne_nil built) network
  kinds := fun c traffic e h => by
    have spec := call_spec (endpoints_ne_nil built) network c traffic
    by_cases hinvalid : ∃ fault, e = .invalidConfig fault
    · exact .inl hinvalid
    by_cases hrejected : ∃ status reason, e = .memberRejected status reason
    · exact .inr (.inl hrejected)
    · obtain ⟨endpoint, -, reason, he, -⟩ := spec.unavailable e h
        (fun status reason he => hrejected ⟨status, reason, he⟩)
        fun fault he => hinvalid ⟨fault, he⟩
      exact .inr (.inr ⟨endpoint.text, reason, he⟩)
  noEndpoints_iff := build_noEndpoints_iff
  wired := fun files c => ⟨clusterEndpoints_ne_nil c,
    wiring_ne_noEndpoints files c (clusterEndpoints_ne_nil c),
    wiring_ne_noEndpoints files c (List.cons_ne_nil _ _)⟩

/-- A registration that the second endpoint refuses is rejected with its status, though the body of
the refusal is cut off. -/
theorem refused_by_second_endpoint :
    let network : Network Nat := fun _ n =>
      (some (if n = 0 then { status := ⟨503⟩ } else { status := ⟨409⟩, body := .cut }), n + 1)
    let h1 : Url := ⟨"http", some { host := .name "h1", port := some 4001 }, .rooted [""], none, none⟩
    let h2 : Url := ⟨"http", some { host := .name "h2", port := some 4001 }, .rooted [""], none, none⟩
    build { cwd := "/" } ["http://h1:4001", "http://h2:4001"] none = .ok ⟨[h1, h2]⟩ ∧
      ErrorSpec ["http://h1:4001", "http://h2:4001"] ⟨[h1, h2]⟩ network ∧
      (api ⟨[h1, h2]⟩ network (.add "http://h7:7001") ⟨0, []⟩).answer =
        .error (.memberRejected 409 "response body error: error decoding response body") := by
  intro network h1 h2
  have built : build { cwd := "/" } ["http://h1:4001", "http://h2:4001"] none =
      .ok ⟨[h1, h2]⟩ := by decide +kernel
  exact ⟨built, errors_told_apart built network, by decide +kernel⟩

end HttpClient

end NodeBootstrap
