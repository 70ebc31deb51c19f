import NodeBootstrap.Bootstrap.Application
import NodeBootstrap.Proofs.Bootstrap.Discovery
import NodeBootstrap.Proofs.Http.CallErrors

/-! # Discovery through outages

Endpoints that are down cost a node requests and time, and do not change what it finds: as soon as
one endpoint answers an attempt with members, the node joins them or fails to be added. It never
originates a cluster beside them. The statements here follow the retries of discovery and the
failover between endpoints at once. -/

namespace NodeBootstrap

namespace Http

variable {σ : Type} {network : Network σ}

/-- No answer of the network leads to another request. -/
def Network.Direct (network : Network σ) : Prop :=
  ∀ req state r, (network req state).1 = some r → redirected? req r = none

theorem Network.Direct.send (direct : network.Direct) {req : Request} (http : isHttp req.url)
    (state : σ) :
    send network req state =
      ⟨match (network req state).1 with
        | some r => .ok r
        | none => .error .noAnswer,
        [req], (network req state).2⟩ := by
  rw [Http.send, if_pos http, follow]
  cases h : network req state with
  | mk answer after =>
      cases answer with
      | none => rfl
      | some r => simp only [direct req state r (congrArg Prod.fst h)]

/-- Whatever a network without redirects is sent, it is sent as it was meant. -/
theorem Network.Direct.eq_of_mem_requests (direct : network.Direct) {req sent : Request} {state : σ}
    (h : sent ∈ (Http.send network req state).requests) : sent = req := by
  by_cases http : isHttp req.url
  · rw [direct.send http] at h
    exact List.mem_singleton.mp h
  · rw [Http.send, if_neg http] at h
    cases h

end Http

open Http Bootstrap

namespace HttpClient

variable {σ : Type} {network : Network σ} {client : HttpClient} {state mid after : σ}
  {endpoint : Url} {members : List Member}

theorem method_of_mem_requests (direct : network.Direct) {q : Question} {last : Error}
    {endpoints : List Url} {req : Request}
    (h : req ∈ (dispatch network q last endpoints state).requests) : req.method = q.method := by
  fun_induction dispatch network q last endpoints state with
  | case1 => cases h
  | case2 => cases h
  | case3 =>
      rw [direct.eq_of_mem_requests h]
  | case4 _ _ _ _ _ _ _ _ _ _ ih =>
      rcases List.mem_append.mp h with hfirst | hrest
      · rw [direct.eq_of_mem_requests hfirst]
      · exact ih hrest

/-! ## Endpoints that are down -/

/-- The request for the members at an endpoint. -/
def reading (endpoint : Url) : Request := ⟨.get, endpoint.atRoot ["v2", "members"], none⟩

theorem eq_reading_of_join {url : Url} (joined : endpoint.join membersPath = .ok url) :
    (⟨.get, url, none⟩ : Request) = reading endpoint := by
  rw [reading, fromRoot_membersPath.eq_atRoot joined]

/-- Endpoints are asked for the members one after another, and all are down: they give no answer, or
that of a server that fails. -/
inductive Down (network : Network σ) : σ → List Url → σ → Prop where
  | nil (state : σ) : Down network state [] state
  | cons {state mid after : σ} {endpoint url : Url} {rest : List Url} {answer : Option Response}
      (joined : endpoint.join membersPath = .ok url)
      (asked : network ⟨.get, url, none⟩ state = (answer, mid))
      (failed : ∀ r, answer = some r → r.status.code / 100 = 5)
      (later : Down network mid rest after) : Down network state (endpoint :: rest) after

/-- The endpoint answers with a list of members that can be read. -/
inductive Serving (network : Network σ) (state : σ) (endpoint : Url) (members : List Member) :
    σ → Prop where
  | listed {after : σ} {url : Url} {r : Response} {octets : List UInt8}
      (joined : endpoint.join membersPath = .ok url)
      (answer : network ⟨.get, url, none⟩ state = (some r, after))
      (success : r.status.code / 100 = 2) (whole : r.body = .complete octets)
      (decoded : Member.decodeListBytes octets = .ok members) :
      Serving network state endpoint members after

/-- Attempts in a row, in each of which all endpoints are down. -/
inductive Outage (network : Network σ) (endpoints : List Url) : σ → Nat → σ → Prop where
  | none (state : σ) : Outage network endpoints state 0 state
  | attempt {state mid after : σ} {k : Nat} (first : Down network state endpoints mid)
      (rest : Outage network endpoints mid k after) : Outage network endpoints state (k + 1) after

/-- What is sent to an endpoint that accepts the path is sent once, and is the request for the
members. -/
theorem send_reading (direct : network.Direct) (http : isHttp endpoint) {url : Url}
    (joined : endpoint.join membersPath = .ok url) (state : σ) :
    Http.send network ⟨.get, url, none⟩ state =
      ⟨match (network ⟨.get, url, none⟩ state).1 with
        | some r => .ok r
        | none => .error .noAnswer,
        [reading endpoint], (network ⟨.get, url, none⟩ state).2⟩ := by
  have hjoined : isHttp (Request.mk .get url none).url := by
    rw [isHttp, fromRoot_membersPath.isUri_of_join joined, fromRoot_membersPath.eq_atRoot joined]
    exact http
  rw [← eq_reading_of_join joined]
  exact direct.send hjoined state

/-- Endpoints that are down are passed over, with one request each. -/
theorem Down.exists_passing {endpoints : List Url} (h : Down network state endpoints after)
    (direct : network.Direct) (http : ∀ endpoint ∈ endpoints, isHttp endpoint) :
    ∃ passed, endpoints = passed.map PassedOver.endpoint ∧
      Passing network (question .list) state passed after ∧
      passed.flatMap PassedOver.requests = endpoints.map reading := by
  induction h with
  | nil state => exact ⟨[], rfl, .nil state, rfl⟩
  | @cons state mid after endpoint url rest answer joined asked failed later ih =>
      obtain ⟨passed, hsplit, passing, hrequests⟩ :=
        ih fun endpoint h => http endpoint (List.mem_cons_of_mem _ h)
      have hsent := send_reading direct (http endpoint List.mem_cons_self) joined state
      rw [asked] at hsent
      obtain ⟨reason, unusable⟩ : ∃ reason, Unusable url
          (Http.send network ⟨.get, url, none⟩ state).outcome reason := by
        rw [hsent]
        cases answer with
        | none => exact ⟨_, .transport .noAnswer⟩
        | some r => exact ⟨_, .serverError r (failed r rfl)⟩
      have hrest : Passing network (question .list)
          (Http.send network ⟨.get, url, none⟩ state).state passed after := by
        rw [hsent]
        exact passing
      refine ⟨_, ?_, Passing.cons joined unusable hrest, ?_⟩
      · exact congrArg (endpoint :: ·) hsplit
      · rw [List.flatMap_cons, List.map_cons, hrequests]
        exact congrArg (· ++ rest.map reading) (congrArg Sent.requests hsent)

/-- A list fails where all endpoints are down. -/
theorem api_list_of_down (traffic : Traffic σ) (direct : network.Direct)
    (http : ∀ endpoint ∈ client.endpoints, isHttp endpoint) (ne : client.endpoints ≠ [])
    (down : Down network traffic.network client.endpoints after) :
    (∃ e, (client.api network .list traffic).answer = .error e) ∧
      (client.api network .list traffic).state =
        ⟨after, traffic.requests ++ client.endpoints.map reading⟩ := by
  obtain ⟨passed, hsplit, passing, hrequests⟩ := down.exists_passing direct http
  rcases List.eq_nil_or_concat' passed with rfl | ⟨front, final, rfl⟩
  · exact absurd hsplit ne
  · have hdispatch := (Dispatching.exhausted front final hsplit passing).execution .noEndpoints
    rw [api, hdispatch, hrequests]
    exact ⟨⟨_, rfl⟩, rfl⟩

/-- It succeeds where the first endpoint that is not down serves the members. -/
theorem api_list_of_serving (traffic : Traffic σ) {before later : List Url}
    (direct : network.Direct) (http : ∀ endpoint ∈ client.endpoints, isHttp endpoint)
    (split : client.endpoints = before ++ endpoint :: later)
    (down : Down network traffic.network before mid)
    (serving : Serving network mid endpoint members after) :
    (client.api network .list traffic).answer = .ok members ∧
      (client.api network .list traffic).state =
        ⟨after, traffic.requests ++ (before ++ [endpoint]).map reading⟩ := by
  cases serving with
  | @listed url r octets joined answer success whole decoded =>
      have hhttp : ∀ other ∈ before ++ endpoint :: later, isHttp other := split ▸ http
      obtain ⟨passed, rfl, passing, hrequests⟩ :=
        down.exists_passing direct fun other h => hhttp other (List.mem_append_left _ h)
      have hendpoint := hhttp endpoint (List.mem_append_right _ List.mem_cons_self)
      have hsent := send_reading direct hendpoint joined mid
      rw [answer] at hsent
      have usable : r.status.code / 100 ≠ 5 := by omega
      have hdispatch := (Dispatching.answered passed later split passing joined
        (congrArg Sent.outcome hsent) usable).execution .noEndpoints
      have hanswer : HttpClient.answer endpoint r .list = .ok members :=
        (answer_eq_ok_iff endpoint r .list members).mpr ⟨success, octets, whole, decoded⟩
      rw [api, hdispatch]
      refine ⟨hanswer, ?_⟩
      rw [List.map_append, List.map_singleton, ← hrequests]
      exact congrArg₂ (fun state requests =>
        Traffic.mk state (traffic.requests ++ (passed.flatMap PassedOver.requests ++ requests)))
        (congrArg Sent.state hsent) (congrArg Sent.requests hsent)

end HttpClient

/-! ## Discovery -/

namespace Application

open HttpClient

variable {ν : Type} {app : Application} {network : Network ν} {site : Site ν} {mid after : ν}
  {endpoint : Url} {before later : List Url} {members : List Member} {self : Identity} {k : Nat}

/-- The requests of `k` lists that try all endpoints and of one that gets as far as the `i`-th. -/
def sweeps (endpoints : List Url) (k i : Nat) : List Request :=
  ((List.replicate k endpoints).flatten ++ endpoints.take i).map reading

theorem length_sweeps {endpoints : List Url} {i : Nat} (hi : i ≤ endpoints.length) (k : Nat) :
    (sweeps endpoints k i).length = k * endpoints.length + i := by
  simp [sweeps, hi]

theorem sweeps_of_split {endpoints : List Url} (split : endpoints = before ++ endpoint :: later)
    (k : Nat) :
    sweeps endpoints k (before.length + 1) =
      (List.replicate k endpoints).flatten.map reading ++ (before ++ [endpoint]).map reading := by
  have htake : endpoints.take (before.length + 1) = before ++ [endpoint] := by
    rw [split, List.append_cons, List.take_left' (by simp)]
  rw [sweeps, List.map_append, htake]

theorem method_of_mem_sweeps {endpoints : List Url} {k i : Nat} {req : Request}
    (h : req ∈ sweeps endpoints k i) : req.method = .get := by
  obtain ⟨endpoint, -, rfl⟩ := List.mem_map.mp h
  rfl

/-- The attempts of an outage fail, with one request to each endpoint in each of them. -/
theorem attempts_of_outage (site : Site ν) {start : ν} (direct : network.Direct)
    (http : ∀ endpoint ∈ app.cluster.endpoints, isHttp endpoint) (ne : app.cluster.endpoints ≠ [])
    (outage : Outage network app.cluster.endpoints start k after) (earlier : List Request) :
    (∀ i < k, ∃ e, ((app.surroundings network).replyAt (.cluster .list) 1000
      { site with traffic := ⟨start, earlier⟩ } i).answer = .error e) ∧
    (app.surroundings network).stateAt (.cluster .list) 1000
        { site with traffic := ⟨start, earlier⟩ } k =
      { site with traffic :=
          ⟨after, earlier ++ (List.replicate k app.cluster.endpoints).flatten.map reading⟩ } := by
  induction outage generalizing earlier with
  | none state => exact ⟨fun i hi => absurd hi i.not_lt_zero, by simp [Surroundings.stateAt]⟩
  | @attempt start mid after k first rest ih =>
      obtain ⟨hfailed, hstate⟩ := api_list_of_down ⟨start, earlier⟩ direct http ne first
      -- Sleeping leaves the site alone, so the second attempt starts where the first one ended.
      have hnext : (app.surroundings network).sleep 1000
          ((app.surroundings network).reply (.cluster .list)
            { site with traffic := ⟨start, earlier⟩ }).state =
          { site with traffic := ⟨mid, earlier ++ app.cluster.endpoints.map reading⟩ } :=
        congrArg (fun traffic => ({ site with traffic := traffic } : Site ν)) hstate
      obtain ⟨hrest, hafter⟩ := ih (earlier ++ app.cluster.endpoints.map reading)
      rw [← hnext] at hrest hafter
      refine ⟨fun i hi => ?_, ?_⟩
      · cases i with
        | zero => exact hfailed
        | succ i => exact hrest i (Nat.lt_of_succ_lt_succ hi)
      · rw [Surroundings.stateAt, hafter, List.replicate_succ, List.flatten_cons, List.map_append,
          List.append_assoc]

/-- The attempt that follows an outage finds the members. -/
theorem list_after_outage (direct : network.Direct)
    (http : ∀ endpoint ∈ app.cluster.endpoints, isHttp endpoint)
    (split : app.cluster.endpoints = before ++ endpoint :: later)
    (outage : Outage network app.cluster.endpoints site.traffic.network k mid) {mid' : ν}
    (down : Down network mid before mid')
    (serving : Serving network mid' endpoint members after) :
    (∀ i < k, ∃ e,
      ((app.surroundings network).replyAt (.cluster .list) 1000 site i).answer = .error e) ∧
    ((app.surroundings network).replyAt (.cluster .list) 1000 site k).answer = .ok members ∧
    ((app.surroundings network).replyAt (.cluster .list) 1000 site k).state =
      { site with traffic := ⟨after, site.traffic.requests ++
          sweeps app.cluster.endpoints k (before.length + 1)⟩ } := by
  have ne : app.cluster.endpoints ≠ [] := by
    rw [split]
    exact List.append_ne_nil_of_right_ne_nil _ (List.cons_ne_nil _ _)
  obtain ⟨failed, hstate⟩ :=
    attempts_of_outage site direct http ne outage site.traffic.requests
  obtain ⟨hanswer, htraffic⟩ := api_list_of_serving
    ⟨mid, site.traffic.requests ++
      (List.replicate k app.cluster.endpoints).flatten.map reading⟩ direct http split down serving
  rw [List.append_assoc, ← sweeps_of_split split] at htraffic
  refine ⟨failed, ?_, ?_⟩
  · rw [Surroundings.replyAt, hstate]
    exact hanswer
  · rw [Surroundings.replyAt, hstate]
    exact congrArg (fun traffic => ({ site with traffic := traffic } : Site ν)) htraffic

/-- Nothing but registrations is sent for what a node does about the members that it found. -/
theorem exists_posts_settle (direct : network.Direct) (self : Identity) (members : List Member)
    (site : Site ν) :
    ∃ posts, ((settle self members).run (app.surroundings network) site).state.traffic.requests =
        site.traffic.requests ++ posts ∧ ∀ req ∈ posts, req.method = .post := by
  refine Program.run_keeps (settle self members)
    (fun now : Site ν => ∃ posts, now.traffic.requests = site.traffic.requests ++ posts ∧
      ∀ req ∈ posts, req.method = .post)
    ⟨[], (List.append_nil _).symm, fun _ h => nomatch h⟩ ?_
  rintro c hc now ⟨posts, hrequests, hposts⟩
  have settlement := settle_settlement (app.surroundings network) self members site
  have hcall := settlement.calls_isPrefix.subset hc
  rcases List.mem_cons.mp hcall with rfl | hsleep
  · refine ⟨posts ++ (dispatch network (question (.add self.advertisePeerUrl)) .noEndpoints
      app.cluster.endpoints now.traffic.network).requests, ?_, fun req hreq => ?_⟩
    · rw [← List.append_assoc, ← hrequests]
      rfl
    · rcases List.mem_append.mp hreq with hbefore | hsent
      · exact hposts req hbefore
      · exact method_of_mem_requests direct hsent
  · rw [List.mem_singleton.mp hsleep]
    exact ⟨posts, hrequests, hposts⟩

/-- How discovery ends where the members are served by the `i`-th endpoint, after `k` attempts that
failed; `addition` is how an attempt to add the node ends then. -/
structure JoinsAfter (endpoints : List Url) (k i : Nat) (self : Identity) (members : List Member)
    (addition : Except Error Member) (earlier : List Request)
    (o : Outcome (Site ν) (Except Error Directive)) : Prop where
  requests : ∃ posts, o.state.traffic.requests = earlier ++ sweeps endpoints k i ++ posts ∧
    ∀ req ∈ posts, req.method = .post
  reads : (sweeps endpoints k i).length = k * endpoints.length + i ∧
    ∀ req ∈ sweeps endpoints k i, req.method = .get
  /-- One pause after each attempt that failed, then at most the registration. -/
  calls : ∃ settling,
    o.calls = Call.attempts (.cluster .list) 1000 k ++ .cluster .list :: settling ∧
      settling <+: [.cluster (.add self.advertisePeerUrl), .sleep 2000]
  /-- The node joins the members, or fails as its registration does. -/
  value : (∃ own, own <+: [self.name ++ "=" ++ self.advertisePeerUrl] ∧
      o.value = .ok ⟨",".intercalate (rendered members ++ own), .existing⟩) ∨
    ∃ e, addition = .error e ∧ o.value = .error e

/-- As soon as an endpoint serves members, the node joins them, however many endpoints and attempts
were down before. -/
theorem joins_after_outage (direct : network.Direct)
    (http : ∀ endpoint ∈ app.cluster.endpoints, isHttp endpoint)
    (split : app.cluster.endpoints = before ++ endpoint :: later) (hk : k < 5)
    (outage : Outage network app.cluster.endpoints site.traffic.network k mid) {mid' : ν}
    (down : Down network mid before mid') (serving : Serving network mid' endpoint members after)
    (ne : members ≠ []) (self : Identity) :
    JoinsAfter app.cluster.endpoints k (before.length + 1) self members
      (app.cluster.api network (.add self.advertisePeerUrl)
        ⟨after, site.traffic.requests ++
          sweeps app.cluster.endpoints k (before.length + 1)⟩).answer
      site.traffic.requests ((discover self).run (app.surroundings network) site) := by
  obtain ⟨failed, answer, hlisted⟩ := list_after_outage direct http split outage down serving
  obtain ⟨hcalls, hvalue, hfound⟩ := (Listing.answered k members hk failed answer).execution
  rw [hlisted] at hfound
  have settlement := settle_settlement (app.surroundings network) self members
    { site with traffic := ⟨after, site.traffic.requests ++
        sweeps app.cluster.endpoints k (before.length + 1)⟩ }
  have reached : before.length + 1 ≤ app.cluster.endpoints.length := by
    rw [split]
    simp
  exact
    { requests := by
        rw [state_run_discover, hvalue, hfound]
        exact exists_posts_settle direct self members _
      reads := ⟨length_sweeps reached k, fun _ => method_of_mem_sweeps⟩
      calls := by
        rw [calls_run_discover, hcalls, hvalue, hfound, List.append_assoc]
        exact ⟨_, rfl, settlement.calls_isPrefix⟩
      value := by
        rw [value_run_discover, hvalue, hfound]
        exact settlement.existing_or_refused ne }

/-- Two endpoints are down in the first attempt and one in the second: the node joins by the other. -/
theorem joins_by_second_endpoint :
    let listed : String :=
      "\x7b\"members\":[\x7b\"name\":\"a\",\"peerURLs\":[\"http://10.0.0.5:7001\"]\x7d]\x7d"
    let network : Network Nat := fun req n =>
      (match req.method, n with
        | .post, _ => some { status := ⟨201⟩, body := .complete "\x7b\x7d".toUTF8.toList }
        | .get, 2 => some { status := ⟨503⟩ }
        | .get, 3 => some { status := ⟨200⟩, body := .complete listed.toUTF8.toList }
        | .get, _ => none, n + 1)
    let h1 : Url := ⟨"http", some { host := .name "h1", port := some 4001 }, .rooted [""], none, none⟩
    let h2 : Url := ⟨"http", some { host := .name "h2", port := some 4001 }, .rooted [""], none, none⟩
    let c : Config :=
      { node := { name := "kv", index := 1, externalIp := "10.0.0.6" }
        engine := { program := "kvd", machines := ["h1", "h2"] } }
    let app : Application := ⟨c, ⟨[h1, h2]⟩, ⟨[h1]⟩⟩
    let site : Site Nat := app.site 0 { files := { cwd := "/" } }
    let a : Member := { name := "a", peerUrls := ["http://10.0.0.5:7001"] }
    HttpClient.forCluster { cwd := "/" } c = .ok app.cluster ∧ network.Direct ∧
      (∀ endpoint ∈ [h1, h2], isHttp endpoint) ∧ Outage network [h1, h2] 0 1 2 ∧
      Down network 2 [h1] 3 ∧ Serving network 3 h2 [a] 4 ∧
      JoinsAfter [h1, h2] 1 2 c.identity [a]
        (app.cluster.api network (.add "http://10.0.0.6:7001") ⟨4, sweeps [h1, h2] 1 2⟩).answer []
        ((discover c.identity).run (app.surroundings network) site) ∧
      ((discover c.identity).run (app.surroundings network) site).value =
        .ok ⟨"a=http://10.0.0.5:7001,kv-1=http://10.0.0.6:7001", .existing⟩ := by
  intro listed network h1 h2 c app site a
  have direct : network.Direct := by
    intro req n r h
    simp only [network] at h
    split at h <;> cases h <;> rfl
  have http : ∀ endpoint ∈ app.cluster.endpoints, isHttp endpoint := by decide +kernel
  have split : app.cluster.endpoints = [h1] ++ h2 :: [] := rfl
  have first : Down network 0 [h1, h2] 2 :=
    .cons rfl rfl nofun (.cons rfl rfl nofun (.nil 2))
  have outage : Outage network app.cluster.endpoints site.traffic.network 1 2 :=
    .attempt first (.none 2)
  have down : Down network 2 [h1] 3 := .cons rfl rfl (by rintro r ⟨⟩; rfl) (.nil 3)
  have serving : Serving network 3 h2 [a] 4 :=
    .listed rfl rfl (by decide) rfl (by decide +kernel)
  have joined := joins_after_outage direct http split (by decide) outage down serving
    (List.cons_ne_nil _ _) c.identity
  exact ⟨by decide +kernel, direct, http, outage, down, serving, joined, by decide +kernel⟩

end Application

end NodeBootstrap
