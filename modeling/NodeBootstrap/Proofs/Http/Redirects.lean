import NodeBootstrap.Proofs.Http.Failover

/-! # Redirects of a registration

A request that is redirected is followed, and its answer is that of the last request on the way. A
redirect may turn a request into a read, so that a member can be read off an answer to a request
that asked for no registration. The statements here say exactly when that happens. -/

namespace NodeBootstrap

namespace Http

variable {σ : Type} {network : Network σ} {req last : Request} {state after : σ}
  {hops : List (Request × Response)} {r : Response}

/-! ## Following redirects -/

/-- A request leads, over requests that were redirected by their answers, to one whose answer
counts. -/
inductive Following (network : Network σ) :
    Request → σ → List (Request × Response) → Request → Response → σ → Prop where
  | final {req : Request} {state after : σ} {r : Response}
      (answer : network req state = (some r, after)) (stays : redirected? req r = none) :
      Following network req state [] req r after
  | redirect {req next last : Request} {state mid after : σ} {r r' : Response}
      {hops : List (Request × Response)}
      (answer : network req state = (some r, mid)) (moved : redirected? req r = some next)
      (http : isHttp next.url) (rest : Following network next mid hops last r' after) :
      Following network req state ((req, r) :: hops) last r' after

theorem Following.execution (h : Following network req state hops last r after) {left : Nat}
    (short : hops.length ≤ left) :
    follow network left req state = ⟨.ok r, hops.map Prod.fst ++ [last], after⟩ := by
  induction h generalizing left with
  | final answer stays =>
      rw [follow, answer]
      simp only [stays, List.map_nil, List.nil_append]
  | redirect answer moved http _ ih =>
      cases left with
      | zero => exact absurd short (Nat.not_succ_le_zero _)
      | succ left =>
          have hrest := ih (Nat.le_of_succ_le_succ short)
          rw [follow, answer]
          simp only [moved, http, if_true, hrest, List.map_cons, List.cons_append]

theorem exists_following {left : Nat} (h : (follow network left req state).outcome = .ok r) :
    ∃ hops last after, Following network req state hops last r after ∧ hops.length ≤ left := by
  fun_induction follow network left req state with
  | case1 => cases h
  | case2 left req state r' mid hanswer stays =>
      obtain rfl := Except.ok.inj h
      exact ⟨[], req, mid, .final hanswer stays, Nat.zero_le left⟩
  | case3 => cases h
  | case4 req state r' mid hanswer next left moved http rest ih =>
      obtain ⟨hops, last, after, hrest, short⟩ := ih h
      exact ⟨(req, r') :: hops, last, after, .redirect hanswer moved http hrest,
        Nat.succ_le_succ short⟩
  | case5 => cases h

theorem Following.send (h : Following network req state hops last r after)
    (http : isHttp req.url) (short : hops.length ≤ maxRedirects) :
    send network req state = ⟨.ok r, hops.map Prod.fst ++ [last], after⟩ := by
  rw [Http.send, if_pos http, h.execution short]

theorem exists_following_of_send (h : (send network req state).outcome = .ok r) :
    isHttp req.url ∧ ∃ hops last after,
      Following network req state hops last r after ∧ hops.length ≤ maxRedirects := by
  rw [Http.send] at h
  split at h
  · next http => exact ⟨http, exists_following h⟩
  · cases h

/-! ## What becomes of a request -/

theorem redirected?_eq_some {next : Request} (h : redirected? req r = some next) :
    redirects r.status ∧
      next = if repeats r.status then { req with url := next.url } else ⟨.get, next.url, none⟩ := by
  simp only [redirected?] at h
  split at h
  · cases h
  · next hredirects =>
      obtain ⟨location, -, h⟩ := Option.bind_eq_some_iff.mp h
      obtain ⟨url, -, h⟩ := Option.bind_eq_some_iff.mp h
      refine ⟨Decidable.not_not.mp hredirects, ?_⟩
      split at h <;> obtain rfl := Option.some.inj h <;> simp [*]

theorem Following.redirects_of_mem (h : Following network req state hops last r after)
    {hop : Request × Response} (hhop : hop ∈ hops) : redirects hop.2.status := by
  induction h with
  | final => cases hhop
  | redirect _ moved _ _ ih =>
      rcases List.mem_cons.mp hhop with rfl | hrest
      · exact (redirected?_eq_some moved).1
      · exact ih hrest

/-- Redirects that repeat a request leave it as it was, but for the URL. -/
theorem Following.last_of_repeats (h : Following network req state hops last r after)
    (hrepeats : ∀ hop ∈ hops, repeats hop.2.status) : last = { req with url := last.url } := by
  induction h with
  | final => rfl
  | redirect _ moved _ _ ih =>
      have hnext := (redirected?_eq_some moved).2
      rw [if_pos (hrepeats _ List.mem_cons_self)] at hnext
      have hlast := ih fun hop hhop => hrepeats hop (List.mem_cons_of_mem _ hhop)
      rw [hnext] at hlast
      exact hlast

/-- Any other redirect turns it into a read, which it stays. -/
theorem Following.last_of_not_repeats (h : Following network req state hops last r after)
    (hturned : ∃ hop ∈ hops, ¬repeats hop.2.status) : last = ⟨.get, last.url, none⟩ := by
  induction h with
  | final =>
      obtain ⟨hop, hhop, -⟩ := hturned
      cases hhop
  | @redirect req next last state mid after r r' hops _ moved _ rest ih =>
      have hnext := (redirected?_eq_some moved).2
      by_cases hlater : ∃ hop ∈ hops, ¬repeats hop.2.status
      · exact ih hlater
      · have hrepeats : ∀ hop ∈ hops, repeats hop.2.status := by
          intro hop hhop
          by_contra hnot
          exact hlater ⟨hop, hhop, hnot⟩
        have hfirst : ¬repeats r.status := by
          obtain ⟨hop, hhop, hnot⟩ := hturned
          rcases List.mem_cons.mp hhop with rfl | hrest
          · exact hnot
          · exact absurd ⟨hop, hrest, hnot⟩ hlater
        rw [if_neg hfirst] at hnext
        have hlast := rest.last_of_repeats hrepeats
        rw [hnext] at hlast
        exact hlast

end Http

namespace HttpClient

open Http

variable {σ : Type} {network : Network σ}

/-! ## Registrations -/

/-- The request for a registration. -/
def posting (peerUrl : String) (url : Url) : Request :=
  ⟨.post, url, some (Member.addRequest peerUrl).render⟩

theorem addAnswer_eq_ok_iff (endpoint : Url) (r : Response) (m : Member) :
    addAnswer endpoint r = .ok m ↔
      r.status.code / 100 = 2 ∧ ∃ octets, r.body = .complete octets ∧
        Member.decodeBytes octets = .ok m := by
  rw [addAnswer]
  by_cases hrefused : r.status.code / 100 = 4
  · simp [Status.isClientError, hrefused]
  by_cases hsuccess : r.status.code / 100 = 2
  · cases r.body with
    | cut => simp [Status.isClientError, Status.isSuccess, hsuccess, decoded]
    | complete octets =>
        cases hdecode : Member.decodeBytes octets <;>
          simp [Status.isClientError, Status.isSuccess, hsuccess, decoded, Except.mapError,
            hdecode]
  · simp [Status.isClientError, Status.isSuccess, hrefused, hsuccess]

/-- How a registration comes to be reported: the first endpoint that is not passed over leads the
request for it, over the redirects `hops`, to the request `last`, and the member is read off the
answer to that one. -/
inductive Reporting (client : HttpClient) (network : Network σ) (peerUrl : String) (state : σ)
    (m : Member) : List (Request × Response) → Request → Prop where
  | read {passed : List PassedOver} {mid after : σ} {endpoint url : Url} {later : List Url}
      {hops : List (Request × Response)} {last : Request} {r : Response} {octets : List UInt8}
      (split : client.endpoints = passed.map PassedOver.endpoint ++ endpoint :: later)
      (passing : Passing network (question (.add peerUrl)) state passed mid)
      (joined : endpoint.join membersPath = .ok url) (http : isHttp url)
      (following : Following network (posting peerUrl url) mid hops last r after)
      (short : hops.length ≤ 10) (success : r.status.code / 100 = 2)
      (whole : r.body = .complete octets) (decoded : Member.decodeBytes octets = .ok m) :
      Reporting client network peerUrl state m hops last

variable {client : HttpClient} {peerUrl : String} {traffic : Traffic σ} {m : Member}
  {hops : List (Request × Response)} {last : Request}

theorem Reporting.execution (h : Reporting client network peerUrl traffic.network m hops last) :
    (client.api network (.add peerUrl) traffic).answer = .ok m ∧
      ∃ before, (client.api network (.add peerUrl) traffic).state.requests =
        before ++ (hops.map Prod.fst ++ [last]) := by
  cases h with
  | @read passed mid after endpoint url later _ _ r octets split passing joined http following
      short success whole decoded =>
      have hsent := following.send http short
      have usable : r.status.code / 100 ≠ 5 := by omega
      have hdispatch := (Dispatching.answered passed later split passing joined
        (congrArg Sent.outcome hsent) usable).execution .noEndpoints
      have hread : addAnswer endpoint r = .ok m :=
        (addAnswer_eq_ok_iff endpoint r m).mpr ⟨success, octets, whole, decoded⟩
      rw [api, hdispatch]
      refine ⟨hread, traffic.requests ++ passed.flatMap PassedOver.requests, ?_⟩
      have hrequests : (send network (posting peerUrl url) mid).requests =
          hops.map Prod.fst ++ [last] := congrArg Sent.requests hsent
      rw [← hrequests, List.append_assoc]
      rfl

theorem exists_reporting (h : (client.api network (.add peerUrl) traffic).answer = .ok m) :
    ∃ hops last, Reporting client network peerUrl traffic.network m hops last := by
  have hconcluded : concluded (.add peerUrl) (dispatch network (question (.add peerUrl))
      .noEndpoints client.endpoints traffic.network).outcome = .ok m := h
  by_cases ne : client.endpoints = []
  · rw [ne] at hconcluded
    cases hconcluded
  have hdispatch := (dispatch_iff ne .noEndpoints _).mp
    (Eq.refl (dispatch network (question (.add peerUrl)) .noEndpoints client.endpoints
      traffic.network))
  generalize dispatch network _ _ _ _ = d at hconcluded hdispatch
  cases hdispatch with
  | answered passed later split passing joined answer usable =>
      obtain ⟨success, octets, whole, decoded⟩ := (addAnswer_eq_ok_iff _ _ m).mp hconcluded
      obtain ⟨http, hops, last, after, following, short⟩ := exists_following_of_send answer
      exact ⟨hops, last, .read split passing joined http following short success whole decoded⟩
  | unjoinable => cases hconcluded
  | exhausted => cases hconcluded

theorem repeats_iff (s : Status) : repeats s ↔ s.code = 307 ∨ s.code = 308 := by
  simp [repeats]

theorem not_repeats_iff {s : Status} (h : redirects s) :
    ¬repeats s ↔ s.code = 301 ∨ s.code = 302 ∨ s.code = 303 := by
  simp only [redirects, repeats, List.contains_iff_mem, List.mem_cons, List.not_mem_nil,
    or_false] at h ⊢
  omega

theorem posting_ne_read (peerUrl : String) (url url' : Url) :
    posting peerUrl url ≠ ⟨.get, url', none⟩ := fun h => nomatch congrArg Request.method h

theorem eq_posting_iff {url : Url} {state after : σ} {r : Response}
    (h : Following network (posting peerUrl url) state hops last r after) :
    last = posting peerUrl last.url ↔
      ∀ hop ∈ hops, hop.2.status.code = 307 ∨ hop.2.status.code = 308 := by
  constructor
  · intro hlast hop hhop
    rw [← repeats_iff]
    by_contra hturned
    exact posting_ne_read peerUrl last.url last.url
      (hlast.symm.trans (h.last_of_not_repeats ⟨hop, hhop, hturned⟩))
  · exact fun hrepeats => h.last_of_repeats fun hop hhop => (repeats_iff _).mpr (hrepeats hop hhop)

theorem eq_read_iff {url : Url} {state after : σ} {r : Response}
    (h : Following network (posting peerUrl url) state hops last r after) :
    last = ⟨.get, last.url, none⟩ ↔
      ∃ hop ∈ hops, hop.2.status.code = 301 ∨ hop.2.status.code = 302 ∨
        hop.2.status.code = 303 := by
  constructor
  · intro hlast
    by_contra hnone
    have hrepeats : ∀ hop ∈ hops, repeats hop.2.status := by
      intro hop hhop
      by_contra hturned
      exact hnone ⟨hop, hhop, (not_repeats_iff (h.redirects_of_mem hhop)).mp hturned⟩
    exact posting_ne_read peerUrl last.url last.url
      ((h.last_of_repeats hrepeats).symm.trans hlast)
  · rintro ⟨hop, hhop, hcode⟩
    exact h.last_of_not_repeats
      ⟨hop, hhop, (not_repeats_iff (h.redirects_of_mem hhop)).mpr hcode⟩

/-- Exactly when adding a member succeeds, and which request its success answers: the one for the
registration if all redirects on the way repeated it, else a read that asks for nothing. -/
theorem registration_reported (client : HttpClient) (network : Network σ) (peerUrl : String)
    (traffic : Traffic σ) (m : Member) :
    ((client.api network (.add peerUrl) traffic).answer = .ok m ↔
      ∃ hops last, Reporting client network peerUrl traffic.network m hops last) ∧
    ∀ hops last, Reporting client network peerUrl traffic.network m hops last →
      (∃ before, (client.api network (.add peerUrl) traffic).state.requests =
        before ++ (hops.map Prod.fst ++ [last])) ∧
      (last = posting peerUrl last.url ↔
        ∀ hop ∈ hops, hop.2.status.code = 307 ∨ hop.2.status.code = 308) ∧
      (last = ⟨.get, last.url, none⟩ ↔
        ∃ hop ∈ hops, hop.2.status.code = 301 ∨ hop.2.status.code = 302 ∨
          hop.2.status.code = 303) := by
  refine ⟨⟨exists_reporting, fun ⟨_, _, h⟩ => h.execution.1⟩, fun hops last h => ?_⟩
  refine ⟨h.execution.2, ?_⟩
  cases h with
  | read _ _ _ _ following => exact ⟨eq_posting_iff following, eq_read_iff following⟩

/-- A server that sends the request for a registration on to a page, and serves that page, is taken
to have registered the node. -/
theorem redirected_registration_reported :
    let network : Network Unit := fun req state => match req.method with
      | .post => (some { status := ⟨302⟩, location := some "/" }, state)
      | .get => (some { status := ⟨200⟩, body := .complete "\x7b\x7d".toUTF8.toList }, state)
    let h1 (path : List String) : Url :=
      ⟨"http", some { host := .name "h1", port := some 4001 }, .rooted path, none, none⟩
    let body : String := "\x7b\"peerURLs\":[\"http://h7:7001\"]\x7d"
    build { cwd := "/" } ["http://h1:4001"] none = .ok ⟨[h1 [""]]⟩ ∧
      (api ⟨[h1 [""]]⟩ network (.add "http://h7:7001") ⟨(), []⟩).answer = .ok {} ∧
      (api ⟨[h1 [""]]⟩ network (.add "http://h7:7001") ⟨(), []⟩).state.requests =
        [⟨.post, h1 ["v2", "members"], some body⟩, ⟨.get, h1 [""], none⟩] ∧
      (network ⟨.post, h1 ["v2", "members"], some body⟩ ()).1.map (·.status.code) = some 302 := by
  decide +kernel

end HttpClient

end NodeBootstrap
