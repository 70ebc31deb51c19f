import NodeBootstrap.Cluster.HttpClient
import NodeBootstrap.Proofs.Bootstrap.Discovery
import NodeBootstrap.Proofs.Http.Redirects
import NodeBootstrap.Proofs.Member.Layout

/-! # Members that are posted

The body of a registration is the text of a member with the peer URL alone. Whoever decodes it as
nodes decode members finds the node registered afterwards, and no other one. -/

namespace NodeBootstrap

namespace Http

variable {σ : Type} {network : Network σ} {req sent : Request} {left : Nat} {state : σ}

/-! ## What is sent on -/

/-- Redirects send a request on as it was, but for its URL, or as a read. -/
theorem eq_of_mem_follow (h : sent ∈ (follow network left req state).requests) :
    sent = { req with url := sent.url } ∨ sent = ⟨.get, sent.url, none⟩ := by
  have itself {req : Request} (h : sent ∈ [req]) :
      sent = { req with url := sent.url } ∨ sent = ⟨.get, sent.url, none⟩ := by
    obtain rfl := List.mem_singleton.mp h
    exact .inl rfl
  fun_induction follow network left req state with
  | case1 => exact itself h
  | case2 => exact itself h
  | case3 => exact itself h
  | case4 req state r mid hanswer next left moved http rest ih =>
      rcases List.mem_cons.mp h with rfl | hrest
      · exact .inl rfl
      · have hnext := (redirected?_eq_some moved).2
        rcases ih hrest with hsent | hread
        · rw [hsent, hnext]
          split
          · exact .inl rfl
          · exact .inr rfl
        · exact .inr hread
  | case5 => exact itself h

theorem eq_of_mem_send (h : sent ∈ (send network req state).requests) :
    sent = { req with url := sent.url } ∨ sent = ⟨.get, sent.url, none⟩ := by
  rw [send] at h
  split at h
  · exact eq_of_mem_follow h
  · cases h

theorem head?_follow : (follow network left req state).requests.head? = some req := by
  fun_induction follow network left req state <;> rfl

theorem eq_of_mem_head?_send (h : sent ∈ (send network req state).requests.head?) :
    sent = req := by
  rw [send] at h
  split at h
  · rw [head?_follow] at h
    exact (Option.some.inj h).symm
  · cases h

end Http

namespace HttpClient

open Http

variable {σ : Type} {network : Network σ} {q : Question} {req : Request}

theorem eq_of_mem_dispatch {last : Error} {endpoints : List Url} {state : σ}
    (h : req ∈ (dispatch network q last endpoints state).requests) :
    req = ⟨q.method, req.url, q.body⟩ ∨ req = ⟨.get, req.url, none⟩ := by
  fun_induction dispatch network q last endpoints state with
  | case1 => cases h
  | case2 => cases h
  | case3 => exact eq_of_mem_send h
  | case4 _ _ _ _ _ _ _ _ _ _ ih =>
      rcases List.mem_append.mp h with hfirst | hrest
      · exact eq_of_mem_send hfirst
      · exact ih hrest

theorem eq_of_mem_head?_dispatch {last : Error} {endpoints : List Url} {state : σ}
    (h : req ∈ (dispatch network q last endpoints state).requests.head?) :
    req = ⟨q.method, req.url, q.body⟩ := by
  fun_induction dispatch network q last endpoints state with
  | case1 => cases h
  | case2 => cases h
  | case3 => rw [eq_of_mem_head?_send h]
  | case4 _ _ _ _ _ _ _ _ _ _ ih =>
      rw [List.head?_append, Option.mem_def, Option.or_eq_some_iff] at h
      rcases h with hfirst | ⟨-, hrest⟩
      · rw [eq_of_mem_head?_send hfirst]
      · exact ih hrest

end HttpClient

/-! ## The body -/

namespace Member

open Json

theorem addRequest_eq (peerUrl : String) :
    addRequest peerUrl =
      .object ([Field.peerUrls [peerUrl]].map fun f => (f.key, f.json)) := rfl

/-- The text that is posted to register a member. -/
def posted (peerUrl : String) : String := (addRequest peerUrl).render

theorem posted_text (peerUrl : String) :
    DocumentText (addRequest peerUrl) (posted peerUrl).toList := by
  have items : Plain 126 (.strings [peerUrl]) := by
    refine .array 125 _ fun item hitem => ?_
    obtain ⟨x, -, rfl⟩ := List.mem_map.mp hitem
    exact .string 125 x
  refine render_text (.object 126 _ (List.pairwise_singleton _ _) fun field hfield => ?_)
  obtain rfl := List.mem_singleton.mp hfield
  exact items

theorem decode_posted (peerUrl : String) :
    decode (posted peerUrl) = .ok { peerUrls := [peerUrl] } := by
  have layout : Layout { peerUrls := [peerUrl] } [.peerUrls [peerUrl]] :=
    { once := List.pairwise_singleton _ _
      agrees := by simp [Member.fields]
      left_out := by simp [Member.fields, Field.IsEmpty] }
  have own : ∀ f ∈ [Field.peerUrls [peerUrl]], f.Own := by
    intro f hf
    obtain rfl := List.mem_singleton.mp hf
    rfl
  rw [posted, addRequest_eq]
  exact decode_render own (List.pairwise_singleton _ _) layout

end Member

namespace HttpClient

open Bootstrap Http

/-- What is posted to register a node at a URL. -/
structure PostedSpec (peerUrl : String) : Prop where
  /-- A registration starts with a post, and whatever else is sent for it is posted again or is a
  read without a body. -/
  requests : ∀ {σ : Type} (client : HttpClient) (network : Network σ) (traffic : Traffic σ), ∃ sent,
    (client.api network (.add peerUrl) traffic).state.requests = traffic.requests ++ sent ∧
      (∀ req ∈ sent.head?, req = ⟨.post, req.url, some (Member.posted peerUrl)⟩) ∧
      ∀ req ∈ sent, req = ⟨.post, req.url, some (Member.posted peerUrl)⟩ ∨
        req = ⟨.get, req.url, none⟩
  text : Json.DocumentText (Member.addRequest peerUrl) (Member.posted peerUrl).toList
  decoded : Member.decode (Member.posted peerUrl) = .ok { peerUrls := [peerUrl] }
  posted_iff : ∀ other, Member.posted other = Member.posted peerUrl ↔ other = peerUrl
  /-- Nodes at the URL find themselves in what is kept of the member, and no other ones do. -/
  found_iff : ∀ m stored members own, Member.decode (Member.posted peerUrl) = .ok m →
    stored.peerUrl? = m.peerUrl? →
    (IsMember own (members ++ [stored]) ↔ IsMember own members ∨ own = peerUrl)

theorem posted_member (peerUrl : String) : PostedSpec peerUrl where
  requests client network traffic :=
    ⟨_, rfl, fun req hreq => eq_of_mem_head?_dispatch hreq, fun req hreq => eq_of_mem_dispatch hreq⟩
  text := Member.posted_text peerUrl
  decoded := Member.decode_posted peerUrl
  posted_iff other := by
    refine ⟨fun hposted => ?_, fun h => h ▸ rfl⟩
    have hsame : Member.decode (Member.posted other) = .ok { peerUrls := [peerUrl] } := by
      rw [hposted, Member.decode_posted]
    rw [Member.decode_posted] at hsame
    simpa using hsame
  found_iff m stored members own hm kept := by
    obtain rfl := Except.ok.inj ((Member.decode_posted peerUrl).symm.trans hm)
    have found : stored.peerUrl? = some peerUrl := kept
    simp [IsMember, found, or_and_right, exists_or, eq_comm]

end HttpClient

end NodeBootstrap
