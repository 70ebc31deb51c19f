import NodeBootstrap.Bootstrap.Program
import NodeBootstrap.Http.Sending
import NodeBootstrap.Member.Decoding
import NodeBootstrap.Os.FileTree
import NodeBootstrap.Tls.Files
import NodeBootstrap.Tls.Pem

/-! # The member API over HTTP

The endpoints of a cluster are tried in order. One that gives no answer, or a server's error, is
passed over; any other answer is the cluster's. -/

namespace NodeBootstrap

open Http

structure HttpClient where
  endpoints : List Url
  deriving DecidableEq, Repr

namespace HttpClient

/-! ## Building a client -/

def endpoint (text : String) : Except Error Url :=
  (Url.parse text).mapError fun cause => .invalidConfig (.badEndpoint text cause)

/-- Reads the files for TLS and refuses those that hold nothing of use. -/
def checkTls (files : FileTree) (tls : TlsFiles) : Except Error Unit := do
  let read (path : String) : Except Error (List UInt8) := (files.read ⟨path⟩).mapError .io
  let caCert ← read tls.caCert
  let clientCert ← read tls.clientCert
  let clientKey ← read tls.clientKey
  if Tls.identifies (clientCert ++ clientKey) ∧ Tls.trusts caCert then return ()
  else .error (.tls "builder error")

def build (files : FileTree) (endpoints : List String) (tls : Option TlsFiles) :
    Except Error HttpClient := do
  if endpoints = [] then .error .noEndpoints
  else
    let urls ← endpoints.mapM endpoint
    match tls with
    | some tls => checkTls files tls
    | none => pure ()
    return ⟨urls⟩

/-- The client of the cluster's member API. -/
def forCluster (files : FileTree) (c : Config) : Except Error HttpClient := do
  build files c.clusterEndpoints (← c.tlsFiles.mapError .invalidConfig)

/-- The client of this node's own engine. -/
def forOwnNode (files : FileTree) (c : Config) : Except Error HttpClient := do
  build files [c.identity.advertiseClientUrl] (← c.tlsFiles.mapError .invalidConfig)

/-! ## Trying the endpoints -/

/-- What the members are asked for at. -/
def membersPath : String := "/v2/members"

/-- What is read as a probe. -/
def keysPath : String := "/v2/keys/"

/-- A request before it is known where to send it. -/
structure Question where
  method : Method
  path : String
  body : Option String := none

/-- An endpoint that answered, with its answer, or the error of the last one that did not. -/
structure Dispatched (σ : Type) where
  outcome : Except Error (Url × Response)
  events : List Log.Event
  requests : List Request
  state : σ

/-- Why an endpoint is passed over, if it is. -/
def failure? (endpoint url : Url) : Except SendFault Response → Except Error Response
  | .error fault => .error (.clusterUnavailable endpoint.text (fault.message url.withoutUser))
  | .ok r =>
    if r.status.isServerError then .error (.clusterUnavailable endpoint.text r.status.text)
    else .ok r

/-- Tries endpoints in order; `last` is the error of the one before. -/
def dispatch {σ : Type} (network : Network σ) (q : Question) (last : Error) :
    List Url → σ → Dispatched σ
  | [], state => ⟨.error last, [], [], state⟩
  | endpoint :: rest, state =>
    match endpoint.join q.path with
    | .error cause => ⟨.error (.invalidConfig (.badEndpoint endpoint.text cause)), [], [], state⟩
    | .ok url =>
      let sent := send network ⟨q.method, url, q.body⟩ state
      match failure? endpoint url sent.outcome with
      | .ok r => ⟨.ok (endpoint, r), [], sent.requests, sent.state⟩
      | .error e =>
        let d := dispatch network q e rest sent.state
        { d with
          events := .endpointFailed endpoint.text e :: d.events
          requests := sent.requests ++ d.requests }

/-! ## Answers -/

def undecodable : String := "error decoding response body"

/-- The body of a refusal as text. -/
def bodyText : Body → String
  | .complete octets => String.ofList (Text.Utf8.decodeLossy octets)
  | .cut => s!"response body error: {undecodable}"

def decoded {α : Type} (endpoint : Url) (decode : List UInt8 → Except Json.Fault α) :
    Body → Except Error α
  | .complete octets =>
    (decode octets).mapError fun _ => .clusterUnavailable endpoint.text undecodable
  | .cut => .error (.clusterUnavailable endpoint.text undecodable)

def listAnswer (endpoint : Url) (r : Response) : Except Error (List Member) :=
  if r.status.isSuccess then decoded endpoint Member.decodeListBytes r.body
  else .error (.clusterUnavailable endpoint.text s!"{r.status.text}: {bodyText r.body}")

def addAnswer (endpoint : Url) (r : Response) : Except Error Member :=
  if r.status.isClientError then .error (.memberRejected r.status.code (bodyText r.body))
  else if r.status.isSuccess then decoded endpoint Member.decodeBytes r.body
  else .error (.clusterUnavailable endpoint.text r.status.text)

def keysAnswer (endpoint : Url) (r : Response) : Except Error Unit :=
  if r.status.isSuccess then .ok ()
  else .error (.clusterUnavailable endpoint.text r.status.text)

def question : MemberCall → Question
  | .list => ⟨.get, membersPath, none⟩
  | .add peerUrl => ⟨.post, membersPath, some (Member.addRequest peerUrl).render⟩
  | .keys => ⟨.get, keysPath, none⟩

def answer (endpoint : Url) (r : Response) : (c : MemberCall) → Except Error c.Answer
  | .list => listAnswer endpoint r
  | .add _ => addAnswer endpoint r
  | .keys => keysAnswer endpoint r

/-! ## The API -/

/-- The state of a network together with all requests sent into it. -/
structure Traffic (σ : Type) where
  network : σ
  requests : List Request := []

def api {σ : Type} (client : HttpClient) (network : Network σ) : MemberApi (Traffic σ) :=
  fun c traffic =>
    let d := dispatch network (question c) .noEndpoints client.endpoints traffic.network
    let result : Except Error c.Answer := match d.outcome with
      | .ok (endpoint, r) => answer endpoint r c
      | .error e => .error e
    ⟨result, d.events, ⟨d.state, traffic.requests ++ d.requests⟩⟩

end HttpClient

end NodeBootstrap
