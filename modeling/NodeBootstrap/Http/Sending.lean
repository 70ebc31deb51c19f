import NodeBootstrap.Http.Message
import NodeBootstrap.Url.Joining
import NodeBootstrap.Url.Uri

/-! # Sending requests

A request is sent, and sent on where it is redirected, up to a limit. -/

namespace NodeBootstrap.Http

inductive SendFault where
  | noAnswer
  /-- The last URL that was asked for redirects once more. -/
  | tooManyRedirects (last : Url)
  /-- The URL is none that requests are sent to. -/
  | unsendable (url : Url)
  deriving DecidableEq, Repr

namespace SendFault

/-- The text names the URL that was asked for first, unless the fault lies with another one. -/
def message (url : Url) : SendFault → String
  | noAnswer => s!"error sending request for url ({url.text})"
  | tooManyRedirects last => s!"error following redirect for url ({last.text})"
  | unsendable refused => s!"builder error for url ({refused.text})"

end SendFault

/-- How many redirects are followed. -/
def maxRedirects : Nat := 10

def redirects (s : Status) : Bool := [301, 302, 303, 307, 308].contains s.code

/-- A redirect of these kinds repeats the request as it was; the others turn it into a read. -/
def repeats (s : Status) : Bool := [307, 308].contains s.code

/-- The request that a response redirects to. A response that leads to no URI redirects nowhere. -/
def redirected? (req : Request) (r : Response) : Option Request := do
  if ¬ redirects r.status then none
  let location ← r.location
  let url ← (req.url.join location).toOption.filter Url.isUri
  let url := { url with fragment := none }
  if repeats r.status then some { req with url := url } else some ⟨.get, url, none⟩

/-- Whether requests are sent to a URL. -/
def isHttp (url : Url) : Bool := (url.scheme = "http" || url.scheme = "https") && url.isUri

/-- What sending came to, with all requests that were sent. -/
structure Sent (σ : Type) where
  outcome : Except SendFault Response
  requests : List Request
  state : σ

/-- Sends a request and follows up to `left` redirects. -/
def follow {σ : Type} (network : Network σ) : (left : Nat) → Request → σ → Sent σ
  | left, req, state =>
    match network req state with
    | (none, state) => ⟨.error .noAnswer, [req], state⟩
    | (some r, state) =>
      match redirected? req r, left with
      | none, _ => ⟨.ok r, [req], state⟩
      | some _, 0 => ⟨.error (.tooManyRedirects req.url), [req], state⟩
      | some next, left + 1 =>
        if isHttp next.url then
          let rest := follow network left next state
          { rest with requests := req :: rest.requests }
        else ⟨.error (.unsendable next.url), [req], state⟩

def send {σ : Type} (network : Network σ) (req : Request) (state : σ) : Sent σ :=
  if isHttp req.url then follow network maxRedirects req state
  else ⟨.error (.unsendable req.url.withoutUser), [], state⟩

end NodeBootstrap.Http
