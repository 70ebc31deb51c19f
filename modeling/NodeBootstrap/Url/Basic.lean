import NodeBootstrap.Url.Host

/-! # URLs

A URL in its normal form. Two URLs are the same when their texts are. -/

namespace NodeBootstrap

structure Authority where
  username : String := ""
  password : Option String := none
  host : Host
  /-- Left out where it is the port that the scheme implies. -/
  port : Option Nat := none
  deriving DecidableEq, Repr

inductive UrlPath where
  /-- A path without structure, to which nothing can be joined. -/
  | rootless (text : String)
  /-- Segments, each after a slash. -/
  | rooted (segments : List String)
  deriving DecidableEq, Repr

structure Url where
  scheme : String
  authority : Option Authority
  path : UrlPath
  query : Option String := none
  fragment : Option String := none
  deriving DecidableEq, Repr

namespace Authority

def userinfo (a : Authority) : String :=
  match a.password with
  | some password => s!"{a.username}:{password}@"
  | none => if a.username = "" then "" else s!"{a.username}@"

def text (a : Authority) : String :=
  a.userinfo ++ a.host.text ++
    match a.port with
    | some port => s!":{port}"
    | none => ""

end Authority

namespace UrlPath

def text : UrlPath → String
  | rootless s => s
  | rooted segments => String.join (segments.map ("/" ++ ·))

end UrlPath

namespace Url

/-- Keeps a path that begins with two slashes apart from an authority. -/
def guard (u : Url) : String :=
  match u.authority, u.path with
  | none, .rooted ("" :: _ :: _) => "/."
  | _, _ => ""

def text (u : Url) : String :=
  let marked (mark : String) : Option String → String
    | some s => mark ++ s
    | none => ""
  u.scheme ++ ":" ++ marked "//" (u.authority.map Authority.text) ++ u.guard ++ u.path.text ++
    marked "?" u.query ++ marked "#" u.fragment

/-- The URL without a user's name and password. -/
def withoutUser (u : Url) : Url :=
  { u with authority := u.authority.map fun a => { a with username := "", password := none } }

end Url

end NodeBootstrap
