import NodeBootstrap.Url.Basic
import NodeBootstrap.Url.Percent

/-! # URIs

Requests are sent to URIs. A URL is one if its authority could be that of one. Where it has none, the
whole of it is taken for an authority. -/

namespace NodeBootstrap.Url

/-- An authority as far as it is read. -/
structure AuthorityScan where
  /-- The colons that could stand before a port. -/
  colons : Nat := 0
  opened : Bool := false
  closed : Bool := false
  /-- A percent sign, which only a user or an address in brackets may hold. -/
  percent : Bool := false

def AuthorityScan.step? (p : AuthorityScan) (c : Char) : Option AuthorityScan :=
  match c with
  | ':' => if p.colons < 8 then some { p with colons := p.colons + 1 } else none
  | '[' => if p.percent || p.opened then none else some { p with opened := true }
  | ']' => if p.opened && ! p.closed then some ⟨0, true, true, false⟩ else none
  | '@' => some { p with colons := 0, percent := false }
  | '%' => some { p with percent := true }
  | c => if c.isAlphanum || oneOf "!$&'()*+,-.;=_~" c then some p else none

def isUriAuthority (s : List Char) : Bool :=
  match s.foldlM AuthorityScan.step? {} with
  | some p => p.opened == p.closed && p.colons ≤ 1 && ! p.percent && s.getLast? ≠ some '@'
  | none => false

def isUri (u : Url) : Bool :=
  match u.authority, u.path with
  | some a, _ => a.text ≠ "" && u.scheme.length ≤ 64 && isUriAuthority a.text.toList
  | none, .rootless _ => isUriAuthority u.text.toList
  | none, .rooted _ => false

end NodeBootstrap.Url
