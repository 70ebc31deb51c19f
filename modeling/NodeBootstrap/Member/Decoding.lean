import NodeBootstrap.Json.Printer
import NodeBootstrap.Json.Reader
import NodeBootstrap.Member.Basic
import NodeBootstrap.Text.Utf8

/-! # Members as JSON

A member is an object whose four fields may come in any order, may be left out and may be mixed with
others, or an array of the four in their order. Reading stops at the first fault. -/

namespace NodeBootstrap.Member

open Json

/-- A value of another kind than the one wanted. A scalar is read first, so that a fault inside it
comes before the mismatch. -/
def otherKind (bad : Char → Bool) (s : List Char) : Fault :=
  let after {α : Type} : Except Fault α → Fault
    | .ok _ => .mismatched
    | .error fault => fault
  match s with
  | 'n' :: rest => after (word ['u', 'l', 'l'] rest)
  | 't' :: rest => after (word ['r', 'u', 'e'] rest)
  | 'f' :: rest => after (word ['a', 'l', 's', 'e'] rest)
  | '"' :: rest => after (keepString bad .plain rest)
  | '[' :: _ => .mismatched
  | '\x7b' :: _ => .mismatched
  | [] => .ended
  | c :: _ => if c = '-' ∨ Decimal.isDigit c then after (keepNumber s) else .malformed

def textValue (bad : Char → Bool) (s : List Char) : Except Fault (String × List Char) :=
  match skipBlanks s with
  | '"' :: rest => (keepString bad .plain rest).map fun (cs, rest) => (String.ofList cs, rest)
  | s => .error (otherKind bad s)

/-- A list of values of one kind. -/
def listValue {α : Type} (bad : Char → Bool)
    (value : List Char → Except Fault (α × List Char)) (s : List Char) :
    Except Fault (List α × List Char) :=
  match skipBlanks s with
  | '[' :: rest =>
    let item (items : List α) (s : List Char) : Except Fault (List α × List Char) :=
      (value s).map fun (x, rest) => (x :: items, rest)
    (itemLoop item (rest.length + 1) true [] rest).map fun (items, rest) => (items.reverse, rest)
  | s => .error (otherKind bad s)

def textsValue (bad : Char → Bool) : List Char → Except Fault (List String × List Char) :=
  listValue bad (textValue bad)

/-- The fields met so far. -/
structure Partial where
  id : Option String := none
  name : Option String := none
  peerUrls : Option (List String) := none
  clientUrls : Option (List String) := none

def Partial.complete (p : Partial) : Member :=
  ⟨p.id.getD "", p.name.getD "", p.peerUrls.getD [], p.clientUrls.getD []⟩

/-- A known field, unless it was met before, which is a fault even ahead of its value. -/
def once {α : Type} (met : Option α) (value : List Char → Except Fault (α × List Char))
    (s : List Char) : Except Fault (α × List Char) :=
  match met with
  | some _ => .error .mismatched
  | none => do value (← colon s)

def field (bad : Char → Bool) (p : Partial) (s : List Char) :
    Except Fault (Partial × List Char) := do
  let (key, s) ← keepString bad .plain s
  if key = "id".toList then
    let (x, s) ← once p.id (textValue bad) s
    return ({ p with id := some x }, s)
  else if key = "name".toList then
    let (x, s) ← once p.name (textValue bad) s
    return ({ p with name := some x }, s)
  else if key = "peerURLs".toList then
    let (x, s) ← once p.peerUrls (textsValue bad) s
    return ({ p with peerUrls := some x }, s)
  else if key = "clientURLs".toList then
    let (x, s) ← once p.clientUrls (textsValue bad) s
    return ({ p with clientUrls := some x }, s)
  else return (p, ← skip (← colon s))

/-- An item of an array that may have ended before it. -/
def itemOr {α : Type} (default : α) (value : List Char → Except Fault (α × List Char))
    (first : Bool) (s : List Char) : Except Fault (α × List Char) := do
  match ← nextItem first s with
  | none => return (default, s)
  | some here => value here

def memberValue (bad : Char → Bool) (s : List Char) : Except Fault (Member × List Char) :=
  match skipBlanks s with
  | [] => .error .ended
  | '[' :: rest => do
    let (id, s) ← itemOr "" (textValue bad) true rest
    let started := s.length < rest.length
    let (name, s) ← itemOr "" (textValue bad) (!started) s
    let (peerUrls, s) ← itemOr [] (textsValue bad) (!started) s
    let (clientUrls, s) ← itemOr [] (textsValue bad) (!started) s
    return (⟨id, name, peerUrls, clientUrls⟩, ← endItems s)
  | '\x7b' :: rest =>
    (fieldLoop (field bad) (rest.length + 1) true {} rest).map fun (p, rest) => (p.complete, rest)
  | s => .error (otherKind bad s)

def decode (s : String) : Except Fault Member := do
  let (m, rest) ← memberValue noBad s.toList
  finish m rest

/-! ## Lists of members -/

/-- The one field of a member list, which may be left out. -/
def listField (bad : Char → Bool) (met : Option (List Member)) (s : List Char) :
    Except Fault (Option (List Member) × List Char) := do
  let (key, s) ← keepString bad .plain s
  if key = "members".toList then
    let (ms, s) ← once met (listValue bad (memberValue bad)) s
    return (some ms, s)
  else return (met, ← skip (← colon s))

def membersValue (bad : Char → Bool) (s : List Char) :
    Except Fault (List Member × List Char) :=
  match skipBlanks s with
  | [] => .error .ended
  | '[' :: rest => do
    let (ms, s) ← itemOr [] (listValue bad (memberValue bad)) true rest
    return (ms, ← endItems s)
  | '\x7b' :: rest =>
    (fieldLoop (listField bad) (rest.length + 1) true none rest).map fun (ms, rest) =>
      (ms.getD [], rest)
  | s => .error (otherKind bad s)

/-! ## Octets

Octets that are no text may stand in what is skipped, but not in a string that is kept. -/

def ofBytes {α : Type} (value : (Char → Bool) → List Char → Except Fault (α × List Char))
    (bytes : List UInt8) : Except Fault α := do
  let standIn := Text.Utf8.freshFor bytes
  let (x, rest) ← value (· == standIn) (Text.Utf8.decode standIn bytes)
  finish x rest

def decodeBytes : List UInt8 → Except Fault Member := ofBytes memberValue

def decodeListBytes : List UInt8 → Except Fault (List Member) := ofBytes membersValue

/-! ## Printing -/

def toJson (m : Member) : Json :=
  .object [("id", .string m.id), ("name", .string m.name),
    ("peerURLs", Json.strings m.peerUrls), ("clientURLs", Json.strings m.clientUrls)]

/-- What is posted to register a member: its peer URL alone. -/
def addRequest (peerUrl : String) : Json :=
  .object [("peerURLs", Json.strings [peerUrl])]

end NodeBootstrap.Member
