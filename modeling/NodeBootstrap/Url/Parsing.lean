import NodeBootstrap.Url.Basic

/-! # Parsing URLs

An absolute URL is parsed from the left: scheme, authority, path, query and fragment. Some schemes
are special: their URLs have a host and a path, and take a backslash for a slash. -/

namespace NodeBootstrap.Url

open Text

/-- The special schemes with their ports. -/
def specialSchemes : List (String × Option Nat) :=
  [("http", some 80), ("https", some 443), ("ws", some 80), ("wss", some 443), ("ftp", some 21),
    ("file", none)]

def isSpecial (scheme : String) : Bool := (specialSchemes.lookup scheme).isSome

def impliedPort (scheme : String) : Option Nat := (specialSchemes.lookup scheme).join

/-- Controls and blanks at the ends do not count, nor do tabs and line ends anywhere. -/
def cleaned (s : String) : List Char :=
  let outer (c : Char) : Bool := c.toNat ≤ 0x20
  let trimmed := ((s.toList.dropWhile outer).reverse.dropWhile outer).reverse
  trimmed.filter fun c => c ≠ '\t' && c ≠ '\n' && c ≠ '\r'

def isSchemeChar (c : Char) : Bool := c.isAlphanum || oneOf "+-." c

def scheme? (s : List Char) : Option (String × List Char) :=
  match s, s.dropWhile isSchemeChar with
  | first :: _, ':' :: rest =>
    if first.isAlpha then some (String.ofList (lowercaseAscii (s.takeWhile isSchemeChar)), rest)
    else none
  | _, _ => none

def isSlash (special : Bool) (c : Char) : Bool := c = '/' || (special && c = '\\')

/-- Where an authority ends. -/
def endsAuthority (special : Bool) (c : Char) : Bool := isSlash special c || c = '?' || c = '#'

/-- The text before and after the last occurrence of a character. -/
def splitLast (mark : Char) (s : List Char) : Option (List Char × List Char) :=
  if s.contains mark then
    let after := (s.reverse.takeWhile (· ≠ mark)).reverse
    some (s.take (s.length - after.length - 1), after)
  else none

/-- Name and password of a user, around the first colon; an empty password counts as none. -/
def readUserinfo (s : List Char) : String × Option String :=
  let encoded (cs : List Char) : String := String.ofList (percentEncode inUserinfo cs)
  match s.dropWhile (· ≠ ':') with
  | _ :: c :: rest => (encoded (s.takeWhile (· ≠ ':')), some (encoded (c :: rest)))
  | _ => (encoded (s.takeWhile (· ≠ ':')), none)

/-- Splits a host from what follows it; a colon in brackets belongs to the host. -/
def splitHost : (inBrackets : Bool) → List Char → List Char × List Char
  | _, [] => ([], [])
  | inBrackets, c :: rest =>
    if c = ':' ∧ ¬ inBrackets then ([], c :: rest)
    else
      let inside := if c = '[' then true else if c = ']' then false else inBrackets
      let (host, after) := splitHost inside rest
      (c :: host, after)

/-- A port after its colon; the one that the scheme implies is dropped, and so is an empty one. -/
def readPort (scheme : String) (s : List Char) : Except UrlError (Option Nat) :=
  if s = [] then .ok none
  else
    match digitsIn? 10 s with
    | some n =>
      if n > 65535 then .error .invalidPort
      else .ok (if impliedPort scheme = some n then none else some n)
    | none => .error .invalidPort

def hostAndPort (scheme : String) (s : List Char) : Except UrlError (Host × Option Nat) := do
  let special := isSpecial scheme
  let (hostText, after) := splitHost false s
  if hostText = [] then
    if special ∨ after ≠ [] then .error .emptyHost else return (.name "", none)
  else
    let host ← if special then Host.parse hostText else Host.parseOther hostText
    match after with
    | _ :: digits => return (host, ← readPort scheme digits)
    | [] => return (host, none)

def readAuthority (scheme : String) (s : List Char) : Except UrlError Authority := do
  match splitLast '@' s with
  | none =>
    let (host, port) ← hostAndPort scheme s
    return { host := host, port := port }
  | some (user, rest) =>
    if rest = [] then .error .emptyHost
    else
      let (username, password) := readUserinfo user
      let (host, port) ← hostAndPort scheme rest
      return ⟨username, password, host, port⟩

/-! ## Paths -/

def isDot (s : List Char) : Bool :=
  [".", "%2e"].contains (String.ofList (lowercaseAscii s))

def isDoubleDot (s : List Char) : Bool :=
  ["..", ".%2e", "%2e.", "%2e%2e"].contains (String.ofList (lowercaseAscii s))

/-- The segments of a path after its first slash. Dots lead nowhere, two dots a segment back. -/
def segments (passed : List String) : List (List Char) → List String
  | [] => passed
  | s :: rest =>
    let back := if isDoubleDot s then passed.dropLast else passed
    if isDoubleDot s ∨ isDot s then
      if rest = [] then back ++ [""] else segments back rest
    else segments (passed ++ [String.ofList (percentEncode inPath s)]) rest

def slashed (special : Bool) (s : List Char) : List (List Char) :=
  parts '/' (s.map fun c => if isSlash special c then '/' else c)

def rootedPath (special : Bool) (s : List Char) : UrlPath :=
  match s with
  | [] => .rooted (if special then [""] else [])
  | c :: rest => .rooted (segments [] (slashed special (if isSlash special c then rest else s)))

/-- The path, the query and the fragment: everything after the authority. -/
def withRest (u : Url) (path : List Char → UrlPath) (s : List Char) : Url :=
  let special := isSpecial u.scheme
  let beforeFragment := s.takeWhile (· ≠ '#')
  let encodedQuery := percentEncode (if special then inSpecialQuery else inQuery)
  let query := match beforeFragment.dropWhile (· ≠ '?') with
    | _ :: q => some (String.ofList (encodedQuery q))
    | [] => none
  let fragment := match s.dropWhile (· ≠ '#') with
    | _ :: f => some (String.ofList (percentEncode inFragment f))
    | [] => none
  { u with
    path := path (beforeFragment.takeWhile (· ≠ '?')), query := query, fragment := fragment }

/-! ## URLs -/

/-- A URL with an authority, from after its slashes. -/
def afterSlashes (scheme : String) (s : List Char) : Except UrlError Url := do
  let special := isSpecial scheme
  let a ← readAuthority scheme (s.takeWhile (! endsAuthority special ·))
  let u : Url := { scheme := scheme, authority := some a, path := .rooted [] }
  return u.withRest (rootedPath special) (s.dropWhile (! endsAuthority special ·))

def emptyHost : Authority := { host := .name "" }

/-- A URL of a file, whose host may be left out; this machine is no host. -/
def ofFile (s : List Char) : Except UrlError Url := do
  let u : Url := { scheme := "file", authority := some emptyHost, path := .rooted [] }
  match s with
  | a :: b :: rest =>
    if isSlash true a ∧ isSlash true b then
      let hostText := rest.takeWhile (! endsAuthority true ·)
      let after := rest.dropWhile (! endsAuthority true ·)
      let host ← if hostText = [] then pure (.name "") else Host.parse hostText
      let host := if host = .name "localhost" then .name "" else host
      return { u with authority := some { host := host } }.withRest (rootedPath true) after
    else return u.withRest (rootedPath true) s
  | _ => return u.withRest (rootedPath true) s

def parse (text : String) : Except UrlError Url :=
  match scheme? (cleaned text) with
  | none => .error .relativeWithoutBase
  | some (scheme, rest) =>
    if scheme = "file" then ofFile rest
    else if isSpecial scheme then afterSlashes scheme (rest.dropWhile (isSlash true))
    else
      let bare : Url := { scheme := scheme, authority := none, path := .rooted [] }
      match rest with
      | '/' :: '/' :: rest => afterSlashes scheme rest
      | '/' :: _ => .ok (bare.withRest (rootedPath false) rest)
      | _ =>
        .ok (bare.withRest (fun s => .rootless (String.ofList (percentEncode isControl s))) rest)

end NodeBootstrap.Url
