import NodeBootstrap.Url.Parsing

/-! # Joining URLs

A reference is resolved against the URL in which it stands. -/

namespace NodeBootstrap.Url

/-- The segments of a path without the last one. -/
def above (u : Url) : List String :=
  match u.path with
  | .rooted segments => segments.dropLast
  | .rootless _ => []

/-- A reference without a scheme. -/
def joinRelative (u : Url) (s : List Char) : Except UrlError Url :=
  let special := isSpecial u.scheme
  let plain : Url := { u with query := none, fragment := none }
  match u.path, s with
  | _, '#' :: _ => .ok { u.withRest (fun _ => u.path) s with query := u.query }
  | .rootless _, _ => .error .relativeToOpaqueBase
  | .rooted _, [] => .ok { u with fragment := none }
  | .rooted _, c :: rest =>
    if c = '?' then .ok (plain.withRest (fun _ => u.path) s)
    else if isSlash special c then
      match rest with
      | d :: rest =>
        if isSlash special d then
          afterSlashes u.scheme (if special then rest.dropWhile (isSlash true) else rest)
        else .ok (plain.withRest (rootedPath special) s)
      | [] => .ok (plain.withRest (rootedPath special) s)
    else
      let joined (path : List Char) : UrlPath :=
        .rooted (segments u.above (slashed special path))
      .ok (plain.withRest joined s)

/-- A reference that repeats a special scheme without slashes counts as one without a scheme. -/
def join (u : Url) (reference : String) : Except UrlError Url :=
  let s := cleaned reference
  match scheme? s with
  | none => u.joinRelative s
  | some (scheme, rest) =>
    let slashes := rest.takeWhile (isSlash true)
    if scheme = u.scheme ∧ isSpecial scheme ∧ slashes.length < 2 ∧ scheme ≠ "file" then
      u.joinRelative rest
    else parse reference

end NodeBootstrap.Url
