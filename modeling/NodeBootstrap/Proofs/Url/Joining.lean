import Mathlib.Data.List.TakeWhile
import NodeBootstrap.Url.Joining
import NodeBootstrap.Url.Uri

/-! # Joining paths from the root

A path from the root replaces the path of a URL and leaves scheme and authority as they are. Only a
URL whose path has no structure refuses it. -/

namespace NodeBootstrap.Url

/-- The URL with another path, and with nothing after it. -/
def atRoot (u : Url) (path : List String) : Url :=
  { u with path := .rooted path, query := none, fragment := none }

/-- A reference that is a path from the root, with its segments. -/
structure FromRoot (reference : String) (path : List String) : Prop where
  slash : ∃ first rest, cleaned reference = '/' :: first :: rest ∧ isSlash true first = false
  noQuery : '?' ∉ cleaned reference
  noFragment : '#' ∉ cleaned reference
  read : ∀ special, rootedPath special (cleaned reference) = .rooted path

theorem withRest_of_plain (u : Url) (path : List Char → UrlPath) {s : List Char}
    (noQuery : '?' ∉ s) (noFragment : '#' ∉ s) :
    u.withRest path s = { u with path := path s, query := none, fragment := none } := by
  have hquery : ∀ c ∈ s, decide (c ≠ '?') = true :=
    fun c hc => decide_eq_true (ne_of_mem_of_not_mem hc noQuery)
  have hfragment : ∀ c ∈ s, decide (c ≠ '#') = true :=
    fun c hc => decide_eq_true (ne_of_mem_of_not_mem hc noFragment)
  simp only [withRest, List.takeWhile_eq_self_iff.mpr hfragment,
    List.takeWhile_eq_self_iff.mpr hquery, List.dropWhile_eq_nil_iff.mpr hquery,
    List.dropWhile_eq_nil_iff.mpr hfragment]

theorem scheme?_slash (s : List Char) : scheme? ('/' :: s) = none := by
  have hslash : isSchemeChar '/' = false := by decide
  simp [scheme?, hslash]

theorem joinRelative_slash (u : Url) {first : Char} (hfirst : isSlash true first = false)
    (rest : List Char) :
    u.joinRelative ('/' :: first :: rest) = match u.path with
      | .rootless _ => .error .relativeToOpaqueBase
      | .rooted _ => .ok ({ u with query := none, fragment := none : Url }.withRest
          (rootedPath (isSpecial u.scheme)) ('/' :: first :: rest)) := by
  have hslash : isSlash (isSpecial u.scheme) '/' = true := rfl
  have hplain : isSlash (isSpecial u.scheme) first = false := by
    simp only [isSlash, Bool.true_and, Bool.or_eq_false_iff] at hfirst ⊢
    exact ⟨hfirst.1, by rw [hfirst.2, Bool.and_false]⟩
  cases hpath : u.path with
  | rootless text => simp [joinRelative, hpath]
  | rooted segments => simp [joinRelative, hpath, hslash, hplain]

theorem FromRoot.join {reference : String} {path : List String} (h : FromRoot reference path)
    (u : Url) :
    u.join reference = match u.path with
      | .rootless _ => .error .relativeToOpaqueBase
      | .rooted _ => .ok (u.atRoot path) := by
  obtain ⟨first, rest, hs, hfirst⟩ := h.slash
  have hread := withRest_of_plain { u with query := none, fragment := none }
    (rootedPath (isSpecial u.scheme)) h.noQuery h.noFragment
  rw [h.read, hs] at hread
  rw [Url.join, hs, scheme?_slash]
  dsimp only
  rw [joinRelative_slash u hfirst, hread]
  rfl

theorem FromRoot.eq_atRoot {reference : String} {path : List String} (h : FromRoot reference path)
    {u joined : Url} (hjoin : u.join reference = .ok joined) : joined = u.atRoot path := by
  rw [h.join] at hjoin
  cases hpath : u.path with
  | rootless text =>
      rw [hpath] at hjoin
      cases hjoin
  | rooted segments =>
      rw [hpath] at hjoin
      exact (Except.ok.inj hjoin).symm

/-- Whether a URL is a URI does not depend on a path that is joined to it. -/
theorem FromRoot.isUri_of_join {reference : String} {path : List String}
    (h : FromRoot reference path) {u joined : Url} (hjoin : u.join reference = .ok joined) :
    joined.isUri = u.isUri := by
  rw [h.join] at hjoin
  cases hpath : u.path with
  | rootless text =>
      rw [hpath] at hjoin
      cases hjoin
  | rooted segments =>
      rw [hpath] at hjoin
      obtain rfl := Except.ok.inj hjoin
      rw [isUri, isUri, atRoot, hpath]
      cases u.authority <;> rfl

/-- Nothing but a path without structure keeps a path from the root from being joined. -/
theorem FromRoot.exists_rootless {reference : String} {path : List String}
    (h : FromRoot reference path) {u : Url} {cause : UrlError}
    (hjoin : u.join reference = .error cause) :
    (∃ text, u.path = .rootless text) ∧ cause = .relativeToOpaqueBase := by
  rw [h.join] at hjoin
  cases hpath : u.path with
  | rootless text =>
      rw [hpath] at hjoin
      exact ⟨⟨text, rfl⟩, (Except.error.inj hjoin).symm⟩
  | rooted segments =>
      rw [hpath] at hjoin
      cases hjoin

end NodeBootstrap.Url
