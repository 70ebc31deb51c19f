import NodeBootstrap.Config.Validation
import NodeBootstrap.Proofs.Cluster.DirectiveText
import NodeBootstrap.Proofs.Decimal.Digits
import NodeBootstrap.Proofs.Engine.CommandLine
import NodeBootstrap.Proofs.Text.Lowercase

/-! # What an identity may hold

The name of a node is put into normal form, which leaves no white space in it. Commas and equals
signs stay, in the name as well as in the URLs. An identity is fit for a directive wherever the
operator states none of them. -/

namespace NodeBootstrap

open Text

/-! ## Names -/

theorem not_isDigit_of_uncased {x : Char} (hx : uncased.contains x = true) : x.isDigit = false := by
  have hranges : ∀ r ∈ uncased, r.2 < 48 ∨ 57 < r.1 := by decide
  obtain ⟨r, hr, hlow, hhigh⟩ := CodeRanges.contains_iff.mp hx
  have hr := hranges r hr
  by_contra hdigit
  rw [Bool.not_eq_false, Char.isDigit_iff_toNat] at hdigit
  have hzero : '0'.toNat = 48 := rfl
  have hnine : '9'.toNat = 57 := rfl
  omega

theorem toList_nodeName (name : String) (index : UInt32) :
    (nodeName name index).toList = kebab name.toList ++ '-' :: Nat.toDigits 10 index.toNat := by
  change (kebabCase name ++ "-" ++ toString index.toNat).toList = _
  simp [kebabCase]

theorem mem_nodeName_iff {x : Char} (hx : uncased.contains x = true) (name : String)
    (index : UInt32) : x ∈ (nodeName name index).toList ↔ x ∈ kebab name.toList := by
  have hdash : x ≠ '-' := ne_of_uncased hx (by decide)
  have hdigits : x ∉ Nat.toDigits 10 index.toNat :=
    Decimal.not_mem_toDigits (not_isDigit_of_uncased hx) _
  rw [toList_nodeName, List.mem_append, List.mem_cons]
  constructor
  · rintro (hmem | hmem | hmem)
    · exact hmem
    · exact absurd hmem hdash
    · exact absurd hmem hdigits
  · exact .inl

theorem hyphenate_of_ne {c : Char} (hc : c ≠ '_') (hblank : isBlank c = false) :
    hyphenate c = c := by
  simp [hyphenate, hc, hblank]

/-- The normal form of a name has no white space. -/
theorem not_mem_kebab_of_isBlank {x : Char} (hx : isBlank x = true) (s : List Char) :
    x ∉ kebab s := by
  rw [kebab, mem_lowercase_iff (uncased_of_isBlank hx)]
  intro hmem
  obtain ⟨c, -, hc⟩ := List.mem_map.mp hmem
  rw [hyphenate] at hc
  split at hc
  · rw [← hc] at hx
    exact absurd hx (by decide)
  · next hkept =>
      rw [← hc] at hx
      exact hkept (.inr hx)

theorem uncased_of_separator {x : Char} (hx : x = ',' ∨ x = '=') : uncased.contains x = true := by
  rcases hx with rfl | rfl <;> decide

/-- The normal form of a name has the separators that the name has. -/
theorem mem_kebab_iff {x : Char} (hx : x = ',' ∨ x = '=') (s : List Char) :
    x ∈ kebab s ↔ x ∈ s := by
  have hkept : isBlank x = false ∧ x ≠ '_' ∧ x ≠ '-' := by
    rcases hx with rfl | rfl <;> decide
  obtain ⟨hblank, hunderscore, hhyphen⟩ := hkept
  rw [kebab, mem_lowercase_iff (uncased_of_separator hx), ← mem_trim_iff hblank s, List.mem_map]
  constructor
  · rintro ⟨c, hc, heq⟩
    rw [hyphenate] at heq
    split at heq
    · exact absurd heq.symm hhyphen
    · rwa [← heq]
  · intro hmem
    exact ⟨x, hmem, hyphenate_of_ne hunderscore hblank⟩

/-- The normal form of a name is not empty. -/
theorem kebabCase_ne_empty {name : String} (h : ¬Blank name) : kebabCase name ≠ "" := by
  have hmapped : (trim name.toList).map hyphenate ≠ [] := List.map_eq_nil_iff.not.mpr h
  intro hempty
  apply lowercase_ne_nil hmapped
  have htext := congrArg String.toList hempty
  rwa [kebabCase, String.toList_ofList] at htext

/-! ## URLs -/

namespace Transport

def port : Transport → Nat
  | client => clientPort
  | peer => peerPort

end Transport

/-- The URL at which others reach the node. -/
def Identity.advertised (self : Identity) : Transport → String
  | .client => self.advertiseClientUrl
  | .peer => self.advertisePeerUrl

namespace Config

/-- What the operator states about the host of an advertised URL: a domain for a secured transport,
an address for a plain one. -/
def hostField (c : Config) (t : Transport) : String :=
  if t.secure c.engine then c.engine.advertiseUrlsDnsSuffix else c.node.externalIp

/-- The host of an advertised URL. -/
def host (c : Config) (t : Transport) : String :=
  if t.secure c.engine then c.nodeName ++ "." ++ c.hostField t else c.hostField t

def scheme (c : Config) (t : Transport) : String :=
  if t.secure c.engine then "https" else "http"

theorem advertised_eq (c : Config) (t : Transport) :
    c.identity.advertised t = c.scheme t ++ "://" ++ c.host t ++ ":" ++ toString t.port := by
  have hurl : c.identity.advertised t =
      advertiseUrl (t.secure c.engine) c.nodeName c.engine.advertiseUrlsDnsSuffix
        c.node.externalIp t.port := by
    cases t <;> rfl
  rw [hurl, advertiseUrl, scheme, host, hostField]
  cases t.secure c.engine
  · rfl
  · simp only [if_pos, String.append_assoc]
    rfl

/-- The fixed parts of a URL hold no white space, commas and equals signs. -/
theorem mem_advertised_iff {x : Char} (hx : uncased.contains x = true) (c : Config)
    (t : Transport) : x ∈ (c.identity.advertised t).toList ↔ x ∈ (c.host t).toList := by
  have hscheme : x ∉ (c.scheme t).toList := by
    apply not_mem_of_uncased hx
    rw [scheme]
    split <;> decide
  have hslashes : x ∉ "://".toList := not_mem_of_uncased hx (by decide)
  have hcolon : x ∉ ":".toList := not_mem_of_uncased hx (by decide)
  have hport : x ∉ (toString t.port).toList := by
    apply not_mem_of_uncased hx
    cases t <;> decide
  rw [advertised_eq]
  simp only [String.toList_append, List.mem_append, hscheme, hslashes, hcolon, hport, false_or,
    or_false]

theorem mem_host_iff {x : Char} (hx : uncased.contains x = true) (c : Config) (t : Transport) :
    x ∈ (c.host t).toList ↔
      t.secure c.engine = true ∧ x ∈ c.nodeName.toList ∨ x ∈ (c.hostField t).toList := by
  have hdot : x ≠ '.' := ne_of_uncased hx (by decide)
  rw [host]
  cases t.secure c.engine with
  | false => simp
  | true => simp [hdot]

theorem mem_name_iff {x : Char} (hx : x = ',' ∨ x = '=') (c : Config) :
    x ∈ c.identity.name.toList ↔ x ∈ c.node.name.toList :=
  (mem_nodeName_iff (uncased_of_separator hx) _ _).trans (mem_kebab_iff hx _)

theorem isBlank_of_mem_name (c : Config) {x : Char} (hx : x ∈ c.identity.name.toList) :
    isBlank x = false := by
  by_contra hblank
  rw [Bool.not_eq_false] at hblank
  have hkebab := (mem_nodeName_iff (uncased_of_isBlank hblank) _ _).mp hx
  exact not_mem_kebab_of_isBlank hblank _ hkebab

theorem comma_mem_advertised_iff (c : Config) (t : Transport) :
    ',' ∈ (c.identity.advertised t).toList ↔
      t.secure c.engine = true ∧ ',' ∈ c.node.name.toList ∨ ',' ∈ (c.hostField t).toList := by
  have hname : ',' ∈ c.nodeName.toList ↔ ',' ∈ c.node.name.toList :=
    c.mem_name_iff (.inl rfl)
  rw [mem_advertised_iff (by decide), mem_host_iff (by decide), hname]

/-- White space in a URL is in what the operator states about the host. -/
theorem mem_hostField_of_isBlank {c : Config} {t : Transport} {x : Char}
    (hblank : isBlank x = true) (hx : x ∈ (c.identity.advertised t).toList) :
    x ∈ (c.hostField t).toList := by
  have huncased := uncased_of_isBlank hblank
  rw [mem_advertised_iff huncased, mem_host_iff huncased] at hx
  rcases hx with ⟨-, hname⟩ | hfield
  · rw [c.isBlank_of_mem_name hname] at hblank
    cases hblank
  · exact hfield

end Config

/-! ## Fitness for a directive -/

theorem Identity.reads_back_iff (self : Identity) :
    Directive.pairs? self.entry = some [(self.name, self.advertisePeerUrl)] ↔
      Directive.Separate (self.name, self.advertisePeerUrl) := by
  have hentry : self.entry = Directive.written [(self.name, self.advertisePeerUrl)] :=
    (String.intercalate_singleton).symm
  rw [hentry, Directive.pairs?_written_iff (List.cons_ne_nil _ _), List.forall_mem_singleton]

/-- The name and the advertised URLs can stand in a directive, and the own entry reads back. -/
structure Identity.Fit (node : Identity) : Prop where
  unspaced_name : ∀ x ∈ node.name.toList, isBlank x = false
  commaless_name : ',' ∉ node.name.toList
  equalsless_name : '=' ∉ node.name.toList
  unspaced_url : ∀ t, ∀ x ∈ (node.advertised t).toList, isBlank x = false
  commaless_url : ∀ t, ',' ∉ (node.advertised t).toList
  reads_back : Directive.pairs? node.entry = some [(node.name, node.advertisePeerUrl)]

/-- The operator states no separators in the name, and no commas and white space in the hosts. -/
structure Config.Clean (c : Config) : Prop where
  commaless_name : ',' ∉ c.node.name.toList
  equalsless_name : '=' ∉ c.node.name.toList
  commaless_host : ∀ t, ',' ∉ (c.hostField t).toList
  unspaced_host : ∀ t, ∀ x ∈ (c.hostField t).toList, isBlank x = false

/-- Where the white space and the separators of an identity come from. -/
structure Config.IdentitySpec (c : Config) : Prop where
  unspaced_name : ∀ x ∈ c.identity.name.toList, isBlank x = false
  comma_name : ',' ∈ c.identity.name.toList ↔ ',' ∈ c.node.name.toList
  equals_name : '=' ∈ c.identity.name.toList ↔ '=' ∈ c.node.name.toList
  /-- White space in a URL is in what is stated about the host. -/
  spaced_url : ∀ t, ∀ x ∈ (c.identity.advertised t).toList, isBlank x = true →
    x ∈ (c.hostField t).toList
  /-- The name of the node is part of the host where the transport is secured. -/
  comma_url : ∀ t, ',' ∈ (c.identity.advertised t).toList ↔
    t.secure c.engine = true ∧ ',' ∈ c.node.name.toList ∨ ',' ∈ (c.hostField t).toList
  reads_back : Directive.pairs? c.identity.entry =
      some [(c.identity.name, c.identity.advertisePeerUrl)] ↔
    ',' ∉ c.node.name.toList ∧ '=' ∉ c.node.name.toList ∧ ',' ∉ (c.hostField .peer).toList
  fit : c.Clean → c.identity.Fit

namespace Config

theorem reads_back_iff (c : Config) :
    Directive.pairs? c.identity.entry =
        some [(c.identity.name, c.identity.advertisePeerUrl)] ↔
      ',' ∉ c.node.name.toList ∧ '=' ∉ c.node.name.toList ∧ ',' ∉ (c.hostField .peer).toList := by
  have hcomma : ',' ∈ c.identity.name.toList ↔ ',' ∈ c.node.name.toList :=
    c.mem_name_iff (.inl rfl)
  have hequals : '=' ∈ c.identity.name.toList ↔ '=' ∈ c.node.name.toList :=
    c.mem_name_iff (.inr rfl)
  have hurl : ',' ∈ c.identity.advertisePeerUrl.toList ↔ _ := c.comma_mem_advertised_iff .peer
  rw [c.identity.reads_back_iff]
  constructor
  · rintro ⟨hname, hnoequals, hnocomma⟩
    exact ⟨fun h => hname (hcomma.mpr h), fun h => hnoequals (hequals.mpr h),
      fun h => hnocomma (hurl.mpr (.inr h))⟩
  · rintro ⟨hname, hnoequals, hfield⟩
    refine ⟨fun h => hname (hcomma.mp h), fun h => hnoequals (hequals.mp h), fun h => ?_⟩
    rcases hurl.mp h with ⟨-, hmem⟩ | hmem
    · exact hname hmem
    · exact hfield hmem

theorem Clean.fit {c : Config} (h : c.Clean) : c.identity.Fit where
  unspaced_name _ hx := c.isBlank_of_mem_name hx
  commaless_name hmem := h.commaless_name ((c.mem_name_iff (.inl rfl)).mp hmem)
  equalsless_name hmem := h.equalsless_name ((c.mem_name_iff (.inr rfl)).mp hmem)
  unspaced_url t x hx := by
    by_contra hblank
    rw [Bool.not_eq_false] at hblank
    rw [h.unspaced_host t x (mem_hostField_of_isBlank hblank hx)] at hblank
    cases hblank
  commaless_url t hmem := by
    rcases (c.comma_mem_advertised_iff t).mp hmem with ⟨-, hname⟩ | hfield
    · exact h.commaless_name hname
    · exact h.commaless_host t hfield
  reads_back := c.reads_back_iff.mpr ⟨h.commaless_name, h.equalsless_name, h.commaless_host .peer⟩

/-- An identity has no white space, commas or equals signs but those that the operator states, and
none at all in the place of white space in the name. -/
theorem identity_spec (c : Config) : c.IdentitySpec where
  unspaced_name _ hx := c.isBlank_of_mem_name hx
  comma_name := c.mem_name_iff (.inl rfl)
  equals_name := c.mem_name_iff (.inr rfl)
  spaced_url _ _ hx hblank := mem_hostField_of_isBlank hblank hx
  comma_url := c.comma_mem_advertised_iff
  reads_back := c.reads_back_iff
  fit := Clean.fit

/-- Separators are neither refused nor replaced, in the name as well as in the address. -/
theorem separators_accepted :
    let named : Config :=
      { node := { name := "a,b=c", index := 0, externalIp := "10.0.0.5" }
        engine := { program := "kvd" } }
    let addressed : Config :=
      { node := { name := "kv", index := 0, externalIp := "10.0.0.5, 10.0.0.6" }
        engine := { program := "kvd" } }
    named.validate = .ok () ∧ named.identity.name = "a,b=c-0" ∧
      Directive.pairs? named.identity.entry ≠
        some [(named.identity.name, named.identity.advertisePeerUrl)] ∧
      ¬named.identity.Fit ∧
    addressed.validate = .ok () ∧
      addressed.identity.advertisePeerUrl = "http://10.0.0.5, 10.0.0.6:7001" ∧
      addressed.identity.advertiseClientUrl = "http://10.0.0.5, 10.0.0.6:4001" ∧
      ¬addressed.identity.Fit := by
  intro named addressed
  have hname : ',' ∈ named.identity.name.toList := by decide +kernel
  have hurl : ',' ∈ (addressed.identity.advertised .peer).toList := by decide +kernel
  have hunread : Directive.pairs? named.identity.entry ≠
      some [(named.identity.name, named.identity.advertisePeerUrl)] := by
    intro h
    exact (named.identity.reads_back_iff.mp h).commaless_name hname
  refine ⟨by decide +kernel, by decide +kernel, hunread, fun h => h.commaless_name hname,
    by decide +kernel, by decide +kernel, by decide +kernel, fun h => h.commaless_url .peer hurl⟩

end Config

end NodeBootstrap
