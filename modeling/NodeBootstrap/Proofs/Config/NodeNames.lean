import NodeBootstrap.Bootstrap.Discovery
import NodeBootstrap.Proofs.Config.Identity

/-! # Names of nodes

Names are compared in normal form, and the index of a node is told from its name by the last hyphen.
Nodes of one deployment therefore have the same name, or the same URL, only where the operator states
the same about them. -/

namespace NodeBootstrap

open Text

/-! ## Normal form -/

/-- A name in normal form: its words are separated by neither underscores nor white space, and all of
its letters are small. -/
structure NormalName (s : List Char) : Prop where
  no_underscore : '_' ∉ s
  unspaced : ∀ c ∈ s, isBlank c = false
  small : ∀ c ∈ s, lowerChar c = [c]

theorem not_mem_map_hyphenate (s : List Char) : '_' ∉ s.map hyphenate := by
  intro hmem
  obtain ⟨c, -, hc⟩ := List.mem_map.mp hmem
  rw [hyphenate] at hc
  split at hc
  · exact absurd hc (by decide)
  · next hkept => exact hkept (.inl hc)

theorem normalName_kebab (s : List Char) : NormalName (kebab s) where
  no_underscore := by
    rw [kebab, mem_lowercase_iff (by decide)]
    exact not_mem_map_hyphenate _
  unspaced c hc := by
    by_contra hblank
    rw [Bool.not_eq_false] at hblank
    exact not_mem_kebab_of_isBlank hblank s hc
  small _ hc := lowerChar_of_mem_lowercaseAfter hc

theorem NormalName.map_hyphenate {s : List Char} (h : NormalName s) : s.map hyphenate = s := by
  have hsame : s.map hyphenate = s.map id := by
    apply List.map_congr_left
    intro c hc
    exact hyphenate_of_ne (ne_of_mem_of_not_mem hc h.no_underscore) (h.unspaced c hc)
  rw [hsame, List.map_id]

theorem NormalName.kebab_eq_self {s : List Char} (h : NormalName s) : kebab s = s := by
  rw [kebab, trim_eq_self h.unspaced, h.map_hyphenate, lowercase_eq_self_iff]
  exact h.small

theorem toList_kebabCase (name : String) : (kebabCase name).toList = kebab name.toList :=
  String.toList_ofList

theorem kebabCase_eq_self_iff (name : String) : kebabCase name = name ↔ NormalName name.toList := by
  constructor
  · intro h
    rw [← h, toList_kebabCase]
    exact normalName_kebab _
  · intro h
    rw [kebabCase, h.kebab_eq_self, String.ofList_toList]

theorem kebabCase_kebabCase (name : String) : kebabCase (kebabCase name) = kebabCase name := by
  rw [kebabCase_eq_self_iff, toList_kebabCase]
  exact normalName_kebab _

theorem kebabCase_eq_empty_iff (name : String) : kebabCase name = "" ↔ Blank name := by
  constructor
  · intro h
    by_contra hname
    exact kebabCase_ne_empty hname h
  · intro h
    rw [kebabCase, kebab, show trim name.toList = [] from h]
    rfl

/-- White space around a name does not count. -/
theorem kebabCase_around {before after : String} (hbefore : Blank before) (hafter : Blank after)
    (name : String) : kebabCase (before ++ name ++ after) = kebabCase name := by
  rw [blank_iff] at hbefore hafter
  rw [kebabCase, kebabCase, kebab, kebab, String.toList_append, String.toList_append,
    trim_append_right hafter, trim_append_left hbefore]

/-- What the normal form of a name keeps and what it leaves out. -/
structure NormalFormSpec (name : String) : Prop where
  no_underscore : '_' ∉ (kebabCase name).toList
  unspaced : ∀ c ∈ (kebabCase name).toList, isBlank c = false
  idempotent : kebabCase (kebabCase name) = kebabCase name
  /-- The names that stay as they are are those in normal form. -/
  fixed_iff : kebabCase name = name ↔ NormalName name.toList
  empty_iff : kebabCase name = "" ↔ Blank name
  around : ∀ before after, Blank before → Blank after →
    kebabCase (before ++ name ++ after) = kebabCase name
  same_node : ∀ index, nodeName (kebabCase name) index = nodeName name index

theorem normal_form_spec (name : String) : NormalFormSpec name where
  no_underscore := toList_kebabCase name ▸ (normalName_kebab _).no_underscore
  unspaced := toList_kebabCase name ▸ (normalName_kebab _).unspaced
  idempotent := kebabCase_kebabCase name
  fixed_iff := kebabCase_eq_self_iff name
  empty_iff := kebabCase_eq_empty_iff name
  around _ _ hbefore hafter := kebabCase_around hbefore hafter name
  same_node index := by rw [nodeName, nodeName, kebabCase_kebabCase]

/-- A dotted capital I becomes two characters, a capital sigma the final one. -/
theorem normal_form_of_sigma :
    kebabCase "\u2003İΣ_ ΟΔΟΣ\n" = kebabCase "İΣ_ ΟΔΟΣ" ∧
      kebabCase "İΣ_ ΟΔΟΣ" = "i\u0307ς--οδος" ∧ NormalName "i\u0307ς--οδος".toList := by
  have hspec := normal_form_spec "İΣ_ ΟΔΟΣ"
  have hform : kebabCase "İΣ_ ΟΔΟΣ" = "i\u0307ς--οδος" := by decide +kernel
  refine ⟨hspec.around "\u2003" "\n" (by decide) (by decide), hform, ?_⟩
  rw [← kebabCase_eq_self_iff, ← hform]
  exact hspec.idempotent

/-! ## Names apart -/

/-- Where something stands for the last time, a text is split in one way only. -/
theorem append_cons_inj_of_not_mem {x : Char} {s s' t t' : List Char} (ht : x ∉ t) (ht' : x ∉ t')
    (h : s ++ x :: t = s' ++ x :: t') : s = s' ∧ t = t' := by
  rcases List.append_eq_append_iff.mp h with ⟨between, hs, hx⟩ | ⟨between, hs, hx⟩
  · cases between with
    | nil =>
        rw [List.append_nil] at hs
        exact ⟨hs.symm, (List.cons.inj hx).2⟩
    | cons c between =>
        have hmem : x ∈ t := (List.cons.inj hx).2 ▸ List.mem_append_right _ List.mem_cons_self
        exact absurd hmem ht
  · cases between with
    | nil =>
        rw [List.append_nil] at hs
        exact ⟨hs, (List.cons.inj hx).2.symm⟩
    | cons c between =>
        have hmem : x ∈ t' := (List.cons.inj hx).2 ▸ List.mem_append_right _ List.mem_cons_self
        exact absurd hmem ht'

/-- The index is what follows the last hyphen: digits and hyphens at the end of a name are not taken
for it. -/
theorem nodeName_eq_iff {name name' : String} {index index' : UInt32} :
    nodeName name index = nodeName name' index' ↔
      kebabCase name = kebabCase name' ∧ index = index' := by
  constructor
  · intro h
    have hlist := congrArg String.toList h
    rw [toList_nodeName, toList_nodeName, ← toList_kebabCase, ← toList_kebabCase] at hlist
    have hhyphen := Decimal.not_mem_toDigits (c := '-') rfl
    obtain ⟨hname, hdigits⟩ := append_cons_inj_of_not_mem (hhyphen _) (hhyphen _) hlist
    have hindex : toString index.toNat = toString index'.toNat := by
      rw [Nat.toString_eq_ofList_toDigits, Nat.toString_eq_ofList_toDigits, hdigits]
    exact ⟨String.toList_inj.mp hname, UInt32.toNat_inj.mp (Decimal.toString_nat_injective hindex)⟩
  · rintro ⟨hname, rfl⟩
    rw [nodeName, nodeName, hname]

theorem advertiseUrl_eq_iff {secure : Bool} {name name' dnsSuffix externalIp externalIp' : String}
    {port : Nat} :
    advertiseUrl secure name dnsSuffix externalIp port =
        advertiseUrl secure name' dnsSuffix externalIp' port ↔
      if secure then name = name' else externalIp = externalIp' := by
  cases secure <;> simp [advertiseUrl, toString]

namespace Config

/-- What the nodes of a deployment state alike about the transport between peers. -/
structure SameDeployment (c c' : Config) : Prop where
  peerRequireSsl : c.engine.peerRequireSsl = c'.engine.peerRequireSsl
  advertiseUrlsDnsSuffix : c.engine.advertiseUrlsDnsSuffix = c'.engine.advertiseUrlsDnsSuffix

/-- The settings that tell the nodes of a deployment apart are the same: name and index where the
transport between peers is secured, and the address where it is not. -/
def SameNode (c c' : Config) : Prop :=
  if c.engine.peerRequireSsl then
    kebabCase c.node.name = kebabCase c'.node.name ∧ c.node.index = c'.node.index
  else c.node.externalIp = c'.node.externalIp

instance (c c' : Config) : Decidable (SameNode c c') :=
  inferInstanceAs (Decidable (if c.engine.peerRequireSsl then _ = _ ∧ _ = _ else _ = _))

theorem advertisePeerUrl_eq_iff {c c' : Config} (h : SameDeployment c c') :
    c.identity.advertisePeerUrl = c'.identity.advertisePeerUrl ↔ SameNode c c' := by
  have hurl : c.identity.advertisePeerUrl = c'.identity.advertisePeerUrl ↔
      if c.engine.peerRequireSsl then c.nodeName = c'.nodeName
      else c.node.externalIp = c'.node.externalIp := by
    rw [identity, identity, ← h.peerRequireSsl, ← h.advertiseUrlsDnsSuffix, advertiseUrl_eq_iff]
  rw [hurl, SameNode, nodeName, nodeName, nodeName_eq_iff]

/-- A node finds itself among the members exactly if one of them was advertised by the same node. -/
theorem isMember_iff {c : Config} {nodes : List Config} {members : List Member}
    (advertised : members.map Member.peerUrl? =
      nodes.map fun node => some node.identity.advertisePeerUrl)
    (deployed : ∀ node ∈ nodes, SameDeployment c node) :
    Bootstrap.IsMember c.identity.advertisePeerUrl members ↔ ∃ node ∈ nodes, SameNode c node := by
  have hmem : Bootstrap.IsMember c.identity.advertisePeerUrl members ↔
      some c.identity.advertisePeerUrl ∈ members.map Member.peerUrl? := List.mem_map.symm
  rw [hmem, advertised, List.mem_map]
  constructor
  · rintro ⟨node, hnode, heq⟩
    exact ⟨node, hnode, (advertisePeerUrl_eq_iff (deployed node hnode)).mp (Option.some.inj heq).symm⟩
  · rintro ⟨node, hnode, hsame⟩
    exact ⟨node, hnode,
      congrArg some ((advertisePeerUrl_eq_iff (deployed node hnode)).mpr hsame).symm⟩

end Config

/-- How a node is told from others. -/
structure NodesApartSpec (c : Config) : Prop where
  name_iff : ∀ name name' index index', nodeName name index = nodeName name' index' ↔
    kebabCase name = kebabCase name' ∧ index = index'
  index_apart : ∀ name name' index index', index ≠ index' →
    nodeName name index ≠ nodeName name' index'
  /-- Nodes of a deployment are told apart by what is stated about either, or about the address. -/
  url_iff : ∀ c', c.SameDeployment c' →
    (c.identity.advertisePeerUrl = c'.identity.advertisePeerUrl ↔ c.SameNode c')
  /-- So is a node from the members that it is compared with. -/
  member_iff : ∀ (nodes : List Config) (members : List Member),
    members.map Member.peerUrl? = nodes.map (fun node => some node.identity.advertisePeerUrl) →
    (∀ node ∈ nodes, c.SameDeployment node) →
    (Bootstrap.IsMember c.identity.advertisePeerUrl members ↔ ∃ node ∈ nodes, c.SameNode node)

theorem nodes_apart (c : Config) : NodesApartSpec c where
  name_iff _ _ _ _ := nodeName_eq_iff
  index_apart _ _ _ _ hne heq := hne (nodeName_eq_iff.mp heq).2
  url_iff _ := Config.advertisePeerUrl_eq_iff
  member_iff _ _ := Config.isMember_iff

/-- The second node has the name of the first one, written otherwise; the third one only has the same
characters. -/
theorem respelled_node_recognised :
    let secured : EngineConfig :=
      { program := "kvd", peerRequireSsl := true, advertiseUrlsDnsSuffix := "kv.internal" }
    let first : Config := { node := { name := "kv-1", index := 1 }, engine := secured }
    let second : Config := { node := { name := " KV_1", index := 1 }, engine := secured }
    let third : Config := { node := { name := "kv", index := 11 }, engine := secured }
    let registered : Member := { id := "1", peerUrls := ["https://kv-1-1.kv.internal:7001"] }
    nodeName "kv-1" 1 ≠ nodeName "kv" 11 ∧
      first.identity.advertisePeerUrl = second.identity.advertisePeerUrl ∧
      Bootstrap.IsMember second.identity.advertisePeerUrl [registered] ∧
      ¬Bootstrap.IsMember third.identity.advertisePeerUrl [registered] := by
  intro secured first second third registered
  have deployed (c c' : Config) (h : c.engine = secured) (h' : c'.engine = secured) :
      c.SameDeployment c' := by
    constructor <;> rw [h, h']
  have advertised : [registered].map Member.peerUrl? =
      [first].map fun node => some node.identity.advertisePeerUrl := by
    decide +kernel
  have hsame : first.SameNode second := by decide +kernel
  refine ⟨(nodes_apart first).index_apart _ _ _ _ (by decide),
    ((nodes_apart first).url_iff second (deployed _ _ rfl rfl)).mpr hsame, ?_, ?_⟩
  · rw [(nodes_apart second).member_iff [first] _ advertised
      (List.forall_mem_singleton.mpr (deployed _ _ rfl rfl))]
    exact ⟨first, List.mem_singleton_self _, by decide +kernel⟩
  · rw [(nodes_apart third).member_iff [first] _ advertised
      (List.forall_mem_singleton.mpr (deployed _ _ rfl rfl))]
    rintro ⟨node, hnode, hsame⟩
    rw [List.mem_singleton.mp hnode] at hsame
    exact absurd hsame (by decide +kernel)

end NodeBootstrap
