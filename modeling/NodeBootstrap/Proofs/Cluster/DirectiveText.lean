import Mathlib.Data.List.TakeWhile
import NodeBootstrap.Cluster.Script
import NodeBootstrap.Proofs.Bootstrap.Discovery

/-! # Reading a directive

The members of a directive are one text: entries between commas, each a name, an equals sign and a
URL. It reads back as the entries it was made of unless a name or a URL holds a separator that ends
it too early. -/

namespace NodeBootstrap

namespace Directive

/-! ## One entry -/

/-- An entry is split at its first equals sign. -/
def pair? (text : List Char) : Option (String × String) :=
  match text.dropWhile (· != '=') with
  | [] => none
  | _ :: url => some (String.ofList (text.takeWhile (· != '=')), String.ofList url)

theorem toList_entry (name url : String) :
    (entry name url).toList = name.toList ++ '=' :: url.toList := by
  change (name ++ "=" ++ url).toList = _
  simp

theorem pair?_append {name : List Char} (h : '=' ∉ name) (url : List Char) :
    pair? (name ++ '=' :: url) = some (String.ofList name, String.ofList url) := by
  have hname : ∀ c ∈ name, (c != '=') = true := by
    intro c hc
    rw [bne_iff_ne]
    rintro rfl
    exact h hc
  rw [pair?, List.dropWhile_append_of_pos hname, List.takeWhile_append_of_pos hname]
  simp

/-- An entry reads as what it was written from, unless the name holds an equals sign. -/
theorem pair?_eq_some_iff {text : List Char} {p : String × String} :
    pair? text = some p ↔ text = (entry p.1 p.2).toList ∧ '=' ∉ p.1.toList := by
  obtain ⟨name, url⟩ := p
  constructor
  · intro h
    have hsplit := List.takeWhile_append_dropWhile (p := (· != '=')) (l := text)
    rw [pair?] at h
    cases hrest : text.dropWhile (· != '=') with
    | nil =>
        rw [hrest] at h
        cases h
    | cons c rest =>
        rw [hrest] at h hsplit
        have hc : c = '=' := by
          have hhead := List.head?_dropWhile_not (· != '=') text
          rw [hrest] at hhead
          simpa using hhead
        subst hc
        simp only [Option.some.injEq, Prod.mk.injEq] at h
        obtain ⟨rfl, rfl⟩ := h
        rw [toList_entry, String.toList_ofList, String.toList_ofList]
        refine ⟨hsplit.symm, ?_⟩
        · intro hmem
          have htaken := List.mem_takeWhile_imp hmem
          simp at htaken
  · rintro ⟨rfl, hname⟩
    rw [toList_entry, pair?_append hname, String.ofList_toList, String.ofList_toList]

/-! ## The whole text -/

/-- The names and URLs of the text of a directive; nothing if some entry has no equals sign. -/
def pairs? (text : String) : Option (List (String × String)) :=
  (text.toList.splitOn ',').mapM pair?

/-- The text of a directive with the given names and URLs. -/
def written (pairs : List (String × String)) : String :=
  ",".intercalate (pairs.map fun p => entry p.1 p.2)

/-- No separator ends the name or the URL too early. A URL may hold equals signs. -/
structure Separate (p : String × String) : Prop where
  commaless_name : ',' ∉ p.1.toList
  equalsless_name : '=' ∉ p.1.toList
  commaless_url : ',' ∉ p.2.toList

instance (p : String × String) : Decidable (Separate p) :=
  decidable_of_iff (',' ∉ p.1.toList ∧ '=' ∉ p.1.toList ∧ ',' ∉ p.2.toList)
    ⟨fun ⟨h, h', h''⟩ => ⟨h, h', h''⟩, fun ⟨h, h', h''⟩ => ⟨h, h', h''⟩⟩

theorem separate_iff (p : String × String) :
    Separate p ↔ '=' ∉ p.1.toList ∧ ',' ∉ (entry p.1 p.2).toList := by
  rw [toList_entry, List.mem_append, List.mem_cons]
  constructor
  · rintro ⟨hname, hequals, hurl⟩
    refine ⟨hequals, ?_⟩
    rintro (hmem | hmem | hmem)
    · exact hname hmem
    · cases hmem
    · exact hurl hmem
  · rintro ⟨hequals, hcomma⟩
    exact ⟨fun hmem => hcomma (.inl hmem), hequals, fun hmem => hcomma (.inr (.inr hmem))⟩

theorem mapM_pair?_eq_some_iff {pieces : List (List Char)} {pairs : List (String × String)} :
    pieces.mapM pair? = some pairs ↔
      pieces = pairs.map (fun p => (entry p.1 p.2).toList) ∧ ∀ p ∈ pairs, '=' ∉ p.1.toList := by
  induction pieces generalizing pairs with
  | nil => cases pairs <;> simp
  | cons piece pieces ih =>
      simp only [List.mapM_cons, Option.bind_eq_bind, Option.bind_eq_some_iff, Option.pure_def,
        Option.some.injEq, pair?_eq_some_iff, ih]
      constructor
      · rintro ⟨p, ⟨rfl, hfirst⟩, rest, ⟨rfl, hrest⟩, rfl⟩
        exact ⟨rfl, List.forall_mem_cons.mpr ⟨hfirst, hrest⟩⟩
      · rintro ⟨hpieces, hequals⟩
        cases pairs with
        | nil => cases hpieces
        | cons p rest =>
            obtain ⟨rfl, rfl⟩ := List.cons.inj hpieces
            obtain ⟨hfirst, hrest⟩ := List.forall_mem_cons.mp hequals
            exact ⟨p, ⟨rfl, hfirst⟩, rest, ⟨rfl, hrest⟩, rfl⟩

theorem not_mem_of_mem_splitOn {a : Char} {text piece : List Char}
    (h : piece ∈ text.splitOn a) : a ∉ piece := by
  induction text generalizing piece with
  | nil =>
      rw [List.splitOn_nil, List.mem_singleton] at h
      rw [h]
      exact List.not_mem_nil
  | cons c text ih =>
      rw [List.splitOn_cons_eq_if_modifyHead] at h
      obtain ⟨first, rest, hsplit⟩ := List.exists_cons_of_ne_nil (List.splitOn_ne_nil a text)
      rw [hsplit] at h ih
      split at h
      · rcases List.mem_cons.mp h with rfl | h
        · exact List.not_mem_nil
        · exact ih h
      · next hc =>
          rcases List.mem_cons.mp h with rfl | h
          · intro hmem
            rcases List.mem_cons.mp hmem with rfl | hmem
            · exact hc BEq.rfl
            · exact ih List.mem_cons_self hmem
          · exact ih (List.mem_cons_of_mem _ h)

theorem toList_written (pairs : List (String × String)) :
    (written pairs).toList = [','].intercalate (pairs.map fun p => (entry p.1 p.2).toList) := by
  rw [written, String.toList_intercalate, List.map_map]
  rfl

/-- What a text reads as: names and URLs that it is written from, none of them cut short. -/
theorem pairs?_eq_some_iff {text : String} {pairs : List (String × String)} :
    pairs? text = some pairs ↔
      pairs ≠ [] ∧ text = written pairs ∧ ∀ p ∈ pairs, Separate p := by
  rw [pairs?, mapM_pair?_eq_some_iff]
  constructor
  · rintro ⟨hpieces, hequals⟩
    refine ⟨?_, ?_, ?_⟩
    · rintro rfl
      exact List.splitOn_ne_nil _ _ hpieces
    · apply String.toList_inj.mp
      rw [toList_written, ← hpieces, List.intercalate_splitOn]
    · intro p hp
      rw [separate_iff]
      -- A comma in the name or the URL would have been split at.
      have hpiece : (entry p.1 p.2).toList ∈ text.toList.splitOn ',' := by
        rw [hpieces]
        exact List.mem_map_of_mem hp
      exact ⟨hequals p hp, not_mem_of_mem_splitOn hpiece⟩
  · rintro ⟨ne, rfl, separate⟩
    have hcommas : ∀ piece ∈ pairs.map (fun p => (entry p.1 p.2).toList), ',' ∉ piece := by
      intro piece hpiece
      obtain ⟨p, hp, rfl⟩ := List.mem_map.mp hpiece
      exact ((separate_iff p).mp (separate p hp)).2
    rw [toList_written, List.splitOn_intercalate ',' hcommas (List.map_eq_nil_iff.not.mpr ne)]
    exact ⟨rfl, fun p hp => (separate p hp).equalsless_name⟩

theorem pairs?_written_iff {pairs : List (String × String)} (ne : pairs ≠ []) :
    pairs? (written pairs) = some pairs ↔ ∀ p ∈ pairs, Separate p := by
  rw [pairs?_eq_some_iff]
  constructor
  · rintro ⟨-, -, separate⟩
    exact separate
  · intro separate
    exact ⟨ne, rfl, separate⟩

end Directive

namespace Bootstrap

/-- The names and URLs that the engine of a node learns: those of the members that it found, and its
own unless some member has its URL. -/
def known (self : Identity) (members : List Member) : List (String × String) :=
  members.map (fun m => (m.name, m.peerUrls.head?.getD "")) ++
    if ∃ m ∈ members, m.peerUrls.head? = some self.advertisePeerUrl then []
    else [(self.name, self.advertisePeerUrl)]

theorem known_ne_nil (self : Identity) (members : List Member) : known self members ≠ [] := by
  cases members with
  | nil => simp [known]
  | cons m members => simp [known]

theorem rendered_eq_map (members : List Member) :
    rendered members =
      (members.map fun m => (m.name, m.peerUrls.head?.getD "")).map fun p =>
        Directive.entry p.1 p.2 := by
  rw [List.map_map]
  rfl

theorem Settlement.members_eq_written {self : Identity} {members : List Member}
    {addition : Except Error Member} {calls : List Call} {d : Directive}
    (h : Settlement self members addition calls (.ok d)) :
    d.members = Directive.written (known self members) := by
  cases h with
  | originates empty =>
      rw [empty]
      exact (String.intercalate_singleton).symm
  | rejoins m hm own =>
      rw [known, if_pos ⟨m, hm, own⟩, Directive.written, List.append_nil, rendered_eq_map]
  | joins added ne foreign accepted =>
      have hnone : ¬∃ m ∈ members, m.peerUrls.head? = some self.advertisePeerUrl := by
        rintro ⟨m, hm, own⟩
        exact foreign m hm own
      rw [known, if_neg hnone, Directive.written, List.map_append, ← rendered_eq_map]
      rfl

variable {σ : Type} {s : Surroundings σ} {state : σ}

/-- The directive that a node finds reads back as the members that it listed, in their order, and
the node itself if it is none of them. It does so exactly if no separator cuts one of them short. -/
theorem directive_reads_back {self : Identity} {d : Directive} {calls : List Call}
    {members : List Member} {listed : σ} (listing : Listing s state calls members listed)
    (found : ((discover self).run s state).value = .ok d) :
    Directive.pairs? d.members = some (known self members) ↔
      ∀ p ∈ known self members, Directive.Separate p := by
  have hsettled := settle_settlement s self members listed
  obtain ⟨-, hmembers, hlisted⟩ := listing.execution
  rw [value_run_discover, hmembers, hlisted] at found
  rw [found] at hsettled
  rw [hsettled.members_eq_written, Directive.pairs?_written_iff (known_ne_nil self members)]

/-- The second list is answered, by a member without a name and one without a URL. -/
theorem nameless_member_reads_back :
    let members : List Member :=
      [{ id := "1", name := "", peerUrls := ["http://10.0.0.5:7001/?zone=b"] },
        { id := "2", name := "kv-2", peerUrls := [] }]
    let script : MemberScript :=
      { lists := [.error .noEndpoints, .ok members]
        additions := [.ok { id := "3", name := "", peerUrls := ["http://10.0.0.7:7001"] }] }
    let c : Config :=
      { node := { name := "kv", index := 3, externalIp := "10.0.0.7" }
        engine := { program := "kvd" } }
    let d : Directive :=
      ⟨"=http://10.0.0.5:7001/?zone=b,kv-2=,kv-3=http://10.0.0.7:7001", .existing⟩
    ((discover c.identity).run MemberScript.surroundings script).value = .ok d ∧
      Directive.pairs? d.members = some [("", "http://10.0.0.5:7001/?zone=b"), ("kv-2", ""),
        ("kv-3", "http://10.0.0.7:7001")] := by
  intro members script c d
  have failed : ∀ i < 1, ∃ e,
      (MemberScript.surroundings.replyAt (.cluster .list) 1000 script i).answer = .error e := by
    intro i hi
    obtain rfl : i = 0 := by omega
    exact ⟨.noEndpoints, rfl⟩
  have found : ((discover c.identity).run MemberScript.surroundings script).value = .ok d := by
    decide +kernel
  have answer : (MemberScript.surroundings.replyAt (.cluster .list) 1000 script 1).answer =
      .ok members := rfl
  have hlisting := Listing.answered 1 members (by decide) failed answer
  have hknown : known c.identity members = [("", "http://10.0.0.5:7001/?zone=b"), ("kv-2", ""),
      ("kv-3", "http://10.0.0.7:7001")] := by
    decide +kernel
  refine ⟨found, ?_⟩
  rw [← hknown, directive_reads_back hlisting found, hknown]
  decide +kernel

end Bootstrap

end NodeBootstrap
