import NodeBootstrap.Proofs.Config.Documents
import NodeBootstrap.Proofs.Config.Reading
import NodeBootstrap.Proofs.Json.Printing
import NodeBootstrap.Proofs.Json.Reading
import NodeBootstrap.Proofs.Text.Utf8

/-! # Loading what was written

A JSON file that states a configuration is loaded as that configuration, whatever it leaves out that
is at its default, however its text is laid out, and in whatever order its entries are taken. -/

namespace NodeBootstrap

open Os Settings

/-! ## The file -/

namespace Json

theorem ValueText.exists_of_object {depth : Nat} {fields : List (String × Json)} {text : List Char}
    (h : ValueText depth (.object fields) text) : ∃ rest, text = '\x7b' :: rest := by
  cases depth with
  | zero => exact nomatch h
  | succ depth =>
      rcases h with h | h
      · exact nomatch h
      · cases h with
        | object once h => exact ⟨_, rfl⟩

/-- The text of an object starts with a blank or a brace. -/
theorem DocumentText.exists_of_object {fields : List (String × Json)} {text : List Char}
    (h : DocumentText (.object fields) text) : ∃ c rest, text = c :: rest ∧ c.toNat < 0x80 := by
  cases h with
  | @document before text after hbefore value hafter =>
    cases before with
    | nil =>
        obtain ⟨rest, rfl⟩ := value.exists_of_object
        exact ⟨_, _, rfl, by decide⟩
    | cons c before =>
        refine ⟨c, _, rfl, ?_⟩
        have hblank := hbefore c List.mem_cons_self
        simp only [isJsonBlank, Bool.or_eq_true, decide_eq_true_eq] at hblank
        obtain ((rfl | rfl) | rfl) | rfl := hblank <;> decide

end Json

/-! ## The configuration -/

namespace Config

/-- A JSON file at the path holds an object with the fields. -/
structure Written (files : FileTree) (path : String) (fields : List (String × Json)) : Prop where
  extension : (FilePath.mk path).extension? = some "json"
  content : ∃ text : String, Json.DocumentText (.object fields) text.toList ∧
    files.read ⟨path⟩ = .ok text.toUTF8.toList

section
variable {files : FileTree} {path : String} {fields : List (String × Json)}

theorem Written.exists_entries (h : Written files path fields) :
    ∃ content, files.read ⟨path⟩ = .ok content ∧
      Reader.jsonEntries? files path content =
        some (Setting.ofJsonFields (originOf files ⟨path⟩) fields) := by
  obtain ⟨text, htext, hread⟩ := h.content
  obtain ⟨c, rest, hfirst, ascii⟩ := htext.exists_of_object
  refine ⟨_, hread, ?_⟩
  simp only [Reader.jsonEntries?, Text.Utf8.skipMark_toUTF8 hfirst ascii,
    Text.Utf8.decodeLossy_toUTF8, Format.json, Json.parse_of_text htext]

/-- The keys of a configuration are names, not paths to other settings. -/
theorem apart_of_states {c : Config} (h : States c.keys fields) (origin : String) :
    Setting.Apart (Setting.ofJsonFields origin fields) where
  once := by
    rw [Setting.keys_ofJsonFields]
    exact h.once
  names := by
    rintro ⟨key, setting⟩ he
    have hkey : key ∈ fields.map Prod.fst := by
      rw [← Setting.keys_ofJsonFields origin]
      exact List.mem_map_of_mem he
    obtain ⟨field, hfield, rfl⟩ := List.mem_map.mp hkey
    have hnames : field.1 ∈ ["node", "engine", "log_level"] := h.known field hfield
    generalize field.1 = name at hnames ⊢
    simp only [List.mem_cons, List.not_mem_nil, or_false] at hnames
    obtain rfl | rfl | rfl := hnames <;> decide

/-- Every reader loads the file as the configuration that it states. -/
theorem load_written {c : Config} {environment : List (String × String)} (r : Reader)
    (written : Written files path fields) (states : States c.keys fields)
    (foreign : Environment.Foreign environment) : r.load files environment path = .ok c := by
  have apart := apart_of_states states (originOf files ⟨path⟩)
  have hoverlay : Setting.emptyTable.overlay (Setting.ofJsonFields (originOf files ⟨path⟩) fields) =
      Setting.laid (originOf files ⟨path⟩) (.object fields) := by
    rw [Setting.emptyTable, Setting.overlay_of_names apart.names, Setting.laid_object]
    rfl
  obtain ⟨content, hread, hentries⟩ := written.exists_entries
  refine r.load_of_apart written.extension hread ⟨_, hentries, apart, ?_⟩ foreign
  rw [hoverlay, ofSetting_laid _ states]

end

/-- A configuration whose texts need escapes, and which is at its defaults in part. -/
def escaped : Config :=
  { node := { name := "\"a\\b\"\t\x01é𝄞", index := 4294967295 }
    engine :=
      { program := "C:\\kv\\fab.exe", machines := ["ß", "", "10.0.0.1"], debug := true
        requestTimeoutMs := 9223372036854775807, tls := { caCert := some "ca.pem" } } }

/-- Its document, with the keys in another order than the record has. -/
def escapedFields : List (String × Json) :=
  [("engine", .object
      [("tls", .object [("peer_key", .null), ("ca_cert", .string "ca.pem")]),
        ("request_timeout_ms", .whole 9223372036854775807),
        ("machines", .strings ["ß", "", "10.0.0.1"]),
        ("debug", .boolean true),
        ("program", .string "C:\\kv\\fab.exe")]),
    ("node", .object
      [("index", .whole 4294967295), ("name", .string "\"a\\b\"\t\x01é𝄞")])]

theorem states_escaped : States escaped.keys escapedFields where
  once := by decide
  known := by decide
  stated :=
    ⟨⟨_, rfl, by decide, by decide, rfl, rfl, rfl⟩,
      ⟨_, rfl, by decide, by decide, rfl, rfl, rfl, rfl, rfl, rfl, rfl, rfl, rfl, rfl, rfl,
        ⟨_, rfl, by decide, by decide, rfl, rfl, rfl, rfl, rfl, rfl, rfl, rfl⟩⟩,
      rfl⟩

theorem plain_escaped : Json.Plain Json.maxDepth (.object escapedFields) := by
  refine .object _ _ (by decide) ?_
  simp only [escapedFields, List.forall_mem_cons, List.not_mem_nil, false_implies, implies_true,
    and_true]
  constructor
  · refine .object _ _ (by decide) ?_
    simp only [List.forall_mem_cons, List.not_mem_nil, false_implies, implies_true, and_true]
    refine ⟨.object _ _ (by decide) ?_, .whole _ _ (by decide), .array _ _ ?_, .boolean _ _,
      .string _ _⟩
    · simp only [List.forall_mem_cons, List.not_mem_nil, false_implies, implies_true, and_true]
      exact ⟨.null _, .string _ _⟩
    · exact List.forall_mem_map.mpr fun _ _ => .string _ _
  · refine .object _ _ (by decide) ?_
    simp only [List.forall_mem_cons, List.not_mem_nil, false_implies, implies_true, and_true]
    exact ⟨.whole _ _ (by decide), .string _ _⟩

/-- A tree with the document in a file. -/
def escapedTree : FileTree :=
  { cwd := "/etc"
    entries := [(["etc", "node.json"],
      .file (Json.object escapedFields).render.toUTF8.toList)] }

theorem written_escaped : Written escapedTree "node.json" escapedFields where
  extension := by decide
  content := by
    refine ⟨_, Json.render_text plain_escaped, ?_⟩
    have hnul : "node.json".contains '\x00' = false := by simp
    rw [FileTree.read, FileTree.locate, hnul]
    rfl

theorem load_escaped :
    Written escapedTree "node.json" escapedFields ∧ States escaped.keys escapedFields ∧
      load escapedTree [("HOME", "/root"), ("KVFAB_node__name", "other")] "node.json" =
        .ok escaped :=
  ⟨written_escaped, states_escaped, load_written .plain written_escaped states_escaped (by decide)⟩

end Config

end NodeBootstrap
