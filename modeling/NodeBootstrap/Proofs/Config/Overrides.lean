import NodeBootstrap.Proofs.Config.Reading

/-! # Overrides

A variable of the environment changes the field that it names and no other one, where the file is
loaded alike in every order of its entries. A section that the file states as a list, field by field
without names, has no place for a name: it gives way to a table with that field alone. -/

namespace NodeBootstrap

open Settings

/-! ## Keys that hold texts -/

inductive NodeKey where
  | name
  | externalIp
  deriving DecidableEq, Repr

namespace NodeKey

def column : NodeKey → String
  | name => "name"
  | externalIp => "external_ip"

def variableName : NodeKey → String
  | name => "KVFAB__NODE__NAME"
  | externalIp => "KVFAB__NODE__EXTERNAL_IP"

def set (n : NodeConfig) (t : String) : NodeKey → NodeConfig
  | name => { n with name := t }
  | externalIp => { n with externalIp := t }

/-- What a table with the key alone is read as. -/
def alone : NodeKey → Except LoadError NodeConfig
  | name => .error (.missing "node.index")
  | externalIp => .error (.missing "node.name")

end NodeKey

inductive EngineKey where
  | program
  | dataDir
  | pidFile
  | dnsSuffix
  deriving DecidableEq, Repr

namespace EngineKey

def column : EngineKey → String
  | program => "program"
  | dataDir => "data_dir"
  | pidFile => "pid_file"
  | dnsSuffix => "advertise_urls_dns_suffix"

def variableName : EngineKey → String
  | program => "KVFAB__ENGINE__PROGRAM"
  | dataDir => "KVFAB__ENGINE__DATA_DIR"
  | pidFile => "KVFAB__ENGINE__PID_FILE"
  | dnsSuffix => "KVFAB__ENGINE__ADVERTISE_URLS_DNS_SUFFIX"

def set (e : EngineConfig) (t : String) : EngineKey → EngineConfig
  | program => { e with program := t }
  | dataDir => { e with dataDir := t }
  | pidFile => { e with pidFile := t }
  | dnsSuffix => { e with advertiseUrlsDnsSuffix := t }

/-- What a table with the key alone is read as. -/
def alone (t : String) : EngineKey → Except LoadError EngineConfig
  | program => .ok { program := t }
  | _ => .error (.missing "engine.program")

end EngineKey

/-- A key of the configuration that holds a text or a path. -/
inductive TextKey where
  | node (k : NodeKey)
  | engine (k : EngineKey)
  | logLevel
  deriving DecidableEq, Repr

namespace TextKey

def section? : TextKey → Option String
  | node _ => some "node"
  | engine _ => some "engine"
  | logLevel => none

def path : TextKey → KeyPath
  | node k => ⟨"node", [.name k.column]⟩
  | engine k => ⟨"engine", [.name k.column]⟩
  | logLevel => .ofKey "log_level"

def key : TextKey → String
  | node k => "node." ++ k.column
  | engine k => "engine." ++ k.column
  | logLevel => "log_level"

def variableName : TextKey → String
  | node k => k.variableName
  | engine k => k.variableName
  | logLevel => "KVFAB__LOG_LEVEL"

/-- The configuration with another text at the key. -/
def set (c : Config) (t : String) : TextKey → Config
  | node k => { c with node := k.set c.node t }
  | engine k => { c with engine := k.set c.engine t }
  | logLevel => { c with logLevel := t }

/-- What becomes of the configuration if nothing else is left of the section. -/
def alone (c : Config) (t : String) : TextKey → Except LoadError Config
  | node k => k.alone.map fun n => { c with node := n }
  | engine k => (k.alone t).map fun e => { c with engine := e }
  | logLevel => .ok { c with logLevel := t }

theorem key?_variableName (k : TextKey) : Environment.key? k.variableName = some k.key := by
  rcases k with (_ | _) | (_ | _ | _ | _) | _ <;> decide +kernel

theorem ofString_key (k : TextKey) : KeyPath.ofString k.key = k.path := by
  rcases k with (_ | _) | (_ | _ | _ | _) | _ <;> decide +kernel

theorem key_not_mem_listKeys (k : TextKey) : k.key ∉ Environment.listKeys := by
  rcases k with (_ | _) | (_ | _ | _ | _) | _ <;> decide

end TextKey

/-! ## One entry anew -/

namespace Config

variable {c : Config} {es : List (String × Setting)}

theorem ofSetting_setEntry_node (h : Tabulated c.columns es) (o : Option String) (s : Setting) :
    ofSetting (.table o (Setting.setEntry "node" s es)) =
      (NodeConfig.ofSetting "node" s).map fun n => { c with node := n } := by
  cases hn : NodeConfig.ofSetting "node" s with
  | error e =>
      simp [ofSetting, Record.ofSetting, Column.field_eq, Setting.lookup_setEntry, Column.path, hn,
        Except.map]
  | ok n =>
      refine ofSetting_table_iff.mpr (h.setEntry ?_ ?_)
      · simp [columns, Column.demanded, Column.defaulted]
      · simp [columns, Column.demanded, Column.defaulted, Column.path, hn]

theorem ofSetting_setEntry_engine (h : Tabulated c.columns es) (o : Option String) (s : Setting) :
    ofSetting (.table o (Setting.setEntry "engine" s es)) =
      (EngineConfig.ofSetting "engine" s).map fun e => { c with engine := e } := by
  cases he : EngineConfig.ofSetting "engine" s with
  | error e =>
      -- The section of the node is read before, and is as it was.
      obtain ⟨node, hlookup, hnode⟩ := h.exists_node
      simp [ofSetting, Record.ofSetting, Column.field_eq, Setting.lookup_setEntry, Column.path, he,
        hlookup, hnode, Except.map]
  | ok e =>
      refine ofSetting_table_iff.mpr (h.setEntry ?_ ?_)
      · simp [columns, Column.demanded, Column.defaulted]
      · simp [columns, Column.demanded, Column.defaulted, Column.path, he]

theorem ofSetting_setEntry_logLevel (h : Tabulated c.columns es) (o : Option String) {s : Setting}
    {t : String} (hs : s.toText "log_level" = .ok t) :
    ofSetting (.table o (Setting.setEntry "log_level" s es)) = .ok { c with logLevel := t } := by
  refine ofSetting_table_iff.mpr (h.setEntry ?_ ?_)
  · simp [columns, Column.demanded, Column.defaulted]
  · simp [columns, Column.demanded, Column.defaulted, Column.path, hs]

end Config

section
variable {o : Option String} {es : List (String × Setting)} {s : Setting} {t : String}

theorem NodeKey.ofSetting_setEntry {n : NodeConfig} (h : Tabulated (n.columns "node") es)
    (hs : ∀ key, s.toText key = .ok t) (k : NodeKey) :
    NodeConfig.ofSetting "node" (.table o (Setting.setEntry k.column s es)) = .ok (k.set n t) := by
  refine NodeConfig.ofSetting_table_iff.mpr (h.setEntry ?_ ?_)
  · cases k <;> simp [column, set, NodeConfig.columns, Column.demanded, Column.defaulted]
  · cases k <;> simp [column, set, NodeConfig.columns, Column.demanded, Column.defaulted, hs]

theorem NodeKey.ofSetting_alone (hs : ∀ key, s.toText key = .ok t) (k : NodeKey) :
    NodeConfig.ofSetting "node" (.table o (Setting.setEntry k.column s [])) = k.alone := by
  cases k <;>
    simp [NodeConfig.ofSetting, Record.ofSetting, Column.field_eq, Setting.lookup_setEntry, column,
      alone, hs, Record.demand, Record.fieldKey, Except.map] <;>
    rfl

theorem EngineKey.ofSetting_setEntry {e : EngineConfig} (h : Tabulated (e.columns "engine") es)
    (hs : ∀ key, s.toText key = .ok t) (k : EngineKey) :
    EngineConfig.ofSetting "engine" (.table o (Setting.setEntry k.column s es)) =
      .ok (k.set e t) := by
  refine EngineConfig.ofSetting_table_iff.mpr (h.setEntry ?_ ?_)
  · cases k <;> simp [column, set, EngineConfig.columns, Column.demanded, Column.defaulted]
  · cases k <;> simp [column, set, EngineConfig.columns, Column.demanded, Column.defaulted, hs]

theorem EngineKey.ofSetting_alone (hs : ∀ key, s.toText key = .ok t) (k : EngineKey) :
    EngineConfig.ofSetting "engine" (.table o (Setting.setEntry k.column s [])) = k.alone t := by
  cases k <;>
    simp [EngineConfig.ofSetting, Record.ofSetting, Column.field_eq, Setting.lookup_setEntry, column,
      alone, hs, Record.demand, Record.fieldKey, Except.map] <;>
    rfl

end

/-! ## Sections -/

namespace Setting

/-- The settings hold a table under the name. -/
def HasTable (root : Setting) (name : String) : Prop :=
  ∃ o es, root.asTable.2.lookup name = some (table o es)

instance (root : Setting) (name : String) : Decidable (root.HasTable name) :=
  match h : root.asTable.2.lookup name with
  | some (table o es) => isTrue ⟨o, es, h⟩
  | none => isFalse fun ⟨_, _, htable⟩ => nomatch h.symm.trans htable
  | some (nothing _) | some (boolean _ _) | some (integer _ _) | some (natural _ _)
  | some (float _ _) | some (text _ _) | some (list _ _) =>
    isFalse fun ⟨_, _, htable⟩ => nomatch h.symm.trans htable

variable {o : Option String} {es : List (String × Setting)} {name : String} {s old : Setting}

theorem HasTable.exists_of_lookup (h : (table o es).HasTable name)
    (hlookup : es.lookup name = some old) : ∃ o es, old = table o es := by
  obtain ⟨o, es', htable⟩ := h
  exact ⟨o, es', Option.some.inj (hlookup.symm.trans htable)⟩

theorem asTable_of_not_hasTable (h : ¬(table o es).HasTable name)
    (hlookup : es.lookup name = some old) : old.asTable = (none, []) := by
  cases old with
  | table o' es' => exact absurd ⟨o', es', hlookup⟩ h
  | _ => rfl

theorem put_of_table {o' : Option String} {entries : List (String × Setting)}
    (hlookup : es.lookup name = some (table o' entries)) (hmerge : ∀ old, merge s old = s)
    (key : String) :
    (table o es).put ⟨name, [.name key]⟩ s =
      table o (setEntry name (table o' (setEntry key s entries)) es) := by
  rw [put_section, hlookup, hmerge]
  rfl

theorem put_of_not_hasTable (h : ¬(table o es).HasTable name)
    (hlookup : es.lookup name = some old) (hmerge : ∀ old, merge s old = s) (key : String) :
    (table o es).put ⟨name, [.name key]⟩ s =
      table o (setEntry name (table none (setEntry key s [])) es) := by
  rw [put_section, hlookup, hmerge, Option.getD_some, asTable_of_not_hasTable h hlookup]

end Setting

namespace TextKey

variable {c : Config} {es : List (String × Setting)} {s : Setting} {t : String}

theorem ofSetting_put_of_table (h : Tabulated c.columns es) (hs : ∀ key, s.toText key = .ok t)
    (hmerge : ∀ old, Setting.merge s old = s) (k : TextKey)
    (tables : ∀ name ∈ k.section?, (Setting.table none es).HasTable name) :
    Config.ofSetting ((Setting.table none es).put k.path s) = .ok (k.set c t) := by
  cases k with
  | node k =>
      obtain ⟨old, hlookup, hold⟩ := h.exists_node
      obtain ⟨o, entries, rfl⟩ := (tables "node" rfl).exists_of_lookup hlookup
      have htabulated := NodeConfig.ofSetting_table_iff.mp hold
      rw [path, Setting.put_of_table hlookup hmerge, Config.ofSetting_setEntry_node h,
        NodeKey.ofSetting_setEntry htabulated hs]
      rfl
  | engine k =>
      obtain ⟨old, hlookup, hold⟩ := h.exists_engine
      obtain ⟨o, entries, rfl⟩ := (tables "engine" rfl).exists_of_lookup hlookup
      have htabulated := EngineConfig.ofSetting_table_iff.mp hold
      rw [path, Setting.put_of_table hlookup hmerge, Config.ofSetting_setEntry_engine h,
        EngineKey.ofSetting_setEntry htabulated hs]
      rfl
  | logLevel =>
      rw [path, Setting.put_ofKey, hmerge]
      exact Config.ofSetting_setEntry_logLevel h none (hs _)

theorem ofSetting_put_of_list (h : Tabulated c.columns es) (hs : ∀ key, s.toText key = .ok t)
    (hmerge : ∀ old, Setting.merge s old = s) (k : TextKey)
    (lists : ∃ name ∈ k.section?, ¬(Setting.table none es).HasTable name) :
    Config.ofSetting ((Setting.table none es).put k.path s) = k.alone c t := by
  obtain ⟨name, hname, hlist⟩ := lists
  cases k with
  | node k =>
      obtain rfl : "node" = name := Option.some.inj hname
      obtain ⟨old, hlookup, -⟩ := h.exists_node
      rw [path, Setting.put_of_not_hasTable hlist hlookup hmerge,
        Config.ofSetting_setEntry_node h, NodeKey.ofSetting_alone hs]
      rfl
  | engine k =>
      obtain rfl : "engine" = name := Option.some.inj hname
      obtain ⟨old, hlookup, -⟩ := h.exists_engine
      rw [path, Setting.put_of_not_hasTable hlist hlookup hmerge,
        Config.ofSetting_setEntry_engine h, EngineKey.ofSetting_alone hs]
      rfl
  | logLevel => cases hname

end TextKey

/-! ## Samples -/

namespace Config

def sample : Config :=
  { node := { name := "kv", index := 1 }, engine := { program := "kvd" } }

/-- Its sections as tables. -/
def tables : String :=
  "\x7b\"node\":\x7b\"name\":\"kv\",\"index\":1\x7d,\"engine\":\x7b\"program\":\"kvd\"\x7d\x7d"

/-- Its sections as lists. -/
def lists : String := "\x7b\"node\":[\"kv\",1],\"engine\":[\"kvd\"]\x7d"

/-- Its program stated twice, and otherwise the second time. -/
def twice : String :=
  "\x7b\"node\":\x7b\"name\":\"kv\",\"index\":1\x7d,\"engine\":\x7b\"program\":\"kvd\"\x7d," ++
    "\"engine.program\":\"kvx\"\x7d"

def samples : FileTree :=
  { cwd := "/"
    entries := [(["tables.json"], .file tables.toUTF8.toList),
      (["lists.json"], .file lists.toUTF8.toList), (["twice.json"], .file twice.toUTF8.toList)] }

theorem read_tables : samples.read ⟨"tables.json"⟩ = .ok tables.toUTF8.toList := by
  have hnul : "tables.json".contains '\x00' = false := by simp
  rw [FileTree.read, FileTree.locate, hnul]
  rfl

theorem read_lists : samples.read ⟨"lists.json"⟩ = .ok lists.toUTF8.toList := by
  have hnul : "lists.json".contains '\x00' = false := by simp
  rw [FileTree.read, FileTree.locate, hnul]
  rfl

theorem read_twice : samples.read ⟨"twice.json"⟩ = .ok twice.toUTF8.toList := by
  have hnul : "twice.json".contains '\x00' = false := by simp
  rw [FileTree.read, FileTree.locate, hnul]
  rfl

theorem load_tables {environment : List (String × String)}
    (foreign : Environment.Foreign environment) (r : Reader) :
    r.load samples environment "tables.json" = .ok sample :=
  r.load_of_apart (by decide) read_tables (by decide +kernel) foreign

theorem load_lists (r : Reader) : r.load samples [] "lists.json" = .ok sample :=
  r.load_of_apart (by decide) read_lists (by decide +kernel) (List.forall_mem_nil _)

theorem hasTable_tables (name : String) (h : name = "node" ∨ name = "engine") :
    ∀ root, Reader.plain.ground samples "tables.json" = .ok root → root.HasTable name := by
  have hroots : ∀ name ∈ ["node", "engine"],
      ∀ root ∈ (Reader.plain.groundOf samples "tables.json" tables.toUTF8.toList).toOption,
        root.HasTable name := by
    decide +kernel
  intro root hroot
  rw [Reader.plain.ground_of_read (by decide) read_tables] at hroot
  exact hroots name (by simpa using h) root (by rw [hroot]; rfl)

end Config

/-- Takes the entries of a source from the last one on. -/
def Reader.backwards : Reader :=
  { Reader.plain with arrange := List.reverse, arrange_perm := List.reverse_perm }

namespace Config

/-! ## Overrides of texts -/

/-- A variable for a text changes nothing but the text, to its value or to what that reads as. A
section that is stated as a list gives way to a table with the text alone. -/
theorem load_overridden {formats : List Format} {files : FileTree}
    {environment changed : List (String × String)} {path v : String} {c : Config} (k : TextKey)
    (foreign : Environment.Foreign environment)
    (settled : Reader.Settled formats files environment path c)
    (alone : Environment.Alone k.variableName v changed) (r : Reader)
    (known : r.formats.Perm formats) :
    ∃ root, r.ground files path = .ok root ∧
      ((∀ name ∈ k.section?, root.HasTable name) →
        r.load files changed path = .ok (k.set c (Environment.taken v))) ∧
      ((∃ name ∈ k.section?, ¬root.HasTable name) →
        r.load files changed path = (k.alone c (Environment.taken v)).mapError .settings) ∧
      (Environment.Literal v → Environment.taken v = v) := by
  obtain ⟨es, hground, htabulated⟩ := r.exists_ground foreign (settled r known)
  have htext := Environment.toText_setting k.key_not_mem_listKeys v
  have hmerge := Environment.merge_setting k.key v
  have hload : r.load files changed path = _ := r.load_of_alone alone k.key?_variableName
  rw [hground, ok_bind, k.ofString_key] at hload
  refine ⟨_, hground, fun tables => ?_, fun lists => ?_, fun literal => literal.taken_eq⟩
  · rw [hload, k.ofSetting_put_of_table htabulated htext hmerge tables]
    rfl
  · rw [hload, k.ofSetting_put_of_list htabulated htext hmerge lists]

/-- A name with blanks, an equals sign and a digit is taken as it is. -/
theorem load_renamed :
    let formats := [Format.toml, Format.json]
    Environment.Foreign [("HOME", "/root")] ∧
      Reader.Settled formats samples [("HOME", "/root")] "tables.json" sample ∧
      Environment.Alone "KVFAB__NODE__NAME" " a = 1"
        [("HOME", "/root"), ("KVFAB__NODE__NAME", " a = 1")] ∧
      Environment.Literal " a = 1" ∧ Reader.plain.formats.Perm formats ∧
      load samples [("HOME", "/root"), ("KVFAB__NODE__NAME", " a = 1")] "tables.json" =
        .ok ((TextKey.node .name).set sample " a = 1") := by
  intro formats
  have foreign : Environment.Foreign [("HOME", "/root")] := by decide +kernel
  have settled : Reader.Settled formats samples [("HOME", "/root")] "tables.json" sample :=
    fun r _ => load_tables foreign r
  have alone : Environment.Alone "KVFAB__NODE__NAME" " a = 1"
      [("HOME", "/root"), ("KVFAB__NODE__NAME", " a = 1")] :=
    .among foreign (List.forall_mem_nil _)
  have literal : Environment.Literal " a = 1" :=
    ⟨by decide +kernel, by decide +kernel, by decide +kernel⟩
  have known : Reader.plain.formats.Perm formats := .refl _
  obtain ⟨root, hground, htable, -, hliteral⟩ :=
    load_overridden (.node .name) foreign settled alone .plain known
  have hload := htable fun name hname => by
    obtain rfl : "node" = name := Option.some.inj hname
    exact hasTable_tables "node" (.inl rfl) root hground
  rw [hliteral literal] at hload
  exact ⟨foreign, settled, alone, literal, known, hload⟩

/-- A name that reads as a number is written anew, a section that is a list loses its other fields,
and a program that is stated twice may be the other one the next time. -/
theorem renamed_otherwise :
    ((∀ r : Reader, r.load samples [] "tables.json" = .ok sample) ∧
      load samples [("KVFAB__NODE__NAME", "007")] "tables.json" =
        .ok ((TextKey.node .name).set sample "7") ∧
      (TextKey.node .name).set sample "7" ≠ (TextKey.node .name).set sample "007") ∧
    ((∀ r : Reader, r.load samples [] "lists.json" = .ok sample) ∧
      load samples [("KVFAB__NODE__NAME", "a")] "lists.json" =
        .error (.settings (.missing "node.index"))) ∧
    Reader.backwards.load samples [] "twice.json" = .ok sample ∧
      load samples [("KVFAB__NODE__NAME", "a")] "twice.json" =
        .ok ((TextKey.engine .program).set ((TextKey.node .name).set sample "a") "kvx") := by
  have hforeign : Environment.Foreign [] := List.forall_mem_nil _
  refine ⟨⟨load_tables hforeign, ?_, by decide⟩, ⟨load_lists, ?_⟩, ?_, ?_⟩
  · rw [load, Reader.load_of_read _ (by decide) read_tables]
    decide +kernel
  · rw [load, Reader.load_of_read _ (by decide) read_lists]
    decide +kernel
  · rw [Reader.load_of_read _ (by decide) read_twice]
    decide +kernel
  · rw [load, Reader.load_of_read _ (by decide) read_twice]
    decide +kernel

end Config

end NodeBootstrap
