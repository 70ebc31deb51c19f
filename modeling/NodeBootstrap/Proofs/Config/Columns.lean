import NodeBootstrap.Config.Decoding
import NodeBootstrap.Proofs.Results
import NodeBootstrap.Settings.Merging

/-! # Configurations from tables

A record is decoded from a table column by column: each of its fields is what the entry of one name
says, and an entry that is put in anew changes the field of its name and no other one. -/

namespace NodeBootstrap

open Settings

/-! ## Columns -/

/-- A column of a record: its name, and what the entry of the name has to be, if there is one. -/
structure Column where
  name : String
  Holds : Option Setting → Prop

namespace Column

/-- The key of a column in the record of a key. -/
def path (key name : String) : String := if key = "" then name else s!"{key}.{name}"

section
variable {α : Type} (key name : String) (convert : String → Setting → Except LoadError α)

def demanded (value : α) : Column :=
  ⟨name, fun s => s.map (convert (path key name)) = some (.ok value)⟩

/-- A column that may be left out. -/
def defaulted (absent value : α) : Column :=
  ⟨name, fun s => (s.map (convert (path key name))).getD (.ok absent) = .ok value⟩

end

end Column

/-- The entries say what the columns hold. -/
def Tabulated (columns : List Column) (es : List (String × Setting)) : Prop :=
  columns.Forall fun c => c.Holds (es.lookup c.name)

/-- An entry that is put in changes the column of its name. -/
theorem Tabulated.setEntry {columns changed : List Column} {es : List (String × Setting)}
    (h : Tabulated columns es) {name : String} {s : Setting}
    (kept : changed.Forall fun c => c.name ≠ name → c ∈ columns)
    (new : changed.Forall fun c => c.name = name → c.Holds (some s)) :
    Tabulated changed (Setting.setEntry name s es) := by
  rw [Tabulated, List.forall_iff_forall_mem] at *
  intro c hc
  rw [Setting.lookup_setEntry]
  split
  · next hname => exact new c hc hname
  · next hname => exact h c (kept c hc hname)

namespace Column

/-! ## Fields -/

section
variable {α : Type} {key name : String} {shape : Shape} {es : List (String × Setting)}
  {convert : String → Setting → Except LoadError α} {position : Nat} {absent value : α}
  {x : Option α}

theorem field_eq (shape : Shape) (key : String) (es : List (String × Setting)) (position : Nat)
    (name : String) (convert : String → Setting → Except LoadError α) :
    (Record.mk key shape (.named es)).field position name convert =
      match (es.lookup name).map (convert (path key name)) with
      | some result => result.map some
      | none => .ok none := by
  simp only [Record.field, Record.stated?]
  cases es.lookup name <;> rfl

theorem field_of_demanded (h : (demanded key name convert value).Holds (es.lookup name))
    (shape : Shape) (position : Nat) :
    (Record.mk key shape (.named es)).field position name convert = .ok (some value) := by
  have hvalue : (es.lookup name).map (convert (path key name)) = some (.ok value) := h
  rw [field_eq, hvalue]
  rfl

theorem exists_field_of_defaulted
    (h : (defaulted key name convert absent value).Holds (es.lookup name)) :
    ∃ x, (∀ shape position,
      (Record.mk key shape (.named es)).field position name convert = .ok x) ∧
      x.getD absent = value := by
  have hvalue : ((es.lookup name).map (convert (path key name))).getD (.ok absent) =
      .ok value := h
  simp only [field_eq]
  generalize (es.lookup name).map _ = found at hvalue ⊢
  cases found with
  | none => exact ⟨none, fun _ _ => rfl, Except.ok.inj hvalue⟩
  | some result =>
      obtain rfl : result = .ok value := hvalue
      exact ⟨some value, fun _ _ => rfl, rfl⟩

theorem defaulted_of_field
    (h : (Record.mk key shape (.named es)).field position name convert = .ok x) (absent : α) :
    (defaulted key name convert absent (x.getD absent)).Holds (es.lookup name) := by
  have hvalue : ((es.lookup name).map (convert (path key name))).getD (.ok absent) =
      .ok (x.getD absent) := by
    rw [field_eq] at h
    generalize (es.lookup name).map _ = found at h ⊢
    cases found with
    | none =>
        obtain rfl := Except.ok.inj h
        rfl
    | some result =>
        cases result with
        | error e => cases h
        | ok value =>
            obtain rfl := Except.ok.inj h
            rfl
  exact hvalue

theorem demanded_of_field
    (h : (Record.mk key shape (.named es)).field position name convert = .ok x)
    (stated : (Record.mk key shape (.named es)).demand name x = .ok value) :
    (demanded key name convert value).Holds (es.lookup name) := by
  have hvalue : (es.lookup name).map (convert (path key name)) = some (.ok value) := by
    rw [field_eq] at h
    generalize (es.lookup name).map _ = found at h ⊢
    cases found with
    | none =>
        obtain rfl := Except.ok.inj h
        cases stated
    | some result =>
        cases result with
        | error e => cases h
        | ok value =>
            obtain rfl := Except.ok.inj h
            obtain rfl := Except.ok.inj stated
            rfl
  exact hvalue

end

end Column

/-! ## Records -/

open Column

def NodeConfig.columns (key : String) (n : NodeConfig) : List Column :=
  [demanded key "name" (fun k s => s.toText k) n.name,
    demanded key "index" (fun k s => s.toUInt32 k) n.index,
    defaulted key "external_ip" (fun k s => s.toText k) "" n.externalIp]

def TlsConfig.columns (key : String) (t : TlsConfig) : List Column :=
  let file (name : String) := defaulted key name (fun k s => s.toOptionalText k) none
  [file "ca_cert" t.caCert, file "client_cert" t.clientCert, file "client_key" t.clientKey,
    file "server_cert" t.serverCert, file "server_key" t.serverKey,
    file "peer_ca_cert" t.peerCaCert, file "peer_cert" t.peerCert, file "peer_key" t.peerKey]

def EngineConfig.columns (key : String) (e : EngineConfig) : List Column :=
  let text (name : String) := defaulted key name fun k s => s.toText k
  let time (name : String) := defaulted key name fun k s => s.toUInt64 k
  let flag (name : String) := defaulted key name fun k s => s.toFlag k
  [demanded key "program" (fun k s => s.toText k) e.program,
    text "data_dir" "./kvfab-data" e.dataDir,
    text "pid_file" "./kvfab.pid" e.pidFile,
    time "heartbeat_interval_ms" 50 e.heartbeatIntervalMs,
    time "election_timeout_ms" 1000 e.electionTimeoutMs,
    flag "peer_require_ssl" false e.peerRequireSsl,
    flag "client_require_ssl" false e.clientRequireSsl,
    text "advertise_urls_dns_suffix" "" e.advertiseUrlsDnsSuffix,
    defaulted key "machines" (fun k s => s.toTexts k) [] e.machines,
    flag "debug" false e.debug,
    time "request_timeout_ms" 5000 e.requestTimeoutMs,
    defaulted key "tls" TlsConfig.ofSetting {} e.tls]

def Config.columns (c : Config) : List Column :=
  [demanded "" "node" NodeConfig.ofSetting c.node,
    demanded "" "engine" EngineConfig.ofSetting c.engine,
    defaulted "" "log_level" (fun k s => s.toText k) "info" c.logLevel]

section
variable {key : String} {o : Option String} {es : List (String × Setting)}

theorem NodeConfig.ofSetting_table_iff {n : NodeConfig} :
    NodeConfig.ofSetting key (.table o es) = .ok n ↔ Tabulated (n.columns key) es := by
  constructor
  · intro h
    simp only [NodeConfig.ofSetting, Record.ofSetting, bind_eq_ok_iff, Except.ok.injEq,
      exists_eq_left'] at h
    obtain ⟨name, hname, index, hindex, ip, hip, _, name_eq, _, index_eq, hn⟩ := h
    obtain rfl := Except.ok.inj hn
    exact ⟨demanded_of_field hname name_eq, demanded_of_field hindex index_eq,
      defaulted_of_field hip ""⟩
  · rintro ⟨hname, hindex, (hip : (Column.defaulted _ _ _ _ _).Holds _)⟩
    obtain ⟨ip, hip, ip_eq⟩ := exists_field_of_defaulted hip
    simp only [NodeConfig.ofSetting, Record.ofSetting, field_of_demanded hname,
      field_of_demanded hindex, hip, Record.demand, ok_bind]
    rw [ip_eq]
    rfl

theorem TlsConfig.ofSetting_table_iff {t : TlsConfig} :
    TlsConfig.ofSetting key (.table o es) = .ok t ↔ Tabulated (t.columns key) es := by
  constructor
  · intro h
    simp only [TlsConfig.ofSetting, Record.ofSetting, Record.demandPlace, bind_eq_ok_iff,
      Except.ok.injEq, exists_eq_left'] at h
    obtain ⟨_, ⟨ca, hca, rfl⟩, _, ⟨cert, hcert, rfl⟩, _, ⟨key, hkey, rfl⟩, _, ⟨server, hserver, rfl⟩,
      _, ⟨serverKey, hserverKey, rfl⟩, _, ⟨peerCa, hpeerCa, rfl⟩, _, ⟨peer, hpeer, rfl⟩,
      _, ⟨peerKey, hpeerKey, rfl⟩, ht⟩ := h
    obtain rfl := Except.ok.inj ht
    exact ⟨defaulted_of_field hca _, defaulted_of_field hcert _, defaulted_of_field hkey _,
      defaulted_of_field hserver _, defaulted_of_field hserverKey _, defaulted_of_field hpeerCa _,
      defaulted_of_field hpeer _, defaulted_of_field hpeerKey _⟩
  · rintro ⟨hca, hcert, hkey, hserver, hserverKey, hpeerCa, hpeer,
      (hpeerKey : (Column.defaulted _ _ _ _ _).Holds _)⟩
    obtain ⟨ca, hca, ca_eq⟩ := exists_field_of_defaulted hca
    obtain ⟨cert, hcert, cert_eq⟩ := exists_field_of_defaulted hcert
    obtain ⟨key, hkey, key_eq⟩ := exists_field_of_defaulted hkey
    obtain ⟨server, hserver, server_eq⟩ := exists_field_of_defaulted hserver
    obtain ⟨serverKey, hserverKey, serverKey_eq⟩ := exists_field_of_defaulted hserverKey
    obtain ⟨peerCa, hpeerCa, peerCa_eq⟩ := exists_field_of_defaulted hpeerCa
    obtain ⟨peer, hpeer, peer_eq⟩ := exists_field_of_defaulted hpeer
    obtain ⟨peerKey, hpeerKey, peerKey_eq⟩ := exists_field_of_defaulted hpeerKey
    simp only [TlsConfig.ofSetting, Record.ofSetting, Record.demandPlace, hca, hcert, hkey, hserver,
      hserverKey, hpeerCa, hpeer, hpeerKey, ok_bind]
    rw [ca_eq, cert_eq, key_eq, server_eq, serverKey_eq, peerCa_eq, peer_eq, peerKey_eq]
    rfl

theorem EngineConfig.ofSetting_table_iff {e : EngineConfig} :
    EngineConfig.ofSetting key (.table o es) = .ok e ↔ Tabulated (e.columns key) es := by
  constructor
  · intro h
    simp only [EngineConfig.ofSetting, Record.ofSetting, bind_eq_ok_iff, Except.ok.injEq,
      exists_eq_left'] at h
    obtain ⟨program, hprogram, dir, hdir, pid, hpid, beat, hbeat, election, helection, peer, hpeer,
      client, hclient, suffix, hsuffix, machines, hmachines, debug, hdebug, timeout, htimeout, tls,
      htls, _, program_eq, he⟩ := h
    obtain rfl := Except.ok.inj he
    exact ⟨demanded_of_field hprogram program_eq, defaulted_of_field hdir _,
      defaulted_of_field hpid _, defaulted_of_field hbeat _, defaulted_of_field helection _,
      defaulted_of_field hpeer _, defaulted_of_field hclient _, defaulted_of_field hsuffix _,
      defaulted_of_field hmachines _, defaulted_of_field hdebug _, defaulted_of_field htimeout _,
      defaulted_of_field htls _⟩
  · rintro ⟨hprogram, hdir, hpid, hbeat, helection, hpeer, hclient, hsuffix, hmachines, hdebug,
      htimeout, (htls : (Column.defaulted _ _ _ _ _).Holds _)⟩
    obtain ⟨dir, hdir, dir_eq⟩ := exists_field_of_defaulted hdir
    obtain ⟨pid, hpid, pid_eq⟩ := exists_field_of_defaulted hpid
    obtain ⟨beat, hbeat, beat_eq⟩ := exists_field_of_defaulted hbeat
    obtain ⟨election, helection, election_eq⟩ := exists_field_of_defaulted helection
    obtain ⟨peer, hpeer, peer_eq⟩ := exists_field_of_defaulted hpeer
    obtain ⟨client, hclient, client_eq⟩ := exists_field_of_defaulted hclient
    obtain ⟨suffix, hsuffix, suffix_eq⟩ := exists_field_of_defaulted hsuffix
    obtain ⟨machines, hmachines, machines_eq⟩ := exists_field_of_defaulted hmachines
    obtain ⟨debug, hdebug, debug_eq⟩ := exists_field_of_defaulted hdebug
    obtain ⟨timeout, htimeout, timeout_eq⟩ := exists_field_of_defaulted htimeout
    obtain ⟨tls, htls, tls_eq⟩ := exists_field_of_defaulted htls
    simp only [EngineConfig.ofSetting, Record.ofSetting, field_of_demanded hprogram, hdir, hpid,
      hbeat, helection, hpeer, hclient, hsuffix, hmachines, hdebug, htimeout, htls, Record.demand,
      ok_bind]
    simp only [dir_eq, pid_eq, beat_eq, election_eq, peer_eq, client_eq, suffix_eq, machines_eq,
      debug_eq, timeout_eq, tls_eq]
    rfl

theorem Config.ofSetting_table_iff {c : Config} :
    Config.ofSetting (.table o es) = .ok c ↔ Tabulated c.columns es := by
  constructor
  · intro h
    simp only [Config.ofSetting, Record.ofSetting, bind_eq_ok_iff, Except.ok.injEq,
      exists_eq_left'] at h
    obtain ⟨node, hnode, engine, hengine, level, hlevel, _, node_eq, _, engine_eq, hc⟩ := h
    obtain rfl := Except.ok.inj hc
    exact ⟨demanded_of_field hnode node_eq, demanded_of_field hengine engine_eq,
      defaulted_of_field hlevel _⟩
  · rintro ⟨hnode, hengine, (hlevel : (Column.defaulted _ _ _ _ _).Holds _)⟩
    obtain ⟨level, hlevel, level_eq⟩ := exists_field_of_defaulted hlevel
    simp only [Config.ofSetting, Record.ofSetting, field_of_demanded hnode,
      field_of_demanded hengine, hlevel, Record.demand, ok_bind]
    rw [level_eq]
    rfl

/-- A configuration depends on what the entries of a name say, not on where they stand. -/
theorem Config.ofSetting_congr {es' : List (String × Setting)}
    (h : ∀ name, es'.lookup name = es.lookup name) (o o' : Option String) :
    Config.ofSetting (.table o' es') = Config.ofSetting (.table o es) := by
  simp only [Config.ofSetting, Record.ofSetting, ok_bind, Column.field_eq, h]
  rfl

theorem Tabulated.exists_node {c : Config} (h : Tabulated c.columns es) :
    ∃ s, es.lookup "node" = some s ∧ NodeConfig.ofSetting "node" s = .ok c.node :=
  Option.map_eq_some_iff.mp h.1

theorem Tabulated.exists_engine {c : Config} (h : Tabulated c.columns es) :
    ∃ s, es.lookup "engine" = some s ∧ EngineConfig.ofSetting "engine" s = .ok c.engine :=
  Option.map_eq_some_iff.mp h.2.1

end

end NodeBootstrap
