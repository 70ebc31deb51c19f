import NodeBootstrap.Proofs.Config.Columns
import NodeBootstrap.Proofs.Settings.Merging

/-! # Documents of a configuration

A document states a configuration by its keys, of which those with a default may be left out. The
rules say what it may hold; decoding it gives the configuration that it states. -/

namespace NodeBootstrap

open Settings

/-! ## Keys -/

/-- A key of a record: the values that state what is meant, and when it may be left out. -/
structure Key where
  name : String
  Value : Json → Prop
  Optional : Prop

namespace Key

def required (name : String) (value : Json) : Key := ⟨name, (· = value), False⟩

/-- A key that may be left out where its value is the default. -/
def defaulted (name : String) (value : Json) (atDefault : Prop) : Key :=
  ⟨name, (· = value), atDefault⟩

/-- A path may be left out where there is none, or be null. -/
def path (name : String) (path : Option String) : Key :=
  ⟨name, (· = (path.map Json.string).getD .null), path = none⟩

/-- What a document holds for the key, if it holds anything. -/
def Admits (k : Key) : Option Json → Prop
  | some j => k.Value j
  | none => k.Optional

end Key

/-- The fields of an object state what the keys say: no field stands twice, none is unknown, and
what is left out may be left out. -/
structure States (keys : List Key) (fields : List (String × Json)) : Prop where
  once : (fields.map Prod.fst).Nodup
  known : ∀ field ∈ fields, field.1 ∈ keys.map Key.name
  stated : keys.Forall fun k => k.Admits (fields.lookup k.name)

/-- A key that holds a record. -/
def Key.record (name : String) (keys : List Key) (atDefault : Prop) : Key :=
  ⟨name, fun j => ∃ fields, j = .object fields ∧ States keys fields, atDefault⟩

def NodeConfig.keys (n : NodeConfig) : List Key :=
  [.required "name" (.string n.name),
    .required "index" (.whole n.index.toNat),
    .defaulted "external_ip" (.string n.externalIp) (n.externalIp = "")]

def TlsConfig.keys (t : TlsConfig) : List Key :=
  [.path "ca_cert" t.caCert, .path "client_cert" t.clientCert, .path "client_key" t.clientKey,
    .path "server_cert" t.serverCert, .path "server_key" t.serverKey,
    .path "peer_ca_cert" t.peerCaCert, .path "peer_cert" t.peerCert, .path "peer_key" t.peerKey]

def EngineConfig.keys (e : EngineConfig) : List Key :=
  [.required "program" (.string e.program),
    .defaulted "data_dir" (.string e.dataDir) (e.dataDir = "./kvfab-data"),
    .defaulted "pid_file" (.string e.pidFile) (e.pidFile = "./kvfab.pid"),
    .defaulted "heartbeat_interval_ms" (.whole e.heartbeatIntervalMs.toNat)
      (e.heartbeatIntervalMs = 50),
    .defaulted "election_timeout_ms" (.whole e.electionTimeoutMs.toNat)
      (e.electionTimeoutMs = 1000),
    .defaulted "peer_require_ssl" (.boolean e.peerRequireSsl) (e.peerRequireSsl = false),
    .defaulted "client_require_ssl" (.boolean e.clientRequireSsl) (e.clientRequireSsl = false),
    .defaulted "advertise_urls_dns_suffix" (.string e.advertiseUrlsDnsSuffix)
      (e.advertiseUrlsDnsSuffix = ""),
    .defaulted "machines" (.strings e.machines) (e.machines = []),
    .defaulted "debug" (.boolean e.debug) (e.debug = false),
    .defaulted "request_timeout_ms" (.whole e.requestTimeoutMs.toNat) (e.requestTimeoutMs = 5000),
    .record "tls" e.tls.keys (e.tls = ⟨none, none, none, none, none, none, none, none⟩)]

def Config.keys (c : Config) : List Key :=
  [.record "node" c.node.keys False,
    .record "engine" c.engine.keys False,
    .defaulted "log_level" (.string c.logLevel) (c.logLevel = "info")]

/-! ## Columns -/

namespace Column

variable {α : Type} {name : String} {fields : List (String × Json)}
  {convert : String → Setting → Except LoadError α} {value : α} {Value : Json → Prop}
  {Optional : Prop}

theorem demanded_of_admits (once : (fields.map Prod.fst).Nodup)
    (h : (Key.mk name Value Optional).Admits (fields.lookup name)) (required : ¬Optional)
    (converts : ∀ key origin j, Value j → convert key (Setting.laid origin j) = .ok value)
    (key origin : String) :
    (demanded key name convert value).Holds ((Setting.laidFields origin fields).lookup name) := by
  have hvalue : ((Setting.laidFields origin fields).lookup name).map (convert (path key name)) =
      some (.ok value) := by
    rw [Setting.lookup_laidFields once]
    generalize fields.lookup name = found at h ⊢
    cases found with
    | none => exact absurd h required
    | some j => exact congrArg some (converts _ _ j h)
  exact hvalue

/-- A field that is stated is converted; one that is left out leaves the default. -/
theorem defaulted_of_admits (once : (fields.map Prod.fst).Nodup)
    (h : (Key.mk name Value Optional).Admits (fields.lookup name)) {absent : α}
    (atDefault : Optional → value = absent)
    (converts : ∀ key origin j, Value j → convert key (Setting.laid origin j) = .ok value)
    (key origin : String) :
    (defaulted key name convert absent value).Holds
      ((Setting.laidFields origin fields).lookup name) := by
  have hvalue : (((Setting.laidFields origin fields).lookup name).map
      (convert (path key name))).getD (.ok absent) = .ok value := by
    rw [Setting.lookup_laidFields once]
    generalize fields.lookup name = found at h ⊢
    cases found with
    | none => exact congrArg Except.ok (atDefault h).symm
    | some j => exact converts _ _ j h
  exact hvalue

end Column

/-! ## Conversions -/

namespace Setting

theorem laid_of_not_object (origin : String) (j : Json) (h : ∀ fields, j ≠ .object fields) :
    laid origin j = ofJson origin j := by
  cases j with
  | object fields => exact absurd rfl (h fields)
  | number n =>
      cases n with
      | whole n => rw [laid, ofJson]; split <;> rfl
      | float x => rfl
  | _ => rfl

variable {s : String} {b : Bool} {n : Nat} {u : UInt32} {v : UInt64} {path : Option String}
  {ts : List String} (key origin : String) (j : Json)

theorem toText_laid (h : j = .string s) : (laid origin j).toText key = .ok s := by
  rw [h, laid_of_not_object origin (.string s) nofun, ofJson, toText]

theorem toFlag_laid (h : j = .boolean b) : (laid origin j).toFlag key = .ok b := by
  rw [h, laid_of_not_object origin (.boolean b) nofun, ofJson, toFlag]

/-- Whole numbers without a sign are taken as they are on either side of the signed limit. -/
theorem toNat64_laid (h : j = .whole n) : (laid origin j).toNat64 key = .ok n := by
  rw [h, laid_of_not_object origin (.whole n) nofun, Json.whole, ofJson]
  split
  · rw [toNat64, if_pos (Int.natCast_nonneg n), Int.toNat_natCast]
  · rw [toNat64, Int.toNat_natCast]

theorem toUInt64_laid (h : j = .whole v.toNat) : (laid origin j).toUInt64 key = .ok v := by
  rw [toUInt64, toNat64_laid key origin j h, Except.map, Nat.toUInt64, UInt64.ofNat_toNat]

theorem toUInt32_laid (h : j = .whole u.toNat) : (laid origin j).toUInt32 key = .ok u := by
  rw [toUInt32, toNat64_laid key origin j h, ok_bind, if_pos u.toNat_lt, Nat.toUInt32,
    UInt32.ofNat_toNat]
  rfl

theorem toOptionalText_laid (h : j = (path.map Json.string).getD .null) :
    (laid origin j).toOptionalText key = .ok path := by
  subst h
  cases path with
  | none => rfl
  | some s =>
      rw [Option.map_some, Option.getD_some, toOptionalText, toText_laid key origin _ rfl]
      · rfl
      · intro o h
        rw [laid_of_not_object origin (.string s) nofun, ofJson] at h
        cases h

theorem ofJsonItems_strings (ts : List String) :
    ofJsonItems origin (ts.map .string) = ts.map (text origin) := by
  induction ts with
  | nil => rfl
  | cons t ts ih => rw [List.map_cons, ofJsonItems, ih, ofJson, List.map_cons]

theorem toTexts_laid (h : j = .strings ts) :
    (laid origin j).toTexts key = .ok ts := by
  rw [h, Json.strings, laid_of_not_object origin (.array _) nofun, ofJson, ofJsonItems_strings,
    toTexts_texts]

end Setting

/-! ## Records -/

section
open Column
variable {n : NodeConfig} {t : TlsConfig} {e : EngineConfig} {c : Config}
  {fields : List (String × Json)} (key origin : String) (j : Json)

theorem NodeConfig.ofSetting_laid (h : ∃ fields, j = .object fields ∧ States n.keys fields) :
    NodeConfig.ofSetting key (Setting.laid origin j) = .ok n := by
  obtain ⟨fields, rfl, h⟩ := h
  obtain ⟨hname, hindex, (hip : Key.Admits _ _)⟩ := h.stated
  rw [Setting.laid_object, ofSetting_table_iff]
  exact ⟨demanded_of_admits h.once hname not_false Setting.toText_laid _ _,
    demanded_of_admits h.once hindex not_false Setting.toUInt32_laid _ _,
    defaulted_of_admits h.once hip id Setting.toText_laid _ _⟩

theorem TlsConfig.ofSetting_laid (h : ∃ fields, j = .object fields ∧ States t.keys fields) :
    TlsConfig.ofSetting key (Setting.laid origin j) = .ok t := by
  obtain ⟨fields, rfl, h⟩ := h
  obtain ⟨h₀, h₁, h₂, h₃, h₄, h₅, h₆, (h₇ : Key.Admits _ _)⟩ := h.stated
  have file {name : String} {path : Option String}
      (hpath : (Key.path name path).Admits (fields.lookup name)) :=
    defaulted_of_admits h.once hpath id Setting.toOptionalText_laid key origin
  rw [Setting.laid_object, ofSetting_table_iff]
  exact ⟨file h₀, file h₁, file h₂, file h₃, file h₄, file h₅, file h₆, file h₇⟩

theorem EngineConfig.ofSetting_laid (h : ∃ fields, j = .object fields ∧ States e.keys fields) :
    EngineConfig.ofSetting key (Setting.laid origin j) = .ok e := by
  obtain ⟨fields, rfl, h⟩ := h
  obtain ⟨hprogram, hdir, hpid, hbeat, helection, hpeer, hclient, hsuffix, hmachines, hdebug,
    htimeout, (htls : Key.Admits _ _)⟩ := h.stated
  rw [Setting.laid_object, ofSetting_table_iff]
  exact ⟨demanded_of_admits h.once hprogram not_false Setting.toText_laid _ _,
    defaulted_of_admits h.once hdir id Setting.toText_laid _ _,
    defaulted_of_admits h.once hpid id Setting.toText_laid _ _,
    defaulted_of_admits h.once hbeat id Setting.toUInt64_laid _ _,
    defaulted_of_admits h.once helection id Setting.toUInt64_laid _ _,
    defaulted_of_admits h.once hpeer id Setting.toFlag_laid _ _,
    defaulted_of_admits h.once hclient id Setting.toFlag_laid _ _,
    defaulted_of_admits h.once hsuffix id Setting.toText_laid _ _,
    defaulted_of_admits h.once hmachines id Setting.toTexts_laid _ _,
    defaulted_of_admits h.once hdebug id Setting.toFlag_laid _ _,
    defaulted_of_admits h.once htimeout id Setting.toUInt64_laid _ _,
    defaulted_of_admits h.once htls id TlsConfig.ofSetting_laid _ _⟩

theorem Config.ofSetting_laid (h : States c.keys fields) :
    Config.ofSetting (Setting.laid origin (.object fields)) = .ok c := by
  obtain ⟨hnode, hengine, (hlevel : Key.Admits _ _)⟩ := h.stated
  rw [Setting.laid_object, ofSetting_table_iff]
  exact ⟨demanded_of_admits h.once hnode not_false NodeConfig.ofSetting_laid _ _,
    demanded_of_admits h.once hengine not_false EngineConfig.ofSetting_laid _ _,
    defaulted_of_admits h.once hlevel id Setting.toText_laid _ _⟩

end

end NodeBootstrap
