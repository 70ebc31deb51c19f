import Mathlib.Data.List.Nodup
import NodeBootstrap.Engine.Arguments
import NodeBootstrap.Proofs.Decimal.Digits

/-! # Reading the command line of the engine

A command line is read from its front: a switch stands alone, any other flag takes the argument after
it as its value, whatever that looks like. What is read from the command line of the engine is what it
was told, so that different instructions never give the same command line. -/

namespace NodeBootstrap

/-- The two kinds of traffic, each of which can be secured. -/
inductive Transport where
  | client
  | peer
  deriving DecidableEq, Repr

namespace Transport

def secure (e : EngineConfig) : Transport → Bool
  | client => e.clientRequireSsl
  | peer => e.peerRequireSsl

/-- The switch that demands certificates. -/
def authFlag : Transport → String
  | client => "--client-cert-auth"
  | peer => "--peer-client-cert-auth"

/-- The files that the engine reads, each with its flag: of the authority, the certificate and the
key. -/
def files (tls : TlsConfig) : Transport → List (String × Option String)
  | client =>
    [("--trusted-ca-file", tls.caCert), ("--cert-file", tls.serverCert),
      ("--key-file", tls.serverKey)]
  | peer =>
    [("--peer-trusted-ca-file", tls.peerCaCert), ("--peer-cert-file", tls.peerCert),
      ("--peer-key-file", tls.peerKey)]

def fileFlags : Transport → List String
  | client => ["--trusted-ca-file", "--cert-file", "--key-file"]
  | peer => ["--peer-trusted-ca-file", "--peer-cert-file", "--peer-key-file"]

@[simp] theorem map_fst_files (tls : TlsConfig) (t : Transport) :
    (t.files tls).map Prod.fst = t.fileFlags := by
  cases t <;> rfl

end Transport

namespace Engine

/-! ## Command lines in general -/

/-- The flags that take no value. -/
def switches : List String := ["--debug", "--client-cert-auth", "--peer-client-cert-auth"]

/-- The flags of a command line, each with its value if it takes one. The last flag may lack the
value that it takes, and then nothing is read. -/
def parameters? : List String → Option (List (String × Option String))
  | [] => some []
  | flag :: rest =>
    if flag ∈ switches then (parameters? rest).map ((flag, none) :: ·)
    else
      match rest with
      | [] => none
      | value :: rest => (parameters? rest).map ((flag, some value) :: ·)

/-- The command line that gives the parameters in their order. -/
def written (parameters : List (String × Option String)) : List String :=
  parameters.flatMap fun p => p.1 :: p.2.toList

/-- Exactly the switches have no value. -/
def WellFormed (parameters : List (String × Option String)) : Prop :=
  ∀ p ∈ parameters, p.2 = none ↔ p.1 ∈ switches

theorem parameters?_switch {flag : String} (h : flag ∈ switches) (rest : List String) :
    parameters? (flag :: rest) = (parameters? rest).map ((flag, none) :: ·) := by
  cases rest <;> simp [parameters?, h]

theorem parameters?_valued {flag : String} (h : flag ∉ switches) (value : String)
    (rest : List String) :
    parameters? (flag :: value :: rest) = (parameters? rest).map ((flag, some value) :: ·) := by
  simp [parameters?, h]

/-- What is written is read back, whatever the values look like. -/
theorem parameters?_written {parameters : List (String × Option String)}
    (h : WellFormed parameters) : parameters? (written parameters) = some parameters := by
  induction parameters with
  | nil => rfl
  | cons p rest ih =>
      obtain ⟨flag, value⟩ := p
      have hflag := h (flag, value) List.mem_cons_self
      have hrest := ih fun q hq => h q (List.mem_cons_of_mem _ hq)
      cases value with
      | none =>
          have hswitch : flag ∈ switches := hflag.mp rfl
          change parameters? (flag :: written rest) = _
          rw [parameters?_switch hswitch, hrest]
          rfl
      | some value =>
          have hvalued : flag ∉ switches := by
            intro hmem
            cases hflag.mpr hmem
          change parameters? (flag :: value :: written rest) = _
          rw [parameters?_valued hvalued, hrest]
          rfl

/-! ## What the engine is told -/

/-- Every flag in the order of the command line, with its use: left out, standing alone, or with a
value. -/
abbrev Table := List (String × Option (Option String))

namespace Table

/-- The parameters that the table gives. -/
def given (table : Table) : List (String × Option String) :=
  table.filterMap fun row => row.2.map (row.1, ·)

@[simp] theorem given_nil : given [] = [] := rfl

@[simp] theorem given_append (table more : Table) :
    given (table ++ more) = given table ++ given more := List.filterMap_append

theorem mem_given {table : Table} {p : String × Option String} :
    p ∈ given table ↔ (p.1, some p.2) ∈ table := by
  obtain ⟨flag, value⟩ := p
  simp only [given, List.mem_filterMap, Option.map_eq_some_iff]
  constructor
  · rintro ⟨⟨key, use⟩, hrow, value', huse, heq⟩
    simp only [Prod.mk.injEq] at huse heq
    obtain ⟨rfl, rfl⟩ := heq
    rw [← huse]
    exact hrow
  · intro hrow
    exact ⟨(flag, some value), hrow, value, rfl, rfl⟩

@[simp] theorem given_cons_none (flag : String) (rest : Table) :
    given ((flag, none) :: rest) = given rest := rfl

@[simp] theorem given_cons_some (flag : String) (value : Option String) (rest : Table) :
    given ((flag, some value) :: rest) = (flag, value) :: given rest := rfl

/-- What a table gives tells its rows, if no flag occurs in it twice. -/
theorem eq_of_given_eq {table table' : Table} (flags : table.map Prod.fst = table'.map Prod.fst)
    (once : (table.map Prod.fst).Nodup) (h : given table = given table') : table = table' := by
  induction table generalizing table' with
  | nil =>
      cases table' with
      | nil => rfl
      | cons row rest => cases flags
  | cons row rest ih =>
      cases table' with
      | nil => cases flags
      | cons row' rest' =>
          obtain ⟨flag, use⟩ := row
          obtain ⟨flag', use'⟩ := row'
          simp only [List.map_cons, List.cons.injEq] at flags
          obtain ⟨rfl, hflags⟩ := flags
          rw [List.map_cons, List.nodup_cons] at once
          obtain ⟨hfresh, hrest⟩ := once
          -- A flag that is used in one table and left out in the other would have to occur in the
          -- other one again.
          have absent {rows : Table} (hrows : rest.map Prod.fst = rows.map Prod.fst)
              (value : Option String) : (flag, value) ∉ given rows := by
            intro hmem
            apply hfresh
            rw [hrows]
            exact List.mem_map.mpr ⟨_, mem_given.mp hmem, rfl⟩
          cases use with
          | none =>
              cases use' with
              | none => rw [ih hflags hrest h]
              | some value =>
                  rw [given_cons_none, given_cons_some] at h
                  exact absurd (h ▸ List.mem_cons_self) (absent rfl value)
          | some value =>
              cases use' with
              | none =>
                  rw [given_cons_none, given_cons_some] at h
                  exact absurd (h ▸ List.mem_cons_self) (absent hflags value)
              | some value' =>
                  rw [given_cons_some, given_cons_some] at h
                  obtain ⟨hfirst, htail⟩ := List.cons.inj h
                  rw [ih hflags hrest htail, (Prod.mk.inj hfirst).2]

/-- A flag that a table leaves out is not given. -/
theorem ne_of_mem_none {table : Table} (once : (table.map Prod.fst).Nodup) {flag : String}
    (h : (flag, none) ∈ table) {p : String × Option String} (hp : p ∈ given table) :
    p.1 ≠ flag := by
  intro heq
  have hrow := mem_given.mp hp
  rw [heq] at hrow
  have hsame := List.inj_on_of_nodup_map once hrow h rfl
  cases hsame

end Table

def nodeRows (e : EngineConfig) (self : Identity) : Table :=
  [("--name", some (some self.name)),
    ("--data-dir", some (some e.dataDir)),
    ("--heartbeat-interval", some (some (toString e.heartbeatIntervalMs.toNat))),
    ("--election-timeout", some (some (toString e.electionTimeoutMs.toNat))),
    ("--listen-peer-urls", some (some self.listenPeerUrl)),
    ("--listen-client-urls", some (some self.listenClientUrl)),
    ("--initial-advertise-peer-urls", some (some self.advertisePeerUrl)),
    ("--advertise-client-urls", some (some self.advertiseClientUrl)),
    ("--debug", if e.debug then some none else none)]

/-- A secured transport demands certificates and is told the files that are configured. -/
def tlsRows (e : EngineConfig) (t : Transport) : Table :=
  (t.authFlag, if t.secure e then some none else none) ::
    (t.files e.tls).map fun file => (file.1, if t.secure e then file.2.map some else none)

def clusterRows (d : Directive) : Table :=
  [("--initial-cluster", some (some d.members)),
    ("--initial-cluster-state", some (some d.state.text))]

def table (c : Config) (self : Identity) (d : Directive) : Table :=
  nodeRows c.engine self ++ tlsRows c.engine .client ++ tlsRows c.engine .peer ++ clusterRows d

theorem flags_table (c : Config) (self : Identity) (d : Directive) :
    (table c self d).map Prod.fst =
      ["--name", "--data-dir", "--heartbeat-interval", "--election-timeout", "--listen-peer-urls",
        "--listen-client-urls", "--initial-advertise-peer-urls", "--advertise-client-urls", "--debug",
        "--client-cert-auth", "--trusted-ca-file", "--cert-file", "--key-file",
        "--peer-client-cert-auth", "--peer-trusted-ca-file", "--peer-cert-file", "--peer-key-file",
        "--initial-cluster", "--initial-cluster-state"] := rfl

theorem nodup_flags_table (c : Config) (self : Identity) (d : Directive) :
    ((table c self d).map Prod.fst).Nodup := by
  rw [flags_table]
  decide

/-! ## What the command line says -/

theorem tlsRows_of_secure {e : EngineConfig} {t : Transport} (h : t.secure e = true) :
    tlsRows e t = (t.authFlag, some none) ::
      (t.files e.tls).map fun file => (file.1, file.2.map some) := by
  simp [tlsRows, h]

theorem given_tlsRows_of_not_secure {e : EngineConfig} {t : Transport} (h : t.secure e = false) :
    (tlsRows e t).given = [] := by
  cases t <;> simp [tlsRows, Transport.files, h]

/-- With its files stated, a secured transport gives its switch and all of them. -/
theorem given_tlsRows_of_secure {e : EngineConfig} {t : Transport} (h : t.secure e = true)
    (stated : ∀ file ∈ t.files e.tls, file.2.isSome) :
    (tlsRows e t).given = (t.authFlag, none) :: t.files e.tls := by
  have hrows : Table.given ((t.files e.tls).map fun file => (file.1, file.2.map some)) =
      (t.files e.tls).filterMap some := by
    rw [Table.given, List.filterMap_map]
    apply List.filterMap_congr
    rintro ⟨flag, path⟩ hfile
    obtain ⟨path, rfl⟩ := Option.isSome_iff_exists.mp (stated _ hfile)
    rfl
  rw [tlsRows_of_secure h, Table.given_cons_some, hrows, List.filterMap_some]

theorem mem_tlsRows_of_not_secure {e : EngineConfig} {t : Transport} (h : t.secure e = false)
    {flag : String} (hflag : flag ∈ t.authFlag :: t.fileFlags) : (flag, none) ∈ tlsRows e t := by
  rw [← t.map_fst_files e.tls] at hflag
  rcases List.mem_cons.mp hflag with rfl | hflag
  · simp [tlsRows, h]
  · obtain ⟨file, hfile, rfl⟩ := List.mem_map.mp hflag
    refine List.mem_cons_of_mem _ (List.mem_map.mpr ⟨file, hfile, ?_⟩)
    simp [h]

/-- The rows of a transport stand side by side. -/
theorem tlsRows_isInfix (c : Config) (self : Identity) (d : Directive) (t : Transport) :
    tlsRows c.engine t <:+: table c self d := by
  cases t with
  | client =>
      refine ⟨nodeRows c.engine self, tlsRows c.engine .peer ++ clusterRows d, ?_⟩
      rw [table, List.append_assoc _ (tlsRows c.engine .peer)]
  | peer => exact ⟨nodeRows c.engine self ++ tlsRows c.engine .client, clusterRows d, rfl⟩

theorem ne_of_not_secure {c : Config} {t : Transport} (h : t.secure c.engine = false)
    {self : Identity} {d : Directive} {p : String × Option String}
    (hp : p ∈ (table c self d).given) {flag : String} (hflag : flag ∈ t.authFlag :: t.fileFlags) :
    p.1 ≠ flag := by
  have hrow := (tlsRows_isInfix c self d t).mem (mem_tlsRows_of_not_secure h hflag)
  exact Table.ne_of_mem_none (nodup_flags_table c self d) hrow hp

@[simp] theorem written_nil : written [] = [] := rfl

@[simp] theorem written_append (parameters more : List (String × Option String)) :
    written (parameters ++ more) = written parameters ++ written more := List.flatMap_append

theorem written_given_optional (flag : String) (value : Option String) (rest : Table) :
    written (Table.given ((flag, value.map some) :: rest)) =
      optional flag value ++ written rest.given := by
  cases value <;> rfl

def tlsArguments (tls : TlsConfig) : Transport → List String
  | .client => clientTlsArguments tls
  | .peer => peerTlsArguments tls

theorem written_given_tlsRows (e : EngineConfig) (t : Transport) :
    written (tlsRows e t).given = if t.secure e then tlsArguments e.tls t else [] := by
  cases h : t.secure e with
  | false =>
      rw [given_tlsRows_of_not_secure h]
      rfl
  | true =>
      rw [tlsRows_of_secure h, Table.given_cons_some, if_pos rfl]
      change t.authFlag :: written (Table.given _) = tlsArguments e.tls t
      cases t <;>
        simp [Transport.files, Transport.authFlag, tlsArguments, clientTlsArguments,
          peerTlsArguments, written_given_optional]

/-- The command line is written from the table. -/
theorem arguments_eq_written (c : Config) (self : Identity) (d : Directive) :
    arguments c self d = written (table c self d).given := by
  have hnode : written (nodeRows c.engine self).given =
      nodeArguments c.engine self ++ if c.engine.debug then ["--debug"] else [] := by
    cases h : c.engine.debug <;> simp [nodeRows, h, written, nodeArguments]
  simp only [table, Table.given_append, written_append, hnode, written_given_tlsRows]
  rfl

theorem wellFormed_append {parameters more : List (String × Option String)} :
    WellFormed (parameters ++ more) ↔ WellFormed parameters ∧ WellFormed more :=
  List.forall_mem_append

theorem wellFormed_tlsRows (e : EngineConfig) (t : Transport) :
    WellFormed (tlsRows e t).given := by
  cases h : t.secure e with
  | false =>
      rw [given_tlsRows_of_not_secure h]
      exact fun p hp => nomatch hp
  | true =>
      rw [tlsRows_of_secure h, Table.given_cons_some]
      intro p hp
      rcases List.mem_cons.mp hp with rfl | hp
      · cases t <;> simp [Transport.authFlag, switches]
      · rw [Table.mem_given, List.mem_map] at hp
        obtain ⟨file, hfile, heq⟩ := hp
        obtain ⟨hflag, huse⟩ := Prod.mk.inj heq
        obtain ⟨path, -, hpath⟩ := Option.map_eq_some_iff.mp huse
        have hvalued : ∀ flag ∈ t.fileFlags, flag ∉ switches := by
          cases t <;> decide
        have hmem : file.1 ∈ t.fileFlags := by
          rw [← t.map_fst_files e.tls]
          exact List.mem_map_of_mem hfile
        rw [← hflag, ← hpath]
        constructor
        · intro hnone
          cases hnone
        · intro hswitch
          exact absurd hswitch (hvalued _ hmem)

theorem wellFormed_given (c : Config) (self : Identity) (d : Directive) :
    WellFormed (table c self d).given := by
  have hnode : WellFormed (nodeRows c.engine self).given := by
    cases h : c.engine.debug <;> simp [nodeRows, h, WellFormed, switches]
  have hcluster : WellFormed (clusterRows d).given := by
    simp [clusterRows, WellFormed, switches]
  simp only [table, Table.given_append, wellFormed_append]
  exact ⟨⟨⟨hnode, wellFormed_tlsRows _ _⟩, wellFormed_tlsRows _ _⟩, hcluster⟩

/-- Flag by flag, the command line reads as what the engine is told. -/
theorem parameters?_arguments (c : Config) (self : Identity) (d : Directive) :
    parameters? (arguments c self d) = some (table c self d).given := by
  rw [arguments_eq_written, parameters?_written (wellFormed_given c self d)]

/-! ## Which settings the command line tells apart -/

/-- The settings that concern the engine are the same on both sides. -/
structure Agree (c c' : Config) (node node' : Identity) (d d' : Directive) : Prop where
  dataDir : c.engine.dataDir = c'.engine.dataDir
  heartbeatIntervalMs : c.engine.heartbeatIntervalMs = c'.engine.heartbeatIntervalMs
  electionTimeoutMs : c.engine.electionTimeoutMs = c'.engine.electionTimeoutMs
  debug : c.engine.debug = c'.engine.debug
  secure : ∀ t : Transport, t.secure c.engine = t.secure c'.engine
  /-- The files of a transport count where it is secured. -/
  files : ∀ t : Transport, t.secure c.engine = true → t.files c.engine.tls = t.files c'.engine.tls
  identity : node = node'
  directive : d = d'

theorem nodeRows_eq_iff {e e' : EngineConfig} {self self' : Identity} :
    nodeRows e self = nodeRows e' self' ↔
      e.dataDir = e'.dataDir ∧ e.heartbeatIntervalMs = e'.heartbeatIntervalMs ∧
        e.electionTimeoutMs = e'.electionTimeoutMs ∧ e.debug = e'.debug ∧ self = self' := by
  constructor
  · intro h
    simp only [nodeRows, List.cons.injEq, Prod.mk.injEq, Option.some.injEq, true_and,
      and_true] at h
    obtain ⟨hname, hdir, hheartbeat, helection, hlp, hlc, hap, hac, hdebug⟩ := h
    have hself : self = self' := by
      obtain ⟨name, peer, client, listenPeer, listenClient⟩ := self
      obtain ⟨name', peer', client', listenPeer', listenClient'⟩ := self'
      simp_all
    refine ⟨hdir, ?_, ?_, ?_, hself⟩
    · exact UInt64.toNat_inj.mp (Decimal.toString_nat_injective hheartbeat)
    · exact UInt64.toNat_inj.mp (Decimal.toString_nat_injective helection)
    · cases hd : e.debug <;> cases hd' : e'.debug <;> simp_all
  · rintro ⟨hdir, hheartbeat, helection, hdebug, rfl⟩
    rw [nodeRows, nodeRows, hdir, hheartbeat, helection, hdebug]

theorem tlsRows_eq_iff {e e' : EngineConfig} {t : Transport} :
    tlsRows e t = tlsRows e' t ↔ t.secure e = t.secure e' ∧
      (t.secure e = true → t.files e.tls = t.files e'.tls) := by
  have hpath : ∀ path path' : Option String, path.map some = path'.map some ↔ path = path' := by
    intro path path'
    cases path <;> cases path' <;> simp
  cases h : t.secure e <;> cases h' : t.secure e' <;> cases t <;>
    simp [tlsRows, Transport.files, h, h', hpath]

theorem clusterRows_eq_iff {d d' : Directive} : clusterRows d = clusterRows d' ↔ d = d' := by
  constructor
  · intro h
    obtain ⟨members, state⟩ := d
    obtain ⟨members', state'⟩ := d'
    simp only [clusterRows, List.cons.injEq, Prod.mk.injEq, Option.some.injEq, true_and,
      and_true] at h
    obtain ⟨rfl, hstate⟩ := h
    rw [ClusterState.text_injective hstate]
  · rintro rfl
    rfl

theorem table_eq_iff {c c' : Config} {self self' : Identity} {d d' : Directive} :
    table c self d = table c' self' d' ↔
      nodeRows c.engine self = nodeRows c'.engine self' ∧
        (∀ t, tlsRows c.engine t = tlsRows c'.engine t) ∧ clusterRows d = clusterRows d' := by
  constructor
  · intro h
    obtain ⟨h, hcluster⟩ := List.append_inj h rfl
    obtain ⟨h, hpeer⟩ := List.append_inj h rfl
    obtain ⟨hnode, hclient⟩ := List.append_inj h rfl
    refine ⟨hnode, ?_, hcluster⟩
    intro t
    cases t with
    | client => exact hclient
    | peer => exact hpeer
  · rintro ⟨hnode, htls, hcluster⟩
    rw [table, table, hnode, htls, htls, hcluster]

/-- Two command lines are the same exactly if the settings that concern the engine agree, whatever
the others are and whatever the values look like. -/
theorem command_line_eq_iff (c c' : Config) (self self' : Identity) (d d' : Directive) :
    arguments c self d = arguments c' self' d' ↔ Agree c c' self self' d d' := by
  have hread : arguments c self d = arguments c' self' d' ↔ table c self d = table c' self' d' := by
    constructor
    · intro h
      have hgiven := congrArg parameters? h
      rw [parameters?_arguments, parameters?_arguments, Option.some.injEq] at hgiven
      exact Table.eq_of_given_eq (by rw [flags_table, flags_table]) (nodup_flags_table c self d)
        hgiven
    · intro h
      rw [arguments_eq_written, arguments_eq_written, h]
  rw [hread, table_eq_iff, nodeRows_eq_iff, clusterRows_eq_iff]
  constructor
  · rintro ⟨⟨hdir, hheartbeat, helection, hdebug, hself⟩, htls, hd⟩
    exact
      { dataDir := hdir
        heartbeatIntervalMs := hheartbeat
        electionTimeoutMs := helection
        debug := hdebug
        secure := fun t => (tlsRows_eq_iff.mp (htls t)).1
        files := fun t => (tlsRows_eq_iff.mp (htls t)).2
        identity := hself
        directive := hd }
  · intro h
    refine ⟨⟨h.dataDir, h.heartbeatIntervalMs, h.electionTimeoutMs, h.debug, h.identity⟩, ?_,
      h.directive⟩
    intro t
    exact tlsRows_eq_iff.mpr ⟨h.secure t, h.files t⟩

end Engine

end NodeBootstrap
