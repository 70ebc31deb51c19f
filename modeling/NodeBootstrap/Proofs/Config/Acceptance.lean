import NodeBootstrap.Proofs.Config.Identity
import NodeBootstrap.Proofs.Http.CallErrors
import NodeBootstrap.Tls.Files

/-! # Accepted configurations

Validation accepts exactly the sound configurations. What it does not check again is derived
elsewhere from the same fields: the TLS files of the client, the endpoints, the identity and the command
line of the engine. An accepted configuration suffices for all of them. -/

namespace NodeBootstrap

open Text

/-! ## What validation accepts -/

/-- What a bootstrap relies on: names and hosts that are not blank, and the files of the transports
that are secured. -/
structure Config.Sound (c : Config) : Prop where
  name : ¬Blank c.node.name
  program : c.engine.program ≠ ""
  dnsSuffix : c.engine.peerRequireSsl = true ∨ c.engine.clientRequireSsl = true →
    ¬Blank c.engine.advertiseUrlsDnsSuffix
  externalIp : c.engine.peerRequireSsl = false ∨ c.engine.clientRequireSsl = false →
    ¬Blank c.node.externalIp
  clientFiles : c.engine.clientRequireSsl = true →
    Stated c.engine.tls.caCert ∧ Stated c.engine.tls.clientCert ∧ Stated c.engine.tls.clientKey ∧
      Stated c.engine.tls.serverCert ∧ Stated c.engine.tls.serverKey
  peerFiles : c.engine.peerRequireSsl = true →
    Stated c.engine.tls.peerCaCert ∧ Stated c.engine.tls.peerCert ∧ Stated c.engine.tls.peerKey

theorem firstUnstated_eq_none_iff (files : List (String × Option String)) :
    firstUnstated files = none ↔ ∀ file ∈ files, Stated file.2 := by
  simp [firstUnstated]

namespace Config

theorem stated_requiredFiles_iff (c : Config) :
    (∀ file ∈ c.requiredFiles, Stated file.2) ↔
      (c.engine.clientRequireSsl = true → ∀ file ∈ c.engine.tls.clientFiles, Stated file.2) ∧
        (c.engine.peerRequireSsl = true → ∀ file ∈ c.engine.tls.peerFiles, Stated file.2) := by
  rw [requiredFiles, List.forall_mem_append]
  apply and_congr
  · cases c.engine.clientRequireSsl <;> simp
  · cases c.engine.peerRequireSsl <;> simp

/-- One check after another: nothing is found if this one finds nothing and neither do the others. -/
theorem check_eq_none_iff {p : Prop} [Decidable p] (fault : ConfigFault)
    (others : Option ConfigFault) :
    (if p then some fault else others) = none ↔ ¬p ∧ others = none := by
  by_cases h : p <;> simp [h]

theorem fault?_eq_none_iff (c : Config) : c.fault? = none ↔ c.Sound := by
  simp only [fault?, check_eq_none_iff, Option.map_eq_none_iff, firstUnstated_eq_none_iff,
    stated_requiredFiles_iff, TlsConfig.clientFiles, TlsConfig.peerFiles, List.forall_mem_cons,
    List.not_mem_nil, false_implies, implies_true, and_true, not_and, Bool.or_eq_true,
    Bool.not_eq_true']
  constructor
  · rintro ⟨hname, hprogram, hsuffix, haddress, hclient, hpeer⟩
    exact ⟨hname, hprogram, hsuffix, haddress, hclient, hpeer⟩
  · rintro ⟨hname, hprogram, hsuffix, haddress, hclient, hpeer⟩
    exact ⟨hname, hprogram, hsuffix, haddress, hclient, hpeer⟩

theorem validate_eq_ok_iff (c : Config) : c.validate = .ok () ↔ c.Sound := by
  rw [← fault?_eq_none_iff, validate]
  cases c.fault? <;> simp

end Config

/-! ## What acceptance suffices for -/

/-- Everything that is derived from the configuration can be. -/
structure Config.Suffices (c : Config) : Prop where
  securedClient : c.engine.clientRequireSsl = true → ∃ files, c.tlsFiles = .ok (some files) ∧
    c.engine.tls.caCert = some files.caCert ∧ c.engine.tls.clientCert = some files.clientCert ∧
    c.engine.tls.clientKey = some files.clientKey
  plainClient : c.engine.clientRequireSsl = false → c.tlsFiles = .ok none
  endpoints : c.clusterEndpoints ≠ []
  name : ∃ stem, stem ≠ "" ∧ c.identity.name = stem ++ "-" ++ toString c.node.index.toNat
  url : ∀ t, ∃ host, ¬Blank host ∧
    c.identity.advertised t = c.scheme t ++ "://" ++ host ++ ":" ++ toString t.port
  /-- The command line gives a secured transport its switch and its three files, side by side, and a
  plain one none of them. -/
  arguments : ∀ (node : Identity) (d : Directive), ∃ parameters,
    Engine.parameters? (Engine.arguments c node d) = some parameters ∧ ∀ t : Transport,
      (t.secure c.engine = true →
        (∀ file ∈ t.files c.engine.tls, Stated file.2) ∧
          (t.authFlag, none) :: t.files c.engine.tls <:+: parameters) ∧
      (t.secure c.engine = false →
        ∀ p ∈ parameters, p.1 ≠ t.authFlag ∧ p.1 ∉ t.fileFlags)

namespace Config

theorem tlsFiles_of_secure {c : Config} (secure : c.engine.clientRequireSsl = true)
    {files : TlsFiles} (caCert : c.engine.tls.caCert = some files.caCert)
    (clientCert : c.engine.tls.clientCert = some files.clientCert)
    (clientKey : c.engine.tls.clientKey = some files.clientKey) :
    c.tlsFiles = .ok (some files) := by
  rw [tlsFiles, if_pos secure]
  simp only [caCert, clientCert, clientKey]
  rfl

theorem tlsFiles_of_plain {c : Config} (plain : c.engine.clientRequireSsl = false) :
    c.tlsFiles = .ok none := by
  rw [tlsFiles, plain]
  rfl

namespace Sound

variable {c : Config}

theorem host_not_blank (h : c.Sound) (t : Transport) : ¬Blank (c.host t) := by
  rw [host, hostField]
  cases hsecure : t.secure c.engine with
  | true =>
      -- The dot in front of the domain is there in any case.
      apply not_blank_of_mem (x := '.') _ (by decide)
      simp
  | false =>
      apply h.externalIp
      cases t with
      | client => exact .inr hsecure
      | peer => exact .inl hsecure

theorem stated_files (h : c.Sound) {t : Transport} (secure : t.secure c.engine = true) :
    ∀ file ∈ t.files c.engine.tls, Stated file.2 := by
  cases t with
  | client =>
      obtain ⟨hca, -, -, hcert, hkey⟩ := h.clientFiles secure
      simp [Transport.files, hca, hcert, hkey]
  | peer =>
      obtain ⟨hca, hcert, hkey⟩ := h.peerFiles secure
      simp [Transport.files, hca, hcert, hkey]

theorem given_isInfix (h : c.Sound) {t : Transport} (secure : t.secure c.engine = true)
    (node : Identity) (d : Directive) :
    (t.authFlag, none) :: t.files c.engine.tls <:+: (Engine.table c node d).given := by
  have hstated : ∀ file ∈ t.files c.engine.tls, file.2.isSome := by
    intro file hfile
    obtain ⟨path, hpath, -⟩ := h.stated_files secure file hfile
    exact Option.isSome_of_eq_some hpath
  rw [← Engine.given_tlsRows_of_secure secure hstated]
  exact (Engine.tlsRows_isInfix c node d t).filterMap _

theorem sufficient (h : c.Sound) : c.Suffices where
  securedClient secure := by
    obtain ⟨⟨ca, hca, -⟩, ⟨cert, hcert, -⟩, ⟨key, hkey, -⟩, -⟩ := h.clientFiles secure
    exact ⟨⟨ca, cert, key⟩, tlsFiles_of_secure secure hca hcert hkey, hca, hcert, hkey⟩
  plainClient := tlsFiles_of_plain
  endpoints := HttpClient.clusterEndpoints_ne_nil c
  name := ⟨kebabCase c.node.name, kebabCase_ne_empty h.name, rfl⟩
  url t := ⟨c.host t, h.host_not_blank t, c.advertised_eq t⟩
  arguments node d := by
    refine ⟨_, Engine.parameters?_arguments c node d, fun t => ⟨fun secure => ?_, fun plain => ?_⟩⟩
    · exact ⟨h.stated_files secure, h.given_isInfix secure node d⟩
    · intro p hp
      refine ⟨Engine.ne_of_not_secure plain hp List.mem_cons_self, fun hmem => ?_⟩
      exact Engine.ne_of_not_secure plain hp (List.mem_cons_of_mem _ hmem) rfl

end Sound

/-- Validation accepts the sound configurations, no more and no less, and what it accepts suffices
for everything that is derived from it. -/
theorem validate_spec (c : Config) :
    (c.validate = .ok () ↔ c.Sound) ∧ (c.validate = .ok () → c.Suffices) := by
  refine ⟨c.validate_eq_ok_iff, ?_⟩
  intro valid
  exact (c.validate_eq_ok_iff.mp valid).sufficient

/-- Both transports are secured, and there is no address. -/
theorem secured_suffices :
    let c : Config :=
      { node := { name := "KV Store", index := 2 }
        engine :=
          { program := "kvd", peerRequireSsl := true, clientRequireSsl := true
            advertiseUrlsDnsSuffix := "example.org"
            tls :=
              { caCert := "ca.pem", clientCert := "client.pem", clientKey := "client.key"
                serverCert := "server.pem", serverKey := "server.key"
                peerCaCert := "peer-ca.pem", peerCert := "peer.pem", peerKey := "peer.key" } } }
    c.validate = .ok () ∧ c.Sound ∧ c.Suffices := by
  intro c
  have valid : c.validate = .ok () := by decide +kernel
  exact ⟨valid, (validate_spec c).1.mp valid, (validate_spec c).2 valid⟩

end Config

end NodeBootstrap
