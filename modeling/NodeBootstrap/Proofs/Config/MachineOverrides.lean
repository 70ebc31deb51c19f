import NodeBootstrap.Config.Identity
import NodeBootstrap.Proofs.Config.Overrides

/-! # Overrides of the machines

Two or more machines without commas are stated by one variable, in place of those of the file. The
endpoints of the cluster follow. -/

namespace NodeBootstrap

open Settings

/-! ## Endpoints -/

theorem Config.clusterEndpoints_of_machines {c : Config} (plain : c.engine.clientRequireSsl = false)
    (ne : c.engine.machines ≠ []) :
    c.clusterEndpoints = c.engine.machines.map fun m => "http://" ++ m ++ ":4001" := by
  have hport : toString clientPort = "4001" := by decide
  rw [clusterEndpoints]
  simp only [plain, Bool.false_eq_true, if_false, List.isEmpty_iff, ne, hport]
  refine List.map_congr_left fun m _ => ?_
  exact String.append_assoc

/-! ## The section of the engine -/

section
variable {o : Option String} {es : List (String × Setting)} {s : Setting} {ms : List String}

theorem EngineConfig.ofSetting_setEntry_machines {e : EngineConfig}
    (h : Tabulated (e.columns "engine") es) (hs : ∀ key, s.toTexts key = .ok ms) :
    EngineConfig.ofSetting "engine" (.table o (Setting.setEntry "machines" s es)) =
      .ok { e with machines := ms } := by
  refine ofSetting_table_iff.mpr (h.setEntry ?_ ?_)
  · simp [columns, Column.demanded, Column.defaulted]
  · simp [columns, Column.demanded, Column.defaulted, hs]

theorem EngineConfig.ofSetting_machines_alone (hs : ∀ key, s.toTexts key = .ok ms) :
    EngineConfig.ofSetting "engine" (.table o (Setting.setEntry "machines" s [])) =
      .error (.missing "engine.program") := by
  simp [ofSetting, Record.ofSetting, Column.field_eq, Setting.lookup_setEntry, hs, Record.demand,
    Record.fieldKey, Except.map]
  rfl

end

/-! ## Overrides -/

namespace Config

def machinesVariable : String := "KVFAB__ENGINE__MACHINES"

theorem key?_machinesVariable :
    Environment.key? machinesVariable = some "engine.machines" := by decide +kernel

theorem machines_mem_listKeys : "engine.machines" ∈ Environment.listKeys := by decide

theorem ofString_machines :
    KeyPath.ofString "engine.machines" = ⟨"engine", [.name "machines"]⟩ := by decide +kernel

def withMachines (c : Config) (ms : List String) : Config :=
  { c with engine := { c.engine with machines := ms } }

/-- A variable with machines between commas states these machines and nothing else. -/
theorem load_machines {formats : List Format} {files : FileTree}
    {environment changed : List (String × String)} {path : String} {c : Config} {ms : List String}
    (several : 2 ≤ ms.length) (commaless : ∀ m ∈ ms, ',' ∉ m.toList)
    (foreign : Environment.Foreign environment)
    (settled : Reader.Settled formats files environment path c)
    (alone : Environment.Alone machinesVariable (",".intercalate ms) changed) (r : Reader)
    (known : r.formats.Perm formats) :
    ∃ root, r.ground files path = .ok root ∧
      (root.HasTable "engine" → r.load files changed path = .ok (c.withMachines ms) ∧
        (c.engine.clientRequireSsl = false →
          (c.withMachines ms).clusterEndpoints = ms.map fun m => "http://" ++ m ++ ":4001")) ∧
      (¬root.HasTable "engine" →
        r.load files changed path = .error (.settings (.missing "engine.program"))) := by
  obtain ⟨es, hground, htabulated⟩ := r.exists_ground foreign (settled r known)
  have htexts := Environment.toTexts_setting machines_mem_listKeys several commaless
  have hmerge := Environment.merge_setting "engine.machines" (",".intercalate ms)
  have hload : r.load files changed path = _ := r.load_of_alone alone key?_machinesVariable
  rw [hground, ok_bind, ofString_machines] at hload
  refine ⟨_, hground, fun htable => ⟨?_, fun plain => ?_⟩, fun hlist => ?_⟩
  · obtain ⟨old, hlookup, hold⟩ := htabulated.exists_engine
    obtain ⟨o, entries, rfl⟩ := htable.exists_of_lookup hlookup
    have hengine := EngineConfig.ofSetting_table_iff.mp hold
    rw [hload, Setting.put_of_table hlookup hmerge, ofSetting_setEntry_engine htabulated,
      EngineConfig.ofSetting_setEntry_machines hengine htexts]
    rfl
  · refine clusterEndpoints_of_machines plain ?_
    rintro (rfl : ms = [])
    exact absurd several (by decide)
  · obtain ⟨old, hlookup, -⟩ := htabulated.exists_engine
    rw [hload, Setting.put_of_not_hasTable hlist hlookup hmerge,
      ofSetting_setEntry_engine htabulated, EngineConfig.ofSetting_machines_alone htexts]
    rfl

/-- Machines may repeat, be blank or look like numbers. -/
theorem load_repeated_machines :
    let formats := [Format.toml, Format.json]
    let ms := ["1", "", "1", " true"]
    2 ≤ ms.length ∧ (∀ m ∈ ms, ',' ∉ m.toList) ∧ Environment.Foreign [] ∧
      Reader.Settled formats samples [] "tables.json" sample ∧
      Environment.Alone machinesVariable (",".intercalate ms)
        [(machinesVariable, ",".intercalate ms)] ∧
      Reader.plain.formats.Perm formats ∧
      load samples [(machinesVariable, ",".intercalate ms)] "tables.json" =
        .ok (sample.withMachines ms) ∧
      (sample.withMachines ms).clusterEndpoints =
        ms.map fun m => "http://" ++ m ++ ":4001" := by
  intro formats ms
  have several : 2 ≤ ms.length := by decide
  have commaless : ∀ m ∈ ms, ',' ∉ m.toList := by decide
  have foreign : Environment.Foreign [] := by decide
  have settled : Reader.Settled formats samples [] "tables.json" sample :=
    fun r _ => load_tables foreign r
  have alone : Environment.Alone machinesVariable (",".intercalate ms)
      [(machinesVariable, ",".intercalate ms)] := .among foreign foreign
  have known : Reader.plain.formats.Perm formats := .refl _
  obtain ⟨root, hground, htable, -⟩ :=
    load_machines several commaless foreign settled alone .plain known
  obtain ⟨hload, hendpoints⟩ := htable (hasTable_tables "engine" (.inr rfl) root hground)
  exact ⟨several, commaless, foreign, settled, alone, known, hload, hendpoints rfl⟩

/-- A section that is a list loses its program to the machines, and a program that is stated twice
may be the other one the next time. -/
theorem machines_replace_list :
    ((∀ r : Reader, r.load samples [] "lists.json" = .ok sample) ∧
      load samples [(machinesVariable, "a,b")] "lists.json" =
        .error (.settings (.missing "engine.program"))) ∧
    Reader.backwards.load samples [] "twice.json" = .ok sample ∧
      load samples [(machinesVariable, "a,b")] "twice.json" =
        .ok ((TextKey.engine .program).set (sample.withMachines ["a", "b"]) "kvx") := by
  refine ⟨⟨load_lists, ?_⟩, ?_, ?_⟩
  · rw [load, Reader.load_of_read _ (by decide) read_lists]
    decide +kernel
  · rw [Reader.load_of_read _ (by decide) read_twice]
    decide +kernel
  · rw [load, Reader.load_of_read _ (by decide) read_twice]
    decide +kernel

end Config

end NodeBootstrap
