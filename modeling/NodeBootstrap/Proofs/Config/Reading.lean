import NodeBootstrap.Config.Loading
import NodeBootstrap.Proofs.Config.Columns
import NodeBootstrap.Proofs.Settings.Environment
import NodeBootstrap.Proofs.Settings.Merging

/-! # Sources in any order

What a file comes to before the environment is laid over it, for every reader. Where the entries of
a file reach different settings, all readers agree. -/

namespace NodeBootstrap

open Os Settings

namespace FileTree

theorem exists_locate_of_read {files : FileTree} {p : FilePath} {content : List UInt8}
    (h : files.read p = .ok content) :
    ∃ place, files.locate p = .ok (place, some (.file content)) := by
  rw [read] at h
  cases hlocate : files.locate p with
  | error e => rw [hlocate] at h; cases h
  | ok found =>
      rw [hlocate, ok_bind] at h
      obtain ⟨place, _ | _ | content⟩ := found
      · cases h
      · cases h
      · cases h
        exact ⟨place, rfl⟩

end FileTree

theorem Config.ofSetting_overlay_perm {es es' : List (String × Setting)}
    (apart : Setting.Apart es) (perm : es'.Perm es) :
    ofSetting (Setting.emptyTable.overlay es') = ofSetting (Setting.emptyTable.overlay es) := by
  obtain ⟨laid, laid', hes, hes', hlookup⟩ := Setting.exists_overlay_perm apart perm []
  rw [Setting.emptyTable, hes, hes', ofSetting_congr hlookup]

namespace Reader

/-! ## The settings of a file -/

/-- The settings that the environment is laid over. -/
def ground (r : Reader) (files : FileTree) (path : String) : Except Error Setting :=
  if ¬ files.exists? ⟨path⟩ then .error (.invalidConfig (.fileNotFound path))
  else (r.fileSettings files ⟨path⟩).map (r.overlay .emptyTable)

variable {files : FileTree} {environment : List (String × String)} {path : String}
  {content : List UInt8} {c : Config} (r : Reader)

theorem load_eq (files : FileTree) (environment : List (String × String)) (path : String) :
    r.load files environment path = (r.ground files path >>= fun root =>
      (Config.ofSetting (r.overlay root (Environment.settings environment))).mapError
        .settings) := by
  rw [load, ground]
  split
  · rfl
  · cases r.fileSettings files ⟨path⟩ <;> rfl

theorem overlay_nil (root : Setting) : r.overlay root [] = root := by
  rw [overlay, (r.arrange_perm []).eq_nil]
  rfl

theorem overlay_singleton (root : Setting) (key : String) (s : Setting) :
    r.overlay root [(key, s)] = root.put (.ofString key) s := by
  rw [overlay, List.perm_singleton.mp (r.arrange_perm [(key, s)])]
  rfl

theorem load_of_foreign (foreign : Environment.Foreign environment) :
    r.load files environment path = (r.ground files path >>= fun root =>
      (Config.ofSetting root).mapError .settings) := by
  simp only [load_eq, Environment.settings_eq_nil foreign, overlay_nil]

theorem load_of_alone {name value key : String}
    (alone : Environment.Alone name value environment) (hkey : Environment.key? name = some key) :
    r.load files environment path = (r.ground files path >>= fun root =>
      (Config.ofSetting (root.put (.ofString key) (Environment.setting key value))).mapError
        .settings) := by
  simp only [load_eq, alone.settings_eq hkey, overlay_singleton]

/-- The entries that a JSON file states. -/
def jsonEntries? (files : FileTree) (path : String) (content : List UInt8) :
    Option (List (String × Setting)) :=
  Format.json.entries? (Config.originOf files ⟨path⟩)
    (Text.Utf8.decodeLossy (Text.Utf8.skipMark content))

/-- What the octets of a JSON file come to. -/
def groundOf (files : FileTree) (path : String) (content : List UInt8) : Except Error Setting :=
  match jsonEntries? files path content with
  | some entries => .ok (r.overlay .emptyTable entries)
  | none => .error (.settings (.malformed (Config.originOf files ⟨path⟩)))

theorem ground_of_read (json : (FilePath.mk path).extension? = some "json")
    (hread : files.read ⟨path⟩ = .ok content) :
    r.ground files path = r.groundOf files path content := by
  obtain ⟨place, hlocate⟩ := FileTree.exists_locate_of_read hread
  have hfile : files.isFile ⟨path⟩ := by rw [FileTree.isFile, hlocate]
  have hexists : files.exists? ⟨path⟩ := by rw [FileTree.exists?, hlocate]
  rw [ground, if_neg (not_not_intro hexists), fileSettings, find, if_pos hfile, json,
    r.ofExtension?_json, groundOf, jsonEntries?]
  simp only [Except.mapError, ok_bind, hread]
  cases Format.json.entries? (Config.originOf files ⟨path⟩)
    (Text.Utf8.decodeLossy (Text.Utf8.skipMark content)) <;> rfl

theorem load_of_read (json : (FilePath.mk path).extension? = some "json")
    (hread : files.read ⟨path⟩ = .ok content) :
    r.load files environment path = (r.groundOf files path content >>= fun root =>
      (Config.ofSetting (r.overlay root (Environment.settings environment))).mapError
        .settings) := by
  rw [load_eq, r.ground_of_read json hread]

/-! ## Every order -/

/-- Loading comes to the configuration whatever the order in which the formats are tried and the
entries are taken. -/
def Settled (formats : List Format) (files : FileTree) (environment : List (String × String))
    (path : String) (c : Config) : Prop :=
  ∀ r : Reader, r.formats.Perm formats → r.load files environment path = .ok c

/-- A JSON file whose entries reach different settings is loaded alike by every reader. -/
theorem load_of_apart (json : (FilePath.mk path).extension? = some "json")
    (hread : files.read ⟨path⟩ = .ok content)
    (stated : ∃ es ∈ jsonEntries? files path content,
      Setting.Apart es ∧ Config.ofSetting (Setting.emptyTable.overlay es) = .ok c)
    (foreign : Environment.Foreign environment) : r.load files environment path = .ok c := by
  obtain ⟨es, hentries, apart, hc⟩ := stated
  rw [Option.mem_def] at hentries
  rw [r.load_of_foreign foreign, r.ground_of_read json hread, groundOf, hentries]
  simp only [ok_bind, overlay, Config.ofSetting_overlay_perm apart (r.arrange_perm es), hc]
  rfl

/-- Without variables, a configuration is what a table says. -/
theorem exists_ground (foreign : Environment.Foreign environment)
    (loaded : r.load files environment path = .ok c) :
    ∃ es, r.ground files path = .ok (.table none es) ∧ Tabulated c.columns es := by
  rw [r.load_of_foreign foreign, bind_eq_ok_iff] at loaded
  obtain ⟨root, hroot, hc⟩ := loaded
  have htable : ∃ es, root = .table none es := by
    rw [ground] at hroot
    split at hroot
    · cases hroot
    · cases hfile : r.fileSettings files ⟨path⟩ with
      | error e => rw [hfile] at hroot; cases hroot
      | ok file =>
          rw [hfile] at hroot
          obtain rfl := Except.ok.inj hroot
          exact Setting.exists_table_overlay (r.arrange file) []
  obtain ⟨es, rfl⟩ := htable
  rw [mapError_eq_ok_iff] at hc
  exact ⟨es, hroot, Config.ofSetting_table_iff.mp hc⟩

end Reader

end NodeBootstrap
