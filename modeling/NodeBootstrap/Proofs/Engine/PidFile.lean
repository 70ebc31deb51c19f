import NodeBootstrap.Engine.Supervisor
import NodeBootstrap.Proofs.Decimal.Digits
import NodeBootstrap.Proofs.Os.FileTree

/-! # The record of the process

A start accounts for what it has done, on any operating system: it has changed nothing if the engine
could not be started, it knows the process even if the number could not be recorded, and it succeeds
only with the number in the file, from where it is read back. -/

namespace NodeBootstrap

open Os Text

variable {μ : Type} {os : OperatingSystem μ} {read : FilePath → μ → Except OsError (List UInt8)}
  {s : Supervisor} {path : String} {arguments : List String} {pid : Nat} {cause : OsError}
  {state spawned recorded : μ}

namespace OperatingSystem

/-- A file that was written holds what was written to it, and nothing that it held before. -/
def ReadsWritten (os : OperatingSystem μ) (read : FilePath → μ → Except OsError (List UInt8)) :
    Prop :=
  ∀ (p : FilePath) (content : List UInt8) (state written : μ),
    os.write p content state = (.ok (), written) → read p written = .ok content

/-- The directories above a path are there, made where they were missing; it may name none. -/
inductive Ready (os : OperatingSystem μ) (p : FilePath) (state : μ) : μ → Prop where
  | unneeded (none : ∀ above, p.parent? = some above → above.text = "") : Ready os p state state
  | made {above : FilePath} {made : μ} (parent : p.parent? = some above) (named : above.text ≠ "")
      (granted : os.makeDirectories above state = (.ok (), made)) : Ready os p state made

/-- The file is written once the directories above it are there. -/
def Records (os : OperatingSystem μ) (p : FilePath) (content : List UInt8) (state recorded : μ) :
    Prop :=
  ∃ made, os.Ready p state made ∧ os.write p content made = (.ok (), recorded)

/-- A directory above the file cannot be made, or the file cannot be written; what has been made by
then is left behind. -/
inductive CannotRecord (os : OperatingSystem μ) (p : FilePath) (content : List UInt8) (state : μ)
    (cause : OsError) (left : μ) : Prop where
  | parents {above : FilePath} (parent : p.parent? = some above) (named : above.text ≠ "")
      (refused : os.makeDirectories above state = (.error cause, left))
  | file {made : μ} (ready : os.Ready p state made)
      (refused : os.write p content made = (.error cause, left))

end OperatingSystem

namespace Machine

/-- Reads a file of a machine. -/
def readFile (p : FilePath) (m : Machine) : Except OsError (List UInt8) := m.files.read p

theorem readsWritten : system.ReadsWritten readFile := by
  intro p content m written h
  rw [system] at h
  dsimp only at h
  split at h
  · cases h
  · rename_i files hfiles
    obtain ⟨-, rfl⟩ := Prod.mk.inj h
    exact FileTree.read_of_write hfiles

end Machine

namespace Supervisor

theorem pidContent_eq (pid : Nat) : pidContent pid = Decimal.octets pid :=
  Decimal.toList_toUTF8_toString pid

/-! ## Recording -/

theorem makeParents_eq_ok_iff {p : FilePath} {made : μ} :
    makeParents os p state = (.ok (), made) ↔ os.Ready p state made := by
  rw [makeParents]
  constructor
  · intro h
    split at h
    · rename_i hparent
      obtain ⟨-, rfl⟩ := Prod.mk.inj h
      exact .unneeded fun above habove => nomatch hparent.symm.trans habove
    · rename_i above hparent
      split at h
      · rename_i hnone
        obtain ⟨-, rfl⟩ := Prod.mk.inj h
        exact .unneeded fun above' habove =>
          (Option.some.inj (hparent.symm.trans habove)) ▸ hnone
      · rename_i named
        exact .made hparent named h
  · rintro (hnone | ⟨hparent, named, granted⟩)
    · cases hparent : p.parent? with
      | none => rfl
      | some above => exact if_pos (hnone above hparent)
    · rw [hparent]
      exact (if_neg named).trans granted

theorem makeParents_eq_error_iff {p : FilePath} {left : μ} :
    makeParents os p state = (.error cause, left) ↔
      ∃ above, p.parent? = some above ∧ above.text ≠ "" ∧
        os.makeDirectories above state = (.error cause, left) := by
  rw [makeParents]
  cases p.parent? with
  | none => simp
  | some above => by_cases named : above.text = "" <;> simp [named]

theorem record_eq_ok_iff :
    record os path pid state = (.ok (), recorded) ↔
      os.Records ⟨path⟩ (Decimal.octets pid) state recorded := by
  rw [record, pidContent_eq, OperatingSystem.Records]
  simp only [← makeParents_eq_ok_iff]
  split
  · rename_i hmade
    simp [hmade]
  · rename_i made hmade
    simp [hmade]

theorem record_eq_error_iff {left : μ} :
    record os path pid state = (.error cause, left) ↔
      os.CannotRecord ⟨path⟩ (Decimal.octets pid) state cause left := by
  rw [record, pidContent_eq]
  constructor
  · intro h
    split at h
    · rename_i hmade
      rw [h] at hmade
      obtain ⟨above, hparent, named, refused⟩ := makeParents_eq_error_iff.mp hmade
      exact .parents hparent named refused
    · rename_i made hmade
      exact .file (makeParents_eq_ok_iff.mp hmade) h
  · rintro (⟨hparent, named, refused⟩ | ⟨ready, refused⟩)
    · rw [makeParents_eq_error_iff.mpr ⟨_, hparent, named, refused⟩]
    · rw [makeParents_eq_ok_iff.mpr ready]
      exact refused

/-! ## Starting -/

theorem startOn_of_refused (h : os.spawn s.program arguments state = .error cause) :
    s.startOn os state arguments =
      ⟨.error (.processStart s.program cause), [.launching s.program arguments], s, state⟩ := by
  rw [startOn, h]

theorem startOn_of_unrecorded {left : μ}
    (h : os.spawn s.program arguments state = .ok (pid, spawned))
    (failed : record os s.pidFile pid spawned = (.error cause, left)) :
    s.startOn os state arguments =
      ⟨.error (.pidFile s.pidFile cause), [.launching s.program arguments],
        { s with child := some pid }, left⟩ := by
  rw [startOn, h]
  dsimp only
  rw [failed]

theorem startOn_of_recorded (h : os.spawn s.program arguments state = .ok (pid, spawned))
    (done : record os s.pidFile pid spawned = (.ok (), recorded)) :
    s.startOn os state arguments =
      ⟨.ok (), [.launching s.program arguments, .launched pid s.pidFile],
        { s with child := some pid }, recorded⟩ := by
  rw [startOn, h]
  dsimp only
  rw [done]

theorem startOn_eq_ok_iff :
    (s.startOn os state arguments).result = .ok () ↔
      ∃ pid spawned recorded, os.spawn s.program arguments state = .ok (pid, spawned) ∧
        os.Records ⟨s.pidFile⟩ (Decimal.octets pid) spawned recorded := by
  cases hspawn : os.spawn s.program arguments state with
  | error cause =>
      rw [startOn_of_refused hspawn]
      simp
  | ok started =>
      obtain ⟨pid, spawned⟩ := started
      cases hrecord : record os s.pidFile pid spawned with
      | mk result left =>
          cases result with
          | error cause =>
              rw [startOn_of_unrecorded hspawn hrecord]
              refine iff_of_false (fun h => nomatch h) ?_
              -- Spawning and recording have one result each, which was the error.
              rintro ⟨_, _, recorded, heq, hrecords⟩
              obtain ⟨rfl, rfl⟩ := Prod.mk.inj (Except.ok.inj heq)
              rw [record_eq_ok_iff.mpr hrecords] at hrecord
              cases hrecord
          | ok done =>
              rw [startOn_of_recorded hspawn hrecord]
              exact iff_of_true rfl ⟨pid, spawned, left, rfl, record_eq_ok_iff.mp hrecord⟩

/-- What a start comes to, by what the operating system grants; files are read with `read`. -/
structure StartSpec (os : OperatingSystem μ) (read : FilePath → μ → Except OsError (List UInt8))
    (s : Supervisor) (arguments : List String) (state : μ) (launch : Launch μ) : Prop where
  /-- Without a process everything is as it was, whatever is the matter with the file. -/
  refused : ∀ cause, os.spawn s.program arguments state = .error cause →
    launch.result = .error (.processStart s.program cause) ∧
      launch.supervisor = s ∧ launch.machine = state
  unrecorded : ∀ pid spawned cause left, os.spawn s.program arguments state = .ok (pid, spawned) →
    os.CannotRecord ⟨s.pidFile⟩ (Decimal.octets pid) spawned cause left →
    launch.result = .error (.pidFile s.pidFile cause) ∧
      launch.supervisor = { s with child := some pid } ∧ launch.machine = left
  ok_iff : launch.result = .ok () ↔
    ∃ pid spawned recorded, os.spawn s.program arguments state = .ok (pid, spawned) ∧
      os.Records ⟨s.pidFile⟩ (Decimal.octets pid) spawned recorded
  /-- The file holds the digits and no line end, and they are read as a number again. -/
  recorded : launch.result = .ok () → ∃ pid spawned content,
    os.spawn s.program arguments state = .ok (pid, spawned) ∧
    launch.supervisor = { s with child := some pid } ∧
    os.Records ⟨s.pidFile⟩ content spawned launch.machine ∧
    read ⟨s.pidFile⟩ launch.machine = .ok content ∧
    content = Decimal.octets pid ∧ UInt8.ofNat '\n'.toNat ∉ content ∧
    ∀ limit, pid ≤ limit → Decimal.readNat? limit (Utf8.decodeLossy content) = some pid

theorem startOn_spec (faithful : os.ReadsWritten read) :
    StartSpec os read s arguments state (s.startOn os state arguments) where
  refused cause h := by
    rw [startOn_of_refused h]
    exact ⟨rfl, rfl, rfl⟩
  unrecorded pid spawned cause left h failed := by
    rw [startOn_of_unrecorded h (record_eq_error_iff.mpr failed)]
    exact ⟨rfl, rfl, rfl⟩
  ok_iff := startOn_eq_ok_iff
  recorded h := by
    obtain ⟨pid, spawned, recorded, hspawn, made, hmade, hwrite⟩ := startOn_eq_ok_iff.mp h
    rw [startOn_of_recorded hspawn (record_eq_ok_iff.mpr ⟨made, hmade, hwrite⟩)]
    refine ⟨pid, spawned, _, hspawn, rfl, ⟨made, hmade, hwrite⟩, faithful _ _ _ _ hwrite, rfl,
      Decimal.not_mem_octets (by decide) pid, fun limit hlimit => ?_⟩
    rw [Decimal.decodeLossy_octets, Decimal.readNat?_toDigits hlimit]

/-- A start accounts for what it did, on any operating system and on a machine in particular. -/
theorem start_accounts (s : Supervisor) (arguments : List String) :
    (∀ {μ : Type} (os : OperatingSystem μ) (read : FilePath → μ → Except OsError (List UInt8)),
      os.ReadsWritten read →
        ∀ state, StartSpec os read s arguments state (s.startOn os state arguments)) ∧
    ∀ m : Machine,
      StartSpec Machine.system Machine.readFile s arguments m (s.start m arguments) :=
  ⟨fun _ _ faithful _ => startOn_spec faithful, fun _ => startOn_spec Machine.readsWritten⟩

/-- A machine whose file still holds the number of an earlier process, and a line end. -/
def staleMachine : Machine :=
  { files :=
      { cwd := "/srv"
        entries :=
          [(["srv", "run"], .directory),
            (["srv", "run", "kvd.pid"], .file [0x34, 0x37, 0x31, 0x31, 0x0A])] }
    programs := [("kvd", .silent)]
    nextPid := 42 }

theorem locate_stale : staleMachine.files.locate ⟨"run/kvd.pid"⟩ =
    .ok (["srv", "run", "kvd.pid"], some (.file [0x34, 0x37, 0x31, 0x31, 0x0A])) := by
  have hnul : "run/kvd.pid".contains '\x00' = false := by simp
  rw [FileTree.locate, hnul]
  rfl

theorem spawn_stale :
    Machine.system.spawn "kvd" [] staleMachine = .ok (42, { staleMachine with nextPid := 43 }) := by
  have hnul : "kvd".contains '\x00' = false := by simp
  have hslash : "kvd".contains '/' = false := by simp
  simp only [Machine.system, Machine.spawn, List.any_cons, List.any_nil, hnul, Machine.program,
    hslash]
  rfl

theorem records_stale :
    Machine.system.Records ⟨"run/kvd.pid"⟩ (Decimal.octets 42) { staleMachine with nextPid := 43 }
      { staleMachine with
        nextPid := 43
        files := staleMachine.files.set ["srv", "run", "kvd.pid"] (.file (Decimal.octets 42)) } := by
  have hrun : staleMachine.files.locate ⟨"run"⟩ = .ok (["srv", "run"], some .directory) := by
    have hnul : "run".contains '\x00' = false := by simp
    rw [FileTree.locate, hnul]
    rfl
  have hmade : staleMachine.files.ensureDirectory ⟨"run"⟩ = (.ok (), staleMachine.files) := by
    rw [FileTree.ensureDirectory, FileTree.makeDirectory, FileTree.isDirectory, hrun]
    rfl
  have hname : FilePath.ofComponents false ["run"].reverse = ⟨"run"⟩ := rfl
  have hmakes : staleMachine.files.makeDirectories false ["run"] =
      (.ok (), staleMachine.files) := by
    rw [FileTree.makeDirectories, hname]
    simp only [hmade]
  have hgranted : Machine.system.makeDirectories ⟨"run"⟩ { staleMachine with nextPid := 43 } =
      (.ok (), { staleMachine with nextPid := 43 }) := by
    change ((staleMachine.files.makeDirectories false ["run"]).1,
      { staleMachine with
        nextPid := 43
        files := (staleMachine.files.makeDirectories false ["run"]).2 }) = _
    rw [hmakes]
  refine ⟨_, .made rfl (by decide) hgranted, ?_⟩
  simp only [Machine.system, FileTree.write, locate_stale]
  rfl

theorem stale_number_replaced :
    let s : Supervisor := { program := "kvd", pidFile := "run/kvd.pid" }
    let launch := s.startOn Machine.system staleMachine []
    Machine.system.ReadsWritten Machine.readFile ∧
    Machine.readFile ⟨"run/kvd.pid"⟩ staleMachine = .ok [0x34, 0x37, 0x31, 0x31, 0x0A] ∧
    launch.result = .ok () ∧ launch.supervisor.child = some 42 ∧
    Machine.readFile ⟨"run/kvd.pid"⟩ launch.machine = .ok [0x34, 0x32] := by
  intro s launch
  have hspec : StartSpec Machine.system Machine.readFile s [] staleMachine launch :=
    (start_accounts s []).1 Machine.system Machine.readFile Machine.readsWritten staleMachine
  have hok : launch.result = .ok () := hspec.ok_iff.mpr ⟨42, _, _, spawn_stale, records_stale⟩
  obtain ⟨pid, spawned, content, hspawn, hchild, -, hread, rfl, -⟩ := hspec.recorded hok
  obtain ⟨rfl, -⟩ := Prod.mk.inj (Except.ok.inj (spawn_stale.symm.trans hspawn))
  refine ⟨Machine.readsWritten, ?_, hok, congrArg child hchild, hread⟩
  rw [Machine.readFile, FileTree.read, locate_stale]
  rfl

end Supervisor

end NodeBootstrap
