import NetstackSuite.Python.Path
import NetstackSuite.Runner.Args

/-!
# The directory of a run

Where three processes look for the files of one run. `src/paths.py` says where the program's parts lie and
`new_run_dir` of `src/runner.py` makes the directory there, in which the runner writes and which it passes to the
test runner; the `run` command of `src/cli/main.py` puts the same two names behind its own current directory.

`run_directory_iff` says for which current directories that is one directory. The paths of both flavours are
absolute where the source resolves them; `__file__` and `sys.executable` stand here as what `Path.resolve` makes
of them.
-/

namespace NetstackSuite.Cli

open NetstackSuite.Python NetstackSuite.Runner

/-! ## Where the program is -/

/-- What `src/paths.py` reads.
Source: `src/paths.py` `is_frozen`, `project_root`, `reports_base`
Kind: D -/
structure Installation (F : PathFlavour) where
  /-- `sys.frozen`. -/
  frozen : Bool
  /-- `Path(__file__).resolve()`, a file in a directory of the project. -/
  file : AbsPath F
  inDirectory : 2 ≤ file.path.parts.length
  /-- `Path(sys.executable).resolve()`. -/
  executable : AbsPath F
  /-- `Path(sys._MEIPASS)`. -/
  meipass : AbsPath F

variable {F : PathFlavour}

/-- Directory containing tests/, conftest.py and pyproject.toml.
Source: `src/paths.py` `project_root`
Kind: D -/
def Installation.projectRoot (inst : Installation F) : AbsPath F :=
  if inst.frozen then inst.meipass else inst.file.up 2

/-- Writable base for run artifacts.
Source: `src/paths.py` `reports_base`
Kind: D -/
def Installation.reportsBase (inst : Installation F) : AbsPath F :=
  if inst.frozen then inst.executable.up 1 else inst.projectRoot

/-! ## The name of a run -/

/-- The moment a run begins, in UTC, and the bytes of `uuid.uuid4()`.
Source: `src/runner.py` `new_run_dir`
Kind: D -/
structure RunStamp where
  year : Nat
  month : Nat
  day : Nat
  hour : Nat
  minute : Nat
  second : Nat
  uuid : List UInt8
  length_uuid : uuid.length = 16

/-- A number with zeros in front.
Source: Python `datetime.strftime`
Kind: D -/
def padded (width n : Nat) : PyStr :=
  List.replicate (width - (decimal n).length) 0x30 ++ decimal n

/-- Source: `src/runner.py` `new_run_dir`. Kind: D -/
def newRunId (stamp : RunStamp) : PyStr :=
  padded 4 stamp.year ++ padded 2 stamp.month ++ padded 2 stamp.day ++ text "T" ++
    padded 2 stamp.hour ++ padded 2 stamp.minute ++ padded 2 stamp.second ++ text "-" ++
    (stamp.uuid.flatMap hex02).take 6

/-- `"reports"`.
Source: `src/runner.py` `reports_dir`, `src/cli/main.py` `run`
Kind: D -/
def REPORTS : PyStr := text "reports"

/-- Writable directory for run artifacts.
Source: `src/runner.py` `reports_dir`
Kind: D -/
def reportsDir (inst : Installation F) : PurePath := F.truediv inst.reportsBase.path (F.parse REPORTS)

/-- Source: `src/runner.py` `new_run_dir`. Kind: D -/
def newRunDir (inst : Installation F) (stamp : RunStamp) : PurePath :=
  F.truediv (reportsDir inst) (F.parse (newRunId stamp))

/-- `Path("reports") / result.run_id`.
Source: `src/cli/main.py` `run`
Kind: D -/
def cliRunDir (F : PathFlavour) (stamp : RunStamp) : PurePath :=
  F.truediv (F.parse REPORTS) (F.parse (newRunId stamp))

/-! ## The files in it -/

/-- The files of a run directory.
Source: `src/run_artifacts.py` `RunArtifacts`
Kind: D -/
inductive RunFile where
  | results
  | reportLog
  | packetEvents
  | capture
  | debugLog
  | pytestOutput
  | report (fmt : ReportFormat)
  deriving DecidableEq

/-- Source: `src/run_artifacts.py` `RunArtifacts`. Kind: D -/
def RunFile.name : RunFile → PyStr
  | .results => text "results.json"
  | .reportLog => text "report_log.jsonl"
  | .packetEvents => text "packet_events.jsonl"
  | .capture => text "capture.pcap"
  | .debugLog => text "debug.log"
  | .pytestOutput => text "pytest_output.log"
  | .report fmt => text "report." ++ fmt.key

/-- The files there are.
Source: `src/run_artifacts.py` `RunArtifacts`, `src/reporting/formats.py` `FORMATS`
Kind: D -/
def RUN_FILES : List RunFile :=
  [.results, .reportLog, .packetEvents, .capture, .debugLog, .pytestOutput] ++ FORMATS.map .report

/-- `self.root / name`.
Source: `src/run_artifacts.py` `RunArtifacts`
Kind: D -/
def fileIn (F : PathFlavour) (root : PurePath) (file : RunFile) : PurePath := F.truediv root (F.parse file.name)

/-- The flags that tell the test runner where to write; the last one is for debug runs.
Source: `src/runner.py` `build_pytest_args`
Kind: D -/
def ARTIFACT_FLAGS : List (PyStr × RunFile) :=
  [(text "--report-log", .reportLog), (text "--live-events-log", .packetEvents),
    (text "--capture-pcap", .capture), (text "--debug-log", .debugLog)]

/-- The value of such a flag.
Source: `src/runner.py` `build_pytest_args`
Kind: D -/
def passedPath (inst : Installation F) (stamp : RunStamp) (file : RunFile) : PyStr :=
  F.str (fileIn F (newRunDir inst stamp) file)

/-! ## Processes -/

/-- The current directory of a process, and on Windows the one of each drive.
Source: Python `os.getcwd`, `os.path.abspath`
Kind: D -/
structure Process (F : PathFlavour) where
  cwd : AbsPath F
  driveDir : PyStr → PurePath

/-- The file a process opens under a path.
Source: Python `pathlib.Path.absolute`
Kind: D -/
def Process.absolute (proc : Process F) (p : PurePath) : PurePath :=
  if F.isAbsolute p then p
  else if p.drive ≠ [] then F.truediv (proc.driveDir p.drive) p
  else F.truediv proc.cwd.path p

/-- The test runner: `cwd=str(paths.project_root())`.
Source: `src/runner.py` `stream_run`
Kind: D -/
def pytestChild (inst : Installation F) (driveDir : PyStr → PurePath) : Process F where
  cwd := inst.projectRoot
  driveDir

/-- The directory in which the runner writes `results.json`, as a part of the command's process.
Source: `src/runner.py` `stream_run`, `src/run_artifacts.py` `RunArtifacts.save`
Kind: D -/
def resultsDir (inst : Installation F) (cli : Process F) (stamp : RunStamp) : PurePath :=
  (cli.absolute (fileIn F (newRunDir inst stamp) .results)).parent

/-- The directory of an artifact path in the test runner, which reads it from its command line.
Source: `src/runner.py` `build_pytest_args`, `conftest.py` `network_interface`, `pytest_configure`
Kind: D -/
def childDir (inst : Installation F) (child : Process F) (stamp : RunStamp) (file : RunFile) : PurePath :=
  (child.absolute (F.parse (passedPath inst stamp file))).parent

/-- The directory in which the command looks for an artifact or writes the report.
Source: `src/cli/main.py` `run`, `_emit_results`
Kind: D -/
def cliDir (cli : Process F) (stamp : RunStamp) (file : RunFile) : PurePath :=
  (cli.absolute (fileIn F (cliRunDir F stamp) file)).parent

/-- All parties address one run directory.
Source: none: specification
Kind: D -/
structure OneRunDirectory (inst : Installation F) (cli : Process F) (driveDir : PyStr → PurePath)
    (stamp : RunStamp) : Prop where
  child : ∀ arg ∈ ARTIFACT_FLAGS,
    F.Same (childDir inst (pytestChild inst driveDir) stamp arg.2) (resultsDir inst cli stamp)
  cli : ∀ file ∈ RUN_FILES, F.Same (cliDir cli stamp file) (resultsDir inst cli stamp)

/-! ## The names are plain -/

lemma isFileNameChar_of_isDigit {c : CodePoint} (h : Json.isDigit c = true) : isFileNameChar c = true := by
  unfold Json.isDigit at h
  unfold isFileNameChar
  rw [h]
  rfl

lemma isFileNameChar_hexDigit : ∀ n < 16, isFileNameChar (hexDigit n) = true := by decide

lemma all_padded (width n : Nat) : (padded width n).all isFileNameChar = true := by
  apply List.all_eq_true.mpr
  intro c hc
  rcases List.mem_append.mp hc with hc | hc
  · rw [List.eq_of_mem_replicate hc]
    decide
  · exact isFileNameChar_of_isDigit ((decimal_spec n).1.2 c hc)

lemma all_hex (data : List UInt8) (count : Nat) : ((data.flatMap hex02).take count).all isFileNameChar = true := by
  apply List.all_eq_true.mpr
  intro c hc
  obtain ⟨b, -, hb⟩ := List.mem_flatMap.mp (List.mem_of_mem_take hc)
  have hbyte := b.toNat_lt
  rcases List.mem_pair.mp hb with rfl | rfl
  · exact isFileNameChar_hexDigit _ (by omega)
  · exact isFileNameChar_hexDigit _ (by omega)

/-- The name of a run can be the name of a directory.
Source: `src/runner.py` `new_run_dir`
Kind: L -/
lemma isName_newRunId (stamp : RunStamp) : IsName (newRunId stamp) := by
  have hT : text "T" = [0x54] := text_spelled rfl
  have hdash : text "-" = [0x2D] := text_spelled rfl
  have hmarks : ([0x54] : PyStr).all isFileNameChar = true ∧ ([0x2D] : PyStr).all isFileNameChar = true := by decide
  have hmem : 0x54 ∈ newRunId stamp := by
    unfold newRunId
    rw [hT]
    simp
  refine ⟨List.ne_nil_of_mem hmem, ?_, ?_⟩
  · intro hdot
    rw [hdot] at hmem
    cases List.mem_singleton.mp hmem
  · unfold newRunId
    rw [hT, hdash]
    simp only [List.all_append, all_padded, all_hex, hmarks.1, hmarks.2, Bool.and_self]

lemma isName_REPORTS : IsName REPORTS := by
  rw [REPORTS, text_spelled rfl]
  decide

/-- Source: `src/run_artifacts.py` `RunArtifacts`. Kind: L -/
lemma isName_of_mem_RUN_FILES {file : RunFile} (h : file ∈ RUN_FILES) : IsName file.name := by
  simp only [RUN_FILES, FORMATS, List.map_cons, List.map_nil, List.cons_append, List.nil_append, List.mem_cons,
    List.not_mem_nil, or_false] at h
  rcases h with rfl | rfl | rfl | rfl | rfl | rfl | rfl | rfl
  all_goals
    unfold RunFile.name
    repeat rw [text_spelled rfl]
    decide

/-! ## Where each party ends up -/

/-- Source: `src/runner.py` `new_run_dir`. Kind: L -/
lemma newRunDir_eq (inst : Installation F) (stamp : RunStamp) :
    newRunDir inst stamp = inst.reportsBase.path.extend [REPORTS, newRunId stamp] := by
  rw [newRunDir, reportsDir, PathFlavour.truediv_name _ isName_REPORTS,
    PathFlavour.truediv_name _ (isName_newRunId stamp), PurePath.extend_extend]
  rfl

/-- Source: `src/cli/main.py` `run`. Kind: L -/
lemma cliRunDir_eq (stamp : RunStamp) :
    cliRunDir F stamp = { drive := [], root := [], parts := [REPORTS, newRunId stamp] } := by
  rw [cliRunDir, PathFlavour.truediv_name _ (isName_newRunId stamp), PathFlavour.parse_name isName_REPORTS]
  rfl

/-- Source: `src/run_artifacts.py` `RunArtifacts`. Kind: L -/
lemma fileIn_eq (root : PurePath) {file : RunFile} (h : file ∈ RUN_FILES) :
    fileIn F root file = root.extend [file.name] :=
  PathFlavour.truediv_name root (isName_of_mem_RUN_FILES h)

lemma Process.absolute_of_absolute (proc : Process F) (p : AbsPath F) : proc.absolute p.path = p.path := by
  rw [Process.absolute, if_pos p.absolute]

lemma Process.absolute_relative (proc : Process F) (parts : List PyStr) :
    proc.absolute { drive := [], root := [], parts } = proc.cwd.path.extend parts := by
  simp [Process.absolute, PathFlavour.isAbsolute, PathFlavour.truediv, PurePath.extend]

/-- The two names below the base or the current directory are parts.
Source: `src/runner.py` `new_run_dir`, `src/cli/main.py` `run`
Kind: L -/
lemma isPart_runDir (stamp : RunStamp) : ∀ part ∈ [REPORTS, newRunId stamp], F.IsPart part := by
  intro part hpart
  rcases List.mem_pair.mp hpart with rfl | rfl
  · exact PathFlavour.isPart_of_name isName_REPORTS
  · exact PathFlavour.isPart_of_name (isName_newRunId stamp)

/-- A file of the run directory, as an absolute path that can be printed and read back.
Source: `src/runner.py` `stream_run`
Kind: L -/
lemma exists_absPath (inst : Installation F) (stamp : RunStamp) {file : RunFile} (h : file ∈ RUN_FILES) :
    ∃ p : AbsPath F, p.path = fileIn F (newRunDir inst stamp) file := by
  have hname : ∀ part ∈ [file.name], F.IsPart part :=
    List.forall_mem_singleton.mpr (PathFlavour.isPart_of_name (isName_of_mem_RUN_FILES h))
  refine ⟨(inst.reportsBase.extend _ (isPart_runDir stamp)).extend _ hname, ?_⟩
  rw [fileIn_eq _ h, newRunDir_eq]
  rfl

/-- The runner writes into the directory it has made, whatever its current directory.
Source: `src/runner.py` `stream_run`
Kind: L -/
lemma resultsDir_eq (inst : Installation F) (cli : Process F) (stamp : RunStamp) :
    resultsDir inst cli stamp = newRunDir inst stamp := by
  have hresults : RunFile.results ∈ RUN_FILES := List.mem_cons_self
  obtain ⟨p, hp⟩ := exists_absPath inst stamp hresults
  rw [resultsDir, ← hp, cli.absolute_of_absolute p, hp, fileIn_eq _ hresults, PurePath.parent_extend]

/-- **The test runner writes into that directory too**, although it has another current directory and gets
the paths as texts.
Source: `src/runner.py` `build_pytest_args`
Kind: P -/
lemma childDir_eq (inst : Installation F) (child : Process F) (stamp : RunStamp) {file : RunFile}
    (h : file ∈ RUN_FILES) : childDir inst child stamp file = newRunDir inst stamp := by
  obtain ⟨p, hp⟩ := exists_absPath inst stamp h
  rw [childDir, passedPath, ← hp, p.parse_str, child.absolute_of_absolute p, hp, fileIn_eq _ h,
    PurePath.parent_extend]

/-- The command looks below its current directory.
Source: `src/cli/main.py` `run`
Kind: L -/
lemma cliDir_eq (cli : Process F) (stamp : RunStamp) {file : RunFile} (h : file ∈ RUN_FILES) :
    cliDir cli stamp file = cli.cwd.path.extend [REPORTS, newRunId stamp] := by
  have hfile : fileIn F (cliRunDir F stamp) file =
      { drive := [], root := [], parts := [REPORTS, newRunId stamp] ++ [file.name] } := by
    rw [fileIn_eq _ h, cliRunDir_eq]
    rfl
  rw [cliDir, hfile, cli.absolute_relative, ← PurePath.extend_extend, PurePath.parent_extend]

/-- The flags are about files of the run directory.
Source: `src/runner.py` `build_pytest_args`
Kind: L -/
lemma mem_RUN_FILES_of_flag {arg : PyStr × RunFile} (h : arg ∈ ARTIFACT_FLAGS) : arg.2 ∈ RUN_FILES := by
  simp only [ARTIFACT_FLAGS, List.mem_cons, List.not_mem_nil, or_false] at h
  rcases h with rfl | rfl | rfl | rfl <;> simp [RUN_FILES]

/-- The command and the runner mean the same directory exactly if the command has been started in the base of
the run directories.
Source: `src/cli/main.py` `run`, `src/runner.py` `stream_run`
Kind: P -/
lemma same_cliDir_iff (inst : Installation F) (cli : Process F) (stamp : RunStamp) {file : RunFile}
    (h : file ∈ RUN_FILES) :
    F.Same (cliDir cli stamp file) (resultsDir inst cli stamp) ↔
      F.Same cli.cwd.path inst.reportsBase.path := by
  rw [cliDir_eq cli stamp h, resultsDir_eq, newRunDir_eq]
  exact PathFlavour.same_extend_iff [REPORTS, newRunId stamp]

/-! ## The texts of these paths -/

/-- The paths of the test runner's command line and of the command's messages, for POSIX.
Source: `src/run_artifacts.py` `RunArtifacts`
Kind: L -/
lemma file_posix {p : PurePath} (hdrive : p.drive = []) (hne : p.parts ≠ [])
    (hparts : ∀ part ∈ p.parts, posix.IsPart part) {file : RunFile} (h : file ∈ RUN_FILES) :
    RunArtifacts.file ⟨posix.str p⟩ file.name = posix.str (fileIn posix p file) := by
  have hname : posix.IsPart file.name := PathFlavour.isPart_of_name (isName_of_mem_RUN_FILES h)
  have hmore : ∀ part ∈ (p.extend [file.name]).parts, posix.IsPart part :=
    List.forall_mem_append.mpr ⟨hparts, List.forall_mem_singleton.mpr hname⟩
  have hslash : text "/" = [SLASH] := text_spelled rfl
  have hstr := posix_str (p := p.extend [file.name]) hdrive (by simp [PurePath.extend]) hmore
  rw [fileIn_eq p h, hstr, RunArtifacts.file, posix_str hdrive hne hparts, PurePath.extend,
    PathFlavour.join_concat _ hne, hslash]
  simp only [List.append_assoc]

/-- The paths that are passed, as the files of the run directory's text.
Source: `src/runner.py` `build_pytest_args`
Kind: L -/
lemma file_newRunDir (inst : Installation posix) (stamp : RunStamp) {file : RunFile} (h : file ∈ RUN_FILES) :
    RunArtifacts.file ⟨posix.str (newRunDir inst stamp)⟩ file.name = passedPath inst stamp file := by
  let p := inst.reportsBase.extend _ (isPart_runDir stamp)
  have hne : p.path.parts ≠ [] := List.append_ne_nil_of_right_ne_nil _ (List.cons_ne_nil _ _)
  rw [passedPath, newRunDir_eq]
  exact file_posix p.posix_drive hne p.isPart h

/-- The paths in the command's messages, and the one of its report.
Source: `src/cli/main.py` `_emit_results`
Kind: L -/
lemma file_cliRunDir (stamp : RunStamp) {file : RunFile} (h : file ∈ RUN_FILES) :
    RunArtifacts.file ⟨posix.str (cliRunDir posix stamp)⟩ file.name =
      posix.str (fileIn posix (cliRunDir posix stamp) file) := by
  rw [cliRunDir_eq]
  exact file_posix rfl (List.cons_ne_nil _ _) (isPart_runDir stamp) h

/-- **The test runner's command line has these paths in it.**
Source: `src/runner.py` `build_pytest_args`
Kind: P -/
lemma flagToken_mem_buildPytestArgs {inst : Installation posix} {stamp : RunStamp} {install : Install}
    {request : RunRequest} {args : List PyStr}
    (hargs : buildPytestArgs install request (posix.str (newRunDir inst stamp)) = .ok args) :
    ∀ arg ∈ ARTIFACT_FLAGS, (arg.2 = .debugLog → request.debug = true) →
      flagToken arg.1 (passedPath inst stamp arg.2) ∈ args := by
  intro arg harg hdebug
  have hpath := file_newRunDir inst stamp (mem_RUN_FILES_of_flag harg)
  obtain ⟨size, -, hargs⟩ := bind_eq_ok.mp hargs
  obtain ⟨optional, -, hargs⟩ := bind_eq_ok.mp hargs
  obtain ⟨topology, -, hargs⟩ := bind_eq_ok.mp hargs
  obtain rfl := Except.ok.inj hargs
  rw [← hpath]
  simp only [ARTIFACT_FLAGS, List.mem_cons, List.not_mem_nil, or_false] at harg
  rcases harg with rfl | rfl | rfl | rfl
  · simp [fixedArgs, RunArtifacts.reportLog, RunFile.name]
  · simp [fixedArgs, RunArtifacts.packetEvents, RunFile.name]
  · simp [fixedArgs, RunArtifacts.capture, RunFile.name]
  · simp [hdebug rfl, RunArtifacts.debugLog, RunFile.name]

/-! ## One run directory -/

/-- **When there is one run directory**: exactly if the command is started in the directory below which the
run directories are made, the project's root when run from source, the executable's folder when frozen.
Source: `src/cli/main.py` `run`, `src/runner.py` `new_run_dir`, `stream_run`, `src/paths.py` `reports_base`
Kind: P -/
theorem run_directory_iff (inst : Installation F) (cli : Process F) (driveDir : PyStr → PurePath)
    (stamp : RunStamp) :
    OneRunDirectory inst cli driveDir stamp ↔
      if inst.frozen then F.Same cli.cwd.path (inst.executable.up 1).path
      else F.Same cli.cwd.path (inst.file.up 2).path := by
  have hbase : (if inst.frozen then F.Same cli.cwd.path (inst.executable.up 1).path
      else F.Same cli.cwd.path (inst.file.up 2).path) ↔ F.Same cli.cwd.path inst.reportsBase.path := by
    unfold Installation.reportsBase Installation.projectRoot
    cases inst.frozen <;> rfl
  rw [hbase]
  constructor
  · intro hone
    exact (same_cliDir_iff inst cli stamp List.mem_cons_self).mp (hone.cli .results List.mem_cons_self)
  · intro hcwd
    refine ⟨?_, ?_⟩
    · intro arg harg
      rw [childDir_eq inst _ stamp (mem_RUN_FILES_of_flag harg), resultsDir_eq]
      exact PathFlavour.Same.refl _ _
    · intro file hfile
      exact (same_cliDir_iff inst cli stamp hfile).mpr hcwd

/-- A run begun on new year's day.
Source: none: infrastructure
Kind: D -/
def newYear : RunStamp where
  year := 2025
  month := 1
  day := 1
  hour := 0
  minute := 0
  second := 0
  uuid := List.replicate 16 0xAB
  length_uuid := rfl

/-- The project under `/srv/netstack`, run from source.
Source: none: infrastructure
Kind: D -/
def sourceInstallation : Installation posix where
  frozen := false
  file := posixPath [text "srv", text "netstack", text "src", text "paths.py"]
    (PathFlavour.isPart_of_names (by decide +kernel))
  inDirectory := by decide
  executable := posixPath [text "usr", text "bin", text "python3"]
    (PathFlavour.isPart_of_names (by decide +kernel))
  meipass := posixPath [] (List.forall_mem_nil _)

/-- A shell in `/home`.
Source: none: infrastructure
Kind: D -/
def homeProcess : Process posix where
  cwd := posixPath [text "home"] (PathFlavour.isPart_of_names (by decide +kernel))
  driveDir := fun drive => { drive, root := [SLASH], parts := [] }

/-- The packaged program `C:\app\suite.exe`.
Source: none: infrastructure
Kind: D -/
def frozenInstallation : Installation (windowsFlavour lowerLatin1) where
  frozen := true
  file := drivePath lowerLatin1 0x43 (by decide) [text "tmp", text "src", text "paths.pyc"]
    (PathFlavour.isPart_of_names (by decide +kernel))
  inDirectory := by decide
  executable := drivePath lowerLatin1 0x43 (by decide) [text "app", text "suite.exe"]
    (PathFlavour.isPart_of_names (by decide +kernel))
  meipass := drivePath lowerLatin1 0x43 (by decide) [text "tmp"]
    (PathFlavour.isPart_of_names (by decide +kernel))

/-- A shell in `C:\Users`.
Source: none: infrastructure
Kind: D -/
def usersProcess : Process (windowsFlavour lowerLatin1) where
  cwd := drivePath lowerLatin1 0x43 (by decide) [text "Users"] (PathFlavour.isPart_of_names (by decide +kernel))
  driveDir := fun drive => { drive, root := [Json.BACKSLASH], parts := [] }

/-- **Started elsewhere, the command looks elsewhere**, from source as well as frozen.
Source: `src/cli/main.py` `run`
Kind: P -/
theorem started_elsewhere :
    ¬ OneRunDirectory sourceInstallation homeProcess homeProcess.driveDir newYear ∧
      ¬ OneRunDirectory frozenInstallation usersProcess usersProcess.driveDir newYear := by
  constructor
  · intro hone
    have hsame := hone.cli .results List.mem_cons_self
    rw [same_cliDir_iff _ _ _ List.mem_cons_self] at hsame
    have hlength := congrArg List.length hsame.2.2
    cases hlength
  · intro hone
    have hsame := hone.cli .results List.mem_cons_self
    rw [same_cliDir_iff _ _ _ List.mem_cons_self] at hsame
    have hparts : [lowerLatin1 (text "Users")] = [lowerLatin1 (text "app")] := hsame.2.2
    have hlength := congrArg List.length (List.singleton_injective hparts)
    rw [text_spelled rfl, text_spelled rfl] at hlength
    revert hlength
    decide

end NetstackSuite.Cli
