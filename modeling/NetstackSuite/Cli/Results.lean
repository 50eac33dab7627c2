import NetstackSuite.Python.JsonDumps
import NetstackSuite.Reporting.Models

/-!
# The end of a command-line run

`_emit_results` of `src/cli/main.py` prints a finished run, writes the report and computes the exit
code. The exit code depends on three things only (`emitResults_code`): whether pytest's return code
is at least 2, and whether a test failed or errored. `exit_code_sound_iff` says for which runs that is
enough for 0 to mean a pass.
-/

namespace NetstackSuite.Cli

open NetstackSuite.Python NetstackSuite.Reporting

/-! ## The run directory -/

/-- The files of one run directory.
Source: `src/run_artifacts.py` `RunArtifacts`
Kind: D -/
structure RunArtifacts where
  root : PyStr

namespace RunArtifacts

variable (artifacts : RunArtifacts)

/-- `self.root / name`.
Source: Python `pathlib.PurePosixPath.__truediv__`
Kind: D -/
def file (name : PyStr) : PyStr := artifacts.root ++ text "/" ++ name

/-- Source: `src/run_artifacts.py` `RunArtifacts.results`. Kind: D -/
def results : PyStr := artifacts.file (text "results.json")

/-- Source: `src/run_artifacts.py` `RunArtifacts.report_log`. Kind: D -/
def reportLog : PyStr := artifacts.file (text "report_log.jsonl")

/-- Source: `src/run_artifacts.py` `RunArtifacts.packet_events`. Kind: D -/
def packetEvents : PyStr := artifacts.file (text "packet_events.jsonl")

/-- Source: `src/run_artifacts.py` `RunArtifacts.capture`. Kind: D -/
def capture : PyStr := artifacts.file (text "capture.pcap")

/-- Source: `src/run_artifacts.py` `RunArtifacts.debug_log`. Kind: D -/
def debugLog : PyStr := artifacts.file (text "debug.log")

/-- Source: `src/run_artifacts.py` `RunArtifacts.pytest_output`. Kind: D -/
def pytestOutput : PyStr := artifacts.file (text "pytest_output.log")

/-- The default destination for a generated report.
Source: `src/run_artifacts.py` `RunArtifacts.report`
Kind: D -/
def report (suffix : PyStr) : PyStr := artifacts.file (text "report." ++ suffix)

end RunArtifacts

/-! ## Report formats -/

/-- A report format: its `--report` value and its name for humans.
Source: `src/reporting/formats.py` `ReportFormat`
Kind: D -/
structure ReportFormat where
  key : PyStr
  label : PyStr
  deriving DecidableEq

/-- Source: `src/reporting/formats.py` `FORMATS`. Kind: D -/
def FORMATS : List ReportFormat :=
  [{ key := text "pdf", label := text "PDF" }, { key := text "html", label := text "HTML" }]

/-- Source: `src/reporting/formats.py` `NO_REPORT`. Kind: D -/
def NO_REPORT : PyStr := text "none"

/-- `BY_KEY.get(key)`.
Source: `src/reporting/formats.py` `BY_KEY`
Kind: D -/
def byKey (key : PyStr) : Option ReportFormat := FORMATS.find? fun fmt => fmt.key == key

/-! ## `_emit_results` -/

/-- A line of `click.echo`, to standard output or to standard error.
Source: click `echo`
Kind: D -/
structure Echo where
  message : PyStr
  err : Bool := false
  deriving DecidableEq

/-- The one-line tally. A list's length has few enough digits to be printed.
Source: `src/reporting/models.py` `TestRunResult.counts_summary`
Kind: D -/
def countsSummary (result : TestRunResult) : PyStr :=
  decimal result.passed ++ text " passed, " ++ decimal result.failed ++ text " failed, " ++
    decimal result.errors ++ text " errored, " ++ decimal result.skipped ++ text " skipped, " ++
    decimal result.total ++ text " total"

/-- `f"\x7breturncode\x7d"`.
Source: `src/cli/main.py` `_emit_results`
Kind: D -/
def formatReturncode : Option Int → Except PyExc PyStr
  | none => .ok (text "None")
  | some rc => intRepr rc

/-- `returncode or 2`.
Source: `src/cli/main.py` `_emit_results`
Kind: D -/
def returncodeOrTwo : Option Int → Int
  | none => 2
  | some rc => if rc = 0 then 2 else rc

section Emit

-- The report generators by their format's key, and `str` of an exception.
variable (generate : PyStr → TestRunResult → PyStr → Except PyExc PyStr) (strExc : PyExc → PyStr)

/-- Writes the report, if one is asked for. An `except Exception` turns a failure into a message.
Source: `src/cli/main.py` `_emit_results`
Kind: D -/
def emitReport (result : TestRunResult) (artifacts : RunArtifacts) (report : PyStr) :
    Except PyExc (List Echo) :=
  match byKey report with
  | none => .ok []
  | some fmt =>
    match generate fmt.key result (artifacts.report fmt.key) with
    | .ok output => .ok [{ message := fmt.label ++ text " report: " ++ output }]
    | .error e =>
      if e.isInterrupt then .error e
      else .ok [{
        message := text "Could not write the " ++ fmt.label ++ text " report: " ++ strExc e ++
          text "\nThe run itself completed — its data is in " ++ artifacts.results ++
          text ", and the report can be regenerated from it without re-testing."
        err := true }]

/-- Prints the run's outcome, writes the report, and returns the exit code.
Source: `src/cli/main.py` `_emit_results`
Kind: D -/
def emitResults (result : TestRunResult) (runDir report : PyStr) (debug : Bool) :
    Except PyExc (List Echo × Int) := do
  let artifacts : RunArtifacts := { root := runDir }
  if result.errored then
    let code ← formatReturncode result.pytestReturncode
    return ([{
        message := text "\npytest exited with code " ++ code ++
          text " (collection/usage error or no tests). See " ++ artifacts.pytestOutput
        err := true }],
      returncodeOrTwo result.pytestReturncode)
  let noTests : List Echo :=
    if result.total = 0 then [{
      message := text "No tests ran. Check your --module/--submodule/--test selection and " ++
        text "the target configuration. Raw output: " ++ artifacts.pytestOutput
      err := true }]
    else []
  let debugLog : List Echo :=
    if debug then [{ message := text "Debug log: " ++ artifacts.debugLog }] else []
  let reported ← emitReport generate strExc result artifacts report
  return ([{ message := text "\n" ++ countsSummary result }] ++ noTests ++ debugLog ++ reported,
    if result.failed ≠ 0 ∨ result.errors ≠ 0 then 1 else 0)

variable {generate strExc} {result : TestRunResult} {runDir report : PyStr} {debug : Bool}

/-- **The exit code** of a call that returns: pytest's own from 2 on, else 1 or 0 by the tests.
Source: `src/cli/main.py` `_emit_results`
Kind: P -/
theorem emitResults_code {lines : List Echo} {code : Int}
    (hemit : emitResults generate strExc result runDir report debug = .ok (lines, code)) :
    code =
      if result.errored then returncodeOrTwo result.pytestReturncode
      else if result.failed ≠ 0 ∨ result.errors ≠ 0 then 1 else 0 := by
  unfold emitResults at hemit
  by_cases herrored : result.errored = true
  · rw [if_pos herrored]
    rcases hcode : formatReturncode result.pytestReturncode with e | shown
    · simp [herrored, hcode, bind, Except.bind] at hemit
    · simp only [herrored, hcode, if_true, bind, Except.bind, pure, Except.pure, Except.ok.injEq,
        Prod.mk.injEq] at hemit
      exact hemit.2.symm
  · rw [if_neg herrored]
    rcases hreport : emitReport generate strExc result { root := runDir } report with e | reported
    · simp [herrored, hreport, bind, Except.bind] at hemit
    · simp only [herrored, hreport, Bool.false_eq_true, if_false, bind, Except.bind, pure,
        Except.pure, Except.ok.injEq, Prod.mk.injEq] at hemit
      exact hemit.2.symm

/-- Without a report, a run that pytest could run is always reported on.
Source: `src/cli/main.py` `_emit_results`
Kind: L -/
lemma emitResults_noReport (herrored : result.errored = false) :
    ∃ lines, emitResults generate strExc result runDir NO_REPORT debug =
      .ok (lines, if result.failed ≠ 0 ∨ result.errors ≠ 0 then 1 else 0) := by
  have hnone : emitReport generate strExc result { root := runDir } NO_REPORT = .ok [] := by
    unfold emitReport
    rw [show byKey NO_REPORT = none by decide +kernel]
  unfold emitResults
  simp only [herrored, hnone, Bool.false_eq_true, if_false, bind, Except.bind, pure, Except.pure,
    Except.ok.injEq, Prod.mk.injEq, and_true]
  exact ⟨_, rfl⟩

end Emit

/-! ## What the exit code means -/

/-- No test failed and none errored.
Source: none: specification
Kind: D -/
def NoFailure (result : TestRunResult) : Prop :=
  ∀ t ∈ result.tests, t.outcome ≠ .failed ∧ t.outcome ≠ .error

/-- The two tallies the exit code looks at are zero exactly if there is no failure.
Source: `src/reporting/models.py` `TestRunResult.failed`, `TestRunResult.errors`
Kind: L -/
lemma noFailure_iff (result : TestRunResult) :
    NoFailure result ↔ ¬ (result.failed ≠ 0 ∨ result.errors ≠ 0) := by
  unfold NoFailure TestRunResult.failed TestRunResult.errors
  rw [not_or, not_not, not_not, TestRunResult.tally_eq_zero_iff, TestRunResult.tally_eq_zero_iff]
  exact forall₂_and

/-- Exit code 0 is a pass: pytest returned 0, and no test failed or errored. This is about every call
for this run, whatever report is asked for and however its generator ends.
Source: none: specification
Kind: D -/
def ExitCodeSound (result : TestRunResult) : Prop :=
  ∀ generate strExc runDir report debug lines,
    emitResults generate strExc result runDir report debug = .ok (lines, 0) →
    result.pytestReturncode = some 0 ∧ NoFailure result

/-- **Exit code 0 is a pass exactly for the runs whose return code is 0 or at least 2, or which have
a failed or errored test.** Otherwise pytest was interrupted (1 and nothing failed), killed (a
negative code) or never ended, and the exit code is 0 all the same.
Source: `src/cli/main.py` `_emit_results`
Kind: P -/
theorem exit_code_sound_iff (result : TestRunResult) :
    ExitCodeSound result ↔
      result.pytestReturncode = some 0 ∨ (∃ rc, result.pytestReturncode = some rc ∧ 2 ≤ rc) ∨
        ∃ t ∈ result.tests, t.outcome = .failed ∨ t.outcome = .error := by
  have hfailure : (∃ t ∈ result.tests, t.outcome = .failed ∨ t.outcome = .error) ↔
      ¬ NoFailure result := by
    unfold NoFailure
    push Not
    refine exists_congr fun t => and_congr_right fun _ => ?_
    rw [or_iff_not_imp_left]
  have herrored : result.errored = true ↔
      ∃ rc, result.pytestReturncode = some rc ∧ 2 ≤ rc := by
    unfold TestRunResult.errored
    rcases result.pytestReturncode with _ | rc <;> simp
  rw [hfailure]
  constructor
  · intro hsound
    by_contra hnot
    push Not at hnot
    obtain ⟨hzero, hlow, hnofailure⟩ := hnot
    have hran : result.errored = false := by
      rw [← Bool.not_eq_true, herrored]
      push Not
      exact hlow
    obtain ⟨lines, hemit⟩ :=
      @emitResults_noReport (fun _ _ path => .ok path) (fun _ => []) result [] false hran
    rw [if_neg ((noFailure_iff result).mp hnofailure)] at hemit
    exact hzero (hsound _ _ _ _ _ _ hemit).1
  · intro hwhen generate strExc runDir report debug lines hemit
    have hcode := emitResults_code hemit
    by_cases hrun : result.errored = true
    · obtain ⟨rc, hrc, hle⟩ := herrored.mp hrun
      rw [if_pos hrun, hrc, returncodeOrTwo] at hcode
      split_ifs at hcode <;> exact absurd hcode (by omega)
    · rw [if_neg hrun] at hcode
      have hnofailure : NoFailure result := by
        rw [noFailure_iff]
        intro hfail
        rw [if_pos hfail] at hcode
        exact absurd hcode (by decide)
      refine ⟨?_, hnofailure⟩
      rcases hwhen with hzero | hhigh | hfail
      · exact hzero
      · exact absurd (herrored.mpr hhigh) hrun
      · exact absurd hnofailure hfail

/-- **A killed test run exits with 0.**
Source: `src/cli/main.py` `_emit_results`
Kind: P -/
theorem killed_run_exits_zero : ¬ ∀ result, ExitCodeSound result := by
  intro hsound
  have hkilled := hsound { plainHeader with pytestReturncode := some (-9) }
    (fun _ _ path => .ok path) (fun _ => []) (text "reports/run") NO_REPORT false _ rfl
  exact absurd hkilled.1 (by decide)

end NetstackSuite.Cli
