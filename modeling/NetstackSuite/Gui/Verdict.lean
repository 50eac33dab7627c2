import NetstackSuite.Cli.Results
import NetstackSuite.Python.Int

/-!
# The front ends' verdicts on a finished run

Three procedures decide whether a run went well: the exit code of the command line (`emitResults`), the
header pill of the window (`_verdict`, `src/gui/main_window.py`) and the status of the report panel
(`set_result`, `src/gui/report_panel.py`).

The two of the window always agree. The exit code calls an empty run a success where they do not; and
the pill says that all tests passed when some were skipped. `front_ends_agree_iff` says for which runs
neither matters.
-/

namespace NetstackSuite.Gui

open NetstackSuite.Python NetstackSuite.Reporting NetstackSuite.Cli

/-! ## The window -/

/-- The ink of a status line.
Source: `src/gui/main_window.py` `_verdict`
Kind: D -/
inductive Ink where
  | ok
  | bad
  | idle
  deriving DecidableEq, Repr

/-- The pill's text when every test went well.
Source: `src/gui/main_window.py` `_verdict`
Kind: D -/
def allPassed (count : Nat) : PyStr :=
  text "All " ++ decimal count ++ text " selected tests passed"

/-- The header pill's text and ink for a finished run.
Source: `src/gui/main_window.py` `_verdict`
Kind: D -/
def verdict (result : TestRunResult) (stopped launchFailed : Bool) : Except PyExc (PyStr × Ink) :=
  if launchFailed then .ok (text "Could not start the run", .bad)
  else if stopped then .ok (text "Stopped — " ++ countsSummary result, .idle)
  else if result.errored then do
    let code ← formatReturncode result.pytestReturncode
    return (text "pytest exited " ++ code ++ text " — see the Log", .bad)
  else if result.total = 0 then .ok (text "No tests ran", .bad)
  else if result.failed ≠ 0 ∨ result.errors ≠ 0 then
    .ok (decimal result.failed ++ text " failed, " ++ decimal result.errors ++ text " errored of " ++
      decimal result.total, .bad)
  else .ok (allPassed result.total, .ok)

/-- What the report panel says of a run.
Source: `src/gui/report_panel.py` `ReportPanel.set_result`
Kind: D -/
def panelSummary (result : TestRunResult) : Except PyExc PyStr :=
  if result.errored then do
    let code ← formatReturncode result.pytestReturncode
    return text "pytest exited with code " ++ code ++
      text " (collection/usage error or no tests) — see the Log tab."
  else if result.total = 0 then
    .ok (text "no tests ran — check the test selection and configuration.")
  else .ok (countsSummary result ++ text ".")

/-- The report panel's text and ink for a finished run.
Source: `src/gui/report_panel.py` `ReportPanel.set_result`
Kind: D -/
def setResult (result : TestRunResult) : Except PyExc (PyStr × Ink) := do
  let summary ← panelSummary result
  return (text "Run " ++ result.runId ++ text ": " ++ summary,
    if result.errored ∨ result.failed ≠ 0 ∨ result.errors ≠ 0 ∨ result.total = 0 then .bad else .ok)

/-! ## When each of them is content -/

/-- The header is content: the run went through, there were tests, and none failed or errored.
Source: none: specification
Kind: D -/
def Content (result : TestRunResult) : Prop :=
  result.errored = false ∧ result.tests ≠ [] ∧ NoFailure result

/-- Where the pill is content it counts all tests as passed; elsewhere it is red, with another text.
Source: `src/gui/main_window.py` `_verdict`
Kind: P -/
lemma verdict_spec {result : TestRunResult} {shown : PyStr} {ink : Ink}
    (h : verdict result false false = .ok (shown, ink)) :
    (Content result ∧ shown = allPassed result.total ∧ ink = .ok) ∨
      (¬ Content result ∧ (∀ count, shown ≠ allPassed count) ∧ ink = .bad) := by
  have hA : ∀ count, (allPassed count).head? = some 0x41 := fun _ => rfl
  -- the texts of the other branches do not start with the letter A
  have hother : ∀ c s, shown = c :: s → c ≠ 0x41 → ∀ count, shown ≠ allPassed count := by
    rintro c s rfl hc count heq
    have hhead := hA count
    rw [← heq] at hhead
    exact hc (Option.some.inj hhead)
  unfold verdict at h
  simp only [Bool.false_eq_true, if_false] at h
  by_cases herrored : result.errored = true
  · rw [if_pos herrored] at h
    obtain ⟨code, -, h⟩ := bind_eq_ok.mp h
    obtain ⟨rfl, rfl⟩ := Prod.mk.inj (Except.ok.inj h)
    refine Or.inr ⟨?_, hother 0x70 _ rfl (by decide), rfl⟩
    rintro ⟨hran, -⟩
    rw [herrored] at hran
    cases hran
  · rw [if_neg herrored] at h
    by_cases hempty : result.total = 0
    · rw [if_pos hempty] at h
      obtain ⟨rfl, rfl⟩ := Prod.mk.inj (Except.ok.inj h)
      refine Or.inr ⟨?_, hother 0x4E _ rfl (by decide), rfl⟩
      rintro ⟨-, hsome, -⟩
      exact hsome (List.length_eq_zero_iff.mp hempty)
    · rw [if_neg hempty] at h
      by_cases hfailure : result.failed ≠ 0 ∨ result.errors ≠ 0
      · rw [if_pos hfailure] at h
        obtain ⟨rfl, rfl⟩ := Prod.mk.inj (Except.ok.inj h)
        obtain ⟨⟨hne, hdigits⟩, -⟩ := decimal_spec result.failed
        obtain ⟨d, ds, hd⟩ := List.exists_cons_of_ne_nil hne
        refine Or.inr ⟨fun hcontent => (noFailure_iff result).mp hcontent.2.2 hfailure, ?_, rfl⟩
        apply hother d _ (by rw [hd]; rfl)
        rintro rfl
        have hdigit := isDigit_iff.mp (hdigits 0x41 (by rw [hd]; exact List.mem_cons_self))
        exact absurd hdigit.2 (by decide)
      · rw [if_neg hfailure] at h
        obtain ⟨rfl, rfl⟩ := Prod.mk.inj (Except.ok.inj h)
        refine Or.inl ⟨⟨Bool.not_eq_true _ ▸ herrored, ?_, (noFailure_iff result).mpr hfailure⟩, rfl, rfl⟩
        intro hnil
        exact hempty (List.length_eq_zero_iff.mpr hnil)

/-- A content pill is shown.
Source: `src/gui/main_window.py` `_verdict`
Kind: L -/
lemma verdict_of_content {result : TestRunResult} (h : Content result) :
    verdict result false false = .ok (allPassed result.total, .ok) := by
  obtain ⟨hran, hsome, hnofailure⟩ := h
  unfold verdict
  have hfailure := (noFailure_iff result).mp hnofailure
  have hcount : ¬ result.total = 0 := fun hzero => hsome (List.length_eq_zero_iff.mp hzero)
  simp only [Bool.false_eq_true, if_false, hran, if_neg hcount, if_neg hfailure]

/-- The report panel is content for the same runs.
Source: `src/gui/report_panel.py` `ReportPanel.set_result`
Kind: P -/
lemma setResult_ok_iff (result : TestRunResult) :
    (∃ shown, setResult result = .ok (shown, .ok)) ↔ Content result := by
  have hbad : (result.errored = true ∨ result.failed ≠ 0 ∨ result.errors ≠ 0 ∨ result.total = 0) ↔
      ¬ Content result := by
    unfold Content
    rw [noFailure_iff]
    unfold TestRunResult.total
    rw [List.length_eq_zero_iff]
    rw [not_and_or, not_and_or, not_not, not_not, Bool.not_eq_false, or_comm (a := result.tests = []),
      or_assoc]
  unfold setResult
  by_cases hcontent : Content result
  · have hgood := fun h => hbad.mp h hcontent
    have hsummary : ∃ summary, panelSummary result = .ok summary := by
      unfold panelSummary
      simp only [hcontent.1, Bool.false_eq_true, if_false]
      split
      · exact ⟨_, rfl⟩
      · exact ⟨_, rfl⟩
    obtain ⟨summary, hsummary⟩ := hsummary
    simp only [hcontent, iff_true, hsummary, if_neg hgood]
    exact ⟨_, rfl⟩
  · simp only [if_pos (hbad.mpr hcontent), hcontent, iff_false]
    rintro ⟨shown, h⟩
    obtain ⟨summary, -, h⟩ := bind_eq_ok.mp h
    cases (Prod.mk.inj (Except.ok.inj h)).2

/-- The command line is content with an empty run too.
Source: `src/cli/main.py` `_emit_results`
Kind: L -/
lemma exitCode_eq_zero_iff {generate : PyStr → TestRunResult → PyStr → Except PyExc PyStr}
    {strExc : PyExc → PyStr} {result : TestRunResult} {runDir report : PyStr} {debug : Bool}
    {lines : List Echo} {code : Int}
    (hemit : emitResults generate strExc result runDir report debug = .ok (lines, code)) :
    code = 0 ↔ result.errored = false ∧ NoFailure result := by
  rw [emitResults_code hemit, noFailure_iff]
  by_cases herrored : result.errored = true
  · simp only [herrored, if_true, Bool.true_eq_false, false_and, iff_false]
    unfold TestRunResult.errored at herrored
    rcases hrc : result.pytestReturncode with _ | rc
    · rw [hrc] at herrored
      cases herrored
    · rw [hrc] at herrored
      have hle : 2 ≤ rc := of_decide_eq_true herrored
      have hnonzero : ¬ rc = 0 := by omega
      simp only [returncodeOrTwo, if_neg hnonzero]
      exact hnonzero
  · have hran : result.errored = false := Bool.not_eq_true _ ▸ herrored
    rw [if_neg herrored, hran]
    by_cases hfailure : result.failed ≠ 0 ∨ result.errors ≠ 0
    · simp [hfailure]
    · simp [hfailure]

/-! ## Agreement -/

/-- The three verdicts on a run that was neither stopped nor failed to launch agree, for every call of
the command line that returns a code; and the header says that all tests passed only if they did.
Source: none: specification
Kind: D -/
structure FrontEndsAgree (result : TestRunResult) : Prop where
  exit_iff_header : ∀ generate strExc runDir report debug lines code,
    emitResults generate strExc result runDir report debug = .ok (lines, code) →
      (code = 0 ↔ ∃ shown, verdict result false false = .ok (shown, .ok))
  header_iff_panel : (∃ shown, verdict result false false = .ok (shown, .ok)) ↔
    ∃ shown, setResult result = .ok (shown, .ok)
  header_true : ∀ count ink, verdict result false false = .ok (allPassed count, ink) →
    result.tests.length = count ∧ ∀ t ∈ result.tests, t.outcome = .passed

/-- The header is content exactly for the content runs.
Source: `src/gui/main_window.py` `_verdict`
Kind: L -/
lemma verdict_ok_iff (result : TestRunResult) :
    (∃ shown, verdict result false false = .ok (shown, .ok)) ↔ Content result := by
  constructor
  · rintro ⟨shown, h⟩
    rcases verdict_spec h with ⟨hcontent, -, -⟩ | ⟨-, -, hink⟩
    · exact hcontent
    · cases hink
  · intro h
    exact ⟨_, verdict_of_content h⟩

lemma allPassed_injective {count count' : Nat} (h : allPassed count = allPassed count') :
    count = count' := by
  unfold allPassed at h
  rw [List.append_assoc, List.append_assoc] at h
  have hdigits := List.append_cancel_right (List.append_cancel_left h)
  rw [← (decimal_spec count).2, ← (decimal_spec count').2, hdigits]

/-- **The front ends agree exactly on the runs that pytest could not run, the runs with a failure or an
error, and the runs with tests none of which was skipped.** On the others, an empty run exits with 0
while the window is red, or the header counts skipped tests as passed.
Source: `src/cli/main.py` `_emit_results`, `src/gui/main_window.py` `_verdict`
Kind: P -/
theorem front_ends_agree_iff (result : TestRunResult) :
    FrontEndsAgree result ↔
      result.errored = true ∨ (∃ t ∈ result.tests, t.outcome = .failed ∨ t.outcome = .error) ∨
        (result.tests ≠ [] ∧ ∀ t ∈ result.tests, t.outcome ≠ .skipped) := by
  constructor
  · rintro ⟨hexit, -, htrue⟩
    by_contra hnot
    rw [not_or, not_or, Bool.not_eq_true] at hnot
    obtain ⟨hran, hfailed, hskipped⟩ := hnot
    have hnofailure : NoFailure result := fun t ht =>
      ⟨fun h => hfailed ⟨t, ht, Or.inl h⟩, fun h => hfailed ⟨t, ht, Or.inr h⟩⟩
    obtain ⟨lines, hemit⟩ :=
      @emitResults_noReport (fun _ _ path => .ok path) (fun _ => []) result [] false hran
    have hcontent : Content result := by
      rw [← verdict_ok_iff, ← hexit _ _ _ _ _ _ _ hemit, exitCode_eq_zero_iff hemit]
      exact ⟨hran, hnofailure⟩
    obtain ⟨-, hpassed⟩ := htrue _ _ (verdict_of_content hcontent)
    refine hskipped ⟨hcontent.2.1, fun t ht hskip => ?_⟩
    rw [hpassed t ht] at hskip
    cases hskip
  · intro hwhen
    refine ⟨?_, ?_, ?_⟩
    · intro generate strExc runDir report debug lines code hemit
      rw [exitCode_eq_zero_iff hemit, verdict_ok_iff]
      constructor
      · rintro ⟨hran, hnofailure⟩
        rcases hwhen with herrored | ⟨t, ht, hfailure⟩ | ⟨hsome, -⟩
        · rw [hran] at herrored
          cases herrored
        · rcases hfailure with hfailed | herror
          · exact absurd hfailed (hnofailure t ht).1
          · exact absurd herror (hnofailure t ht).2
        · exact ⟨hran, hsome, hnofailure⟩
      · rintro ⟨hran, -, hnofailure⟩
        exact ⟨hran, hnofailure⟩
    · rw [verdict_ok_iff, setResult_ok_iff]
    · intro count ink hheader
      rcases verdict_spec hheader with ⟨⟨hran, hsome, hnofailure⟩, hshown, -⟩ | ⟨-, hother, -⟩
      · refine ⟨(allPassed_injective hshown).symm, ?_⟩
        intro t ht
        obtain ⟨hfailed, herror⟩ := hnofailure t ht
        rcases hwhen with herrored | ⟨t', ht', hfailure⟩ | ⟨-, hskipped⟩
        · rw [hran] at herrored
          cases herrored
        · rcases hfailure with h | h
          · exact absurd h (hnofailure t' ht').1
          · exact absurd h (hnofailure t' ht').2
        · have hskip := hskipped t ht
          rcases houtcome : t.outcome with _ | _ | _ | _
          · rfl
          · exact absurd houtcome hfailed
          · exact absurd houtcome hskip
          · exact absurd houtcome herror
      · exact absurd rfl (hother count)

/-- **A run without tests whose child was killed exits with 0 while the header says that no tests ran.**
Source: `src/cli/main.py` `_emit_results`
Kind: P -/
theorem empty_run_disagrees :
    ¬ FrontEndsAgree { plainHeader with pytestReturncode := some (-9) } := by
  rintro ⟨hexit, -, -⟩
  have hzero := hexit (fun _ _ path => .ok path) (fun _ => []) (text "reports/run") NO_REPORT false _ 0 rfl
  obtain ⟨shown, hshown⟩ := hzero.mp rfl
  cases hshown

end NetstackSuite.Gui
