import Mathlib.Data.List.Infix
import NetstackSuite.Reporting.HtmlPieces
import NetstackSuite.Reporting.RunArtifacts

/-!
# The HTML report can be written

Text without lone surrogates stays so when it is escaped and put into the template, so the report of a run with such
strings is a file. `exists_report` is the case of one failed test with any strings, and an empty catalog.
-/

namespace NetstackSuite.Reporting

open NetstackSuite.Python

/-! ## Text that can be written -/

variable {a b : PyStr}

/-- Source: none: infrastructure. Kind: L -/
lemma writable_append (ha : Writable a) (hb : Writable b) : Writable (a ++ b) := by
  intro c hc
  rcases List.mem_append.1 hc with hc | hc
  · exact ha c hc
  · exact hb c hc

/-- The characters of a `String` are no surrogates.
Source: none: infrastructure
Kind: L -/
lemma writable_map (cs : List Char) : Writable (cs.map fun c => chr c.toNat) := by
  intro c hc
  obtain ⟨d, -, rfl⟩ := List.mem_map.1 hc
  have hvalid : d.toNat < 0xD800 ∨ 0xDFFF < d.toNat ∧ d.toNat < 0x110000 := d.valid
  have hval : (chr d.toNat).val = d.toNat := by
    rw [chr, Fin.val_ofNat]
    apply Nat.mod_eq_of_lt
    omega
  rw [hval]
  omega

/-- Source: none: infrastructure. Kind: L -/
lemma writable_text (s : String) : Writable (text s) := writable_map s.toList

/-- Source: none: infrastructure. Kind: L -/
lemma writable_of_spelled (h : ∃ cs, SpelledAs a cs ∧ '<' ∉ cs) : Writable a := by
  obtain ⟨cs, rfl, -⟩ := h
  exact writable_map cs

/-- Source: Python `html.escape`. Kind: L -/
lemma writable_htmlEscape (ha : Writable a) : Writable (htmlEscape a) := by
  intro c hc
  obtain ⟨d, hd, hc⟩ := List.mem_flatMap.1 hc
  split_ifs at hc
  case neg =>
    obtain rfl := List.mem_singleton.1 hc
    exact ha c hd
  all_goals exact writable_text _ c hc

/-- Source: Python `str.rsplit`. Kind: L -/
lemma writable_afterLast (sep : PyStr) (ha : Writable a) : Writable (afterLast sep a) := by
  unfold afterLast
  cases hfind : a.tails.reverse.find? fun t => (sep ++ t).isSuffixOf a with
  | none => exact ha
  | some t =>
      have hsuffix : t <:+ a := (List.mem_tails t a).1 (List.mem_reverse.1 (List.mem_of_find?_eq_some hfind))
      exact fun c hc => ha c (hsuffix.mem hc)

/-- Source: Python `int.__repr__`. Kind: L -/
lemma writable_decimal (n : Nat) : Writable (decimal n) := by
  intro c hc
  have hdigit : Json.isDigit c = true := (decimal_spec n).1.2 c hc
  have hle : c ≤ 0x39 := by
    unfold Json.isDigit at hdigit
    simp only [Bool.and_eq_true, decide_eq_true_eq] at hdigit
    exact hdigit.2
  have : c.val ≤ 0x39 := hle
  omega

/-! ## The sections -/

/-- The strings of a run can be written.
Source: none: specification
Kind: D -/
structure TestRunResult.IsWritable (iso : IsoFormat) (result : TestRunResult) : Prop where
  runId : Writable result.runId
  targetIp : Writable result.targetIp
  targetStack : Writable result.targetStack
  hostPlatform : Writable result.hostPlatform
  payloadMode : Writable result.payloadMode
  startedAt : ∀ t, Writable (iso.startedAt t)
  finishedAt : ∀ t, Writable (iso.finishedAt t)

/-- Source: `src/reporting/html_report.py` `generate_html_report`. Kind: L -/
lemma writable_htmlHead {runId : PyStr} (h : Writable runId) : Writable (htmlHead runId) := by
  have hroot : Writable rootCss := writable_of_spelled spelled_rootCss
  have hstyle : Writable STYLE := writable_of_spelled spelled_STYLE
  have hpalette : Writable paletteCss := writable_of_spelled spelled_paletteCss
  unfold htmlHead
  repeat' with_reducible apply writable_append
  all_goals first
    | with_reducible exact writable_text _
    | with_reducible exact writable_htmlEscape h
    | assumption

/-- Source: `src/reporting/models.py` `TestRunResult.role_description`. Kind: L -/
lemma writable_roleDescription (result : TestRunResult) : Writable result.roleDescription := by
  unfold TestRunResult.roleDescription
  split_ifs
  all_goals repeat' with_reducible apply writable_append
  all_goals exact writable_text _

/-- Source: `src/reporting/html_report.py` `_summary_section`. Kind: L -/
lemma writable_summarySection {iso : IsoFormat} {result : TestRunResult} (h : result.IsWritable iso) :
    Writable (summarySection iso result) := by
  unfold summarySection
  cases hfinished : result.finishedAt
  all_goals
    dsimp only
    repeat' with_reducible first
      | apply writable_append
      | apply writable_htmlEscape
    all_goals first
      | with_reducible exact writable_text _
      | with_reducible exact writable_decimal _
      | with_reducible exact writable_roleDescription _
      | exact h.finishedAt _
      | exact h.startedAt _
      | exact h.runId
      | exact h.targetIp
      | exact h.targetStack
      | exact h.hostPlatform
      | exact h.payloadMode

/-- Source: none: infrastructure. Kind: L -/
lemma writable_flatten {ps : List PyStr} (h : ∀ p ∈ ps, Writable p) : Writable ps.flatten := by
  intro c hc
  obtain ⟨p, hp, hc⟩ := List.mem_flatten.1 hc
  exact h p hp c hc

/-- Source: `src/reporting/html_report.py` `_artifacts_section`. Kind: L -/
lemma writable_artifactsSection {iso : IsoFormat} {result : TestRunResult} (h : result.IsWritable iso) :
    Writable (artifactsSection result) := by
  have hitems : Writable artifactItems := by
    apply writable_flatten
    intro item hitem
    obtain ⟨artifact, hartifact, rfl⟩ := List.mem_map.1 hitem
    have hwritable : ∀ artifact ∈ ARTIFACTS, Writable artifact.1 ∧ Writable artifact.2 := by
      simp only [ARTIFACTS, List.forall_mem_cons, writable_text, true_and]
      exact List.forall_mem_nil _
    repeat' with_reducible first
      | apply writable_append
      | apply writable_htmlEscape
    all_goals first
      | with_reducible exact writable_text _
      | exact (hwritable artifact hartifact).1
      | exact (hwritable artifact hartifact).2
  unfold artifactsSection reproductionCommand informationalNote
  repeat' with_reducible first
    | apply writable_append
    | apply writable_htmlEscape
  all_goals first
    | with_reducible exact writable_text _
    | exact hitems
    | exact h.runId
    | exact h.targetIp
    | exact h.targetStack


/-! ## A failed test -/

/-- A test that failed; its strings are all the same.
Source: none: example
Kind: D -/
def failedTest (s : String) : TestEvent where
  nodeid := .str (text s)
  outcome := .failed
  durationS := .int 0
  message := .str (text s)

/-- A run with one failed test; its strings are all the same.
Source: none: example
Kind: D -/
def oneFailure (s : String) : TestRunResult where
  runId := text s
  startedAt := 0
  finishedAt := none
  targetIp := text s
  targetStack := text s
  hostPlatform := text s
  payloadMode := text s
  role := text s
  tests := [failedTest s]

/-- Source: none: example. Kind: L -/
lemma outcomes_oneFailure (s : String) : (oneFailure s).tests.map TestEvent.outcome = [.failed] := rfl

/-- Source: none: example. Kind: L -/
lemma isWritable_oneFailure (s : String) : (oneFailure s).IsWritable sampleIso :=
  ⟨writable_text s, writable_text s, writable_text s, writable_text s, writable_text s, fun _ => writable_text _,
    fun _ => writable_text _⟩

variable (str : Json → PyStr) (s : String)

/-- Source: none: infrastructure. Kind: L -/
lemma mapM_singleton_ok {α β : Type} {f : α → Except PyExc β} {a : α} {x : β} (h : f a = .ok x) :
    [a].mapM f = .ok [x] := by
  rw [List.mapM_cons, h]
  rfl

/-- Source: `src/reporting/html_report.py` `_e`. Kind: L -/
lemma exists_htmlCell {v : Json} (h : Writable (strOf str v)) : ∃ x, htmlCell str v = .ok x ∧ Writable x := by
  refine ⟨_, rfl, ?_⟩
  apply writable_htmlEscape
  split
  · exact List.forall_mem_nil _
  · exact h

/-- Source: `src/reporting/html_report.py` `_findings_section`. Kind: L -/
lemma exists_findingHtml : ∃ x, findingHtml str ⟨failedTest s, none⟩ = .ok x ∧ Writable x := by
  obtain ⟨nodeid, hnodeid, hnodeidWritable⟩ := exists_htmlCell str (v := .str (text s)) (writable_text s)
  have hmessage : Writable (strOf str (if (failedTest s).message.truthy then (failedTest s).message
      else .str (text "(no message)"))) := by
    split
    all_goals exact writable_text _
  obtain ⟨message, hmessage, hmessageWritable⟩ := exists_htmlCell str hmessage
  have hstart : Writable (findingStart .failed) := by
    unfold findingStart
    repeat' with_reducible apply writable_append
    all_goals exact writable_text _
  refine ⟨_, bind_eq_ok.2 ⟨afterLast (text "::") (text s), rfl, bind_eq_ok.2 ⟨nodeid, hnodeid,
    bind_eq_ok.2 ⟨message, hmessage, rfl⟩⟩⟩, ?_⟩
  repeat' with_reducible first
    | apply writable_append
    | apply writable_htmlEscape
    | apply writable_afterLast
  all_goals first
    | with_reducible exact writable_text _
    | with_reducible assumption
    | exact hstart
    | exact writable_text _

/-- Source: `src/reporting/html_report.py` `_findings_section`. Kind: L -/
lemma exists_findingsSection : ∃ x, findingsSection str [] (oneFailure s) = .ok x ∧ Writable x := by
  obtain ⟨card, hcard, hcardWritable⟩ := exists_findingHtml str s
  have hcards : [⟨failedTest s, none⟩].mapM (findingHtml str) = .ok [card] := mapM_singleton_ok hcard
  refine ⟨_, bind_eq_ok.2 ⟨[⟨failedTest s, none⟩], rfl, bind_eq_ok.2 ⟨[card], hcards, rfl⟩⟩, ?_⟩
  have hcard : Writable [card].flatten := by
    rw [List.flatten_singleton]
    exact hcardWritable
  unfold findingsIntro
  repeat' with_reducible first
    | apply writable_append
    | apply writable_htmlEscape
    | apply writable_decimal
  all_goals first
    | with_reducible exact writable_text _
    | with_reducible assumption

/-- Source: `src/reporting/html_report.py` `_detail_section`. Kind: L -/
lemma exists_detailSection : ∃ x, detailSection str (oneFailure s) = .ok x ∧ Writable x := by
  obtain ⟨nodeid, hnodeid, hnodeidWritable⟩ := exists_htmlCell str (v := .str (text s)) (writable_text s)
  have hmessage : Writable (strOf str (if (failedTest s).message.truthy then (failedTest s).message else .str [])) := by
    split
    · exact writable_text s
    · exact List.forall_mem_nil _
  obtain ⟨message, hmessage, hmessageWritable⟩ := exists_htmlCell str hmessage
  obtain ⟨row, hrow, hrowWritable⟩ : ∃ x, testRow str (failedTest s) = .ok x ∧ Writable x := by
    refine ⟨_, bind_eq_ok.2 ⟨nodeid, hnodeid, bind_eq_ok.2 ⟨text (PyFloat.fixed3 (.finite false 0 0)), rfl,
      bind_eq_ok.2 ⟨message, hmessage, rfl⟩⟩⟩, ?_⟩
    unfold rowStart outcomeCell
    repeat' with_reducible first
      | apply writable_append
      | apply writable_htmlEscape
    all_goals first
      | with_reducible exact writable_text _
      | with_reducible assumption
      | exact writable_text _
  have hrows : [failedTest s].mapM (testRow str) = .ok [row] := mapM_singleton_ok hrow
  refine ⟨_, bind_eq_ok.2 ⟨[row], hrows, rfl⟩, ?_⟩
  have hrow : Writable [row].flatten := by
    rw [List.flatten_singleton]
    exact hrowWritable
  repeat' with_reducible apply writable_append
  all_goals first
    | with_reducible exact writable_text _
    | with_reducible assumption

/-- **The failed test gets a report**, whatever the string is.
Source: `src/reporting/html_report.py` `generate_html_report`
Kind: L -/
lemma exists_report (windows : Bool) :
    ∃ data, generateHtmlReport str sampleIso windows [] (oneFailure s) = .ok data := by
  have h : (oneFailure s).IsWritable sampleIso := isWritable_oneFailure s
  obtain ⟨findings, hfindings, hfindingsWritable⟩ := exists_findingsSection str s
  obtain ⟨details, hdetails, hdetailsWritable⟩ := exists_detailSection str s
  obtain ⟨document, hdocument, hwritable⟩ :
      ∃ x, htmlDocument str sampleIso [] (oneFailure s) = .ok x ∧ Writable x := by
    refine ⟨_, bind_eq_ok.2 ⟨findings, hfindings, bind_eq_ok.2 ⟨details, hdetails, bind_eq_ok.2 ⟨_, rfl, rfl⟩⟩⟩, ?_⟩
    have hhead : Writable (htmlHead (oneFailure s).runId) := writable_htmlHead h.runId
    have hsummary : Writable (summarySection sampleIso (oneFailure s)) := writable_summarySection h
    have hartifacts : Writable (artifactsSection (oneFailure s)) := writable_artifactsSection h
    have hcatalog : Writable (appendixCatalog []) := by
      unfold appendixCatalog CATALOG_INTRO
      repeat' with_reducible first
        | apply writable_append
        | apply writable_htmlEscape
      all_goals first
        | with_reducible exact writable_text _
        | exact List.forall_mem_nil _
    unfold PURPOSE RFC_INTRO
    repeat' with_reducible first
      | apply writable_append
      | apply writable_htmlEscape
    all_goals first
      | with_reducible exact writable_text _
      | with_reducible assumption
      | exact List.forall_mem_nil _
  obtain ⟨data, hdata⟩ := hwritable.exists_writeText windows
  exact ⟨data, bind_eq_ok.2 ⟨document, hdocument, hdata⟩⟩

end NetstackSuite.Reporting
