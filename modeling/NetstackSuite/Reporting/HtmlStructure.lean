import NetstackSuite.Reporting.HtmlWritten

/-!
# What a run cannot change in the HTML report

`html_structure`: the reports of two runs whose tests have the same outcomes have the same tags, whatever their other
strings are. The outcomes give the classes of the rows and of the findings, in an order that depends on them only.
-/

namespace NetstackSuite.Reporting

open NetstackSuite.Python NetstackSuite.Lib.HtmlTags

/-- The tags of a report, read back from its file.
Source: none: specification
Kind: D -/
def htmlTags (data : Bytes) : List PyStr := tags (decodeReplace data)

section Sections

variable {windows : Bool}

/-! ## The tests -/

/-- Source: Python `format`. Kind: L -/
lemma plain_formatFixed3 {v : Json} {x : PyStr} (h : v.formatFixed3 = .ok x) : Plain x := by
  unfold Json.formatFixed3 at h
  split at h
  · obtain ⟨y, -, hy⟩ := bind_eq_ok.1 h
    obtain rfl := Except.ok.inj hy
    exact plain_fixed3 y
  · split at h <;> cases h

/-- Source: `src/reporting/html_report.py` `_e`. Kind: L -/
lemma alike_htmlCell {str₁ str₂ : Json → PyStr} {v w : Json} {x y : PyStr} (hx : htmlCell str₁ v = .ok x)
    (hy : htmlCell str₂ w = .ok y) : Alike windows x y := by
  obtain rfl := Except.ok.inj hx
  obtain rfl := Except.ok.inj hy
  exact .escaped _ _

/-- Source: none: infrastructure. Kind: L -/
lemma forall₂_of_map_eq {α β : Type} {f : α → β} {as bs : List α} (h : as.map f = bs.map f) :
    List.Forall₂ (fun a b => f a = f b) as bs := by
  have heq : List.Forall₂ (· = ·) (as.map f) (bs.map f) := by
    rw [List.forall₂_eq_eq_eq]
    exact h
  rwa [List.forall₂_map_left_iff, List.forall₂_map_right_iff] at heq

/-- Two comprehensions over lists that are related one by one.
Source: none: infrastructure
Kind: L -/
lemma forall₂_mapM {α β : Type} {f g : α → Except PyExc β} {R : α → α → Prop} {S : β → β → Prop}
    (hfg : ∀ a b x y, R a b → f a = .ok x → g b = .ok y → S x y) {as bs : List α} (h : List.Forall₂ R as bs)
    {xs ys : List β} (hxs : as.mapM f = .ok xs) (hys : bs.mapM g = .ok ys) : List.Forall₂ S xs ys := by
  induction h generalizing xs ys with
  | nil =>
      obtain rfl := Except.ok.inj hxs
      obtain rfl := Except.ok.inj hys
      exact .nil
  | cons hhead _ ih =>
      rw [List.mapM_cons] at hxs hys
      obtain ⟨x, hx, hxs⟩ := bind_eq_ok.1 hxs
      obtain ⟨xs', hxs', hxs⟩ := bind_eq_ok.1 hxs
      obtain ⟨y, hy, hys⟩ := bind_eq_ok.1 hys
      obtain ⟨ys', hys', hys⟩ := bind_eq_ok.1 hys
      obtain rfl := Except.ok.inj hxs
      obtain rfl := Except.ok.inj hys
      exact .cons (hfg _ _ _ _ hhead hx hy) (ih hxs' hys')

/-- **A test's row**, whatever the test's strings and numbers.
Source: `src/reporting/html_report.py` `_detail_section`
Kind: L -/
lemma alike_testRow {str₁ str₂ : Json → PyStr} {t u : TestEvent} (houtcome : t.outcome = u.outcome) {x y : PyStr}
    (hx : testRow str₁ t = .ok x) (hy : testRow str₂ u = .ok y) : Alike windows x y := by
  obtain ⟨nodeid₁, hnodeid₁, hx⟩ := bind_eq_ok.1 hx
  obtain ⟨duration₁, hduration₁, hx⟩ := bind_eq_ok.1 hx
  obtain ⟨message₁, hmessage₁, hx⟩ := bind_eq_ok.1 hx
  obtain ⟨nodeid₂, hnodeid₂, hy⟩ := bind_eq_ok.1 hy
  obtain ⟨duration₂, hduration₂, hy⟩ := bind_eq_ok.1 hy
  obtain ⟨message₂, hmessage₂, hy⟩ := bind_eq_ok.1 hy
  obtain rfl := Except.ok.inj hx
  obtain rfl := Except.ok.inj hy
  rw [houtcome]
  have hdurations : Alike windows duration₁ duration₂ :=
    .plain (plain_formatFixed3 hduration₁) (plain_formatFixed3 hduration₂)
  apply AlikeIf.alike
  · repeat' with_reducible apply AlikeIf.append
    all_goals first
      | with_reducible apply AlikeIf.hole (Alike.escaped _ _)
      | with_reducible apply AlikeIf.hole (alike_htmlCell hnodeid₁ hnodeid₂)
      | with_reducible apply AlikeIf.hole hdurations
      | with_reducible apply AlikeIf.hole (alike_htmlCell hmessage₁ hmessage₂)
      | with_reducible apply AlikeIf.hole (alike_rowStart _)
      | with_reducible apply AlikeIf.hole (alike_outcomeCell _)
      | exact AlikeIf.template rfl
  · decide

/-- **The table of the tests** depends on the outcomes only.
Source: `src/reporting/html_report.py` `_detail_section`
Kind: L -/
lemma alike_detailSection {str₁ str₂ : Json → PyStr} {r₁ r₂ : TestRunResult}
    (houtcomes : r₁.tests.map TestEvent.outcome = r₂.tests.map TestEvent.outcome) {x y : PyStr}
    (hx : detailSection str₁ r₁ = .ok x) (hy : detailSection str₂ r₂ = .ok y) : Alike windows x y := by
  obtain ⟨rows₁, hrows₁, hx⟩ := bind_eq_ok.1 hx
  obtain ⟨rows₂, hrows₂, hy⟩ := bind_eq_ok.1 hy
  obtain rfl := Except.ok.inj hx
  obtain rfl := Except.ok.inj hy
  have hrows : List.Forall₂ (Alike windows) rows₁ rows₂ :=
    forall₂_mapM (f := testRow str₁) (g := testRow str₂) (fun _ _ _ _ houtcome hx hy => alike_testRow houtcome hx hy)
      (forall₂_of_map_eq houtcomes) hrows₁ hrows₂
  apply AlikeIf.alike
  · repeat' with_reducible apply AlikeIf.append
    all_goals first
      | with_reducible apply AlikeIf.hole (Alike.flatten hrows)
      | exact AlikeIf.template rfl
  · decide

/-! ## The findings -/

/-- The tests that are findings are sorted by severity.
Source: `src/reporting/report_data.py` `build_findings`
Kind: L -/
lemma pairwise_outcome_sortedProblems (result : TestRunResult) :
    ((sortedProblems result).map TestEvent.outcome).Pairwise fun a b => findingSeverity a ≤ findingSeverity b := by
  rw [List.pairwise_map]
  apply (List.pairwise_insertionSort (fun t u => findingKey t ≤ findingKey u) _).imp
  intro t u hkey
  rw [findingKey, findingKey, Prod.Lex.toLex_le_toLex] at hkey
  rcases hkey with hless | ⟨hequal, -⟩
  · exact hless.le
  · exact hequal.le

/-- **The outcomes of the findings** depend on the outcomes of the tests only: the sort looks at nodeids too, but not
first.
Source: `src/reporting/report_data.py` `build_findings`
Kind: L -/
lemma map_outcome_sortedProblems {r₁ r₂ : TestRunResult}
    (houtcomes : r₁.tests.map TestEvent.outcome = r₂.tests.map TestEvent.outcome) :
    (sortedProblems r₁).map TestEvent.outcome = (sortedProblems r₂).map TestEvent.outcome := by
  have hperm (r : TestRunResult) : ((sortedProblems r).map TestEvent.outcome).Perm
      ((r.tests.map TestEvent.outcome).filter fun o => o = .failed || o = .error) := by
    rw [List.filter_map]
    exact (List.perm_insertionSort _ _).map _
  have hproblem {r : TestRunResult} {o : TestOutcome} (ho : o ∈ (sortedProblems r).map TestEvent.outcome) :
      o = .failed ∨ o = .error := by
    obtain ⟨t, ht, rfl⟩ := List.mem_map.1 ho
    simpa [isProblem] using (mem_sortedProblems.1 ht).2
  apply List.Perm.eq_of_pairwise _ (pairwise_outcome_sortedProblems r₁) (pairwise_outcome_sortedProblems r₂)
  · have hperm₁ := hperm r₁
    rw [houtcomes] at hperm₁
    exact hperm₁.trans (hperm r₂).symm
  · intro a b ha hb hab hba
    rcases hproblem ha with rfl | rfl <;> rcases hproblem hb with rfl | rfl
    · rfl
    · exact absurd hab (by decide)
    · exact absurd hba (by decide)
    · rfl

/-- The tests of the findings.
Source: `src/reporting/report_data.py` `build_findings`
Kind: L -/
lemma map_event_of_buildFindings {catalog : Catalog} {result : TestRunResult} {findings : List Finding}
    (h : buildFindings catalog result = .ok findings) : findings.map Finding.event = sortedProblems result := by
  have hstr : ∀ t ∈ result.tests, isProblem t = true → t.nodeid.isStr = true := by
    intro t ht hproblem
    by_contra hnot
    have hany : ((result.tests.filter isProblem).any fun t => !t.nodeid.isStr) = true :=
      List.any_eq_true.2 ⟨t, List.mem_filter.2 ⟨ht, hproblem⟩, by simp [hnot]⟩
    rw [buildFindings, if_pos hany] at h
    cases h
  obtain rfl := Except.ok.inj ((buildFindings_eq_ok hstr).symm.trans h)
  rw [List.map_map]
  exact List.map_id _

/-- **A finding's card**, whatever the test's strings and its entry in the catalog.
Source: `src/reporting/html_report.py` `_findings_section`
Kind: L -/
lemma alike_findingHtml {str₁ str₂ : Json → PyStr} {f g : Finding} (houtcome : f.event.outcome = g.event.outcome)
    {x y : PyStr} (hx : findingHtml str₁ f = .ok x) (hy : findingHtml str₂ g = .ok y) : Alike windows x y := by
  obtain ⟨title₁, -, hx⟩ := bind_eq_ok.1 hx
  obtain ⟨nodeid₁, hnodeid₁, hx⟩ := bind_eq_ok.1 hx
  obtain ⟨message₁, hmessage₁, hx⟩ := bind_eq_ok.1 hx
  obtain ⟨title₂, -, hy⟩ := bind_eq_ok.1 hy
  obtain ⟨nodeid₂, hnodeid₂, hy⟩ := bind_eq_ok.1 hy
  obtain ⟨message₂, hmessage₂, hy⟩ := bind_eq_ok.1 hy
  obtain rfl := Except.ok.inj hx
  obtain rfl := Except.ok.inj hy
  rw [houtcome]
  apply AlikeIf.alike
  · repeat' with_reducible apply AlikeIf.append
    all_goals first
      | with_reducible apply AlikeIf.hole (Alike.escaped _ _)
      | with_reducible apply AlikeIf.hole (alike_htmlCell hnodeid₁ hnodeid₂)
      | with_reducible apply AlikeIf.hole (alike_htmlCell hmessage₁ hmessage₂)
      | with_reducible apply AlikeIf.hole (alike_findingStart _)
      | exact AlikeIf.template rfl
  · decide

/-- **The findings** depend on the outcomes only.
Source: `src/reporting/html_report.py` `_findings_section`
Kind: L -/
lemma alike_findingsSection {str₁ str₂ : Json → PyStr} {catalog : List MarkedSpec} {r₁ r₂ : TestRunResult}
    (houtcomes : r₁.tests.map TestEvent.outcome = r₂.tests.map TestEvent.outcome) {x y : PyStr}
    (hx : findingsSection str₁ catalog r₁ = .ok x) (hy : findingsSection str₂ catalog r₂ = .ok y) :
    Alike windows x y := by
  obtain ⟨findings₁, hfindings₁, hx⟩ := bind_eq_ok.1 hx
  obtain ⟨findings₂, hfindings₂, hy⟩ := bind_eq_ok.1 hy
  have hsame : findings₁.map (TestEvent.outcome ∘ Finding.event) =
      findings₂.map (TestEvent.outcome ∘ Finding.event) := by
    rw [← List.map_map, ← List.map_map, map_event_of_buildFindings hfindings₁, map_event_of_buildFindings hfindings₂]
    exact map_outcome_sortedProblems houtcomes
  have hlength : findings₁.length = findings₂.length := by simpa using congrArg List.length hsame
  have hnil : findings₁ = [] ↔ findings₂ = [] := by
    rw [← List.length_eq_zero_iff, ← List.length_eq_zero_iff, hlength]
  by_cases hnone : findings₁ = []
  · rw [if_pos hnone] at hx
    rw [if_pos (hnil.1 hnone)] at hy
    obtain rfl := Except.ok.inj hx
    obtain rfl := Except.ok.inj hy
    apply AlikeIf.alike
    · repeat' with_reducible apply AlikeIf.append
      all_goals first
        | with_reducible apply AlikeIf.hole (Alike.escaped _ _)
        | exact AlikeIf.template rfl
    · decide
  · rw [if_neg hnone] at hx
    rw [if_neg (mt hnil.2 hnone)] at hy
    obtain ⟨cards₁, hcards₁, hx⟩ := bind_eq_ok.1 hx
    obtain ⟨cards₂, hcards₂, hy⟩ := bind_eq_ok.1 hy
    obtain rfl := Except.ok.inj hx
    obtain rfl := Except.ok.inj hy
    have hcards : List.Forall₂ (Alike windows) cards₁ cards₂ :=
      forall₂_mapM (f := findingHtml str₁) (g := findingHtml str₂)
        (fun _ _ _ _ houtcome hx hy => alike_findingHtml houtcome hx hy) (forall₂_of_map_eq hsame) hcards₁ hcards₂
    apply AlikeIf.alike
    · repeat' with_reducible apply AlikeIf.append
      all_goals first
        | with_reducible apply AlikeIf.hole (Alike.escaped _ _)
        | with_reducible apply AlikeIf.hole (Alike.flatten hcards)
        | exact AlikeIf.template rfl
    · decide

/-! ## The document -/

/-- **Two documents** of runs with the same outcomes.
Source: `src/reporting/html_report.py` `generate_html_report`
Kind: L -/
lemma alike_htmlDocument {str₁ str₂ : Json → PyStr} {iso₁ iso₂ : IsoFormat} {catalog : List MarkedSpec}
    {r₁ r₂ : TestRunResult} (houtcomes : r₁.tests.map TestEvent.outcome = r₂.tests.map TestEvent.outcome) {x y : PyStr}
    (hx : htmlDocument str₁ iso₁ catalog r₁ = .ok x) (hy : htmlDocument str₂ iso₂ catalog r₂ = .ok y) :
    Alike windows x y := by
  obtain ⟨findings₁, hfindings₁, hx⟩ := bind_eq_ok.1 hx
  obtain ⟨details₁, hdetails₁, hx⟩ := bind_eq_ok.1 hx
  obtain ⟨rfcs, hrfcs, hx⟩ := bind_eq_ok.1 hx
  obtain ⟨findings₂, hfindings₂, hy⟩ := bind_eq_ok.1 hy
  obtain ⟨details₂, hdetails₂, hy⟩ := bind_eq_ok.1 hy
  obtain ⟨rfcs₂, hrfcs₂, hy⟩ := bind_eq_ok.1 hy
  -- the appendices are the catalog's, which both documents share
  obtain rfl := Except.ok.inj (hrfcs.symm.trans hrfcs₂)
  obtain rfl := Except.ok.inj hx
  obtain rfl := Except.ok.inj hy
  apply AlikeIf.alike
  · repeat' with_reducible apply AlikeIf.append
    all_goals first
      | with_reducible apply AlikeIf.hole (Alike.escaped _ _)
      | with_reducible apply AlikeIf.hole (alike_htmlHead _ _)
      | with_reducible apply AlikeIf.hole (alike_summarySection _ _ _ _)
      | with_reducible apply AlikeIf.hole (alike_findingsSection houtcomes hfindings₁ hfindings₂)
      | with_reducible apply AlikeIf.hole (alike_artifactsSection _ _)
      | with_reducible apply AlikeIf.hole (alike_detailSection houtcomes hdetails₁ hdetails₂)
      | with_reducible apply AlikeIf.hole (alike_appendixCatalog _)
      | with_reducible apply AlikeIf.hole (alike_appendixRfcs hrfcs)
      | exact AlikeIf.template rfl
  · decide

end Sections

/-- **Run data cannot alter the report's structure.** Two runs whose tests have the same outcomes get documents with the
same tags, attributes included: whatever their strings, their times and their durations are, whatever `str` makes of a
value, and whatever the catalog says, which both share.
Source: `src/reporting/html_report.py` `generate_html_report`
Kind: P -/
theorem html_structure (str₁ str₂ : Json → PyStr) (iso₁ iso₂ : IsoFormat) (windows : Bool) (catalog : List MarkedSpec)
    (r₁ r₂ : TestRunResult) (houtcomes : r₁.tests.map TestEvent.outcome = r₂.tests.map TestEvent.outcome)
    {d₁ d₂ : Bytes} (h₁ : generateHtmlReport str₁ iso₁ windows catalog r₁ = .ok d₁)
    (h₂ : generateHtmlReport str₂ iso₂ windows catalog r₂ = .ok d₂) : htmlTags d₁ = htmlTags d₂ := by
  obtain ⟨x, hx, hencode₁⟩ := bind_eq_ok.1 h₁
  obtain ⟨y, hy, hencode₂⟩ := bind_eq_ok.1 h₂
  have halike : Alike windows x y := alike_htmlDocument houtcomes hx hy
  rw [htmlTags, htmlTags, decodeReplace_encode hencode₁, decodeReplace_encode hencode₂]
  exact halike.tags_eq

/-- End tags and a script in every string of a run, and nothing of the kind.
Source: `src/reporting/html_report.py` `generate_html_report`
Kind: L -/
theorem script_in_strings_inert : ∃ d₁ d₂,
    generateHtmlReport (fun _ => []) sampleIso false []
      (oneFailure "</title></td><script src=\"//x\"></script>") = .ok d₁ ∧
    generateHtmlReport (fun _ => []) sampleIso false [] (oneFailure "tests/ip/test_x.py::test_a") = .ok d₂ ∧
    htmlTags d₁ = htmlTags d₂ := by
  obtain ⟨d₁, h₁⟩ := exists_report (fun _ => []) "</title></td><script src=\"//x\"></script>" false
  obtain ⟨d₂, h₂⟩ := exists_report (fun _ => []) "tests/ip/test_x.py::test_a" false
  refine ⟨d₁, d₂, h₁, h₂, html_structure _ _ _ _ _ _ _ _ ?_ h₁ h₂⟩
  rw [outcomes_oneFailure, outcomes_oneFailure]

end NetstackSuite.Reporting
