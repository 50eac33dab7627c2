import Mathlib.Data.List.Sort
import Mathlib.Data.Prod.Lex
import NetstackSuite.Config.DutConfig
import NetstackSuite.Reporting.Models

/-!
# The findings of a report

`buildFindings` of `src/reporting/report_data.py`: the failed and errored tests, errors first, each joined to
its entry in the test catalog. The catalog itself is data (`src/catalog.py` `CATALOG`) and a parameter
here; the look-up in it is modelled.

`buildFindings_eq_ok` is the specification: if every nodeid is a string, a finding is made for each
failed or errored test, once, in the order of (severity, nodeid).
-/

namespace NetstackSuite.Reporting

open NetstackSuite.Python

/-! ## The catalog -/

/-- A catalog entry, less its roles and markers.
Source: `src/catalog.py` `TestSpec`
Kind: D -/
structure TestSpec where
  module : PyStr
  submodule : Option PyStr
  file : PyStr
  test : PyStr
  title : PyStr
  description : PyStr
  rfc : PyStr
  deriving DecidableEq

/-- `/`.
Source: none: infrastructure
Kind: D -/
def SLASH : CodePoint := 0x2F

/-- The test file of an entry.
Source: `src/catalog.py` `TestSpec.rel_path`
Kind: D -/
def TestSpec.relPath (spec : TestSpec) : PyStr :=
  let parts := [text "tests", spec.module]
  let parts := match spec.submodule with
    | some (c :: cs) => parts ++ [c :: cs]
    | _ => parts
  List.intercalate [SLASH] (parts ++ [spec.file ++ text ".py"])

/-- Source: `src/catalog.py` `TestSpec.nodeid`
Kind: D -/
def TestSpec.nodeid (spec : TestSpec) : PyStr := spec.relPath ++ text "::" ++ spec.test

/-- The catalog.
Source: `src/catalog.py` `CATALOG`
Kind: D -/
abbrev Catalog := List TestSpec

/-- Source: `src/catalog.py` `_BY_NODEID`
Kind: D -/
def Catalog.byNodeid (catalog : Catalog) : Dict PyStr TestSpec :=
  catalog.foldl (fun d spec => Dict.set d spec.nodeid spec) []

/-- Source: `src/catalog.py` `_BY_SUFFIX`
Kind: D -/
def Catalog.bySuffix (catalog : Catalog) : Dict PyStr TestSpec :=
  catalog.foldl (fun d spec => Dict.set d (spec.file ++ text ".py::" ++ spec.test) spec) []

/-- The entry of a nodeid: an exact match, or one on the part behind the last `/`.
Source: `src/catalog.py` `find_by_nodeid`
Kind: D -/
def Catalog.lookup (catalog : Catalog) (nodeid : PyStr) : Option TestSpec :=
  let normalized := nodeid.map fun c => if c = 0x5C then SLASH else c
  match Dict.get catalog.byNodeid normalized with
  | some spec => some spec
  | none => Dict.get catalog.bySuffix (normalized.rtakeWhile fun c => c ≠ SLASH)

/-- The same for whatever a record holds as its nodeid: only a string has `.replace`.
Source: `src/catalog.py` `find_by_nodeid`
Kind: D -/
def findByNodeid (catalog : Catalog) (nodeid : Json) : Except PyExc (Option TestSpec) :=
  match nodeid with
  | .str s => .ok (catalog.lookup s)
  | _ => .error .attributeError

/-- An entry of the catalog with its roles and markers.
Source: `src/catalog.py` `TestSpec`
Kind: D -/
structure MarkedSpec extends TestSpec where
  roles : List Config.Role := [.client]
  markers : List PyStr := []
  deriving DecidableEq

/-- Source: `src/catalog.py` `TestSpec.role_labels`. Kind: D -/
def MarkedSpec.roleLabels (spec : MarkedSpec) : PyStr := join (text ", ") (spec.roles.map Config.Role.value)

/-! ## Findings -/

/-- A failed or errored test, joined to its catalog entry.
Source: `src/reporting/report_data.py` `Finding`
Kind: D -/
structure Finding where
  event : TestEvent
  spec : Option TestSpec
  deriving DecidableEq

/-- Errors before failures.
Source: `src/reporting/report_data.py` `_SEVERITY`
Kind: D -/
def findingSeverity : TestOutcome → Nat
  | .error => 0
  | .failed => 1
  | _ => 9

/-- The text of a nodeid that is a string; only such nodeids reach the sort in the model.
Source: none: infrastructure
Kind: D -/
def nodeidText : Json → PyStr
  | .str s => s
  | _ => []

/-- The sort key of a finding.
Source: `src/reporting/report_data.py` `build_findings`
Kind: D -/
def findingKey (t : TestEvent) : Nat ×ₗ PyStr :=
  toLex (findingSeverity t.outcome, nodeidText t.nodeid)

/-- Is the test one a report lists as a finding?
Source: `src/reporting/report_data.py` `build_findings`
Kind: D -/
def isProblem (t : TestEvent) : Bool := t.outcome = .failed || t.outcome = .error

/-- Failed and errored tests, errors first, each joined to its catalog entry.
Source: `src/reporting/report_data.py` `build_findings`
Kind: D -/
def buildFindings (catalog : Catalog) (result : TestRunResult) : Except PyExc (List Finding) :=
  let problems := result.tests.filter isProblem
  -- a nodeid that is no string fails to compare in the sort (TypeError) or has no `.replace` after
  -- it (AttributeError), depending on the order in which the sort compares
  if problems.any fun t => !t.nodeid.isStr then .error (.other "TypeError | AttributeError")
  else
    (problems.insertionSort fun t u => findingKey t ≤ findingKey u).mapM fun t => do
      let spec ← findByNodeid catalog t.nodeid
      return ⟨t, spec⟩

/-- An approximate command to run the tests again.
Source: `src/reporting/report_data.py` `reproduction_command`
Kind: D -/
def reproductionCommand (result : TestRunResult) : PyStr :=
  text "netstack-cli run " ++ text "--iface <iface> --dut-ip " ++ result.targetIp ++ text " " ++
    text "--target-stack " ++ result.targetStack ++ text " --role client"

variable {catalog : Catalog} {result : TestRunResult}

/-- The order of the findings.
Source: `src/reporting/report_data.py` `build_findings`
Kind: D -/
def sortedProblems (result : TestRunResult) : List TestEvent :=
  (result.tests.filter isProblem).insertionSort fun t u => findingKey t ≤ findingKey u

/-- A comprehension whose body never raises.
Source: none: infrastructure
Kind: L -/
lemma mapM_eq_ok {α β : Type} {f : α → Except PyExc β} {g : α → β} {l : List α}
    (h : ∀ a ∈ l, f a = .ok (g a)) : l.mapM f = .ok (l.map g) := by
  induction l with
  | nil => rfl
  | cons a l ih =>
      rw [List.mapM_cons, h a List.mem_cons_self, ih fun b hb => h b (List.mem_cons_of_mem _ hb)]
      rfl

lemma mem_sortedProblems {t : TestEvent} :
    t ∈ sortedProblems result ↔ t ∈ result.tests ∧ isProblem t = true := by
  rw [sortedProblems, List.mem_insertionSort, List.mem_filter]

/-- The nodeids of the findings: those of the failed tests and those of the errored ones.
Source: `src/reporting/report_data.py` `build_findings`
Kind: L -/
lemma mem_nodeids_sortedProblems {nodeid : Json} :
    nodeid ∈ (sortedProblems result).map TestEvent.nodeid ↔
      (∃ t ∈ result.tests, t.nodeid = nodeid ∧ t.outcome = .failed) ∨
        ∃ t ∈ result.tests, t.nodeid = nodeid ∧ t.outcome = .error := by
  simp only [List.mem_map, mem_sortedProblems, isProblem, Bool.or_eq_true, decide_eq_true_eq]
  constructor
  · rintro ⟨t, ⟨ht, ho | ho⟩, hn⟩
    · exact .inl ⟨t, ht, hn, ho⟩
    · exact .inr ⟨t, ht, hn, ho⟩
  · rintro (⟨t, ht, hn, ho⟩ | ⟨t, ht, hn, ho⟩)
    · exact ⟨t, ⟨ht, .inl ho⟩, hn⟩
    · exact ⟨t, ⟨ht, .inr ho⟩, hn⟩

/-- Tests with distinct nodeids make findings with distinct nodeids.
Source: `src/reporting/report_data.py` `build_findings`
Kind: L -/
lemma nodup_sortedProblems (h : (result.tests.map TestEvent.nodeid).Nodup) :
    ((sortedProblems result).map TestEvent.nodeid).Nodup := by
  have hperm := (List.perm_insertionSort (fun t u => findingKey t ≤ findingKey u)
    (result.tests.filter isProblem)).map TestEvent.nodeid
  exact hperm.nodup_iff.mpr (h.sublist (List.filter_sublist.map _))

/-- **What `build_findings` returns**, if the nodeids of the failed and errored tests are strings.
Source: `src/reporting/report_data.py` `build_findings`
Kind: P -/
theorem buildFindings_eq_ok
    (h : ∀ t ∈ result.tests, isProblem t = true → t.nodeid.isStr = true) :
    buildFindings catalog result =
      .ok ((sortedProblems result).map fun t => ⟨t, catalog.lookup (nodeidText t.nodeid)⟩) := by
  have hstr : ((result.tests.filter isProblem).any fun t => !t.nodeid.isStr) = false := by
    rw [List.any_eq_false]
    intro t ht
    obtain ⟨ht, hp⟩ := List.mem_filter.mp ht
    simp [h t ht hp]
  simp only [buildFindings, hstr]
  apply mapM_eq_ok
  intro t ht
  obtain ⟨ht, hp⟩ := mem_sortedProblems.mp ht
  obtain ⟨s, hs⟩ := Json.isStr_iff.mp (h t ht hp)
  rw [hs]
  rfl

/-- **Errors come before failures, and each group is ordered by nodeid**, strictly if the nodeids are
distinct strings.
Source: `src/reporting/report_data.py` `build_findings`
Kind: P -/
theorem sortedProblems_pairwise
    (hstr : ∀ t ∈ result.tests, isProblem t = true → t.nodeid.isStr = true)
    (hnodup : (result.tests.map TestEvent.nodeid).Nodup) :
    (sortedProblems result).Pairwise fun t u =>
      t.outcome = .error ∧ u.outcome = .failed ∨
        t.outcome = u.outcome ∧ nodeidText t.nodeid < nodeidText u.nodeid := by
  have hle := List.pairwise_insertionSort (fun t u => findingKey t ≤ findingKey u)
    (result.tests.filter isProblem)
  have hne : (sortedProblems result).Pairwise fun t u => t.nodeid ≠ u.nodeid := by
    have hperm := (List.perm_insertionSort (fun t u => findingKey t ≤ findingKey u)
      (result.tests.filter isProblem)).map TestEvent.nodeid
    have := hperm.nodup_iff.mpr (hnodup.sublist (List.filter_sublist.map _))
    exact List.pairwise_map.mp this
  refine (hle.and hne).imp_of_mem fun {t u} ht hu h => ?_
  obtain ⟨hkey, hid⟩ := h
  obtain ⟨ht, hpt⟩ := mem_sortedProblems.mp ht
  obtain ⟨hu, hpu⟩ := mem_sortedProblems.mp hu
  have htext : nodeidText t.nodeid ≠ nodeidText u.nodeid := by
    obtain ⟨m, hm⟩ := Json.isStr_iff.mp (hstr t ht hpt)
    obtain ⟨n, hn⟩ := Json.isStr_iff.mp (hstr u hu hpu)
    rw [hm, hn] at hid ⊢
    exact fun he => hid (congrArg Json.str he)
  rw [findingKey, findingKey, Prod.Lex.toLex_le_toLex] at hkey
  simp only [isProblem, Bool.or_eq_true, decide_eq_true_eq] at hpt hpu
  rcases hpt with ht' | ht' <;> rcases hpu with hu' | hu' <;> rw [ht', hu'] at hkey ⊢ <;>
    simp only [findingSeverity] at hkey <;> simp_all [lt_of_le_of_ne]

end NetstackSuite.Reporting
