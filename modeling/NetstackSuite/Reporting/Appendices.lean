import NetstackSuite.Python.Int
import NetstackSuite.Reporting.ReportTables

/-!
# The copy and the appendices of a report

What `src/reporting/report_data.py` gives both reports besides the findings: the wording, the list of a run's files, the
catalog by groups, and the RFCs that the catalog refers to.
-/

namespace NetstackSuite.Reporting

open NetstackSuite.Python

/-! ## The copy -/

/-- Source: `src/reporting/report_data.py` `PURPOSE`. Kind: D -/
def PURPOSE : PyStr :=
  text "Purpose: findings for a developer to fix the DUT's network stack. " ++
    text "Failures first, full results next, spec references in the appendix."

/-- Source: `src/reporting/report_data.py` `NO_FINDINGS`. Kind: D -/
def NO_FINDINGS : PyStr :=
  text "No failures or errors — every test that ran passed. See the full results " ++
    text "below and the test catalog in Appendix A."

/-- Source: `src/reporting/report_data.py` `CATALOG_INTRO`. Kind: D -/
def CATALOG_INTRO : PyStr :=
  text "Every test in the suite, what it checks, the RFC clause it maps to, and which " ++
    text "role(s) it runs in. Use this to map a finding to the spec and to see what else " ++
    text "is covered."

/-- Source: `src/reporting/report_data.py` `RFC_INTRO`. Kind: D -/
def RFC_INTRO : PyStr :=
  text "Specifications exercised by this suite — the reading list for interpreting the findings."

/-- The files of a run, each with what it holds.
Source: `src/reporting/report_data.py` `ARTIFACTS`, `src/run_artifacts.py` `RunArtifacts.DESCRIPTIONS`
Kind: D -/
def ARTIFACTS : List (PyStr × PyStr) := [
  (text "capture.pcap", text "every frame the suite sent and received."),
  (text "debug.log", text "tshark-style per-packet trace (present only if Debug mode was on)."),
  (text "pytest_output.log", text "raw test-runner output."),
  (text "results.json", text "this run in machine-readable form.")]

/-- Source: `src/reporting/report_data.py` `findings_intro`. Kind: D -/
def findingsIntro (count : Nat) : PyStr :=
  decimal count ++ text " test(s) failed or errored, listed most-severe first. Each names the RFC " ++
    text "clause it exercises, what it checks, and what the DUT actually did."

/-- Source: `src/reporting/report_data.py` `informational_note`. Kind: D -/
def informationalNote (targetStack : PyStr) : PyStr :=
  text "Note: informational checks (e.g. advertised window size) compare the DUT against " ++
    text "the selected " ++ targetStack ++ text " stack profile — a mismatch flags a behavioural " ++
    text "difference, not necessarily an RFC violation."

/-! ## The catalog by groups -/

/-- The module of an entry, with its submodule if it has one.
Source: `src/reporting/report_data.py` `catalog_by_group`
Kind: D -/
def TestSpec.group (spec : TestSpec) : PyStr :=
  match spec.submodule with
  | some (c :: cs) => spec.module ++ text "/" ++ (c :: cs)
  | _ => spec.module

/-- The catalog grouped, in the order of the groups' names.
Source: `src/reporting/report_data.py` `catalog_by_group`
Kind: D -/
def catalogByGroup (catalog : List MarkedSpec) : List (PyStr × List MarkedSpec) :=
  let groups := catalog.foldl (fun groups spec =>
    Dict.set groups spec.group ((Dict.get groups spec.group).getD [] ++ [spec])) ([] : Dict PyStr (List MarkedSpec))
  groups.insertionSort fun g h => g.1 ≤ h.1

/-! ## The RFCs -/

/-- Titles for the RFCs the suite references.
Source: `src/reporting/report_data.py` `RFC_TITLES`
Kind: D -/
def RFC_TITLES : Dict PyStr PyStr := [
  (text "RFC 768", text "User Datagram Protocol (UDP)"),
  (text "RFC 791", text "Internet Protocol (IP)"),
  (text "RFC 792", text "Internet Control Message Protocol (ICMP)"),
  (text "RFC 1122", text "Requirements for Internet Hosts — Communication Layers"),
  (text "RFC 2018", text "TCP Selective Acknowledgment (SACK) Options"),
  (text "RFC 5681", text "TCP Congestion Control"),
  (text "RFC 5961", text "Improving TCP's Robustness to Blind In-Window Attacks"),
  (text "RFC 6298", text "Computing TCP's Retransmission Timer"),
  (text "RFC 6528", text "Defending against Sequence Number Attacks"),
  (text "RFC 6691", text "TCP Options and Maximum Segment Size (MSS)"),
  (text "RFC 7323", text "TCP Extensions for High Performance"),
  (text "RFC 9293", text "Transmission Control Protocol (TCP)")]

/-- The digits of a reference that the text starts with: `RFC\s*(\d+)`.
Source: `src/reporting/report_data.py` `referenced_rfcs`
Kind: D -/
def rfcDigits (s : PyStr) : Option PyStr :=
  let digits := ((s.drop 3).dropWhile isSpace).takeWhile fun c => (decimalDigit c).isSome
  if s.take 3 = text "RFC" ∧ digits ≠ [] then some digits else none

/-- The numbers of the references in a text.
Source: `src/reporting/report_data.py` `referenced_rfcs`
Kind: D -/
def rfcNumbers (s : PyStr) : Except PyExc (List Int) := (s.tails.filterMap rfcDigits).mapM pyInt

/-- The distinct RFCs of the catalog with their titles, sorted by number.
Source: `src/reporting/report_data.py` `referenced_rfcs`
Kind: D -/
def referencedRfcs (catalog : List MarkedSpec) : Except PyExc (List (PyStr × PyStr)) := do
  let numbers ← catalog.mapM fun spec => rfcNumbers spec.rfc
  return (numbers.flatten.dedup.insertionSort (· ≤ ·)).map fun n =>
    let label := text "RFC " ++ decimal n.toNat
    (label, (Dict.get RFC_TITLES label).getD [])

end NetstackSuite.Reporting
