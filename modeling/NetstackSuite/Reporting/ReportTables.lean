import NetstackSuite.Reporting.ReportData

/-!
# What the two reports print of the tests

The PDF and the HTML report (`src/reporting/pdf_report.py`, `src/reporting/html_report.py`) print the
same two things about the tests: a card for each finding and a row for each test. They differ in how
a value becomes text: the PDF hands it to `html.escape`, which only a string survives; the HTML
report converts it with `str` first. Layout and colours are left out.
-/

namespace NetstackSuite.Reporting

open NetstackSuite.Python

/-! ## Text -/

/-- `html.escape(s)`.
Source: Python `html.escape`
Kind: D -/
def htmlEscape (s : PyStr) : PyStr :=
  s.flatMap fun c =>
    if c = 0x26 then text "&amp;"
    else if c = 0x3C then text "&lt;"
    else if c = 0x3E then text "&gt;"
    else if c = 0x22 then text "&quot;"
    else if c = 0x27 then text "&#x27;"
    else [c]

/-- Text of the HTML report: `html.escape(str(text if text is not None else ""))`.
Source: `src/reporting/html_report.py` `_e`
Kind: D -/
def htmlCell (str : Json → PyStr) (v : Json) : Except PyExc PyStr :=
  .ok (htmlEscape (if v = .null then [] else strOf str v))

/-- `s.rsplit(sep, 1)[-1]`: what follows the last `sep`.
Source: Python `str.rsplit`
Kind: D -/
def afterLast (sep s : PyStr) : PyStr :=
  (s.tails.reverse.find? fun t => (sep ++ t).isSuffixOf s).getD s

/-! ## Findings -/

/-- The title of a finding: its catalog entry's, or the test's own name.
Source: `src/reporting/report_data.py` `Finding.title`
Kind: D -/
def Finding.title (f : Finding) : Except PyExc PyStr :=
  match f.spec, f.event.nodeid with
  | some spec, _ => .ok spec.title
  | none, .str nodeid => .ok (afterLast (text "::") nodeid)
  | none, _ => .error .attributeError

/-- Source: `src/reporting/report_data.py` `Finding.rfc`
Kind: D -/
def Finding.rfc (f : Finding) : PyStr :=
  match f.spec with
  | some spec => spec.rfc
  | none => text "—"

/-- Source: `src/reporting/report_data.py` `Finding.description`
Kind: D -/
def Finding.description (f : Finding) : PyStr :=
  match f.spec with
  | some spec => spec.description
  | none => text "(no catalog description)"

/-- A test that every consumer can print: its nodeid is a string, its message a string or none, and a
float can hold its duration.
Source: none: infrastructure
Kind: D -/
structure Printable (t : TestEvent) : Prop where
  nodeid : t.nodeid.isStr = true
  message : t.message = .null ∨ t.message.isStr = true
  duration : ∃ s, t.durationS.formatFixed3 = .ok s

end NetstackSuite.Reporting
