import NetstackSuite.Python.TextFile
import NetstackSuite.Reporting.Appendices
import NetstackSuite.Reporting.HtmlStyle
import NetstackSuite.Reporting.Serialization

/-!
# The HTML report

`generate_html_report` of `src/reporting/html_report.py`, section by section. What a run brings in passes through
`html.escape`, but for the counters, the durations and the class names of the outcomes.
-/

namespace NetstackSuite.Reporting

open NetstackSuite.Python

/-- The CSS class of an outcome.
Source: `src/reporting/html_report.py` `_OUTCOME_CLASS`
Kind: D -/
def outcomeClass (outcome : TestOutcome) : PyStr := (OUTCOME_STYLE outcome).css

/-! ## Findings -/

/-- The tags that a finding's card starts with.
Source: `src/reporting/html_report.py` `_findings_section`
Kind: D -/
def findingStart (outcome : TestOutcome) : PyStr :=
  text "\n            <div class=\"finding " ++ outcomeClass outcome ++ text "\">\n" ++
    text "              <div class=\"finding-head\">\n" ++
    text "                <span class=\"badge " ++ outcomeClass outcome ++ text "\">"

/-- The card of a finding.
Source: `src/reporting/html_report.py` `_findings_section`
Kind: D -/
def findingHtml (str : Json → PyStr) (f : Finding) : Except PyExc PyStr := do
  let title ← f.title
  let nodeid ← htmlCell str f.event.nodeid
  let message ← htmlCell str (if f.event.message.truthy then f.event.message else .str (text "(no message)"))
  return findingStart f.event.outcome ++ htmlEscape f.event.outcome.value ++ text "</span>\n" ++
    text "                <span class=\"finding-title\">" ++ htmlEscape title ++ text "</span>\n" ++
    text "                <span class=\"finding-rfc\">" ++ htmlEscape f.rfc ++ text "</span>\n" ++
    text "              </div>\n" ++
    text "              <div class=\"finding-node\"><code>" ++ nodeid ++ text "</code></div>\n" ++
    text "              <div class=\"finding-desc\"><strong>What it checks:</strong> " ++ htmlEscape f.description ++
    text "</div>\n" ++
    text "              <div class=\"finding-msg\"><strong>Observed:</strong> <code>" ++ message ++
    text "</code></div>\n" ++
    text "            </div>"

/-- Source: `src/reporting/html_report.py` `_findings_section`. Kind: D -/
def findingsSection (str : Json → PyStr) (catalog : List MarkedSpec) (result : TestRunResult) :
    Except PyExc PyStr := do
  let findings ← buildFindings (catalog.map MarkedSpec.toTestSpec) result
  if findings = [] then
    return text "<section><h2>Findings</h2>" ++ text "<p class='ok'>" ++ htmlEscape NO_FINDINGS ++
      text "</p></section>"
  else
    let cards ← findings.mapM (findingHtml str)
    return text "<section><h2>Findings — what to fix</h2>" ++ text "<p>" ++
      htmlEscape (findingsIntro findings.length) ++ text "</p>" ++ cards.flatten ++ text "</section>"

/-! ## The run -/

/-- How the run was positioned.
Source: `src/reporting/models.py` `TestRunResult.role_description`
Kind: D -/
def TestRunResult.roleDescription (result : TestRunResult) : PyStr :=
  if result.proxyLeg = some (text "front") then
    text "client — probing the FRONT leg of a proxy DUT: the stack it serves " ++ text "its own clients with"
  else if result.proxyLeg = some (text "back") then
    text "server — observing the BACK leg of a proxy DUT: the stack it dials " ++
      text "origin servers with (traffic induced through the front)"
  else if result.role = text "server" then
    text "server — the suite responded; the DUT initiated (validates its client path)"
  else text "client — the suite initiated (validates the DUT's responder)"

/-- Source: `src/reporting/html_report.py` `_summary_section`. Kind: D -/
def summarySection (iso : IsoFormat) (result : TestRunResult) : PyStr :=
  let finishedAt := match result.finishedAt with
    | some t => iso.finishedAt t
    | none => text "—"
  text "\n    <section>\n      <h2>Run summary</h2>\n      <table class=\"meta\">\n" ++
    text "        <tr><th>Run ID</th><td>" ++ htmlEscape result.runId ++ text "</td></tr>\n" ++
    text "        <tr><th>Target (DUT)</th><td>" ++ htmlEscape result.targetIp ++
    text " — expected stack profile: <strong>" ++ htmlEscape result.targetStack ++ text "</strong></td></tr>\n" ++
    text "        <tr><th>Suite role</th><td>" ++ htmlEscape result.roleDescription ++ text "</td></tr>\n" ++
    text "        <tr><th>Suite host</th><td>" ++ htmlEscape result.hostPlatform ++ text "</td></tr>\n" ++
    text "        <tr><th>Payload mode</th><td>" ++ htmlEscape result.payloadMode ++ text "</td></tr>\n" ++
    text "        <tr><th>Started</th><td>" ++ htmlEscape (iso.startedAt result.startedAt) ++ text "</td></tr>\n" ++
    text "        <tr><th>Finished</th><td>" ++ htmlEscape finishedAt ++ text "</td></tr>\n" ++
    text "        <tr><th>Results</th><td>\n" ++
    text "          <span class=\"pill passed\">" ++ decimal result.passed ++ text " passed</span>\n" ++
    text "          <span class=\"pill failed\">" ++ decimal result.failed ++ text " failed</span>\n" ++
    text "          <span class=\"pill error\">" ++ decimal result.errors ++ text " errored</span>\n" ++
    text "          <span class=\"pill skipped\">" ++ decimal result.skipped ++ text " skipped</span>\n" ++
    text "          <span class=\"pill\">" ++ decimal result.total ++ text " total</span>\n" ++
    text "        </td></tr>\n      </table>\n    </section>"

/-- Source: `src/reporting/html_report.py` `_artifact_items`. Kind: D -/
def artifactItems : PyStr :=
  (ARTIFACTS.map fun artifact =>
    text "<li><code>" ++ htmlEscape artifact.1 ++ text "</code> — " ++ htmlEscape artifact.2 ++ text "</li>").flatten

/-- Source: `src/reporting/html_report.py` `_artifacts_section`. Kind: D -/
def artifactsSection (result : TestRunResult) : PyStr :=
  text "\n    <section>\n      <h2>Artifacts &amp; reproduction</h2>\n" ++
    text "      <p>For wire-level analysis, open the packet capture from this run's folder\n" ++
    text "      (<code>reports/" ++ htmlEscape result.runId ++ text "/</code>) in Wireshark:</p>\n" ++
    text "      <ul>" ++ artifactItems ++ text "</ul>\n" ++
    text "      <p>Reproduce this run:</p>\n" ++
    text "      <pre>" ++ htmlEscape (reproductionCommand result) ++ text "</pre>\n" ++
    text "      <p class=\"note\">" ++ htmlEscape (informationalNote result.targetStack) ++ text "</p>\n" ++
    text "    </section>"

/-! ## The tests -/

/-- The row of a test up to its nodeid, and from there to its outcome.
Source: `src/reporting/html_report.py` `_detail_section`
Kind: D -/
def rowStart (outcome : TestOutcome) : PyStr := text "<tr class='" ++ outcomeClass outcome ++ text "'><td><code>"

/-- Source: `src/reporting/html_report.py` `_detail_section`. Kind: D -/
def outcomeCell (outcome : TestOutcome) : PyStr := text "<td class='" ++ outcomeClass outcome ++ text "'>"

/-- Source: `src/reporting/html_report.py` `_detail_section`. Kind: D -/
def testRow (str : Json → PyStr) (t : TestEvent) : Except PyExc PyStr := do
  let nodeid ← htmlCell str t.nodeid
  let duration ← t.durationS.formatFixed3
  let message ← htmlCell str (if t.message.truthy then t.message else .str [])
  return rowStart t.outcome ++ nodeid ++ text "</code></td>" ++ outcomeCell t.outcome ++ htmlEscape t.outcome.value ++
    text "</td>" ++ text "<td>" ++ duration ++ text "</td>" ++ text "<td>" ++ message ++ text "</td></tr>"

/-- Source: `src/reporting/html_report.py` `_detail_section`. Kind: D -/
def detailSection (str : Json → PyStr) (result : TestRunResult) : Except PyExc PyStr := do
  let rows ← result.tests.mapM (testRow str)
  return text "<section><h2>Full results</h2>" ++
    text "<table class='detail'><thead><tr><th>Test</th><th>Outcome</th>" ++
    text "<th>Duration (s)</th><th>Message</th></tr></thead><tbody>" ++ rows.flatten ++
    text "</tbody></table></section>"

/-! ## The appendices -/

/-- Source: `src/reporting/html_report.py` `_appendix_catalog`. Kind: D -/
def specRow (spec : MarkedSpec) : PyStr :=
  text "<tr><td>" ++ htmlEscape spec.test ++ text "</td><td>" ++ htmlEscape spec.description ++ text "</td>" ++
    text "<td>" ++ htmlEscape spec.rfc ++ text "</td><td>" ++ htmlEscape spec.roleLabels ++ text "</td></tr>"

/-- Source: `src/reporting/html_report.py` `_appendix_catalog`. Kind: D -/
def groupBlock (group : PyStr × List MarkedSpec) : PyStr :=
  text "<h3>" ++ htmlEscape group.1 ++ text "</h3>" ++
    text "<table class='catalog'><thead><tr><th>Test</th><th>What it checks</th>" ++
    text "<th>RFC</th><th>Roles</th></tr></thead><tbody>" ++ (group.2.map specRow).flatten ++ text "</tbody></table>"

/-- Source: `src/reporting/html_report.py` `_appendix_catalog`. Kind: D -/
def appendixCatalog (catalog : List MarkedSpec) : PyStr :=
  text "<section><h2>Appendix A — Test catalog</h2>" ++ text "<p>" ++ htmlEscape CATALOG_INTRO ++ text "</p>" ++
    ((catalogByGroup catalog).map groupBlock).flatten ++ text "</section>"

/-- Source: `src/reporting/html_report.py` `_appendix_rfcs`. Kind: D -/
def rfcItem (rfc : PyStr × PyStr) : PyStr :=
  text "<li><strong>" ++ htmlEscape rfc.1 ++ text "</strong>" ++
    (if rfc.2 = [] then [] else text " — " ++ htmlEscape rfc.2) ++ text "</li>"

/-- Source: `src/reporting/html_report.py` `_appendix_rfcs`. Kind: D -/
def appendixRfcs (catalog : List MarkedSpec) : Except PyExc PyStr := do
  let rfcs ← referencedRfcs catalog
  return text "<section><h2>Appendix B — RFC reference index</h2>" ++ text "<p>" ++ htmlEscape RFC_INTRO ++
    text "</p>" ++ text "<ul class='rfcs'>" ++ (rfcs.map rfcItem).flatten ++ text "</ul></section>"

/-! ## The document -/

/-- The document up to its body.
Source: `src/reporting/html_report.py` `generate_html_report`
Kind: D -/
def htmlHead (runId : PyStr) : PyStr :=
  text "<!doctype html>\n<html lang=\"en\"><head><meta charset=\"utf-8\">\n" ++
    text "<title>Netstack DUT Report — " ++ htmlEscape runId ++ text "</title>\n" ++
    text "<style>" ++ rootCss ++ text "\n" ++ STYLE ++ text "\n" ++ paletteCss ++ text "</style></head>\n"

/-- Source: `src/reporting/html_report.py` `generate_html_report`. Kind: D -/
def htmlDocument (str : Json → PyStr) (iso : IsoFormat) (catalog : List MarkedSpec) (result : TestRunResult) :
    Except PyExc PyStr := do
  let findings ← findingsSection str catalog result
  let details ← detailSection str result
  let rfcs ← appendixRfcs catalog
  return htmlHead result.runId ++
    text "<body>\n<h1>Network Stack Conformance Report</h1>\n" ++
    text "<p class=\"lede\">" ++ htmlEscape PURPOSE ++ text "</p>\n" ++
    summarySection iso result ++ text "\n" ++ findings ++ text "\n" ++ artifactsSection result ++ text "\n" ++
    details ++ text "\n" ++ appendixCatalog catalog ++ text "\n" ++ rfcs ++ text "\n" ++
    text "</body></html>\n"

/-- The bytes of the file: `output_path.write_text(html_doc, encoding="utf-8")`.
Source: `src/reporting/html_report.py` `generate_html_report`
Kind: D -/
def generateHtmlReport (str : Json → PyStr) (iso : IsoFormat) (windows : Bool) (catalog : List MarkedSpec)
    (result : TestRunResult) : Except PyExc Bytes := do
  let document ← htmlDocument str iso catalog result
  writeText windows document

end NetstackSuite.Reporting
