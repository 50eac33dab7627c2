import NetstackSuite.Python.IpAddress
import NetstackSuite.Reporting.Models

/-!
# The style sheet of the HTML report

The colours of the outcomes (`src/reporting/palette.py`), the shared tokens (`src/design_tokens.py`), and the style
sheet that `src/reporting/html_report.py` makes of them.
-/

namespace NetstackSuite.Reporting

open NetstackSuite.Python

/-- The columns of the palette that the HTML report reads.
Source: `src/reporting/palette.py` `OUTCOME_STYLE`
Kind: D -/
structure OutcomeStyle where
  css : PyStr
  fg : PyStr
  bg : PyStr
  deriving DecidableEq

/-- Source: `src/reporting/palette.py` `OUTCOME_STYLE`. Kind: D -/
def OUTCOME_STYLE : TestOutcome → OutcomeStyle
  | .passed => ⟨text "passed", text "#1a7f37", text "#e8f5e9"⟩
  | .failed => ⟨text "failed", text "#b71c1c", text "#ffebee"⟩
  | .error => ⟨text "error", text "#8a1a9b", text "#f3e5f5"⟩
  | .skipped => ⟨text "skipped", text "#616161", text "#f5f5f5"⟩

/-- The outcomes in the order of the palette.
Source: `src/reporting/palette.py` `OUTCOME_STYLE`
Kind: D -/
def paletteOrder : List TestOutcome := [.passed, .failed, .error, .skipped]

/-- The rules of one outcome. A passed test tints only its outcome cell.
Source: `src/reporting/html_report.py` `_palette_css`
Kind: D -/
def outcomeRules (outcome : TestOutcome) : List PyStr :=
  let style := OUTCOME_STYLE outcome
  let row :=
    if outcome = .passed then
      text "tr." ++ style.css ++ text " td." ++ style.css ++ text " \x7b background: " ++ style.bg ++ text "; \x7d"
    else text "tr." ++ style.css ++ text ", td." ++ style.css ++ text " \x7b background: " ++ style.bg ++ text "; \x7d"
  let rules := [row,
    text "td." ++ style.css ++ text " \x7b color: " ++ style.fg ++ text "; \x7d",
    text ".pill." ++ style.css ++ text " \x7b background: " ++ style.bg ++ text "; color: " ++ style.fg ++
      text "; \x7d"]
  if outcome = .failed ∨ outcome = .error then
    rules ++ [text ".badge." ++ style.css ++ text " \x7b background: " ++ style.fg ++ text "; \x7d"]
  else rules

/-- Every outcome-coloured rule.
Source: `src/reporting/html_report.py` `_palette_css`
Kind: D -/
def paletteCss : PyStr :=
  join [LF] (paletteOrder.flatMap outcomeRules ++
    [text ".finding \x7b border-left-color: " ++ (OUTCOME_STYLE .failed).fg ++ text "; \x7d",
      text ".finding.error \x7b border-left-color: " ++ (OUTCOME_STYLE .error).fg ++ text "; \x7d",
      text ".ok \x7b color: " ++ (OUTCOME_STYLE .passed).fg ++ text "; font-weight: 600; \x7d"])

/-- The shared tokens, with their values.
Source: `src/design_tokens.py` `css_variables`
Kind: D -/
def cssTokens : List (PyStr × PyStr) := [
  (text "accent", text "#0ea5e9"),
  (text "accent-soft", text "#e6f4fb"),
  (text "radius", text "7px"),
  (text "radius-small", text "4px"),
  (text "font-ui", text "\"Segoe UI\", Inter, Ubuntu, \"Noto Sans\", \"DejaVu Sans\", sans-serif"),
  (text "font-mono", text "\"Cascadia Mono\", \"JetBrains Mono\", \"SF Mono\", " ++
    text "Consolas, \"DejaVu Sans Mono\", monospace")]

/-- Source: `src/design_tokens.py` `css_variables`. Kind: D -/
def cssVariables : PyStr :=
  join [LF] (cssTokens.map fun token => text "  --" ++ token.1 ++ text ": " ++ token.2 ++ text ";")

/-- The custom properties: the shared tokens and the paper palette.
Source: `src/reporting/html_report.py` `_root_css`
Kind: D -/
def rootCss : PyStr :=
  text ":root \x7b\n" ++ cssVariables ++ text "\n" ++ join [LF] [
    text "  --ink: #16202c;",
    text "  --ink-muted: #5b6b7d;",
    text "  --paper: #ffffff;",
    text "  --ground: #f6f8fa;",
    text "  --rule: #dfe5ec;",
    text "\x7d"]

/-- The static style sheet.
Source: `src/reporting/html_report.py` `_STYLE`
Kind: D -/
def STYLE : PyStr := join [LF] [
  text "",
  text "* \x7b box-sizing: border-box; \x7d",
  text "body \x7b",
  text "  font-family: var(--font-ui);",
  text "  margin: 0;",
  text "  padding: 2.5rem max(1.25rem, calc(50% - 32rem));",
  text "  line-height: 1.55;",
  text "  color: var(--ink);",
  text "  background: var(--ground);",
  text "  font-size: 15px;",
  text "\x7d",
  text "h1 \x7b font-size: 1.9rem; letter-spacing: -0.02em; margin: 0 0 0.2rem; \x7d",
  text "h2 \x7b",
  text "  font-size: 1.15rem; letter-spacing: -0.01em; margin: 0 0 0.9rem;",
  text "  padding-bottom: 0.45rem; border-bottom: 1px solid var(--rule);",
  text "\x7d",
  text "h3 \x7b font-size: 0.98rem; margin: 1.4rem 0 0.4rem; color: var(--ink); \x7d",
  text "section \x7b",
  text "  background: var(--paper); border: 1px solid var(--rule);",
  text "  border-radius: var(--radius); padding: 1.4rem 1.5rem; margin: 1.25rem 0;",
  text "\x7d",
  text "table \x7b border-collapse: separate; border-spacing: 0; width: 100%; margin: 0.5rem 0; \x7d",
  text "td, th \x7b padding: 7px 10px; font-size: 0.84rem; text-align: left; vertical-align: top;",
  text "         border-bottom: 1px solid var(--rule); \x7d",
  text "th \x7b background: var(--ground); color: var(--ink-muted); font-weight: 600;",
  text "     text-transform: uppercase; letter-spacing: 0.04em; font-size: 0.72rem;",
  text "     border-bottom: 1px solid var(--rule); \x7d",
  text "tbody tr:last-child td \x7b border-bottom: none; \x7d",
  text "table.meta th \x7b width: 11rem; text-transform: none; letter-spacing: 0; font-size: 0.84rem; \x7d",
  text "code \x7b font-family: var(--font-mono); font-size: 0.82em; word-break: break-all; \x7d",
  text "pre \x7b background: #0f141b; color: #e3e9f2; padding: 0.8rem 1rem;",
  text "      border-radius: var(--radius-small); overflow-x: auto; font-size: 0.8rem;",
  text "      font-family: var(--font-mono); \x7d",
  text ".finding \x7b",
  text "  border: 1px solid var(--rule); border-left: 4px solid; border-radius: var(--radius);",
  text "  padding: 0.9rem 1.1rem; margin: 0.8rem 0; background: var(--ground);",
  text "\x7d",
  text ".finding-head \x7b display: flex; gap: 0.6rem; align-items: baseline; flex-wrap: wrap; \x7d",
  text ".finding-title \x7b font-weight: 650; font-size: 1rem; \x7d",
  text ".finding-rfc \x7b margin-left: auto; color: var(--ink-muted); font-size: 0.78rem;",
  text "               white-space: nowrap; \x7d",
  text ".finding-node code \x7b color: var(--ink-muted); \x7d",
  text ".finding-desc, .finding-msg \x7b margin-top: 0.45rem; font-size: 0.87rem; \x7d",
  text ".badge \x7b font-size: 0.68rem; font-weight: 700; text-transform: uppercase;",
  text "         letter-spacing: 0.05em; padding: 2px 8px; border-radius: 999px; color: #fff; \x7d",
  text ".pill \x7b display: inline-block; padding: 2px 10px; border-radius: 999px;",
  text "        font-size: 0.78rem; font-weight: 600; margin-right: 5px; background: var(--ground);",
  text "        border: 1px solid var(--rule); \x7d",
  text ".note \x7b color: var(--ink-muted); font-size: 0.87rem; \x7d",
  text ".lede \x7b color: var(--ink-muted); font-size: 0.95rem; margin: 0 0 1.6rem; max-width: 44rem; \x7d",
  text "ul.rfcs li \x7b margin: 0.25rem 0; \x7d",
  text "@media print \x7b",
  text "  body \x7b background: #fff; padding: 0; font-size: 12px; \x7d",
  text "  section \x7b border: none; padding: 0; margin: 1rem 0; break-inside: avoid; \x7d",
  text "  .finding \x7b break-inside: avoid; \x7d",
  text "\x7d",
  text ""]

end NetstackSuite.Reporting
