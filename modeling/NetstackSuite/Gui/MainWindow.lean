import NetstackSuite.Cli.Reproduction
import NetstackSuite.Gui.DutForm
import NetstackSuite.Gui.RoleWarning
import NetstackSuite.Gui.RunController
import NetstackSuite.Gui.Verdict
import NetstackSuite.PacketEngine.Preflight
import NetstackSuite.Plotting.Metrics

/-!
# The main window

`MainWindow` of `src/gui/main_window.py` over the run controller: the two buttons, the status pill, the footer of the
report panel, the log and the plot's counters. `onRunClicked` is a click on Run, with everything that it writes to
the log; `onSignal` is what each of the controller's signals does. `WindowSession.step` is one event of the GUI: a
click on an enabled button, or something that Qt delivers to the controller.

The texts that the window only passes on come in as parameters: the quotation marks of `!r` and the message of a
`RunArtifactError`.
-/

namespace NetstackSuite.Gui

open NetstackSuite.Cli NetstackSuite.Config NetstackSuite.Lib NetstackSuite.PacketEngine NetstackSuite.Plotting
  NetstackSuite.Proxy NetstackSuite.Python NetstackSuite.Reporting NetstackSuite.Runner

/-! ## Slots that write to the log -/

/-- An exception, with its message.
Source: Python `Exception`
Kind: D -/
structure Raised where
  cls : PyExc
  message : PyStr := []
  deriving DecidableEq

/-- What a slot appends to the log, and what it returns or raises.
Source: `src/gui/log_panel.py` `LogPanel.append_line`
Kind: D -/
structure Reported (α : Type) where
  lines : List PyStr
  outcome : Except Raised α

instance : Monad Reported where
  pure a := ⟨[], .ok a⟩
  bind r f :=
    match r.outcome with
    | .ok a => ⟨r.lines ++ (f a).lines, (f a).outcome⟩
    | .error e => ⟨r.lines, .error e⟩

/-- Source: `src/gui/log_panel.py` `LogPanel.append_line`. Kind: D -/
def appendLine (line : PyStr) : Reported Unit := ⟨[line], .ok ()⟩

/-- Several lines in a row.
Source: `src/gui/log_panel.py` `LogPanel.append_line`
Kind: D -/
def appendLines (lines : List PyStr) : Reported Unit := ⟨lines, .ok ()⟩

/-- A computation that writes nothing, and what it says if it raises.
Source: none: infrastructure
Kind: D -/
def raising {α : Type} (message : PyStr) (x : Except PyExc α) : Reported α :=
  ⟨[], x.mapError fun cls => { cls, message }⟩

/-! ## A click on Run -/

section Click

variable (repr : PyStr → PyStr) (form : DutForm)

/-- Source: `src/gui/main_window.py` `_split_host_port`. Kind: D -/
def hostPortMessage (field : PyStr) : PyStr :=
  repr (strip field) ++ text " is not a valid host:port — " ++ repr (splitField (strip field)).2 ++
    text " is not a port number."

/-- The message of the first of the two address fields that cannot be read.
Source: `src/gui/main_window.py` `_split_host_port`
Kind: D -/
def formMessage : PyStr :=
  match splitHostPort form.proxyFront with
  | .error _ => hostPortMessage repr form.proxyFront
  | .ok _ => hostPortMessage repr form.proxyBackend

/-- What the leg selector came to.
Source: `src/gui/main_window.py` `MainWindow._report_and_validate_topology`
Kind: D -/
def reportLeg (config : DutConfig) : Reported Unit :=
  match config.proxyLeg with
  | some leg => do
      let port ← raising [] (formatReturncode config.targetPort)
      appendLine (text "Proxy leg '" ++ leg.value ++ text "' — running the selected tests as " ++ config.role.value ++
        text " against " ++ shown config.targetIp ++ text ":" ++ port ++ text ".")
  | none => pure ()

/-- What the port selector came to, if it was left on random and the leg does not settle the port.
Source: `src/gui/main_window.py` `MainWindow._report_and_validate_topology`
Kind: D -/
def reportRandomPort (config : DutConfig) : Reported Unit :=
  if form.dstPort = SPECIAL_VALUE ∧ config.proxyLeg ≠ some .front then do
    let port ← raising [] (formatReturncode config.targetPort)
    appendLine (text "Destination port left on 'random' — using " ++ port ++ text " for this session.")
  else pure ()

/-- What the leg and port selectors came to, and whether the run may proceed.
Source: `src/gui/main_window.py` `MainWindow._report_and_validate_topology`
Kind: D -/
def reportAndValidateTopology (config : DutConfig) : Reported Bool := do
  reportLeg config
  let (backendHost, _) ← raising (formMessage repr form) (splitHostPort form.proxyBackend)
  match backLegRequirementError config.proxyLeg (form.proxyMode.map ProxyMode.value) backendHost
    (text "a Proxy mode") (text "a Proxy backend address") with
  | some blocked =>
      appendLine (blocked ++ text " Not starting the run.")
      return false
  | none =>
      reportRandomPort form config
      return true

/-- Source: `src/gui/main_window.py` `MainWindow._preflight_and_report`. Kind: D -/
def preflightAndReport (host : Host) (probe : Probe) (config : DutConfig) : Reported Bool := do
  appendLine (text "Preflight connectivity check…")
  let pre ← raising [] (runPreflight repr config host probe)
  appendLines (pre.renderLines.map fun line => text "  " ++ line)
  if pre.ok then return true
  else
    appendLine (text "Preflight failed — not starting the run.")
    return false

/-- `request.proxy_host or '-'`, or the same of a port.
Source: `src/gui/main_window.py` `MainWindow._on_run_clicked`
Kind: D -/
def orDash (value : Option PyStr) : PyStr := (orNone value).getD (text "-")

/-- `port or '-'`.
Source: `src/gui/main_window.py` `MainWindow._on_run_clicked`
Kind: D -/
def portOrDash (port : Option Int) : Except PyExc PyStr :=
  match port with
  | some port => if port = 0 then .ok (text "-") else intRepr port
  | none => .ok (text "-")

/-- The tests that a request selects.
Source: `src/gui/main_window.py` `MainWindow._on_run_clicked`
Kind: D -/
def selection (request : RunRequest) : PyStr :=
  if request.targets = [] then text "all tests" else join (text ", ") request.targets

/-- What the log says of the run that is about to start.
Source: `src/gui/main_window.py` `MainWindow._on_run_clicked`
Kind: D -/
def announceRun (config : DutConfig) (request : RunRequest) : Reported Unit := do
  appendLine (text "Starting run (role=" ++ config.role.value ++ text ", selection: " ++ selection request ++
    text ")…")
  match orNone request.proxyMode with
  | some mode =>
      let frontPort ← raising [] (portOrDash request.proxyPort)
      let backendPort ← raising [] (portOrDash request.backendPort)
      appendLine (text "Proxy mode " ++ mode ++ text ": front=" ++ orDash request.proxyHost ++ text ":" ++ frontPort ++
        text ", backend=" ++ orDash request.backendHost ++ text ":" ++ backendPort ++
        text " (the backend instance must be running).")
  | none => pure ()

/-- A click, as far as the operator's screen and the world have a say in it: the form and the tree as they stand, the
session's port should one be drawn, the host, what becomes of the probe, and of the run's directory.
Source: `src/gui/main_window.py` `MainWindow._on_run_clicked`
Kind: D -/
structure RunClick where
  form : DutForm
  tree : List (Rose SpecItem)
  random : EphemeralPort
  host : Host
  probe : Probe
  /-- Why the directory of the run could not be made, or the id, the date and the platform of the new result. -/
  directory : Except PyStr TestRunResult

variable (click : RunClick) (sessionPort : Option EphemeralPort)

/-- The part of the slot that is guarded: the configuration, the checks, the warnings, the request.
Source: `src/gui/main_window.py` `MainWindow._on_run_clicked`
Kind: D -/
def prepareRun : Reported (Option (DutConfig × RunRequest)) := do
  let (config, _) ← raising (formMessage repr click.form) (currentDutConfig click.form sessionPort click.random)
  if ← reportAndValidateTopology repr click.form config then
    if ← preflightAndReport repr click.host click.probe config then
      appendLines (warnRoleMismatches config click.tree)
      let request ← raising (formMessage repr click.form) (buildRunRequest click.form config)
      return some (config, request)
    else return none
  else return none

/-- `except ConfigurationError`: the message is written to the log, and no run is started.
Source: `src/gui/main_window.py` `MainWindow._on_run_clicked`; `src/errors.py` `NetstackError.render`
Kind: D -/
def Reported.orNotStarted {α : Type} (r : Reported (Option α)) : Reported (Option α) :=
  match r.outcome with
  | .ok a => ⟨r.lines, .ok a⟩
  | .error e =>
      if e.cls = configurationError then
        ⟨r.lines ++ [text "Error: [ConfigurationError] " ++ e.message ++ text " Not starting the run."], .ok none⟩
      else ⟨r.lines, .error e⟩

/-- The slot up to the start of the controller: the request, if one is to be started.
Source: `src/gui/main_window.py` `MainWindow._on_run_clicked`
Kind: D -/
def clickedRun : Reported (Option RunRequest) := do
  match ← (prepareRun repr click sessionPort).orNotStarted with
  | some (config, request) =>
      announceRun config request
      return some request
  | none => return none

/-- The session's port behind the click.
Source: `src/gui/main_window.py` `MainWindow._resolved_dst_port`
Kind: D -/
def portAfter : Option EphemeralPort :=
  match currentDutConfig click.form sessionPort click.random with
  | .ok (_, sessionPort) => sessionPort
  | .error _ => sessionPort

end Click

/-! ## The window -/

/-- What the operator sees, and what the slots keep.
Source: `src/gui/main_window.py` `MainWindow`
Kind: D -/
structure MainWindow where
  runEnabled : Bool := true
  stopEnabled : Bool := false
  pill : PyStr × Ink := (text "Idle — configure the DUT, pick tests, run", .idle)
  footer : PyStr × Ink := (text "No completed run yet.", .idle)
  /-- The result that the report panel exports. -/
  result : Option TestRunResult := none
  log : List PyStr := []
  metrics : MetricsBuffer := emptyBuffer
  launchFailed : Bool := false
  stopped : Bool := false
  sessionPort : Option EphemeralPort := none

/-- The surroundings, and what a `RunArtifactError` says.
Source: none: infrastructure
Kind: D -/
structure WindowSurroundings extends Surroundings where
  repr : PyStr → PyStr
  saveFailure : PyStr

namespace MainWindow

variable (window : MainWindow)

/-- Source: `src/gui/log_panel.py` `LogPanel.append_line`. Kind: D -/
def logLines (lines : List PyStr) : MainWindow := { window with log := window.log ++ lines }

/-- Source: `src/gui/main_window.py` `MainWindow._set_running`. Kind: D -/
def setRunning (running : Bool) : MainWindow := { window with runEnabled := !running, stopEnabled := running }

/-- Source: `src/gui/main_window.py` `MainWindow._on_launch_failed`. Kind: D -/
def onLaunchFailed (message : PyStr) : MainWindow :=
  MainWindow.logLines { window.setRunning false with
    launchFailed := true
    pill := (text "Could not start the run", .bad) } [message, text "No tests were run."]

/-- The lines of the log behind a run.
Source: `src/gui/main_window.py` `MainWindow._on_finished`
Kind: D -/
def finishedLines (result : TestRunResult) : Except PyExc (List PyStr) :=
  if window.launchFailed then .ok []
  else if window.stopped then
    .ok [text "Run stopped — " ++ countsSummary result ++ text " before the stop. " ++
      text "The tests that did not run are not failures."]
  else if result.errored then do
    let code ← formatReturncode result.pytestReturncode
    return [text "pytest exited with code " ++ code ++ text " (collection/usage error or no tests) — see reports/" ++
      result.runId ++ text "/pytest_output.log"]
  else if result.total = 0 then
    .ok [text "Run finished but no tests ran — check the test selection and configuration."]
  else
    .ok ((text "Run finished: " ++ countsSummary result ++ text ".") ::
      if result.skipped ≠ 0 ∧ result.passed = 0 ∧ result.failed = 0 ∧ result.errors = 0 then
        [text "Everything selected was skipped — see the SKIP reason(s) above " ++
          text "(often a role mismatch: switch the Role selector)."]
      else [])

/-- The footer, the buttons, the pill and the log, in this order; formatting a return code may raise.
Source: `src/gui/main_window.py` `MainWindow._on_finished`
Kind: D -/
def onFinished (result : TestRunResult) : Outcome MainWindow PyExc :=
  let window := { window with result := some result }
  match setResult result with
  | .error e => (window, some e)
  | .ok footer =>
      let window := { window with footer }.setRunning false
      match verdict result window.stopped window.launchFailed with
      | .error e => (window, some e)
      | .ok pill =>
          let window := { window with pill }
          match window.finishedLines result with
          | .error e => (window, some e)
          | .ok lines => (window.logLines lines, none)

/-- What a signal of the controller does.
Source: `src/gui/main_window.py` `MainWindow.__init__`
Kind: D -/
def onSignal (w : WindowSurroundings) (window : MainWindow) : ControllerSignal → Outcome MainWindow PyExc
  | .testEvent event =>
      match event.summaryLine w.runtime.str 5 with
      | .ok line => (window.logLines [line], none)
      | .error e => (window, some e)
  | .packetEvent event => ({ window with metrics := (window.metrics.add event).1 }, (window.metrics.add event).2)
  | .outputLine line => (window.logLines [line], none)
  | .finished _ result => window.onFinished result
  | .failed message => (window.onLaunchFailed message, none)
  | .saveFailed =>
      (window.logLines [w.saveFailure,
        text "The results below are from this session only — export a report now if you need to keep them."], none)
  | .stopped => ({ window with stopped := true }, none)

end MainWindow

/-! ## The window over its controller -/

/-- What the last click on Run has come to.
Source: `src/gui/main_window.py` `MainWindow._on_run_clicked`
Kind: D -/
inductive Attempt where
  | none
  | notStarted
  | refused
  | run (k : Nat)
  deriving DecidableEq, Repr

/-- Source: `src/gui/main_window.py` `MainWindow`. Kind: D -/
structure WindowSession where
  session : Session := {}
  window : MainWindow := {}
  attempt : Attempt := .none

/-- What happens next: a click, or something of the controller's that is no call of the window's.
Source: `src/gui/main_window.py` `MainWindow`
Kind: D -/
inductive WindowEvent where
  | clickRun (click : RunClick)
  | clickStop
  | outside (e : ControllerEvent)

/-- What Qt delivers of its own accord: the timer only while it is active, and an exit code that is a C `int`.
Source: Qt `QTimer`, `QProcess.finished`
Kind: D -/
def Session.isOutside (s : Session) : ControllerEvent → Bool
  | .start _ | .startRefused _ | .stop => false
  | .poll => s.controller.timerActive
  | .finished _ exitCode _ _ _ => -2147483648 ≤ exitCode ∧ exitCode < 2147483648
  | _ => true

namespace WindowSession

variable (w : WindowSurroundings) (u : WindowSession)

/-- The controller has come to `t`; its new signals reach the window, one by one.
Source: Qt `Signal.emit`
Kind: D -/
def after (t : Session) : WindowSession :=
  let r := run (MainWindow.onSignal w) (t.signals.drop u.session.signals.length) u.window
  { u with
    session := { t with escaped := if t.escaped.isSome then t.escaped else r.2 }
    window := r.1 }

/-- The window as a click on Run finds it cleared.
Source: `src/gui/main_window.py` `MainWindow._on_run_clicked`
Kind: D -/
def cleared : MainWindow :=
  { u.window with
    metrics := emptyBuffer
    log := []
    launchFailed := false
    stopped := false
    pill := (text "Preflight…", .idle) }

/-- Source: `src/gui/main_window.py` `MainWindow._on_run_clicked`. Kind: D -/
def onRunClicked (click : RunClick) : WindowSession :=
  let r := clickedRun w.repr click u.window.sessionPort
  let window := u.cleared.logLines r.lines
  let window := { window with sessionPort := portAfter click u.window.sessionPort }
  match r.outcome with
  | .error e => { u with session := { u.session with escaped := some e.cls }, window, attempt := .notStarted }
  | .ok none => { u with window, attempt := .notStarted }
  | .ok (some request) =>
      let window := MainWindow.setRunning { window with pill := (text "Running — " ++ selection request, .idle) } true
      match click.directory with
      | .error message => after w { u with window, attempt := .refused } (u.session.emit [.failed message])
      | .ok header =>
          after w { u with window, attempt := .run u.session.runs.length }
            (u.session.start (newRunHeader request header))

/-- One event. A button that is disabled emits no click.
Source: `src/gui/main_window.py` `MainWindow`
Kind: D -/
def step (u : WindowSession) (e : WindowEvent) : Option WindowSession :=
  if u.session.escaped.isSome then none
  else
    match e with
    | .clickRun click => if u.window.runEnabled then some (u.onRunClicked w click) else none
    | .clickStop => if u.window.stopEnabled then some (u.after w u.session.stop) else none
    | .outside e => if u.session.isOutside e then (u.session.step w.toSurroundings e).map (u.after w) else none

end WindowSession

end NetstackSuite.Gui
