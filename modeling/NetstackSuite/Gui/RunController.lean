import NetstackSuite.Reporting.RunArtifacts
import NetstackSuite.Runner.Stream

/-!
# The run controller

`RunController` of `src/gui/run_controller.py`, the GUI's side of a run: slots that Qt calls one at a
time, between which the child process writes to the two logs of its run's directory. `Session.step` is
one such call, or one thing that happens outside.

An exception that leaves a slot ends the session (`escaped`); which exceptions those are is part of the
model. `_finalize` catches only the `RunArtifactError` that `RunArtifacts.save` makes of an `OSError`.
-/

namespace NetstackSuite.Gui

open NetstackSuite.Python NetstackSuite.Reporting NetstackSuite.Runner NetstackSuite.Lib

/-! ## Processes and runs -/

/-- Source: Qt `QProcess.ExitStatus`. Kind: D -/
inductive ExitStatus
  | normalExit
  | crashExit
  deriving DecidableEq, Repr

/-- Source: Qt `QProcess.ProcessError`. Kind: D -/
inductive ProcessError
  | failedToStart
  | crashed
  | timedout
  | readError
  | writeError
  | unknownError
  deriving DecidableEq, Repr

/-- How a process came to its end. One that failed to start delivers no `finished`.
Source: Qt `QProcess`
Kind: D -/
inductive ProcessEnd
  | failedToStart
  | finished (exitCode : Int) (status : ExitStatus)
  deriving DecidableEq, Repr

/-- `QProcess.state()`, with what became of a process that is not running any more.
Source: Qt `QProcess.ProcessState`
Kind: D -/
inductive ProcessState
  | starting
  | running
  | notRunning (how : ProcessEnd)
  deriving DecidableEq, Repr

/-- Source: Qt `QProcess.ProcessState`. Kind: D -/
def ProcessState.isOver : ProcessState → Bool
  | .notRunning _ => true
  | _ => false

/-- A run whose directory was created: what `new_run_result` made of its request, its process, and the
two logs in its directory. `stopCalled` records that `stop` was called while the process was running.
Source: `src/gui/run_controller.py` `RunController.start`
Kind: D -/
structure StartedRun where
  header : TestRunResult
  state : ProcessState := .starting
  stopCalled : Bool := false
  reportLog : Option Bytes := none
  eventsLog : Option Bytes := none
  deriving DecidableEq

/-- Has the process ended, or failed to start?
Source: Qt `QProcess.state`
Kind: D -/
def StartedRun.isOver (run : StartedRun) : Bool := run.state.isOver

/-! ## The controller -/

/-- The fields of the controller. A process, a result and a directory are given by the number of the
run they were made for.
Source: `src/gui/run_controller.py` `RunController.__init__`
Kind: D -/
structure RunController where
  process : Option Nat := none
  timerActive : Bool := false
  result : Option (Nat × TestRunResult) := none
  runDir : Option Nat := none
  reportOffset : Nat := 0
  eventsOffset : Nat := 0
  stopping : Bool := false
  deriving DecidableEq

/-- What the controller emits.
Source: `src/gui/run_controller.py` `RunController`
Kind: D -/
inductive ControllerSignal
  | testEvent (event : TestEvent)
  | packetEvent (event : PacketEvent)
  | outputLine (line : PyStr)
  | finished (run : Nat) (result : TestRunResult)
  | failed (message : PyStr)
  | saveFailed
  | stopped
  deriving DecidableEq

/-- A session: the controller, the runs it was asked for, what it emitted, and the exception that left a
slot, if one did.
Source: `src/gui/run_controller.py` `RunController`
Kind: D -/
structure Session where
  controller : RunController := {}
  runs : List StartedRun := []
  signals : List ControllerSignal := []
  escaped : Option PyExc := none
  deriving DecidableEq

/-- What the code takes from its surroundings.
Source: none: infrastructure
Kind: D -/
structure Surroundings where
  runtime : Runtime
  iso : IsoFormat
  limits : RecursionLimits
  windows : Bool

/-- What happens next.
Source: `src/gui/run_controller.py` `RunController`
Kind: D -/
inductive ControllerEvent
  /-- `start`, and the directory is created; the header is what `new_run_result` returns. -/
  | start (header : TestRunResult)
  /-- `start`, and the directory cannot be created. -/
  | startRefused (message : PyStr)
  /-- The process of a run is running. -/
  | launched (run : Nat)
  /-- Something is appended to the logs of a run. -/
  | write (run : Nat) (toReportLog toEventsLog : Bytes)
  /-- `readyReadStandardOutput` -/
  | output (data : Bytes)
  /-- The timer's `timeout`. -/
  | poll
  | stop
  /-- `errorOccurred`, with `errorString()`; how far `save` gets, and when. -/
  | error (run : Nat) (error : ProcessError) (reason : PyStr) (access : FileAccess) (now : DateTime)
  /-- `finished`; how far `save` gets, and when. -/
  | finished (run : Nat) (exitCode : Int) (status : ExitStatus) (access : FileAccess) (now : DateTime)

namespace Session

/-- Source: Qt `Signal.emit`. Kind: D -/
def emit (s : Session) (signals : List ControllerSignal) : Session :=
  { s with signals := s.signals ++ signals }

/-! ## The slots -/

/-- The result of a new run.
Source: `src/runner.py` `new_run_result`
Kind: D -/
def newRunResult (header : TestRunResult) : TestRunResult :=
  { header with tests := [], packetEvents := [], pytestReturncode := none, finishedAt := none }

/-- Source: `src/gui/run_controller.py` `RunController.start`. Kind: D -/
def start (s : Session) (header : TestRunResult) : Session :=
  { s with
    controller := { s.controller with
      runDir := some s.runs.length
      reportOffset := 0
      eventsOffset := 0
      stopping := false
      result := some (s.runs.length, newRunResult header)
      process := some s.runs.length
      timerActive := true }
    runs := s.runs ++ [{ header := newRunResult header }] }

/-- Source: `src/gui/run_controller.py` `RunController.stop`. Kind: D -/
def stop (s : Session) : Session :=
  match s.controller.process.bind fun k => (s.runs[k]?).map fun run => (k, run) with
  | some (k, run) =>
      if run.isOver = false then
        { s with
          controller := { s.controller with stopping := true }
          runs := s.runs.modify k fun run => { run with stopCalled := true } }
      else { s with controller := { s.controller with timerActive := false } }
  | none => { s with controller := { s.controller with timerActive := false } }

/-- The callback the drains get: it emits, and raises nothing.
Source: `src/gui/run_controller.py` `RunController._drain`
Kind: D -/
def emitting {α : Type} : Callback α := some fun _ _ => none

/-- Source: `src/gui/run_controller.py` `RunController._drain`. Kind: D -/
def drain (w : Surroundings) (s : Session) : Session :=
  match s.controller.runDir.bind fun dir => s.runs[dir]?, s.controller.result with
  | some files, some (k, result) =>
      match drainTestEvents w.runtime emitting files.reportLog s.controller.reportOffset
          ⟨result.tests, []⟩ with
      | (tests, .error e) =>
          { s with
            controller := { s.controller with
              result := some (k, { result with tests := tests.events }) }
            signals := s.signals ++ tests.calls.map .testEvent
            escaped := some e }
      | (tests, .ok reportOffset) =>
          match drainPacketEvents w.runtime emitting files.eventsLog s.controller.eventsOffset
              ⟨result.packetEvents, []⟩ with
          | (packets, .error e) =>
              { s with
                controller := { s.controller with
                  reportOffset := reportOffset
                  result := some (k, { result with
                    tests := tests.events
                    packetEvents := packets.events }) }
                signals := s.signals ++ tests.calls.map .testEvent ++ packets.calls.map .packetEvent
                escaped := some e }
          | (packets, .ok eventsOffset) =>
              { s with
                controller := { s.controller with
                  reportOffset := reportOffset
                  eventsOffset := eventsOffset
                  result := some (k, { result with
                    tests := tests.events
                    packetEvents := packets.events }) }
                signals := s.signals ++ tests.calls.map .testEvent ++ packets.calls.map .packetEvent }
  -- a poll that outlived its run; there is nothing to tail
  | _, _ => s

/-- `finished.emit(_finalize(returncode))`. The result is stamped before it is saved, and what `save`
raises is reported if it is a `RunArtifactError`.
Source: `src/gui/run_controller.py` `RunController._finalize`
Kind: D -/
def finalize (w : Surroundings) (access : FileAccess) (now : DateTime) (returncode : Option Int)
    (s : Session) : Session :=
  match s.controller.result, s.controller.runDir with
  | some (k, result), some _ =>
      let result := finalizeRun result returncode now
      let s := { s with controller := { s.controller with result := some (k, result) } }
      match save w.iso w.limits w.windows access result.object with
      | .ok _ => s.emit [.finished k result]
      | .error e =>
          if e = runArtifactError then s.emit [.saveFailed, .finished k result]
          else { s with escaped := some e }
  | _, _ => { s with escaped := some runArtifactError }

/-- Source: `src/gui/run_controller.py` `RunController._on_error`. Kind: D -/
def failedMessage (reason : PyStr) : PyStr :=
  text "Could not start the test runner: " ++ reason ++ text (". Check that the Python " ++
    "interpreter and the test tree are reachable from the project directory.")

/-- Source: `src/gui/run_controller.py` `RunController._on_error`. Kind: D -/
def onError (w : Surroundings) (error : ProcessError) (reason : PyStr) (access : FileAccess)
    (now : DateTime) (s : Session) : Session :=
  if error ≠ .failedToStart then s
  else
    let s := { s with controller := { s.controller with timerActive := false } }
    let s := s.emit [.failed (failedMessage reason)]
    if s.controller.result.isSome && s.controller.runDir.isSome then finalize w access now none s
    else s

/-- Source: `src/gui/run_controller.py` `RunController._on_output`. Kind: D -/
def onOutput (data : Bytes) (s : Session) : Session :=
  if s.controller.process = none then s
  else s.emit ((splitlines (decodeReplace data)).map .outputLine)

/-- Is a process that ended so reported without a return code?
Source: `src/gui/run_controller.py` `RunController._on_finished`
Kind: D -/
def isStopped (s : Session) (status : ExitStatus) : Bool :=
  s.controller.stopping || status = .crashExit

/-- Source: `src/gui/run_controller.py` `RunController._on_finished`. Kind: D -/
def onFinished (w : Surroundings) (exitCode : Int) (status : ExitStatus) (access : FileAccess)
    (now : DateTime) (s : Session) : Session :=
  let s := drain w { s with controller := { s.controller with timerActive := false } }
  if s.escaped.isSome then s
  else
    let stopped := s.isStopped status
    let s := { s with controller := { s.controller with stopping := false } }
    let s := if stopped then s.emit [.stopped] else s
    finalize w access now (if stopped then none else some exitCode) s

/-! ## Steps -/

/-- No process is running.
Source: `src/gui/run_controller.py` `RunController.start`
Kind: D -/
def isIdle (s : Session) : Bool := s.runs.all StartedRun.isOver

/-- The process of a run ends.
Source: Qt `QProcess`
Kind: D -/
def endProcess (s : Session) (k : Nat) (how : ProcessEnd) : Session :=
  { s with runs := s.runs.modify k fun run => { run with state := .notRunning how } }

/-- The state of the process of a run.
Source: Qt `QProcess.state`
Kind: D -/
def stateOf (s : Session) (k : Nat) : Option ProcessState := (s.runs[k]?).map StartedRun.state

/-- One step: a slot runs, or something happens outside. A run is started only if none is in flight, and
a process delivers what `QProcess` delivers: it fails to start while it is starting, and finishes once,
with any other error before.
Source: `src/gui/run_controller.py` `RunController`
Kind: D -/
def step (w : Surroundings) (s : Session) (e : ControllerEvent) : Option Session :=
  if s.escaped.isSome then none
  else
    match e with
    | .start header => if s.isIdle then some (s.start header) else none
    | .startRefused message => if s.isIdle then some (s.emit [.failed message]) else none
    | .launched k =>
        if s.stateOf k = some .starting then
          some { s with runs := s.runs.modify k fun run => { run with state := .running } }
        else none
    | .write k toReportLog toEventsLog =>
        some { s with runs := s.runs.modify k fun run => { run with
          reportLog := appendTo run.reportLog toReportLog
          eventsLog := appendTo run.eventsLog toEventsLog } }
    | .output data => some (s.onOutput data)
    | .poll => some (s.drain w)
    | .stop => some s.stop
    | .error k error reason access now =>
        if error = .failedToStart then
          if s.stateOf k = some .starting then
            some ((s.endProcess k .failedToStart).onError w error reason access now)
          else none
        else if (s.stateOf k).any (! ·.isOver) then some (s.onError w error reason access now)
        else none
    | .finished k exitCode status access now =>
        if (s.stateOf k).any (! ·.isOver) then
          some ((s.endProcess k (.finished exitCode status)).onFinished w exitCode status access now)
        else none

end Session

end NetstackSuite.Gui
