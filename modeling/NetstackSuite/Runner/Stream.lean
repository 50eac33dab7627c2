import NetstackSuite.Lib.Runs
import NetstackSuite.Runner.Verdict

/-!
# `stream_run` as a state machine

The generator runs pytest as a child process, polls the two logs while the child lives, and
persists the run in a `finally` block. `step` is its code between two points where something else
can happen: the child writes or exits, Ctrl+C arrives, the consumer resumes or closes the generator,
the bounded wait for the terminated child gives up, the file system refuses `results.json`.

Where an exception goes is the point of the model. In the loop, `KeyboardInterrupt` and
`GeneratorExit` enter the handler that terminates the child; every other exception skips it and enters
the `finally` block with the child as it is. In the `finally` block, an exception of either drain
leaves before `finalize_run`.
-/

namespace NetstackSuite.Runner

open NetstackSuite.Python NetstackSuite.Reporting NetstackSuite.Lib

/-! ## States -/

/-- The pytest process.
Source: `src/runner.py` `stream_run`
Kind: D -/
inductive Child where
  | running
  | exited (returncode : Int)
  deriving DecidableEq, Repr

/-- Where the generator is.
Source: `src/runner.py` `stream_run`
Kind: D -/
inductive Pc where
  /-- `while proc.poll() is None` -/
  | polling
  /-- The two drains of the loop. -/
  | drainTests
  | drainPackets
  /-- Suspended at the `yield` of the loop. -/
  | yielding
  /-- `time.sleep(POLL_INTERVAL_S)` -/
  | sleeping
  /-- The handler, waiting for the child it has sent a termination signal. -/
  | terminating (raised : PyExc)
  /-- The `finally` block, with the exception that entered it. -/
  | finalTests (raised : Option PyExc)
  | finalPackets (raised : Option PyExc)
  | finalizing (raised : Option PyExc)
  /-- Suspended at the last `yield`. -/
  | lastYield
  /-- The generator has ended, by return or with an exception. -/
  | ended (raised : Option PyExc)
  deriving DecidableEq, Repr

/-- The generator, its child and the run directory.
Source: `src/runner.py` `stream_run`
Kind: D -/
structure StreamState where
  pc : Pc := .polling
  child : Child := .running
  /-- `proc.returncode`: what `poll` or `wait` last saw. -/
  returncode : Option Int := none
  /-- `report_log.jsonl` on disk. -/
  reportLog : Option Bytes := none
  /-- `packet_events.jsonl` on disk. -/
  eventsLog : Option Bytes := none
  reportOffset : Nat := 0
  eventsOffset : Nat := 0
  /-- `result.tests`. -/
  tests : Feed TestEvent := .empty
  /-- `result.packet_events`. -/
  packets : Feed PacketEvent := .empty
  /-- `results.json` on disk. -/
  results : Option TestRunResult := none
  deriving DecidableEq

/-- What a run is started with.
Source: `src/runner.py` `stream_run`
Kind: D -/
structure StreamRun where
  runtime : Runtime
  onTestEvent : Callback TestEvent
  onPacketEvent : Callback PacketEvent
  /-- The result `new_run_result` makes. -/
  header : TestRunResult

/-- What happens next.
Source: `src/runner.py` `stream_run`
Kind: D -/
inductive Action where
  /-- The generator goes on, resumed by its consumer where it is suspended. -/
  | advance
  /-- The child appends to the logs. -/
  | write (toReportLog toEventsLog : Bytes)
  /-- The child ends. -/
  | exit (returncode : Int)
  /-- `KeyboardInterrupt` is raised in the generator. -/
  | interrupt
  /-- The consumer closes the generator. -/
  | close
  /-- `proc.wait(timeout=10)` gives up. -/
  | timeout
  /-- `finalize_run` writes `results.json`, at the given time. -/
  | save (now : DateTime)
  /-- `results.json` cannot be written. -/
  | saveFails
  deriving DecidableEq, Repr

/-! ## Steps -/

/-- Append to a file, creating it.
Source: none: infrastructure
Kind: D -/
def appendTo (file : Option Bytes) (bytes : Bytes) : Option Bytes :=
  if bytes = [] then file else some (file.getD [] ++ bytes)

/-- Where an exception raised in the `try` block goes: interrupts are caught by the handler that
terminates the child, everything else goes straight to `finally`.
Source: `src/runner.py` `stream_run`
Kind: D -/
def raiseInLoop (e : PyExc) : Pc := if e.isInterrupt then .terminating e else .finalTests (some e)

/-- `report_offset = drain_test_events(…)`, then on to `next`, or to where its exception goes.
Source: `src/runner.py` `stream_run`
Kind: D -/
def drainReportLog (run : StreamRun) (s : StreamState) (next : Pc) (onRaise : PyExc → Pc) :
    StreamState :=
  match drainTestEvents run.runtime run.onTestEvent s.reportLog s.reportOffset s.tests with
  | (tests, .ok offset) => { s with tests, reportOffset := offset, pc := next }
  | (tests, .error e) => { s with tests, pc := onRaise e }

/-- `events_offset = drain_packet_events(…)`, then on to `next`, or to where its exception goes.
Source: `src/runner.py` `stream_run`
Kind: D -/
def drainEventsLog (run : StreamRun) (s : StreamState) (next : Pc) (onRaise : PyExc → Pc) :
    StreamState :=
  match drainPacketEvents run.runtime run.onPacketEvent s.eventsLog s.eventsOffset s.packets with
  | (packets, .ok offset) => { s with packets, eventsOffset := offset, pc := next }
  | (packets, .error e) => { s with packets, pc := onRaise e }

/-- The result as it stands.
Source: `src/runner.py` `stream_run`
Kind: D -/
def StreamState.result (run : StreamRun) (s : StreamState) : TestRunResult :=
  { run.header with tests := s.tests.events, packetEvents := s.packets.events }

/-- Stamp the outcome and persist the run.
Source: `src/runner.py` `finalize_run`
Kind: D -/
def finalizeRun (result : TestRunResult) (returncode : Option Int) (now : DateTime) : TestRunResult :=
  { result with pytestReturncode := returncode, finishedAt := some now }

/-- How the generator goes on where nothing from outside decides.
Source: `src/runner.py` `stream_run`
Kind: D -/
def advance (run : StreamRun) (s : StreamState) : Option StreamState :=
  match s.pc with
  | .polling =>
      match s.child with
      | .running => some { s with pc := .drainTests }
      | .exited rc => some { s with returncode := some rc, pc := .finalTests none }
  | .drainTests => some (drainReportLog run s .drainPackets raiseInLoop)
  | .drainPackets => some (drainEventsLog run s .yielding raiseInLoop)
  | .yielding => some { s with pc := .sleeping }
  | .sleeping => some { s with pc := .polling }
  | .terminating e =>
      match s.child with
      | .running => none -- `wait` blocks
      | .exited rc => some { s with returncode := some rc, pc := .finalTests (some e) }
  | .finalTests raised =>
      some (drainReportLog run s (.finalPackets raised) fun e => .ended (some e))
  | .finalPackets raised =>
      some (drainEventsLog run s (.finalizing raised) fun e => .ended (some e))
  | .lastYield => some { s with pc := .ended none }
  | .finalizing _ | .ended _ => none

/-- Where the `finally` block leads: the exception that entered it goes on; without one the last `yield`
follows.
Source: `src/runner.py` `stream_run`
Kind: D -/
def afterFinally : Option PyExc → Pc
  | none => .lastYield
  | some e => .ended (some e)

/-- One step.
Source: `src/runner.py` `stream_run`
Kind: D -/
def step (run : StreamRun) (s : StreamState) : Action → Option StreamState
  | .advance => advance run s
  | .write toReportLog toEventsLog =>
      match s.child with
      | .running => some { s with
          reportLog := appendTo s.reportLog toReportLog
          eventsLog := appendTo s.eventsLog toEventsLog }
      | .exited _ => none
  | .exit rc =>
      match s.child with
      | .running => some { s with child := .exited rc }
      | .exited _ => none
  | .interrupt =>
      match s.pc with
      | .polling | .drainTests | .drainPackets | .sleeping =>
          some { s with pc := raiseInLoop .keyboardInterrupt }
      | .terminating _ => some { s with pc := .finalTests (some .keyboardInterrupt) }
      | _ => none
  | .close =>
      match s.pc with
      | .yielding => some { s with pc := raiseInLoop .generatorExit }
      | .lastYield => some { s with pc := .ended (some .generatorExit) }
      | _ => none
  | .timeout =>
      match s.pc, s.child with
      | .terminating _, .running => some { s with pc := .finalTests (some .timeoutExpired) }
      | _, _ => none
  | .save now =>
      match s.pc with
      | .finalizing raised => some { s with
          results := some (finalizeRun (s.result run) s.returncode now)
          pc := afterFinally raised }
      | _ => none
  | .saveFails =>
      match s.pc with
      | .finalizing _ => some { s with pc := .ended (some (.other "RunArtifactError")) }
      | _ => none

/-- A run just after the child was started.
Source: `src/runner.py` `stream_run`
Kind: D -/
def started : StreamState := {}

/-- A run without callbacks, for concrete runs.
Source: none: infrastructure
Kind: D -/
def plainRun : StreamRun where
  runtime := plainRuntime
  onTestEvent := none
  onPacketEvent := none
  header := plainHeader

/-! ## What a step can do -/

/-- The steps that only move control, or end the child: the logs, the offsets, what was collected and
`results.json` stay as they are.
Source: `src/runner.py` `stream_run`
Kind: D -/
inductive Moves (s : StreamState) : Action → StreamState → Prop where
  | pollRunning (hpc : s.pc = .polling) : Moves s .advance { s with pc := .drainTests }
  | pollExited {rc : Int} (hpc : s.pc = .polling) (hchild : s.child = .exited rc) :
      Moves s .advance { s with returncode := some rc, pc := .finalTests none }
  | resume (hpc : s.pc = .yielding) : Moves s .advance { s with pc := .sleeping }
  | wake (hpc : s.pc = .sleeping) : Moves s .advance { s with pc := .polling }
  | waited {e : PyExc} {rc : Int} (hpc : s.pc = .terminating e) (hchild : s.child = .exited rc) :
      Moves s .advance { s with returncode := some rc, pc := .finalTests (some e) }
  | finish (hpc : s.pc = .lastYield) : Moves s .advance { s with pc := .ended none }
  | exit {rc : Int} (hchild : s.child = .running) :
      Moves s (.exit rc) { s with child := .exited rc }
  | interruptLoop : Moves s .interrupt { s with pc := .terminating .keyboardInterrupt }
  | interruptWait {e : PyExc} (hpc : s.pc = .terminating e) :
      Moves s .interrupt { s with pc := .finalTests (some .keyboardInterrupt) }
  | closeLoop : Moves s .close { s with pc := .terminating .generatorExit }
  | closeLast (hpc : s.pc = .lastYield) :
      Moves s .close { s with pc := .ended (some .generatorExit) }
  | timeout {e : PyExc} (hpc : s.pc = .terminating e) :
      Moves s .timeout { s with pc := .finalTests (some .timeoutExpired) }

/-- What a step can do: the child writes, one of the four drains runs, the result is saved or fails to
be, or control moves.
Source: `src/runner.py` `stream_run`
Kind: D -/
inductive StepCases (run : StreamRun) (s : StreamState) : Action → StreamState → Prop where
  | write (toReportLog toEventsLog : Bytes) (hchild : s.child = .running) :
      StepCases run s (.write toReportLog toEventsLog) { s with
        reportLog := appendTo s.reportLog toReportLog
        eventsLog := appendTo s.eventsLog toEventsLog }
  | drainTests (hpc : s.pc = .drainTests) :
      StepCases run s .advance (drainReportLog run s .drainPackets raiseInLoop)
  | drainPackets (hpc : s.pc = .drainPackets) :
      StepCases run s .advance (drainEventsLog run s .yielding raiseInLoop)
  | finalTests (raised : Option PyExc) (hpc : s.pc = .finalTests raised) :
      StepCases run s .advance
        (drainReportLog run s (.finalPackets raised) fun e => .ended (some e))
  | finalPackets (raised : Option PyExc) (hpc : s.pc = .finalPackets raised) :
      StepCases run s .advance (drainEventsLog run s (.finalizing raised) fun e => .ended (some e))
  | save (now : DateTime) (raised : Option PyExc) (hpc : s.pc = .finalizing raised) :
      StepCases run s (.save now) { s with
        results := some (finalizeRun (s.result run) s.returncode now)
        pc := afterFinally raised }
  | saveFails (raised : Option PyExc) (hpc : s.pc = .finalizing raised) :
      StepCases run s .saveFails { s with pc := .ended (some (.other "RunArtifactError")) }
  | moves {a : Action} {t : StreamState} (h : Moves s a t) : StepCases run s a t

/-- **What a step can do**: every enabled step is one of the cases.
Source: `src/runner.py` `stream_run`
Kind: P -/
theorem step_cases {run : StreamRun} {s t : StreamState} {a : Action} (h : step run s a = some t) :
    StepCases run s a t := by
  cases a with
  | advance =>
      simp only [step, advance] at h
      split at h
      case h_1 hpc =>
        split at h <;> cases h
        · exact .moves (.pollRunning hpc)
        · next hchild => exact .moves (.pollExited hpc hchild)
      case h_2 hpc =>
        cases h
        exact .drainTests hpc
      case h_3 hpc =>
        cases h
        exact .drainPackets hpc
      case h_4 hpc =>
        cases h
        exact .moves (.resume hpc)
      case h_5 hpc =>
        cases h
        exact .moves (.wake hpc)
      case h_6 hpc =>
        split at h <;> cases h
        next hchild => exact .moves (.waited hpc hchild)
      case h_7 hpc =>
        cases h
        exact .finalTests _ hpc
      case h_8 hpc =>
        cases h
        exact .finalPackets _ hpc
      case h_9 hpc =>
        cases h
        exact .moves (.finish hpc)
      all_goals cases h
  | write toReportLog toEventsLog =>
      simp only [step] at h
      split at h <;> cases h
      next hchild => exact .write _ _ hchild
  | exit rc =>
      simp only [step] at h
      split at h <;> cases h
      next hchild => exact .moves (.exit hchild)
  | interrupt =>
      simp only [step, raiseInLoop, PyExc.isInterrupt, if_true] at h
      split at h
      case h_5 hpc =>
        cases h
        exact .moves (.interruptWait hpc)
      case h_6 => cases h
      all_goals
        cases h
        exact .moves .interruptLoop
  | close =>
      simp only [step, raiseInLoop, PyExc.isInterrupt, if_true] at h
      split at h
      case h_1 =>
        cases h
        exact .moves .closeLoop
      case h_2 hpc =>
        cases h
        exact .moves (.closeLast hpc)
      case h_3 => cases h
  | timeout =>
      simp only [step] at h
      split at h
      case h_1 hpc _ =>
        cases h
        exact .moves (.timeout hpc)
      case h_2 => cases h
  | save now =>
      simp only [step] at h
      split at h
      case h_1 hpc =>
        cases h
        exact .save now _ hpc
      case h_2 => cases h
  | saveFails =>
      simp only [step] at h
      split at h
      case h_1 hpc =>
        cases h
        exact .saveFails _ hpc
      case h_2 => cases h

end NetstackSuite.Runner
