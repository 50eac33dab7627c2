import NetstackSuite.Gui.RunController
import NetstackSuite.Runner.Lifecycle
import NetstackSuite.Runner.Replay

/-!
# Every run is delivered once

What holds between any two calls of the run controller, over sessions of many runs: each run whose
process is over was emitted by `finished` once, with the return code its end calls for and with what its
own logs hold from their first byte on; and no timer is left running (`Session.Sound`).

The step that ends a run keeps this only if its result can be written as JSON (`Recordable`).
-/

namespace NetstackSuite.Gui

open NetstackSuite.Python NetstackSuite.Reporting NetstackSuite.Runner NetstackSuite.Lib

/-! ## What has been read of a log -/

section Tailing

variable {α : Type} {step : Callback α → Feed α → PyStr → Outcome (Feed α) PyExc} {file : Option Bytes}
  {offset : Nat} {events : List α}

/-- The events are those of the complete lines before the offset, read from the first byte.
Source: `src/gui/run_controller.py` `RunController._drain`
Kind: D -/
structure Tailed (step : Callback α → Feed α → PyStr → Outcome (Feed α) PyExc) (file : Option Bytes)
    (offset : Nat) (events : List α) : Prop where
  boundary : AtBoundary NEWLINE (file.getD []) offset
  collected : ∃ feed, run (step none) (logLines ((file.getD []).take offset)) Feed.empty = (feed, none) ∧
    feed.events = events

lemma Tailed.start (file : Option Bytes) : Tailed step file 0 [] :=
  ⟨AtBoundary.zero _, Feed.empty, rfl, rfl⟩

/-- A log that grows.
Source: `src/gui/run_controller.py` `RunController._drain`
Kind: L -/
lemma Tailed.append (h : Tailed step file offset events) (more : Bytes) :
    Tailed step (appendTo file more) offset events := by
  obtain ⟨hboundary, htake⟩ := h.boundary.append more
  rw [← getD_appendTo] at hboundary htake
  refine ⟨hboundary, ?_⟩
  rw [htake]
  exact h.collected

/-- A drain that returns.
Source: `src/gui/run_controller.py` `RunController._drain`
Kind: L -/
lemma Tailed.drain (h : Tailed step file offset events) (hstep : Announcing step) {c : Callback α}
    {calls : List α} {feed : Feed α}
    (hrun : run (step c) (readNewLines file offset).1 ⟨events, calls⟩ = (feed, none)) :
    Tailed step file (readNewLines file offset).2 feed.events ∧
      Drained file (readNewLines file offset).2 := by
  obtain ⟨hboundary, htake, hdone⟩ := h.boundary.consume
  obtain ⟨before, hbefore, hevents⟩ := h.collected
  rw [readNewLines_eq] at hrun ⊢
  have hevents' : before.events = (Feed.mk events calls).events := hevents
  obtain ⟨after, hafter, hfeed⟩ := hstep.run_returns quiet_none hevents'.symm hrun
  refine ⟨⟨hboundary, after, ?_, hfeed⟩, hdone⟩
  rw [htake, logLines_append h.boundary.framed, run_append, hbefore, andThen_none]
  exact hafter

end Tailing

variable {w : Surroundings}

/-- Collected tests are well keyed.
Source: `src/runner.py` `drain_test_events`
Kind: L -/
lemma Tailed.wellKeyed {R : Runtime} {file : Option Bytes} {offset : Nat} {tests : List TestEvent}
    (h : Tailed (mergeStep R) file offset tests) : WellKeyed tests := by
  obtain ⟨feed, hrun, rfl⟩ := h.collected
  have hkeyed : WellKeyed (run (mergeStep R none) (logLines ((file.getD []).take offset))
      Feed.empty).1.events :=
    run_invariant (fun feed : Feed TestEvent => WellKeyed feed.events) _ WellKeyed.nil
      fun feed line _ h => h.mergeStep R none line
  rw [hrun] at hkeyed
  exact hkeyed

/-- The lines of a drained log.
Source: `src/runner.py` `read_new_lines`
Kind: L -/
lemma readNewLines_drained {file : Option Bytes} {offset : Nat} (h : Drained file offset) :
    (readNewLines file 0).1 = logLines ((file.getD []).take offset) := by
  rw [readNewLines_eq]
  exact congrArg logLines h

/-- What was read of a log is drained.
Source: `src/runner.py` `read_new_lines`
Kind: L -/
lemma readNewLines_read {file : Option Bytes} {offset : Nat}
    (h : AtBoundary NEWLINE (file.getD []) offset) :
    (readNewLines (some ((file.getD []).take offset)) 0).1 = logLines ((file.getD []).take offset) := by
  rw [readNewLines_eq]
  exact congrArg logLines (completePart_of_framed h.framed)

/-! ## What is delivered -/

/-- The result a signal delivers for a run.
Source: `src/gui/run_controller.py` `RunController.finished`
Kind: D -/
def ControllerSignal.deliveredTo (k : Nat) : ControllerSignal → Option TestRunResult
  | .finished j result => if j = k then some result else none
  | _ => none

/-- The results `finished` was emitted with for a run.
Source: `src/gui/run_controller.py` `RunController.finished`
Kind: D -/
def Session.deliveries (s : Session) (k : Nat) : List TestRunResult :=
  s.signals.filterMap (ControllerSignal.deliveredTo k)

/-- The return code that the end of a process calls for: its exit code, unless it failed to start, crashed,
or `stop` was called while it was running.
Source: `src/gui/run_controller.py` `RunController._on_finished`, `RunController._on_error`
Kind: D -/
def StartedRun.returncode (run : StartedRun) : ProcessEnd → Option Int
  | .failedToStart => none
  | .finished _ .crashExit => none
  | .finished exitCode .normalExit => if run.stopCalled then none else some exitCode

/-- The result is the run's: its header, the return code that its end calls for, and the events of a
beginning of its own logs.
Source: `src/gui/run_controller.py` `RunController`
Kind: D -/
structure Reports (w : Surroundings) (run : StartedRun) (how : ProcessEnd) (result : TestRunResult) :
    Prop where
  header : Session.newRunResult result = run.header
  returncode : result.pytestReturncode = run.returncode how
  tests : ∃ seen, seen <+: run.reportLog.getD [] ∧
    result.tests = (drainTestEvents w.runtime none (some seen) 0 Feed.empty).1.events
  packetEvents : ∃ seen, seen <+: run.eventsLog.getD [] ∧
    result.packetEvents = (drainPacketEvents w.runtime none (some seen) 0 Feed.empty).1.events

/-- Nothing is delivered while the process runs, and one result once it is over.
Source: `src/gui/run_controller.py` `RunController`
Kind: D -/
structure DeliveredOnce (w : Surroundings) (run : StartedRun) (deliveries : List TestRunResult) :
    Prop where
  pending : run.isOver = false → deliveries = []
  delivered : ∀ how, run.state = .notRunning how →
    ∃ result, deliveries = [result] ∧ Reports w run how result

/-- The controller works for the run `k`: its result, its directory and its process are that run's, its
offsets are where it has read to, and its stop flag says what was asked of it.
Source: `src/gui/run_controller.py` `RunController`
Kind: D -/
structure WorksFor (w : Surroundings) (c : RunController) (k : Nat) (run : StartedRun)
    (result : TestRunResult) : Prop where
  held : c.result = some (k, result)
  runDir : c.runDir = some k
  process : c.process = some k
  header : Session.newRunResult result = run.header
  tests : Tailed (mergeStep w.runtime) run.reportLog c.reportOffset result.tests
  packetEvents : Tailed (packetStep w.runtime) run.eventsLog c.eventsOffset result.packetEvents
  stopping : run.isOver = false → c.stopping = run.stopCalled

/-- What holds between two slots.
Source: `src/gui/run_controller.py` `RunController`
Kind: D -/
structure Session.Sound (w : Surroundings) (s : Session) : Prop where
  escaped : s.escaped = none
  past : ∀ k run, s.runs[k]? = some run → k + 1 < s.runs.length → run.isOver = true
  unused : s.runs = [] → s.controller.result = none ∧ s.controller.runDir = none ∧
    s.controller.process = none
  current : ∀ k run, s.runs[k]? = some run → k + 1 = s.runs.length →
    ∃ result, WorksFor w s.controller k run result
  idle : s.isIdle = true → s.controller.timerActive = false
  deliveries : ∀ k run, s.runs[k]? = some run → DeliveredOnce w run (s.deliveries k)
  none_else : ∀ k, s.runs.length ≤ k → s.deliveries k = []

lemma Session.deliveries_emit (s : Session) (signals : List ControllerSignal) (k : Nat) :
    (s.emit signals).deliveries k =
      s.deliveries k ++ signals.filterMap (ControllerSignal.deliveredTo k) := by
  rw [Session.deliveries, Session.emit, List.filterMap_append]
  rfl

/-! ## A drain -/

/-- Nothing a drain emits is a delivery.
Source: `src/gui/run_controller.py` `RunController._drain`
Kind: L -/
lemma filterMap_events (tests : List TestEvent) (packets : List PacketEvent) (k : Nat) :
    (tests.map ControllerSignal.testEvent ++ packets.map ControllerSignal.packetEvent).filterMap
      (ControllerSignal.deliveredTo k) = [] := by
  rw [List.filterMap_append, List.filterMap_map, List.filterMap_map]
  have htests : ControllerSignal.deliveredTo k ∘ ControllerSignal.testEvent = fun _ => none := rfl
  have hpackets : ControllerSignal.deliveredTo k ∘ ControllerSignal.packetEvent = fun _ => none := rfl
  rw [htests, hpackets]
  simp

/-- The controller behind a drain.
Source: `src/gui/run_controller.py` `RunController._drain`
Kind: D -/
def RunController.read (c : RunController) (k : Nat) (result : TestRunResult)
    (reportOffset eventsOffset : Nat) : RunController :=
  { c with reportOffset, eventsOffset, result := some (k, result) }

/-- What a drain that returns changes: the offsets and the events of the result go on to the end of the
logs, and events are emitted.
Source: `src/gui/run_controller.py` `RunController._drain`
Kind: L -/
lemma drain_spec {s : Session} {k : Nat} {run : StartedRun} {result : TestRunResult}
    (hrun : s.runs[k]? = some run) (h : WorksFor w s.controller k run result)
    (hreturns : (s.drain w).escaped = none) :
    ∃ result' reportOffset eventsOffset signals,
      s.drain w = Session.emit { s with
        controller := s.controller.read k result' reportOffset eventsOffset } signals ∧
      WorksFor w (s.controller.read k result' reportOffset eventsOffset) k run result' ∧
      (Drained run.reportLog reportOffset ∧ Drained run.eventsLog eventsOffset) ∧
      ∀ j, signals.filterMap (ControllerSignal.deliveredTo j) = [] := by
  have hkeyed : WellKeyed (Feed.mk result.tests []).events := h.tests.wellKeyed
  simp only [Session.drain, h.runDir, h.held, Option.bind_some, hrun,
    drainTestEvents_eq _ _ _ _ hkeyed, drainPacketEvents_eq] at hreturns ⊢
  rcases htests : Lib.run (mergeStep w.runtime Session.emitting)
    (readNewLines run.reportLog s.controller.reportOffset).1 ⟨result.tests, []⟩ with ⟨tests, _ | e⟩
  · rcases hpackets : Lib.run (packetStep w.runtime Session.emitting)
      (readNewLines run.eventsLog s.controller.eventsOffset).1 ⟨result.packetEvents, []⟩ with
      ⟨packets, _ | e⟩
    · simp only [returning]
      obtain ⟨htailed, hdrained⟩ := h.tests.drain (announcing_mergeStep _) htests
      obtain ⟨hptailed, hpdrained⟩ := h.packetEvents.drain (announcing_packetStep _) hpackets
      refine ⟨{ result with tests := tests.events, packetEvents := packets.events },
        (readNewLines run.reportLog s.controller.reportOffset).2,
        (readNewLines run.eventsLog s.controller.eventsOffset).2,
        tests.calls.map .testEvent ++ packets.calls.map .packetEvent, ?_,
        ⟨rfl, h.runDir, h.process, h.header, htailed, hptailed, h.stopping⟩, ⟨hdrained, hpdrained⟩,
        filterMap_events tests.calls packets.calls⟩
      simp only [Session.emit, RunController.read, List.append_assoc, h.runDir]
    · simp [htests, hpackets, returning] at hreturns
  · simp [htests, returning] at hreturns

/-! ## The record of a run -/

/-- Can a result be copied into a dictionary and written as JSON?
Source: `src/run_artifacts.py` `RunArtifacts.save`
Kind: D -/
def Recordable (w : Surroundings) (result : TestRunResult) : Prop :=
  (∀ v ∈ result.object.records, v.copyFrames w.limits.asdict ≤ w.limits.asdict.frames) ∧
    ∃ content, Json.dumpsWith (some 2) 0 w.limits.dumps (result.object.toDict w.iso) = .ok content

lemma Recordable.toDictWithin {result : TestRunResult} (h : Recordable w result) :
    result.object.toDictWithin w.limits.asdict w.iso = .ok (result.object.toDict w.iso) := by
  rw [TestRunObject.toDictWithin_eq, if_pos h.1]

/-- `save` raises only the `RunArtifactError` that `_finalize` catches, if the result can be written as
JSON.
Source: `src/run_artifacts.py` `RunArtifacts.save`
Kind: L -/
lemma Recordable.save_error {result : TestRunResult} (h : Recordable w result) {access : FileAccess}
    {e : PyExc} (herror : save w.iso w.limits w.windows access result.object = .error e) :
    e = runArtifactError := by
  obtain ⟨-, content, hcontent⟩ := id h
  have hascii : ∀ c ∈ content, c < 0x80 := by
    intro c hc
    rcases Json.plainText_dumpsWith (some 2) 0 w.limits.dumps _ content hcontent c hc with
      rfl | ⟨-, hhigh⟩
    · decide
    · exact lt_of_le_of_lt hhigh (by decide)
  obtain ⟨data, hdata⟩ := exists_writeText w.windows hascii
  unfold save at herror
  rw [h.toDictWithin] at herror
  rcases access with ⟨mkdir, write⟩
  cases mkdir
  · exact (Except.error.inj herror).symm
  · cases write
    · simp only [hcontent, bind, Except.bind] at herror
      exact (Except.error.inj herror).symm
    · simp [hcontent, hdata, bind, Except.bind, pure, Except.pure] at herror

/-- `_finalize` stamps a result that can be written as JSON and delivers it, once.
Source: `src/gui/run_controller.py` `RunController._finalize`
Kind: L -/
lemma finalize_spec {s : Session} {k : Nat} {result : TestRunResult} {returncode : Option Int}
    (access : FileAccess) {now : DateTime} (hheld : s.controller.result = some (k, result))
    (hdir : s.controller.runDir = some k) (h : Recordable w (finalizeRun result returncode now)) :
    ∃ signals, s.finalize w access now returncode = Session.emit { s with
        controller := { s.controller with result := some (k, finalizeRun result returncode now) } }
        signals ∧
      ∀ j, signals.filterMap (ControllerSignal.deliveredTo j) =
        if k = j then [finalizeRun result returncode now] else [] := by
  have hfinished : ∀ j, ([.finished k (finalizeRun result returncode now)] :
      List ControllerSignal).filterMap (ControllerSignal.deliveredTo j) =
        if k = j then [finalizeRun result returncode now] else [] := by
    intro j
    by_cases hj : k = j
    · simp [ControllerSignal.deliveredTo, hj]
    · simp [ControllerSignal.deliveredTo, hj]
  simp only [Session.finalize, hheld, hdir]
  rcases hsave : save w.iso w.limits w.windows access (finalizeRun result returncode now).object with
    e | directory
  · obtain rfl := h.save_error hsave
    exact ⟨[.saveFailed, .finished k (finalizeRun result returncode now)], rfl, hfinished⟩
  · exact ⟨[.finished k (finalizeRun result returncode now)], rfl, hfinished⟩

/-! ## Runs that go on -/

/-- Reading the list of runs after one of them changed.
Source: none: infrastructure
Kind: L -/
lemma exists_of_getElem?_modify {runs : List StartedRun} {f : StartedRun → StartedRun} {k j : Nat}
    {run' : StartedRun} (h : (runs.modify k f)[j]? = some run') :
    ∃ run, runs[j]? = some run ∧ run' = if k = j then f run else run := by
  rw [List.getElem?_modify] at h
  obtain ⟨run, hrun, rfl⟩ := Option.map_eq_some_iff.mp h
  exact ⟨run, hrun, rfl⟩

/-- The same run later: its logs have grown, and its process may have begun to run.
Source: `src/gui/run_controller.py` `RunController`
Kind: D -/
structure GoesOn (run run' : StartedRun) : Prop where
  header : run'.header = run.header
  ended : ∀ how, run'.state = .notRunning how ↔ run.state = .notRunning how
  stopCalled : run'.stopCalled = run.stopCalled
  reportLog : ∃ more, run'.reportLog = appendTo run.reportLog more
  eventsLog : ∃ more, run'.eventsLog = appendTo run.eventsLog more

lemma GoesOn.refl (run : StartedRun) : GoesOn run run :=
  ⟨rfl, fun _ => Iff.rfl, rfl, ⟨[], rfl⟩, ⟨[], rfl⟩⟩

lemma isOver_iff {run : StartedRun} : run.isOver = true ↔ ∃ how, run.state = .notRunning how := by
  rw [StartedRun.isOver]
  cases run.state <;> simp [ProcessState.isOver]

lemma GoesOn.isOver {run run' : StartedRun} (h : GoesOn run run') : run'.isOver = run.isOver := by
  rw [Bool.eq_iff_iff, isOver_iff, isOver_iff]
  exact exists_congr h.ended

lemma appendTo_isPrefix (file : Option Bytes) (more : Bytes) :
    file.getD [] <+: (appendTo file more).getD [] := by
  rw [getD_appendTo]
  exact List.prefix_append _ _

/-- What was delivered of a run stays right.
Source: `src/gui/run_controller.py` `RunController`
Kind: L -/
lemma DeliveredOnce.goesOn {run run' : StartedRun} {deliveries : List TestRunResult}
    (h : DeliveredOnce w run deliveries) (hon : GoesOn run run') : DeliveredOnce w run' deliveries := by
  obtain ⟨moreReport, hreport⟩ := hon.reportLog
  obtain ⟨moreEvents, hevents⟩ := hon.eventsLog
  refine ⟨fun hlive => h.pending (hon.isOver ▸ hlive), ?_⟩
  intro how hover
  obtain ⟨result, rfl, hreports⟩ := h.delivered how ((hon.ended how).mp hover)
  obtain ⟨seenTests, hseenTests, htests⟩ := hreports.tests
  obtain ⟨seenPackets, hseenPackets, hpackets⟩ := hreports.packetEvents
  refine ⟨result, rfl, ?_⟩
  constructor
  case header => exact hreports.header.trans hon.header.symm
  case returncode =>
    have hsame : run'.returncode how = run.returncode how := by
      unfold StartedRun.returncode
      rw [hon.stopCalled]
    rw [hsame]
    exact hreports.returncode
  case tests =>
    refine ⟨seenTests, hseenTests.trans ?_, htests⟩
    rw [hreport]
    exact appendTo_isPrefix _ _
  case packetEvents =>
    refine ⟨seenPackets, hseenPackets.trans ?_, hpackets⟩
    rw [hevents]
    exact appendTo_isPrefix _ _

lemma WorksFor.goesOn {c : RunController} {k : Nat} {run run' : StartedRun} {result : TestRunResult}
    (h : WorksFor w c k run result) (hon : GoesOn run run') : WorksFor w c k run' result := by
  obtain ⟨moreReport, hreport⟩ := hon.reportLog
  obtain ⟨moreEvents, hevents⟩ := hon.eventsLog
  refine ⟨h.held, h.runDir, h.process, h.header.trans hon.header.symm, ?_, ?_, ?_⟩
  · rw [hreport]
    exact h.tests.append moreReport
  · rw [hevents]
    exact h.packetEvents.append moreEvents
  · intro hlive
    rw [hon.stopCalled]
    exact h.stopping (hon.isOver ▸ hlive)

/-- The timer, the stop flag and the process change.
Source: `src/gui/run_controller.py` `RunController`
Kind: L -/
lemma WorksFor.withFlags {c : RunController} {k : Nat} {run run' : StartedRun} {result : TestRunResult}
    (h : WorksFor w c k run result) (timerActive stopping : Bool) (hheader : run'.header = run.header)
    (hlogs : run'.reportLog = run.reportLog ∧ run'.eventsLog = run.eventsLog)
    (hstopping : run'.isOver = false → stopping = run'.stopCalled) :
    WorksFor w { c with timerActive, stopping } k run' result :=
  ⟨h.held, h.runDir, h.process, h.header.trans hheader.symm, hlogs.1 ▸ h.tests, hlogs.2 ▸ h.packetEvents,
    hstopping⟩

namespace Session.Sound

variable {s : Session}

/-- A run that goes on.
Source: `src/gui/run_controller.py` `RunController`
Kind: L -/
lemma modify (h : s.Sound w) (k : Nat) {f : StartedRun → StartedRun}
    (hf : ∀ run, s.runs[k]? = some run → GoesOn run (f run)) :
    Sound w { s with runs := s.runs.modify k f } := by
  have hback : ∀ (j : Nat) run', (s.runs.modify k f)[j]? = some run' →
      ∃ run, s.runs[j]? = some run ∧ GoesOn run run' := by
    intro j run' hj
    obtain ⟨run, hrun, rfl⟩ := exists_of_getElem?_modify hj
    refine ⟨run, hrun, ?_⟩
    split
    · next hkj => exact hf run (hkj ▸ hrun)
    · exact GoesOn.refl run
  constructor
  case escaped => exact h.escaped
  case past =>
    intro j run' hj hlength
    obtain ⟨run, hrun, hon⟩ := hback j run' hj
    rw [hon.isOver]
    exact h.past j run hrun (by simpa using hlength)
  case unused =>
    intro hnil
    exact h.unused (List.eq_nil_of_length_eq_zero (by simpa using congrArg List.length hnil))
  case current =>
    intro j run' hj hlength
    obtain ⟨run, hrun, hon⟩ := hback j run' hj
    obtain ⟨result, hworks⟩ := h.current j run hrun (by simpa using hlength)
    exact ⟨result, hworks.goesOn hon⟩
  case idle =>
    intro hidle
    apply h.idle
    unfold isIdle at hidle ⊢
    rw [List.all_eq_true] at hidle ⊢
    intro run hrun
    obtain ⟨j, hj⟩ := List.mem_iff_getElem?.mp hrun
    have hmodified : (s.runs.modify k f)[j]? = some (if k = j then f run else run) := by
      rw [List.getElem?_modify, hj]
      rfl
    have hover := hidle _ (List.mem_of_getElem? hmodified)
    obtain ⟨run₀, hrun₀, hon⟩ := hback j _ hmodified
    obtain rfl := Option.some.inj (hj.symm.trans hrun₀)
    rw [← hon.isOver]
    exact hover
  case deliveries =>
    intro j run' hj
    obtain ⟨run, hrun, hon⟩ := hback j run' hj
    exact (h.deliveries j run hrun).goesOn hon
  case none_else =>
    intro j hj
    exact h.none_else j (by simpa using hj)

/-- Emitting anything but a result.
Source: `src/gui/run_controller.py` `RunController`
Kind: L -/
lemma emit (h : s.Sound w) {signals : List ControllerSignal}
    (hnone : ∀ j, signals.filterMap (ControllerSignal.deliveredTo j) = []) :
    (s.emit signals).Sound w := by
  have hsame : ∀ j, (s.emit signals).deliveries j = s.deliveries j := by
    intro j
    rw [deliveries_emit, hnone j, List.append_nil]
  refine ⟨h.escaped, h.past, h.unused, h.current, h.idle, ?_, ?_⟩
  · intro j run hj
    rw [hsame j]
    exact h.deliveries j run hj
  · intro j hj
    rw [hsame j]
    exact h.none_else j hj

/-- The run whose process is not over is the last one, and the controller works for it.
Source: `src/gui/run_controller.py` `RunController`
Kind: L -/
lemma inFlight (h : s.Sound w) {k : Nat} {run : StartedRun} (hrun : s.runs[k]? = some run)
    (hlive : run.isOver = false) :
    k + 1 = s.runs.length ∧ ∃ result, WorksFor w s.controller k run result := by
  have hk : k < s.runs.length := (List.getElem?_eq_some_iff.mp hrun).1
  have hlast : k + 1 = s.runs.length := by
    rcases Nat.lt_or_ge (k + 1) s.runs.length with hlt | hge
    · rw [h.past k run hrun hlt] at hlive
      cases hlive
    · omega
  exact ⟨hlast, h.current k run hrun hlast⟩

/-- A new run.
Source: `src/gui/run_controller.py` `RunController.start`
Kind: L -/
lemma start (h : s.Sound w) (hidle : s.isIdle = true) (header : TestRunResult) :
    (s.start header).Sound w := by
  have hover : ∀ run ∈ s.runs, run.isOver = true := List.all_eq_true.mp hidle
  have hcases : ∀ (k : Nat) run, (s.start header).runs[k]? = some run →
      s.runs[k]? = some run ∧ k < s.runs.length ∨
        k = s.runs.length ∧ run = { header := newRunResult header } := by
    intro k run hk
    change (s.runs ++ [{ header := newRunResult header }])[k]? = some run at hk
    rw [List.getElem?_append] at hk
    split at hk
    · next hlt => exact Or.inl ⟨hk, hlt⟩
    · next hge =>
        rw [List.getElem?_singleton] at hk
        split at hk
        · obtain rfl := Option.some.inj hk
          exact Or.inr ⟨by omega, rfl⟩
        · cases hk
  have hlength : (s.start header).runs.length = s.runs.length + 1 := List.length_append
  constructor
  case escaped => exact h.escaped
  case past =>
    intro k run hk hlast
    rcases hcases k run hk with ⟨hrun, -⟩ | ⟨rfl, -⟩
    · exact hover run (List.mem_of_getElem? hrun)
    · omega
  case unused =>
    intro hnil
    rw [hnil] at hlength
    cases hlength
  case current =>
    intro k run hk hlast
    rcases hcases k run hk with ⟨-, hlt⟩ | ⟨rfl, rfl⟩
    · omega
    · exact ⟨newRunResult header, rfl, rfl, rfl, rfl, Tailed.start none, Tailed.start none,
        fun _ => rfl⟩
  case idle =>
    intro hall
    have hnew := List.all_eq_true.mp hall { header := newRunResult header }
      (List.mem_append_right _ List.mem_cons_self)
    cases hnew
  case deliveries =>
    intro k run hk
    rcases hcases k run hk with ⟨hrun, -⟩ | ⟨rfl, rfl⟩
    · exact h.deliveries k run hrun
    · exact ⟨fun _ => h.none_else _ le_rfl, fun how hhow => absurd hhow (by simp)⟩
  case none_else =>
    intro k hk
    exact h.none_else k (by omega)

/-- The run in flight changes, and the controller with it.
Source: `src/gui/run_controller.py` `RunController`
Kind: L -/
lemma replace (h : s.Sound w) {k : Nat} {run : StartedRun} (hrun : s.runs[k]? = some run)
    (hlive : run.isOver = false) (f : StartedRun → StartedRun) {t : Session} {result : TestRunResult}
    (hruns : t.runs = s.runs.modify k f) (hescaped : t.escaped = none)
    (hworks : WorksFor w t.controller k (f run) result)
    (hidle : (f run).isOver = true → t.controller.timerActive = false)
    (honce : DeliveredOnce w (f run) (t.deliveries k))
    (hothers : ∀ j, k ≠ j → t.deliveries j = s.deliveries j) : t.Sound w := by
  obtain ⟨hlast, -⟩ := h.inFlight hrun hlive
  have hlength : t.runs.length = s.runs.length := by rw [hruns, List.length_modify]
  have hnew : t.runs[k]? = some (f run) := by
    rw [hruns, List.getElem?_modify_eq, hrun]
    rfl
  have hcases : ∀ (j : Nat) run', t.runs[j]? = some run' →
      k = j ∧ run' = f run ∨ k ≠ j ∧ s.runs[j]? = some run' := by
    intro j run' hj
    rcases eq_or_ne k j with rfl | hne
    · exact Or.inl ⟨rfl, Option.some.inj (hj.symm.trans hnew)⟩
    · rw [hruns, List.getElem?_modify_ne _ _ hne] at hj
      exact Or.inr ⟨hne, hj⟩
  constructor
  case escaped => exact hescaped
  case past =>
    intro j run' hj hlt
    rcases hcases j run' hj with ⟨rfl, -⟩ | ⟨-, hold⟩
    · omega
    · exact h.past j run' hold (by omega)
  case unused =>
    intro hnil
    rw [hnil] at hlength
    rw [← hlength] at hlast
    cases hlast
  case current =>
    intro j run' hj hend
    obtain rfl : k = j := by omega
    obtain rfl := Option.some.inj (hnew.symm.trans hj)
    exact ⟨result, hworks⟩
  case idle =>
    intro hall
    exact hidle (List.all_eq_true.mp hall _ (List.mem_of_getElem? hnew))
  case deliveries =>
    intro j run' hj
    rcases hcases j run' hj with ⟨rfl, rfl⟩ | ⟨hne, hold⟩
    · exact honce
    · rw [hothers j hne]
      exact h.deliveries j run' hold
  case none_else =>
    intro j hj
    rw [hothers j (by omega)]
    exact h.none_else j (by omega)

lemma stopTimer (h : s.Sound w) :
    Sound w { s with controller := { s.controller with timerActive := false } } := by
  refine ⟨h.escaped, h.past, h.unused, ?_, fun _ => rfl, h.deliveries, h.none_else⟩
  intro k run hk hlast
  obtain ⟨result, hworks⟩ := h.current k run hk hlast
  exact ⟨result, hworks.withFlags false _ rfl ⟨rfl, rfl⟩ hworks.stopping⟩

/-- `stop` leaves a note if a process is running, and else stops the timer.
Source: `src/gui/run_controller.py` `RunController.stop`
Kind: L -/
lemma stop (h : s.Sound w) : s.stop.Sound w := by
  unfold Session.stop
  split
  · next k run hprocess =>
      obtain ⟨j, hj, hmap⟩ := Option.bind_eq_some_iff.mp hprocess
      obtain ⟨run₁, hrun, hpair⟩ := Option.map_eq_some_iff.mp hmap
      obtain ⟨rfl, rfl⟩ := Prod.mk.inj hpair
      split
      · next hlive =>
          obtain ⟨-, result, hworks⟩ := h.inFlight hrun hlive
          have hnone := (h.deliveries j run₁ hrun).pending hlive
          refine h.replace hrun hlive (fun run => { run with stopCalled := true }) rfl h.escaped
            (hworks.withFlags _ true rfl ⟨rfl, rfl⟩ fun _ => rfl) ?_ ⟨fun _ => hnone, ?_⟩ fun _ _ => rfl
          · intro hover
            exact absurd (hlive.symm.trans hover) (by simp)
          · intro how hover
            have : run₁.isOver = true := isOver_iff.mpr ⟨how, hover⟩
            exact absurd (hlive.symm.trans this) (by simp)
      · exact h.stopTimer
  · exact h.stopTimer

/-- A drain that returns.
Source: `src/gui/run_controller.py` `RunController._drain`
Kind: L -/
lemma drain (h : s.Sound w) (hreturns : (s.drain w).escaped = none) : (s.drain w).Sound w := by
  rcases List.eq_nil_or_concat' s.runs with hnil | ⟨before, run, hconcat⟩
  · obtain ⟨-, hdir, -⟩ := h.unused hnil
    have hsame : s.drain w = s := by
      unfold Session.drain
      rw [hdir]
      rfl
    rw [hsame]
    exact h
  · have hlast : before.length + 1 = s.runs.length := by rw [hconcat, List.length_append]; rfl
    have hrun : s.runs[before.length]? = some run := by rw [hconcat, List.getElem?_concat_length]
    obtain ⟨result, hworks⟩ := h.current _ run hrun hlast
    obtain ⟨result', reportOffset, eventsOffset, signals, hdrain, hworks', -, hnone⟩ :=
      drain_spec hrun hworks hreturns
    rw [hdrain]
    apply Sound.emit _ hnone
    refine ⟨h.escaped, h.past, ?_, ?_, h.idle, h.deliveries, h.none_else⟩
    · intro hnil
      rw [hnil] at hlast
      cases hlast
    · intro k run₁ hk hlength
      obtain rfl : before.length = k := by
        have : k + 1 = s.runs.length := hlength
        omega
      obtain rfl := Option.some.inj (hrun.symm.trans hk)
      exact ⟨result', hworks'⟩

end Session.Sound

/-! ## The end of a run -/

/-- Collected tests are those of one drain of what was read.
Source: `src/runner.py` `drain_test_events`
Kind: L -/
lemma Tailed.tests_eq {R : Runtime} {file log : Option Bytes} {offset : Nat} {tests : List TestEvent}
    (h : Tailed (mergeStep R) file offset tests)
    (hlines : (readNewLines log 0).1 = logLines ((file.getD []).take offset)) :
    tests = (drainTestEvents R none log 0 Feed.empty).1.events := by
  obtain ⟨feed, hrun, rfl⟩ := h.collected
  rw [drainTestEvents_eq R none _ 0 WellKeyed.nil, hlines, hrun]
  rfl

/-- Collected packets are those of one drain of what was read.
Source: `src/runner.py` `drain_packet_events`
Kind: L -/
lemma Tailed.packets_eq {R : Runtime} {file log : Option Bytes} {offset : Nat}
    {packets : List PacketEvent} (h : Tailed (packetStep R) file offset packets)
    (hlines : (readNewLines log 0).1 = logLines ((file.getD []).take offset)) :
    packets = (drainPacketEvents R none log 0 Feed.empty).1.events := by
  obtain ⟨feed, hrun, rfl⟩ := h.collected
  rw [drainPacketEvents_eq, hlines, hrun]
  rfl

/-- The run behind the end of its process.
Source: Qt `QProcess`
Kind: D -/
def StartedRun.ended (run : StartedRun) (how : ProcessEnd) : StartedRun :=
  { run with state := .notRunning how }

/-- The stamped result of the run a controller works for is that run's.
Source: `src/runner.py` `finalize_run`
Kind: L -/
lemma WorksFor.reports {c : RunController} {k : Nat} {run : StartedRun} {result : TestRunResult}
    (h : WorksFor w c k run result) (how : ProcessEnd) (now : DateTime) :
    Reports w run how (finalizeRun result (run.returncode how) now) :=
  ⟨h.header, rfl,
    ⟨_, List.take_prefix _ _, h.tests.tests_eq (readNewLines_read h.tests.boundary)⟩,
    ⟨_, List.take_prefix _ _, h.packetEvents.packets_eq (readNewLines_read h.packetEvents.boundary)⟩⟩

/-- What the logs of a run come to: its header with the events of both, and the stamps of its end.
Source: `src/runner.py` `finalize_run`
Kind: D -/
def StartedRun.record (w : Surroundings) (run : StartedRun) (how : ProcessEnd) (now : DateTime) :
    TestRunResult :=
  finalizeRun { run.header with
      tests := (drainTestEvents w.runtime none run.reportLog 0 Feed.empty).1.events
      packetEvents := (drainPacketEvents w.runtime none run.eventsLog 0 Feed.empty).1.events }
    (run.returncode how) now

/-- Behind a drain of both logs, the stamped result is the record of the run.
Source: `src/runner.py` `finalize_run`
Kind: L -/
lemma WorksFor.eq_record {c : RunController} {k : Nat} {run : StartedRun} {result : TestRunResult}
    (h : WorksFor w c k run result) (hreport : Drained run.reportLog c.reportOffset)
    (hevents : Drained run.eventsLog c.eventsOffset) (how : ProcessEnd) (now : DateTime) :
    finalizeRun result (run.returncode how) now = run.record w how now := by
  unfold StartedRun.record
  rw [← h.tests.tests_eq (readNewLines_drained hreport),
    ← h.packetEvents.packets_eq (readNewLines_drained hevents), ← h.header]
  rfl

namespace Session

/-- The session when a slot has stopped the timer for a process that is over.
Source: `src/gui/run_controller.py` `RunController._on_finished`, `RunController._on_error`
Kind: D -/
def ending (s : Session) (k : Nat) (how : ProcessEnd) : Session :=
  { s.endProcess k how with controller := { s.controller with timerActive := false } }

variable {s : Session}

/-- The controller goes on working for a run whose process is over.
Source: `src/gui/run_controller.py` `RunController._on_finished`
Kind: L -/
lemma Sound.ending (h : s.Sound w) {k : Nat} {run : StartedRun} (hrun : s.runs[k]? = some run)
    (hlive : run.isOver = false) (how : ProcessEnd) :
    (s.ending k how).runs[k]? = some (run.ended how) ∧
      ∃ result, WorksFor w (s.ending k how).controller k (run.ended how) result := by
  obtain ⟨-, result, hworks⟩ := h.inFlight hrun hlive
  refine ⟨?_, result, hworks.withFlags false _ rfl ⟨rfl, rfl⟩ ?_⟩
  · change (s.runs.modify k _)[k]? = _
    rw [List.getElem?_modify_eq, hrun]
    rfl
  · intro hover
    cases hover

/-- The session `t` in front of `_finalize`, for the run `k` that was in flight in the session `s`: its
process is over, the timer is stopped, and nothing has been delivered since.
Source: `src/gui/run_controller.py` `RunController._finalize`
Kind: D -/
structure Closing (w : Surroundings) (s t : Session) (k : Nat) (run : StartedRun) (how : ProcessEnd)
    (result : TestRunResult) : Prop where
  runs : t.runs = (s.ending k how).runs
  escaped : t.escaped = none
  timer : t.controller.timerActive = false
  signals : ∀ j, t.deliveries j = s.deliveries j
  works : WorksFor w t.controller k (run.ended how) result

/-- Finalizing a run delivers it.
Source: `src/gui/run_controller.py` `RunController._finalize`
Kind: L -/
lemma Sound.finalize (h : s.Sound w) {k : Nat} {run : StartedRun} (hrun : s.runs[k]? = some run)
    (hlive : run.isOver = false) {how : ProcessEnd} {t : Session} {result : TestRunResult}
    (hclosing : Closing w s t k run how result) {access : FileAccess} {now : DateTime}
    (hrecord : Recordable w (finalizeRun result (run.returncode how) now)) :
    (t.finalize w access now (run.returncode how)).Sound w := by
  obtain ⟨hruns, hescaped, htimer, hsignals, hworks⟩ := hclosing
  obtain ⟨signals, heq, hdelivered⟩ := finalize_spec access hworks.held hworks.runDir hrecord
  have hdeliveries : ∀ j, (t.finalize w access now (run.returncode how)).deliveries j =
      s.deliveries j ++ if k = j then [finalizeRun result (run.returncode how) now] else [] := by
    intro j
    rw [heq, deliveries_emit, hdelivered j]
    exact congrArg (· ++ _) (hsignals j)
  have hnone := (h.deliveries k run hrun).pending hlive
  have hworks' : WorksFor w (t.finalize w access now (run.returncode how)).controller k (run.ended how)
      (finalizeRun result (run.returncode how) now) := by
    rw [heq]
    exact ⟨rfl, hworks.runDir, hworks.process, hworks.header, hworks.tests, hworks.packetEvents,
      hworks.stopping⟩
  refine h.replace hrun hlive (fun run => run.ended how) ?_ ?_ hworks' ?_ ?_ ?_
  · rw [heq]
    exact hruns
  · rw [heq]
    exact hescaped
  · intro _
    rw [heq]
    exact htimer
  · rw [hdeliveries k, hnone, if_pos rfl, List.nil_append]
    refine ⟨fun hover => absurd hover (by simp [StartedRun.isOver, StartedRun.ended,
      ProcessState.isOver]), ?_⟩
    intro how' hstate
    obtain rfl := ProcessState.notRunning.inj hstate
    exact ⟨_, rfl, hworks.reports how now⟩
  · intro j hne
    rw [hdeliveries j, if_neg hne, List.append_nil]

/-! ## Steps -/

/-- The drains of a step return.
Source: `src/gui/run_controller.py` `RunController._drain`
Kind: D -/
def DrainsReturn (w : Surroundings) (s : Session) : ControllerEvent → Prop
  | .poll => (s.drain w).escaped = none
  | .finished k exitCode status _ _ =>
      ((s.ending k (.finished exitCode status)).drain w).escaped = none
  | _ => True

/-- The result that a step stamps and saves can be written as JSON: what the logs of a run that finishes
come to, or what was read of them before its process failed to start.
Source: `src/run_artifacts.py` `RunArtifacts.save`
Kind: D -/
def RecordReads (w : Surroundings) (s : Session) : ControllerEvent → Prop
  | .error _ .failedToStart _ _ now =>
      ∀ held ∈ s.controller.result, Recordable w (finalizeRun held.2 none now)
  | .finished k exitCode status _ now =>
      ∀ run ∈ s.runs[k]?, Recordable w (run.record w (.finished exitCode status) now)
  | _ => True

/-- The drains of a step return, and a result that it saves can be written as JSON.
Source: `src/gui/run_controller.py` `RunController`
Kind: D -/
structure Orderly (w : Surroundings) (s : Session) (e : ControllerEvent) : Prop where
  drains : DrainsReturn w s e
  record : RecordReads w s e

/-- A process that fails to start.
Source: `src/gui/run_controller.py` `RunController._on_error`
Kind: L -/
lemma Sound.failToStart (h : s.Sound w) {k : Nat} (hstarting : s.stateOf k = some .starting)
    {reason : PyStr} {access : FileAccess} {now : DateTime}
    (hrecord : RecordReads w s (.error k .failedToStart reason access now)) :
    ((s.endProcess k .failedToStart).onError w .failedToStart reason access now).Sound w := by
  obtain ⟨run, hrun, hstate⟩ := Option.map_eq_some_iff.mp hstarting
  have hlive : run.isOver = false := by
    rw [StartedRun.isOver, hstate]
    rfl
  obtain ⟨-, result, hworks⟩ := h.ending hrun hlive .failedToStart
  have hheld : s.controller.result = some (k, result) := hworks.held
  have hdir : s.controller.runDir = some k := hworks.runDir
  have heq : (s.endProcess k .failedToStart).onError w .failedToStart reason access now =
      Session.finalize w access now none
        ((s.ending k .failedToStart).emit [.failed (failedMessage reason)]) := by
    unfold onError
    rw [if_neg (by simp)]
    apply if_pos
    change (s.controller.result.isSome && s.controller.runDir.isSome) = true
    rw [hheld, hdir]
    rfl
  have hclosing : Closing w s ((s.ending k .failedToStart).emit [.failed (failedMessage reason)]) k run
      .failedToStart result := by
    refine ⟨rfl, h.escaped, rfl, ?_, hworks⟩
    intro j
    rw [deliveries_emit]
    exact List.append_nil _
  rw [heq]
  exact h.finalize hrun hlive hclosing (hrecord (k, result) hheld)

/-- The session in front of `_finalize`: the stop flag is read, reset and reported.
Source: `src/gui/run_controller.py` `RunController._on_finished`
Kind: D -/
def settle (s : Session) (status : ExitStatus) : Session :=
  let t := { s with controller := { s.controller with stopping := false } }
  if s.isStopped status then t.emit [.stopped] else t

/-- What `_on_finished` does behind a drain that returns.
Source: `src/gui/run_controller.py` `RunController._on_finished`
Kind: L -/
lemma onFinished_of_drain {exitCode : Int} {status : ExitStatus} {access : FileAccess} {now : DateTime}
    {drained : Session}
    (hdrain : drain w { s with controller := { s.controller with timerActive := false } } = drained)
    (hreturns : drained.escaped = none) :
    s.onFinished w exitCode status access now = (drained.settle status).finalize w access now
      (if drained.isStopped status then none else some exitCode) := by
  subst hdrain
  exact if_neg (by simp [hreturns])

lemma settle_runs (s : Session) (status : ExitStatus) : (s.settle status).runs = s.runs := by
  unfold settle
  split <;> rfl

lemma settle_escaped (s : Session) (status : ExitStatus) : (s.settle status).escaped = s.escaped := by
  unfold settle
  split <;> rfl

lemma settle_controller (s : Session) (status : ExitStatus) :
    (s.settle status).controller = { s.controller with stopping := false } := by
  unfold settle
  split <;> rfl

lemma settle_deliveries (s : Session) (status : ExitStatus) (j : Nat) :
    (s.settle status).deliveries j = s.deliveries j := by
  unfold settle
  split
  · rw [deliveries_emit]
    exact List.append_nil _
  · rfl

/-- The run of a process that has not ended.
Source: Qt `QProcess.state`
Kind: L -/
lemma exists_of_live {k : Nat} (h : (s.stateOf k).any (! ·.isOver) = true) :
    ∃ run, s.runs[k]? = some run ∧ run.isOver = false := by
  unfold stateOf at h
  rcases hrun : s.runs[k]? with _ | run
  · rw [hrun] at h
    cases h
  · rw [hrun] at h
    exact ⟨run, rfl, by simpa [StartedRun.isOver] using h⟩

/-- `finished` closes the run with the record of its logs, if the drain returns.
Source: `src/gui/run_controller.py` `RunController._on_finished`
Kind: L -/
lemma Sound.closing (h : s.Sound w) {k : Nat} {run : StartedRun} (hrun : s.runs[k]? = some run)
    (hlive : run.isOver = false) {exitCode : Int} {status : ExitStatus} {access : FileAccess}
    {now : DateTime} (hreturns : DrainsReturn w s (.finished k exitCode status access now)) :
    ∃ t result, Closing w s t k run (.finished exitCode status) result ∧
      (s.endProcess k (.finished exitCode status)).onFinished w exitCode status access now =
        t.finalize w access now (run.returncode (.finished exitCode status)) ∧
      finalizeRun result (run.returncode (.finished exitCode status)) now =
        run.record w (.finished exitCode status) now := by
  obtain ⟨hover, result, hworks⟩ := h.ending hrun hlive (.finished exitCode status)
  obtain ⟨result', reportOffset, eventsOffset, signals, hdrain, hworks', ⟨hreport, hevents⟩, hnone⟩ :=
    drain_spec hover hworks hreturns
  have hstopping : s.controller.stopping = run.stopCalled := by
    obtain ⟨-, result, hworks⟩ := h.inFlight hrun hlive
    exact hworks.stopping hlive
  have hcode : (if s.isStopped status then none else some exitCode) =
      run.returncode (.finished exitCode status) := by
    unfold isStopped
    rw [hstopping]
    cases status <;> cases hcalled : run.stopCalled <;> simp [StartedRun.returncode, hcalled]
  have hsame : isStopped ((s.ending k (.finished exitCode status)).drain w) status =
      s.isStopped status := by
    rw [hdrain]
    rfl
  refine ⟨((s.ending k (.finished exitCode status)).drain w).settle status, result', ?_, ?_,
    hworks'.eq_record hreport hevents (.finished exitCode status) now⟩
  · constructor
    case runs =>
      rw [settle_runs, hdrain]
      rfl
    case escaped =>
      rw [settle_escaped]
      exact hreturns
    case timer =>
      rw [settle_controller, hdrain]
      rfl
    case signals =>
      intro j
      rw [settle_deliveries, hdrain, deliveries_emit, hnone j]
      exact List.append_nil _
    case works =>
      rw [settle_controller, hdrain]
      apply hworks'.withFlags false false rfl ⟨rfl, rfl⟩
      intro hlive
      cases hlive
  · rw [← hcode, ← hsame]
    exact onFinished_of_drain rfl hreturns

/-- A process that finishes.
Source: `src/gui/run_controller.py` `RunController._on_finished`
Kind: L -/
lemma Sound.finish (h : s.Sound w) {k : Nat} {exitCode : Int} {status : ExitStatus}
    (hlive : (s.stateOf k).any (! ·.isOver) = true) {access : FileAccess} {now : DateTime}
    (horderly : Orderly w s (.finished k exitCode status access now)) :
    ((s.endProcess k (.finished exitCode status)).onFinished w exitCode status access now).Sound w := by
  obtain ⟨run, hrun, hlive⟩ := exists_of_live hlive
  obtain ⟨t, result, hclosing, heq, hread⟩ := h.closing hrun hlive horderly.drains
  rw [heq]
  apply h.finalize hrun hlive hclosing
  rw [hread]
  exact horderly.record run hrun

/-- Nothing has been started.
Source: `src/gui/run_controller.py` `RunController.__init__`
Kind: L -/
lemma Sound.nil : Sound w {} :=
  ⟨rfl, by simp, fun _ => ⟨rfl, rfl, rfl⟩, by simp, fun _ => rfl, by simp, fun _ _ => rfl⟩

/-- A process begins to run.
Source: Qt `QProcess.started`
Kind: L -/
lemma Sound.launch (h : s.Sound w) {k : Nat} (hstarting : s.stateOf k = some .starting) :
    Sound w { s with runs := s.runs.modify k fun run => { run with state := .running } } := by
  apply h.modify
  intro run hrun
  have hstate : run.state = .starting := by
    rw [stateOf, hrun] at hstarting
    exact Option.some.inj hstarting
  refine ⟨rfl, ?_, rfl, ⟨[], rfl⟩, ⟨[], rfl⟩⟩
  intro how
  rw [hstate]
  simp

/-- Output of the process is shown.
Source: `src/gui/run_controller.py` `RunController._on_output`
Kind: L -/
lemma Sound.output (h : s.Sound w) (data : Bytes) : (s.onOutput data).Sound w := by
  unfold onOutput
  split
  · exact h
  · apply h.emit
    intro j
    rw [List.filterMap_map]
    have hlines : ControllerSignal.deliveredTo j ∘ ControllerSignal.outputLine = fun _ => none := rfl
    rw [hlines]
    simp

/-- **One step keeps it**, if its drains return and a result it saves can be written as JSON.
Source: `src/gui/run_controller.py` `RunController`
Kind: P -/
theorem Sound.step (h : s.Sound w) {e : ControllerEvent} (horderly : Orderly w s e) {t : Session}
    (hstep : s.step w e = some t) : t.Sound w := by
  obtain ⟨hdrains, hrecord⟩ := horderly
  unfold Session.step at hstep
  rw [if_neg (by simp [h.escaped])] at hstep
  cases e with
  | start header =>
      obtain ⟨hidle, ht⟩ := Option.ite_none_right_eq_some.mp hstep
      obtain rfl := Option.some.inj ht
      exact h.start hidle header
  | startRefused message =>
      obtain ⟨-, ht⟩ := Option.ite_none_right_eq_some.mp hstep
      obtain rfl := Option.some.inj ht
      exact h.emit fun _ => rfl
  | launched k =>
      obtain ⟨hstarting, ht⟩ := Option.ite_none_right_eq_some.mp hstep
      obtain rfl := Option.some.inj ht
      exact h.launch hstarting
  | write k toReportLog toEventsLog =>
      obtain rfl := Option.some.inj hstep
      apply h.modify
      exact fun _ _ => ⟨rfl, fun _ => Iff.rfl, rfl, ⟨toReportLog, rfl⟩, ⟨toEventsLog, rfl⟩⟩
  | output data =>
      obtain rfl := Option.some.inj hstep
      exact h.output data
  | poll =>
      obtain rfl := Option.some.inj hstep
      exact h.drain hdrains
  | stop =>
      obtain rfl := Option.some.inj hstep
      exact h.stop
  | error k error reason access now =>
      dsimp only at hstep
      split at hstep
      · next hfailed =>
          subst hfailed
          obtain ⟨hstarting, ht⟩ := Option.ite_none_right_eq_some.mp hstep
          obtain rfl := Option.some.inj ht
          exact h.failToStart hstarting hrecord
      · next hother =>
          obtain ⟨-, ht⟩ := Option.ite_none_right_eq_some.mp hstep
          obtain rfl := Option.some.inj ht
          -- any other error is followed by `finished`, which settles the run
          rw [onError, if_pos hother]
          exact h
  | finished k exitCode status access now =>
      obtain ⟨hlive, ht⟩ := Option.ite_none_right_eq_some.mp hstep
      obtain rfl := Option.some.inj ht
      exact h.finish hlive ⟨hdrains, hrecord⟩

end Session

end NetstackSuite.Gui
