import NetstackSuite.Gui.RunClicks
import NetstackSuite.Gui.RunDelivery

/-!
# What the window shows

In every state that clicks and Qt's deliveries lead to without an exception of the privilege check, a drain, a result
that cannot be written or an event that cannot be shown (`Orderly`), Run can be clicked exactly if no run is in flight
and Stop exactly if one is, the timer runs exactly then, and the pill, the footer and the result on offer for export
are those of the last click (`window_truthful`). So the window never starts a run while one is in flight, which is what
the controller relies on, and the controller's promise (`Session.Delivered`) holds in whatever order things happen.

A click that starts no run leaves the pill at `Preflight…` (`Shows`).
-/

namespace NetstackSuite.Gui

open NetstackSuite.Cli NetstackSuite.Config NetstackSuite.Lib NetstackSuite.PacketEngine NetstackSuite.Plotting
  NetstackSuite.Python NetstackSuite.Reporting NetstackSuite.Runner

/-! ## What the controller emits -/

/-- An event of a log.
Source: `src/gui/run_controller.py` `RunController.test_event`, `RunController.packet_event`
Kind: D -/
def ControllerSignal.isEvent : ControllerSignal → Bool
  | .testEvent _ | .packetEvent _ => true
  | _ => false

/-- Something that the window only writes down: an event, or a line of the output.
Source: `src/gui/run_controller.py` `RunController`
Kind: D -/
def ControllerSignal.isNote : ControllerSignal → Bool
  | .testEvent _ | .packetEvent _ | .outputLine _ => true
  | _ => false

/-- The result that the signal delivers, of whichever run.
Source: `src/gui/run_controller.py` `RunController.finished`
Kind: D -/
def ControllerSignal.result? : ControllerSignal → Option TestRunResult
  | .finished _ result => some result
  | _ => none

/-- The results delivered so far, of all runs.
Source: `src/gui/run_controller.py` `RunController.finished`
Kind: D -/
def Session.delivered (s : Session) : List TestRunResult := s.signals.filterMap ControllerSignal.result?

section Emits

variable {w : Surroundings} {s : Session}

/-- A drain emits events.
Source: `src/gui/run_controller.py` `RunController._drain`
Kind: L -/
lemma drain_signals (w : Surroundings) (s : Session) :
    ∃ events, (s.drain w).signals = s.signals ++ events ∧ ∀ signal ∈ events, signal.isEvent = true := by
  have htests : ∀ tests : List TestEvent, ∀ signal ∈ tests.map ControllerSignal.testEvent, signal.isEvent = true := by
    intro tests signal hsignal
    obtain ⟨event, -, rfl⟩ := List.mem_map.mp hsignal
    rfl
  have hboth : ∀ (tests : List TestEvent) (packets : List PacketEvent),
      ∀ signal ∈ tests.map ControllerSignal.testEvent ++ packets.map ControllerSignal.packetEvent,
        signal.isEvent = true := by
    intro tests packets signal hsignal
    rcases List.mem_append.mp hsignal with hsignal | hsignal
    · exact htests tests signal hsignal
    · obtain ⟨event, -, rfl⟩ := List.mem_map.mp hsignal
      rfl
  unfold Session.drain
  split
  · split
    · exact ⟨_, rfl, htests _⟩
    · split
      · exact ⟨_, List.append_assoc .., hboth _ _⟩
      · exact ⟨_, List.append_assoc .., hboth _ _⟩
  · exact ⟨[], (List.append_nil _).symm, by simp⟩

/-- Source: `src/gui/run_controller.py` `RunController._drain`. Kind: L -/
lemma drain_runs (w : Surroundings) (s : Session) :
    (s.drain w).runs = s.runs ∧ (s.drain w).controller.timerActive = s.controller.timerActive := by
  unfold Session.drain
  split
  · split
    · exact ⟨rfl, rfl⟩
    · split <;> exact ⟨rfl, rfl⟩
  · exact ⟨rfl, rfl⟩

/-- Behind the events no event is emitted.
Source: `src/gui/run_controller.py` `RunController._on_finished`
Kind: L -/
lemma filter_closing {events saved : List ControllerSignal} {k : Nat} {result : TestRunResult} {wasStopped : Bool}
    (hevents : ∀ signal ∈ events, signal.isEvent = true) (hsaved : saved = [] ∨ saved = [.saveFailed]) :
    (events ++ ((if wasStopped then [ControllerSignal.stopped] else []) ++
      (saved ++ [ControllerSignal.finished k result]))).filter ControllerSignal.isEvent = events := by
  rw [List.filter_append, List.filter_eq_self.mpr hevents]
  rcases hsaved with rfl | rfl <;> cases wasStopped <;> exact List.append_nil _

/-- In front of the result no result is delivered.
Source: `src/gui/run_controller.py` `RunController._on_finished`
Kind: L -/
lemma before_result {events saved : List ControllerSignal} (wasStopped : Bool)
    (hevents : ∀ signal ∈ events, signal.isEvent = true) (hsaved : saved = [] ∨ saved = [.saveFailed]) :
    ∀ signal ∈ events ++ ((if wasStopped then [.stopped] else []) ++ saved), signal.result? = none := by
  intro signal hsignal
  rcases List.mem_append.mp hsignal with hsignal | hsignal
  · have hevent := hevents signal hsignal
    cases signal <;> first | rfl | cases hevent
  · rcases List.mem_append.mp hsignal with hsignal | hsignal
    · cases wasStopped
      · cases hsignal
      · obtain rfl := List.mem_singleton.mp hsignal
        rfl
    · rcases hsaved with rfl | rfl
      · cases hsignal
      · obtain rfl := List.mem_singleton.mp hsignal
        rfl

/-- What `_finalize` emits of a result that can be written as JSON, and keeps.
Source: `src/gui/run_controller.py` `RunController._finalize`
Kind: L -/
lemma finalize_emits {k : Nat} {result : TestRunResult} {returncode : Option Int} (access : FileAccess)
    {now : DateTime} (hheld : s.controller.result = some (k, result)) (hdir : s.controller.runDir = some k)
    (hrecord : Recordable w (finalizeRun result returncode now)) :
    ∃ saved, (saved = [] ∨ saved = [.saveFailed]) ∧
      s.finalize w access now returncode = Session.emit { s with
        controller := { s.controller with result := some (k, finalizeRun result returncode now) } }
        (saved ++ [.finished k (finalizeRun result returncode now)]) := by
  simp only [Session.finalize, hheld, hdir]
  rcases hsave : save w.iso w.limits w.windows access (finalizeRun result returncode now).object with
    e | directory
  · obtain rfl := hrecord.save_error hsave
    exact ⟨[.saveFailed], .inr rfl, rfl⟩
  · exact ⟨[], .inl rfl, rfl⟩

/-- Source: `src/gui/run_controller.py` `RunController._on_finished`. Kind: L -/
lemma settle_signals (s : Session) (status : ExitStatus) :
    (s.settle status).signals = s.signals ++ if s.isStopped status then [.stopped] else [] := by
  unfold Session.settle
  split
  · rfl
  · exact (List.append_nil _).symm

/-- A process that finishes: the events that were left, the notice that it was stopped, if it was, and the result.
Source: `src/gui/run_controller.py` `RunController._on_finished`
Kind: L -/
lemma finished_emits (h : s.Sound w) {k : Nat} {run : StartedRun} (hrun : s.runs[k]? = some run)
    (hlive : run.isOver = false) {exitCode : Int} {status : ExitStatus} {access : FileAccess} {now : DateTime}
    (hdrains : Session.DrainsReturn w s (.finished k exitCode status access now))
    (hrecord : Recordable w (run.record w (.finished exitCode status) now)) :
    ∃ events saved, (∀ signal ∈ events, signal.isEvent = true) ∧ (saved = [] ∨ saved = [.saveFailed]) ∧
      ((s.endProcess k (.finished exitCode status)).onFinished w exitCode status access now).runs =
        (s.ending k (.finished exitCode status)).runs ∧
      ((s.endProcess k (.finished exitCode status)).onFinished w exitCode status access now).signals =
        s.signals ++ (events ++ ((if (run.returncode (.finished exitCode status)).isNone then [.stopped] else []) ++
          (saved ++ [.finished k (run.record w (.finished exitCode status) now)]))) := by
  obtain ⟨hover, result, hworks⟩ := h.ending hrun hlive (.finished exitCode status)
  obtain ⟨result', reportOffset, eventsOffset, signals, hdrain, hworks', ⟨hreport, hevents⟩, -⟩ :=
    drain_spec hover hworks hdrains
  obtain ⟨events, hsignals, hall⟩ := drain_signals w (s.ending k (.finished exitCode status))
  have hstopping : s.controller.stopping = run.stopCalled := by
    obtain ⟨-, result, hworks⟩ := h.inFlight hrun hlive
    exact hworks.stopping hlive
  have hcode : (if s.isStopped status then none else some exitCode) =
      run.returncode (.finished exitCode status) := by
    unfold Session.isStopped
    rw [hstopping]
    cases status <;> cases hcalled : run.stopCalled <;> simp [StartedRun.returncode, hcalled]
  have hsame : Session.isStopped ((s.ending k (.finished exitCode status)).drain w) status = s.isStopped status := by
    rw [hdrain]
    rfl
  have hstopped : (run.returncode (.finished exitCode status)).isNone = s.isStopped status := by
    rw [← hcode]
    cases s.isStopped status <;> rfl
  have hsettled : (((s.ending k (.finished exitCode status)).drain w).settle status).controller =
      { s.controller.read k result' reportOffset eventsOffset with timerActive := false, stopping := false } := by
    rw [Session.settle_controller, hdrain]
    rfl
  have hstamped : finalizeRun result' (run.returncode (.finished exitCode status)) now =
      run.record w (.finished exitCode status) now :=
    hworks'.eq_record hreport hevents (.finished exitCode status) now
  rw [← hstamped] at hrecord ⊢
  obtain ⟨saved, hsaved, hfinal⟩ := finalize_emits
    (s := ((s.ending k (.finished exitCode status)).drain w).settle status) access
    (by rw [hsettled]; rfl) (by rw [hsettled]; exact hworks'.runDir) hrecord
  refine ⟨events, saved, hall, hsaved, ?_⟩
  have hdrained : Session.drain w { s.endProcess k (.finished exitCode status) with
      controller := { s.controller with timerActive := false } } =
        (s.ending k (.finished exitCode status)).drain w := rfl
  rw [Session.onFinished_of_drain hdrained hdrains, hsame, hcode, hfinal]
  refine ⟨(Session.settle_runs _ status).trans (drain_runs w _).1, ?_⟩
  show (((s.ending k (.finished exitCode status)).drain w).settle status).signals ++ _ = _
  rw [settle_signals, hsignals, hsame, hstopped, List.append_assoc, List.append_assoc]
  rfl

/-- A process that fails to start: the message, and the result.
Source: `src/gui/run_controller.py` `RunController._on_error`
Kind: L -/
lemma failed_emits (h : s.Sound w) {k : Nat} {run : StartedRun} (hrun : s.runs[k]? = some run)
    (hlive : run.isOver = false) {reason : PyStr} {access : FileAccess} {now : DateTime}
    (hrecord : Session.RecordReads w s (.error k .failedToStart reason access now)) :
    ∃ saved result, (saved = [] ∨ saved = [.saveFailed]) ∧ result.pytestReturncode = none ∧
      ((s.endProcess k .failedToStart).onError w .failedToStart reason access now).runs =
        (s.ending k .failedToStart).runs ∧
      ((s.endProcess k .failedToStart).onError w .failedToStart reason access now).signals =
        s.signals ++ (.failed (Session.failedMessage reason) :: (saved ++ [.finished k result])) := by
  obtain ⟨-, held, hworks⟩ := h.inFlight hrun hlive
  obtain ⟨saved, hsaved, hfinal⟩ := finalize_emits
    (s := (s.ending k .failedToStart).emit [.failed (Session.failedMessage reason)]) access hworks.held hworks.runDir
    (hrecord (k, held) hworks.held)
  have heq : (s.endProcess k .failedToStart).onError w .failedToStart reason access now =
      Session.finalize w access now none ((s.ending k .failedToStart).emit [.failed (Session.failedMessage reason)]) := by
    unfold Session.onError
    rw [if_neg (by simp)]
    apply if_pos
    change (s.controller.result.isSome && s.controller.runDir.isSome) = true
    rw [hworks.held, hworks.runDir]
    rfl
  refine ⟨saved, finalizeRun held none now, hsaved, rfl, ?_⟩
  rw [heq, hfinal]
  exact ⟨rfl, List.append_assoc ..⟩

end Emits

/-! ## What the window does with it -/

/-- The windows differ at most in what they have written down.
Source: `src/gui/main_window.py` `MainWindow`
Kind: D -/
structure SameFace (a b : MainWindow) : Prop where
  runEnabled : a.runEnabled = b.runEnabled
  stopEnabled : a.stopEnabled = b.stopEnabled
  pill : a.pill = b.pill
  footer : a.footer = b.footer
  result : a.result = b.result
  launchFailed : a.launchFailed = b.launchFailed
  stopped : a.stopped = b.stopped

lemma SameFace.refl (window : MainWindow) : SameFace window window := ⟨rfl, rfl, rfl, rfl, rfl, rfl, rfl⟩

lemma SameFace.trans {a b c : MainWindow} (hab : SameFace a b) (hbc : SameFace b c) : SameFace a c :=
  ⟨hab.runEnabled.trans hbc.runEnabled, hab.stopEnabled.trans hbc.stopEnabled, hab.pill.trans hbc.pill,
    hab.footer.trans hbc.footer, hab.result.trans hbc.result, hab.launchFailed.trans hbc.launchFailed,
    hab.stopped.trans hbc.stopped⟩

section Shows

variable (w : WindowSurroundings) (window : MainWindow)

/-- Source: `src/gui/log_panel.py` `LogPanel.append_line`. Kind: L -/
lemma sameFace_logLines (lines : List PyStr) : SameFace (window.logLines lines) window :=
  ⟨rfl, rfl, rfl, rfl, rfl, rfl, rfl⟩

/-- Source: `src/gui/main_window.py` `MainWindow._on_test_event`, `MainWindow._on_packet_event`. Kind: L -/
lemma onSignal_note {signal : ControllerSignal} (h : signal.isNote = true) :
    SameFace (window.onSignal w signal).1 window := by
  cases signal with
  | testEvent event =>
      unfold MainWindow.onSignal
      dsimp only
      split
      · exact sameFace_logLines window _
      · exact SameFace.refl window
  | packetEvent event => exact ⟨rfl, rfl, rfl, rfl, rfl, rfl, rfl⟩
  | outputLine line => exact sameFace_logLines window _
  | finished | failed | saveFailed | stopped => cases h

lemma run_notes {notes : List ControllerSignal} (h : ∀ signal ∈ notes, signal.isNote = true) :
    SameFace (run (MainWindow.onSignal w) notes window).1 window := by
  apply run_invariant (fun shown => SameFace shown window) notes (SameFace.refl window)
  intro shown signal hsignal hshown
  exact (onSignal_note w shown (h signal hsignal)).trans hshown

/-- Lines of output are always written down.
Source: `src/gui/main_window.py` `MainWindow._on_output_line`
Kind: L -/
lemma run_output (lines : List PyStr) :
    (run (MainWindow.onSignal w) (lines.map .outputLine) window).2 = none := by
  induction lines generalizing window with
  | nil => rfl
  | cons line lines ih =>
      rw [List.map_cons, run_cons]
      exact ih _

/-- A result whose return code can be printed is shown, and the window is ready for the next run.
Source: `src/gui/main_window.py` `MainWindow._on_finished`
Kind: L -/
lemma onFinished_spec {result : TestRunResult}
    (hcode : ∃ code, formatReturncode result.pytestReturncode = .ok code) :
    ∃ shown pill footer, window.onFinished result = (shown, none) ∧
      SameFace shown { window with result := some result, footer, pill, runEnabled := true, stopEnabled := false } ∧
      verdict result window.stopped window.launchFailed = .ok pill ∧ setResult result = .ok footer := by
  obtain ⟨code, hcode⟩ := hcode
  have hfooter : ∃ footer, setResult result = .ok footer := by
    unfold setResult panelSummary
    rw [hcode]
    split
    · exact ⟨_, rfl⟩
    · split <;> exact ⟨_, rfl⟩
  have hpill : ∃ pill, verdict result window.stopped window.launchFailed = .ok pill := by
    unfold verdict
    rw [hcode]
    repeat' split
    all_goals exact ⟨_, rfl⟩
  have hlines : ∀ shown : MainWindow, ∃ lines, shown.finishedLines result = .ok lines := by
    intro shown
    unfold MainWindow.finishedLines
    rw [hcode]
    repeat' split
    all_goals exact ⟨_, rfl⟩
  obtain ⟨footer, hfooter⟩ := hfooter
  obtain ⟨pill, hpill⟩ := hpill
  obtain ⟨lines, hlines⟩ := hlines { window with
    result := some result, footer, pill, runEnabled := true, stopEnabled := false }
  refine ⟨_, pill, footer, ?_, sameFace_logLines _ lines, hpill, hfooter⟩
  simp only [MainWindow.onFinished, MainWindow.setRunning, hfooter, hpill, Bool.not_false, hlines]

/-- Source: `src/gui/main_window.py` `MainWindow._on_save_failed`. Kind: L -/
lemma run_saved {saved : List ControllerSignal} (h : saved = [] ∨ saved = [.saveFailed]) :
    ∃ shown, run (MainWindow.onSignal w) saved window = (shown, none) ∧ SameFace shown window := by
  rcases h with rfl | rfl
  · exact ⟨window, rfl, SameFace.refl window⟩
  · exact ⟨_, rfl, sameFace_logLines window _⟩

/-- The signals at the end of a run: the events that were left, the notice of a stop, and the result.
Source: `src/gui/main_window.py` `MainWindow._on_stopped`, `MainWindow._on_finished`
Kind: L -/
lemma run_closing {events saved : List ControllerSignal} (k : Nat) {result : TestRunResult} (wasStopped : Bool)
    (hevents : ∀ signal ∈ events, signal.isEvent = true)
    (hreturns : (run (MainWindow.onSignal w) events window).2 = none)
    (hsaved : saved = [] ∨ saved = [.saveFailed])
    (hcode : ∃ code, formatReturncode result.pytestReturncode = .ok code) :
    ∃ shown pill footer,
      run (MainWindow.onSignal w)
          (events ++ ((if wasStopped then [.stopped] else []) ++ (saved ++ [.finished k result]))) window =
        (shown, none) ∧
      SameFace shown { window with
        stopped := window.stopped || wasStopped, result := some result, footer, pill, runEnabled := true,
        stopEnabled := false } ∧
      verdict result (window.stopped || wasStopped) window.launchFailed = .ok pill ∧
      setResult result = .ok footer := by
  have hnotes : ∀ signal ∈ events, signal.isNote = true := by
    intro signal hsignal
    have hevent := hevents signal hsignal
    cases signal <;> first | rfl | cases hevent
  have hface := run_notes w window hnotes
  rcases hrun : run (MainWindow.onSignal w) events window with ⟨shown₁, raised⟩
  rw [hrun] at hreturns hface
  obtain rfl : raised = none := hreturns
  have hstop : ∃ shown₂, run (MainWindow.onSignal w) (if wasStopped then [.stopped] else []) shown₁ =
      (shown₂, none) ∧ SameFace shown₂ { window with stopped := window.stopped || wasStopped } := by
    cases wasStopped
    · exact ⟨shown₁, rfl, by simpa using hface⟩
    · refine ⟨{ shown₁ with stopped := true }, rfl, hface.runEnabled, hface.stopEnabled, hface.pill, hface.footer,
        hface.result, hface.launchFailed, (Bool.or_true _).symm⟩
  obtain ⟨shown₂, hrun₂, hface₂⟩ := hstop
  obtain ⟨shown₃, hrun₃, hface₃⟩ := run_saved w shown₂ hsaved
  have hface' := hface₃.trans hface₂
  obtain ⟨shown, pill, footer, hfinished, hface₄, hpill, hfooter⟩ := onFinished_spec shown₃ hcode
  rw [hface'.stopped, hface'.launchFailed] at hpill
  refine ⟨shown, pill, footer, ?_, ?_, hpill, hfooter⟩
  · rw [run_append, hrun, andThen_none, run_append, hrun₂, andThen_none, run_append, hrun₃, andThen_none, run_cons]
    show andThen (shown₃.onFinished result) _ = _
    rw [hfinished, andThen_none, run_nil]
  · exact hface₄.trans ⟨rfl, rfl, rfl, rfl, rfl, hface'.launchFailed, hface'.stopped⟩

end Shows

/-! ## The promise -/

/-- The run was reported as stopped.
Source: `src/gui/run_controller.py` `RunController._on_finished`
Kind: D -/
def StartedRun.wasStopped (run : StartedRun) (how : ProcessEnd) : Bool :=
  how ≠ .failedToStart ∧ (run.returncode how).isNone

/-- Source: `src/gui/run_controller.py` `RunController._on_finished`. Kind: L -/
lemma wasStopped_finished (run : StartedRun) (exitCode : Int) (status : ExitStatus) :
    run.wasStopped (.finished exitCode status) = (run.returncode (.finished exitCode status)).isNone := by
  unfold StartedRun.wasStopped
  rw [Bool.eq_iff_iff, decide_eq_true_iff]
  exact and_iff_right (by simp)

/-- What the pill says of the last click on Run: nothing while there was none; `Preflight…` if it started no run; why
the run's directory could not be made; and of a run, that it is running or what became of it.
Source: `src/gui/main_window.py` `MainWindow._set_status`
Kind: D -/
def WindowSession.Shows (u : WindowSession) : Attempt → Prop
  | .none => u.session.runs = [] ∧ u.window.pill = (text "Idle — configure the DUT, pick tests, run", .idle)
  | .notStarted => u.session.isIdle = true ∧ u.window.pill = (text "Preflight…", .idle)
  | .refused => u.session.isIdle = true ∧ u.window.pill = (text "Could not start the run", .bad)
  | .run k => k + 1 = u.session.runs.length ∧ ∃ run, u.session.runs[k]? = some run ∧
      (run.isOver = false → ∃ selected, u.window.pill = (text "Running — " ++ selected, .idle)) ∧
      ∀ how, run.state = .notRunning how → ∃ result, u.session.deliveries k = [result] ∧
        verdict result (run.wasStopped how) (how = .failedToStart) = .ok u.window.pill

/-- What the window promises between two events.
Source: `src/gui/main_window.py` `MainWindow`
Kind: D -/
structure WindowSession.Truthful (w : WindowSurroundings) (u : WindowSession) : Prop where
  delivered : u.session.Delivered w.toSurroundings
  runButton : u.window.runEnabled = u.session.isIdle
  stopButton : u.window.stopEnabled = !u.session.isIdle
  timer : u.session.controller.timerActive = !u.session.isIdle
  offered : u.window.result = u.session.delivered.getLast?
  footer : ∀ result, u.window.result = some result → setResult result = .ok u.window.footer
  shows : u.Shows u.attempt

/-- What a step may rely on: the host is one on which the privilege check can be made; the controller's conditions;
and what it emits of the logs can be shown, each test's line printed and each packet counted.
Source: `src/gui/main_window.py` `MainWindow`
Kind: D -/
def WindowSession.Orderly (w : WindowSurroundings) (u : WindowSession) : WindowEvent → Prop
  | .clickRun click => click.host.privilegeError = none
  | .clickStop => True
  | .outside e => Session.Orderly w.toSurroundings u.session e ∧ ∀ t, u.session.step w.toSurroundings e = some t →
      (run (MainWindow.onSignal w) ((t.signals.drop u.session.signals.length).filter ControllerSignal.isEvent)
        u.window).2 = none

/-! ## What is kept -/

/-- The promise, with what the next step needs.
Source: `src/gui/main_window.py` `MainWindow`
Kind: D -/
structure WindowSession.Kept (w : WindowSurroundings) (u : WindowSession) : Prop where
  truthful : u.Truthful w
  sound : u.session.Sound w.toSurroundings
  flags : u.session.isIdle = false → u.window.launchFailed = false ∧ u.window.stopped = false

namespace WindowSession

variable {w : WindowSurroundings} {u : WindowSession} {t : Session}

/-- Nothing is in flight.
Source: `src/gui/run_controller.py` `RunController.start`
Kind: L -/
lemma isIdle_iff {s : Session} :
    s.isIdle = true ↔ ∀ (k : Nat) (run : StartedRun), s.runs[k]? = some run → run.isOver = true := by
  unfold Session.isIdle
  rw [List.all_eq_true]
  constructor
  · exact fun hall k run hrun => hall run (List.mem_of_getElem? hrun)
  · intro hall run hmem
    obtain ⟨k, hk⟩ := List.mem_iff_getElem?.mp hmem
    exact hall k run hk

/-- The controller has come to `t` without an exception, and its new signals are shown without one.
Source: Qt `Signal.emit`
Kind: L -/
lemma after_eq {new : List ControllerSignal} {shown : MainWindow} (hsignals : t.signals = u.session.signals ++ new)
    (hescaped : t.escaped = none) (hrun : run (MainWindow.onSignal w) new u.window = (shown, none)) :
    u.after w t = { u with session := t, window := shown } := by
  obtain ⟨controller, runs, signals, escaped⟩ := t
  obtain rfl : escaped = none := hescaped
  obtain rfl : signals = u.session.signals ++ new := hsignals
  unfold after
  rw [List.drop_left, hrun]
  rfl

/-- A step that starts and ends no run, and emits only what is written down.
Source: `src/gui/run_controller.py` `RunController`
Kind: D -/
structure Quiet (s t : Session) (new : List ControllerSignal) : Prop where
  signals : t.signals = s.signals ++ new
  notes : ∀ signal ∈ new, signal.isNote = true
  timer : t.controller.timerActive = s.controller.timerActive
  length : t.runs.length = s.runs.length
  runs : ∀ (k : Nat) (run' : StartedRun), t.runs[k]? = some run' → ∃ run, s.runs[k]? = some run ∧
    (∀ how, run'.state = .notRunning how ↔ run.state = .notRunning how) ∧
    (run.isOver = true → run'.stopCalled = run.stopCalled)

namespace Quiet

variable {s : Session} {new : List ControllerSignal}

/-- Source: none: infrastructure. Kind: L -/
lemma run_of (h : Quiet s t new) {k : Nat} {run : StartedRun} (hrun : s.runs[k]? = some run) :
    ∃ run', t.runs[k]? = some run' ∧ (∀ how, run'.state = .notRunning how ↔ run.state = .notRunning how) ∧
      (run.isOver = true → run'.stopCalled = run.stopCalled) := by
  have hk : k < t.runs.length := by
    rw [h.length]
    exact (List.getElem?_eq_some_iff.mp hrun).1
  obtain ⟨run₁, hrun₁, hstate, hstop⟩ := h.runs k _ (List.getElem?_eq_getElem hk)
  obtain rfl := Option.some.inj (hrun.symm.trans hrun₁)
  exact ⟨_, List.getElem?_eq_getElem hk, hstate, hstop⟩

lemma isOver_eq {run run' : StartedRun} (h : ∀ how, run'.state = .notRunning how ↔ run.state = .notRunning how) :
    run'.isOver = run.isOver := by
  rw [Bool.eq_iff_iff, isOver_iff, isOver_iff]
  exact exists_congr h

lemma isIdle_eq (h : Quiet s t new) : t.isIdle = s.isIdle := by
  rw [Bool.eq_iff_iff, isIdle_iff, isIdle_iff]
  constructor
  · intro hall k run hrun
    obtain ⟨run', hrun', hstate, -⟩ := h.run_of hrun
    exact isOver_eq hstate ▸ hall k run' hrun'
  · intro hall k run' hrun'
    obtain ⟨run, hrun, hstate, -⟩ := h.runs k run' hrun'
    exact (isOver_eq hstate).trans (hall k run hrun)

lemma deliveries_eq (h : Quiet s t new) (k : Nat) : t.deliveries k = s.deliveries k := by
  have hnone : new.filterMap (ControllerSignal.deliveredTo k) = [] := by
    rw [List.filterMap_eq_nil_iff]
    intro signal hsignal
    have hnote := h.notes signal hsignal
    cases signal <;> first | rfl | cases hnote
  unfold Session.deliveries
  rw [h.signals, List.filterMap_append, hnone, List.append_nil]

lemma delivered_eq (h : Quiet s t new) : t.delivered = s.delivered := by
  have hnone : new.filterMap ControllerSignal.result? = [] := by
    rw [List.filterMap_eq_nil_iff]
    intro signal hsignal
    have hnote := h.notes signal hsignal
    cases signal <;> first | rfl | cases hnote
  unfold Session.delivered
  rw [h.signals, List.filterMap_append, hnone, List.append_nil]

end Quiet

/-- What is promised of a controller is what its sessions keep.
Source: `src/gui/run_controller.py` `RunController`
Kind: L -/
lemma delivered_of_sound {w : Surroundings} {s : Session} (h : s.Sound w) : s.Delivered w :=
  ⟨h.escaped, h.deliveries, h.none_else, h.idle⟩

/-- Source: `src/gui/main_window.py` `MainWindow`. Kind: L -/
lemma Shows.quiet {shown : MainWindow} {new : List ControllerSignal} {attempt : Attempt} (h : u.Shows attempt)
    (hquiet : Quiet u.session t new) (hface : SameFace shown u.window) :
    Shows { u with session := t, window := shown } attempt := by
  rcases attempt with _ | _ | _ | k
  · obtain ⟨hnil, hpill⟩ := h
    refine ⟨List.eq_nil_of_length_eq_zero ?_, hface.pill.trans hpill⟩
    rw [hquiet.length, hnil]
    rfl
  · exact ⟨hquiet.isIdle_eq.trans h.1, hface.pill.trans h.2⟩
  · exact ⟨hquiet.isIdle_eq.trans h.1, hface.pill.trans h.2⟩
  · obtain ⟨hlast, run, hrun, hlive, hover⟩ := h
    obtain ⟨run', hrun', hstate, hstop⟩ := hquiet.run_of hrun
    refine ⟨hlast.trans hquiet.length.symm, run', hrun', ?_, ?_⟩
    · intro hlive'
      obtain ⟨selected, hpill⟩ := hlive ((Quiet.isOver_eq hstate).symm.trans hlive')
      exact ⟨selected, hface.pill.trans hpill⟩
    · intro how hhow
      obtain ⟨result, hdelivered, hverdict⟩ := hover how ((hstate how).mp hhow)
      refine ⟨result, (hquiet.deliveries_eq k).trans hdelivered, ?_⟩
      have hsame : run'.wasStopped how = run.wasStopped how := by
        unfold StartedRun.wasStopped StartedRun.returncode
        rw [hstop (isOver_iff.mpr ⟨how, (hstate how).mp hhow⟩)]
      rw [hsame]
      exact hverdict.trans (congrArg _ hface.pill.symm)

/-- A quiet step.
Source: `src/gui/main_window.py` `MainWindow`
Kind: L -/
lemma Kept.quiet (h : u.Kept w) {new : List ControllerSignal} (hquiet : Quiet u.session t new)
    (hsound : t.Sound w.toSurroundings) (hreturns : (run (MainWindow.onSignal w) new u.window).2 = none) :
    (u.after w t).Kept w := by
  have hface := run_notes w u.window hquiet.notes
  rcases hrun : run (MainWindow.onSignal w) new u.window with ⟨shown, raised⟩
  rw [hrun] at hreturns hface
  obtain rfl : raised = none := hreturns
  obtain ⟨hdelivered, hrunButton, hstopButton, htimer, hoffered, hfooter, hshows⟩ := h.truthful
  rw [after_eq hquiet.signals hsound.escaped hrun]
  have hidle := hquiet.isIdle_eq
  refine ⟨⟨delivered_of_sound hsound, ?_, ?_, ?_, ?_, ?_, hshows.quiet hquiet hface⟩, hsound, ?_⟩
  · exact (hface.runEnabled.trans hrunButton).trans hidle.symm
  · rw [hidle]
    exact hface.stopEnabled.trans hstopButton
  · rw [hidle]
    exact hquiet.timer.trans htimer
  · rw [hquiet.delivered_eq]
    exact hface.result.trans hoffered
  · intro result hresult
    exact (hfooter result (hface.result.symm.trans hresult)).trans (congrArg _ hface.footer.symm)
  · intro hbusy
    obtain ⟨hlaunch, hstopped⟩ := h.flags (hidle.symm.trans hbusy)
    exact ⟨hface.launchFailed.trans hlaunch, hface.stopped.trans hstopped⟩

/-! ## Steps -/

/-- Nothing was clicked yet.
Source: `src/gui/main_window.py` `MainWindow.__init__`
Kind: L -/
lemma Kept.init : Kept w {} := by
  refine ⟨⟨delivered_of_sound Session.Sound.nil, rfl, rfl, rfl, rfl, ?_, rfl, rfl⟩, Session.Sound.nil,
    by simp [Session.isIdle]⟩
  intro result hresult
  cases hresult

/-- While a run is in flight, the last click has started it and the controller works for it.
Source: `src/gui/main_window.py` `MainWindow`
Kind: L -/
lemma Kept.inFlight (h : u.Kept w) {k : Nat} {run : StartedRun} (hrun : u.session.runs[k]? = some run)
    (hlive : run.isOver = false) : u.attempt = .run k ∧ k + 1 = u.session.runs.length := by
  obtain ⟨hlast, -⟩ := h.sound.inFlight hrun hlive
  have hbusy : u.session.isIdle ≠ true := fun hidle =>
    absurd (hlive.symm.trans (isIdle_iff.mp hidle k run hrun)) (by simp)
  have hshows := h.truthful.shows
  refine ⟨?_, hlast⟩
  rcases hattempt : u.attempt with _ | _ | _ | j
  · rw [hattempt] at hshows
    rw [hshows.1] at hrun
    cases hrun
  · rw [hattempt] at hshows
    exact absurd hshows.1 hbusy
  · rw [hattempt] at hshows
    exact absurd hshows.1 hbusy
  · rw [hattempt] at hshows
    obtain rfl : j = k := by
      have hj : j + 1 = u.session.runs.length := hshows.1
      omega
    rfl

/-- A run in flight.
Source: `src/gui/run_controller.py` `RunController.start`
Kind: L -/
lemma exists_live {s : Session} (hbusy : s.isIdle = false) :
    ∃ (k : Nat) (run : StartedRun), s.runs[k]? = some run ∧ run.isOver = false := by
  by_contra hnone
  push Not at hnone
  have hidle : s.isIdle = true := isIdle_iff.mpr fun k run hrun => by simpa using hnone k run hrun
  rw [hidle] at hbusy
  cases hbusy

/-- Stop, while a run is in flight, only leaves a note.
Source: `src/gui/run_controller.py` `RunController.stop`
Kind: L -/
lemma Kept.clickStop (h : u.Kept w) (henabled : u.window.stopEnabled = true) : (u.after w u.session.stop).Kept w := by
  have hbusy : u.session.isIdle = false := by
    have hbutton := h.truthful.stopButton
    rw [henabled] at hbutton
    simpa using hbutton.symm
  obtain ⟨k, run, hrun, hlive⟩ := exists_live hbusy
  obtain ⟨-, result, hworks⟩ := h.sound.inFlight hrun hlive
  have hstop : u.session.stop = { u.session with
      controller := { u.session.controller with stopping := true }
      runs := u.session.runs.modify k fun run => { run with stopCalled := true } } := by
    unfold Session.stop
    rw [hworks.process, Option.bind_some, hrun, Option.map_some]
    exact if_pos hlive
  suffices hquiet : Quiet u.session u.session.stop [] from h.quiet hquiet h.sound.stop rfl
  rw [hstop]
  refine ⟨(List.append_nil _).symm, by simp, rfl, List.length_modify .., ?_⟩
  intro j run' hrun'
  obtain ⟨run₁, hrun₁, rfl⟩ := exists_of_getElem?_modify hrun'
  refine ⟨run₁, hrun₁, ?_⟩
  split
  · next hkj =>
      obtain rfl := Option.some.inj (hrun.symm.trans (hkj ▸ hrun₁))
      exact ⟨fun _ => Iff.rfl, fun hover => absurd (hlive.symm.trans hover) (by simp)⟩
  · exact ⟨fun _ => Iff.rfl, fun _ => rfl⟩

/-- A run is started.
Source: `src/gui/run_controller.py` `RunController.start`
Kind: L -/
lemma Kept.start (h : u.Kept w) (hidle : u.session.isIdle = true) (header : TestRunResult) {window : MainWindow}
    {selected : PyStr} (hpill : window.pill = (text "Running — " ++ selected, .idle))
    (hbuttons : window.runEnabled = false ∧ window.stopEnabled = true)
    (hflags : window.launchFailed = false ∧ window.stopped = false)
    (hresult : window.result = u.window.result) (hfooter : window.footer = u.window.footer) :
    Kept w (after w { session := u.session, window, attempt := .run u.session.runs.length }
      (u.session.start header)) := by
  have hsound : (u.session.start header).Sound w.toSurroundings := h.sound.start hidle header
  have hbusy : (u.session.start header).isIdle = false := by
    unfold Session.start Session.isIdle
    rw [List.all_append]
    exact Bool.and_false _
  have hsignals : (u.session.start header).signals = u.session.signals ++ [] := (List.append_nil _).symm
  have hnew : (u.session.start header).runs[u.session.runs.length]? =
      some { header := Session.newRunResult header } := List.getElem?_concat_length
  have hlast : u.session.runs.length + 1 = (u.session.start header).runs.length := by
    unfold Session.start
    rw [List.length_append]
    rfl
  rw [@after_eq w { session := u.session, window, attempt := .run u.session.runs.length } _ [] window hsignals
    hsound.escaped rfl]
  refine ⟨⟨delivered_of_sound hsound, ?_, ?_, ?_, hresult.trans h.truthful.offered, ?_, hlast, _, hnew,
    fun _ => ⟨selected, hpill⟩, ?_⟩, hsound, fun _ => hflags⟩
  · exact hbuttons.1.trans hbusy.symm
  · exact hbuttons.2.trans (congrArg (! ·) hbusy.symm)
  · exact congrArg (! ·) hbusy.symm
  · intro result hheld
    exact (h.truthful.footer result (hresult.symm.trans hheld)).trans (congrArg _ hfooter.symm)
  · intro how hhow
    cases hhow

/-- The directory of a run cannot be made.
Source: `src/gui/run_controller.py` `RunController.start`
Kind: L -/
lemma Kept.refuse (h : u.Kept w) (hidle : u.session.isIdle = true) (message : PyStr) {window : MainWindow}
    (hresult : window.result = u.window.result) (hfooter : window.footer = u.window.footer) :
    Kept w (after w { session := u.session, window, attempt := .refused } (u.session.emit [.failed message])) := by
  have hsound : (u.session.emit [.failed message]).Sound w.toSurroundings := h.sound.emit fun _ => rfl
  have hsame : (u.session.emit [.failed message]).isIdle = true := hidle
  rw [@after_eq w { session := u.session, window, attempt := .refused } _ [.failed message] _ rfl hsound.escaped rfl]
  refine ⟨⟨delivered_of_sound hsound, hsame.symm, congrArg (! ·) hsame.symm, h.truthful.timer, ?_, ?_, hidle, rfl⟩,
    hsound, fun hbusy => absurd (hsame.symm.trans hbusy) (by simp)⟩
  · show window.result = (u.session.emit [.failed message]).delivered.getLast?
    unfold Session.delivered Session.emit
    rw [List.filterMap_append]
    exact (hresult.trans h.truthful.offered).trans (congrArg _ (List.append_nil _).symm)
  · intro result hheld
    exact (h.truthful.footer result (hresult.symm.trans hheld)).trans (congrArg _ hfooter.symm)

/-- A click on Run, on a host on which the privilege check can be made.
Source: `src/gui/main_window.py` `MainWindow._on_run_clicked`
Kind: L -/
lemma Kept.clickRun (h : u.Kept w) (henabled : u.window.runEnabled = true) {click : RunClick}
    (hhost : click.host.privilegeError = none) : (u.onRunClicked w click).Kept w := by
  have hidle : u.session.isIdle = true := h.truthful.runButton.symm.trans henabled
  have houtcome := clickedRun_outcome w.repr click u.window.sessionPort
  unfold onRunClicked
  generalize clickedRun w.repr click u.window.sessionPort = r at houtcome ⊢
  cases houtcome with
  | escaped raised =>
      obtain ⟨-, -, -, -, -, hraised⟩ := raised
      rw [hhost] at hraised
      cases hraised
  | refused =>
      exact ⟨⟨h.truthful.delivered, h.truthful.runButton, h.truthful.stopButton, h.truthful.timer, h.truthful.offered,
        h.truthful.footer, hidle, rfl⟩, h.sound, fun hbusy => absurd (hidle.symm.trans hbusy) (by simp)⟩
  | started =>
      dsimp only
      rcases hdirectory : click.directory with message | header
      · exact h.refuse hidle message rfl rfl
      · exact h.start hidle _ rfl ⟨rfl, rfl⟩ ⟨rfl, rfl⟩ rfl rfl

/-- A signal that delivers no result.
Source: `src/gui/run_controller.py` `RunController.finished`
Kind: L -/
lemma deliveredTo_of_result? {signal : ControllerSignal} (h : signal.result? = none) (k : Nat) :
    signal.deliveredTo k = none := by
  cases signal <;> first | rfl | cases h

/-- The run in flight is over, its result is delivered behind other signals, and the window shows it.
Source: `src/gui/main_window.py` `MainWindow._on_finished`
Kind: L -/
lemma Kept.close (h : u.Kept w) {k : Nat} {run : StartedRun} (hrun : u.session.runs[k]? = some run)
    (hlive : run.isOver = false) {how : ProcessEnd} (hsound : t.Sound w.toSurroundings)
    (hruns : t.runs = (u.session.ending k how).runs) {front : List ControllerSignal} {result : TestRunResult}
    (hfront : ∀ signal ∈ front, signal.result? = none)
    (hsignals : t.signals = u.session.signals ++ (front ++ [.finished k result]))
    {shown : MainWindow} {pill footer : PyStr × Ink}
    (hrunAll : Lib.run (MainWindow.onSignal w) (front ++ [.finished k result]) u.window = (shown, none))
    (hbuttons : shown.runEnabled = true ∧ shown.stopEnabled = false) (hresult : shown.result = some result)
    (hpill : shown.pill = pill) (hfooter : shown.footer = footer)
    (hverdict : verdict result (run.wasStopped how) (how = .failedToStart) = .ok pill)
    (hpanel : setResult result = .ok footer) : (u.after w t).Kept w := by
  obtain ⟨hattempt, hlast⟩ := h.inFlight hrun hlive
  have hlength : t.runs.length = u.session.runs.length := by
    rw [hruns]
    exact List.length_modify ..
  have hnew : t.runs[k]? = some (run.ended how) := by
    rw [hruns]
    exact (h.sound.ending hrun hlive how).1
  have hidle : t.isIdle = true := by
    rw [isIdle_iff]
    intro j run' hj
    rcases Nat.lt_or_ge (j + 1) t.runs.length with hlt | hge
    · exact hsound.past j run' hj hlt
    · have hlt := (List.getElem?_eq_some_iff.mp hj).1
      obtain rfl : j = k := by omega
      obtain rfl := Option.some.inj (hnew.symm.trans hj)
      rfl
  have hdeliveries : t.deliveries k = [result] := by
    have hnone : front.filterMap (ControllerSignal.deliveredTo k) = [] := by
      rw [List.filterMap_eq_nil_iff]
      exact fun signal hsignal => deliveredTo_of_result? (hfront signal hsignal) k
    have hpending := (h.sound.deliveries k run hrun).pending hlive
    unfold Session.deliveries at hpending ⊢
    rw [hsignals, List.filterMap_append, List.filterMap_append, hpending, hnone]
    simp [ControllerSignal.deliveredTo]
  have hdelivered : t.delivered = u.session.delivered ++ [result] := by
    have hnone : front.filterMap ControllerSignal.result? = [] := List.filterMap_eq_nil_iff.mpr hfront
    unfold Session.delivered
    rw [hsignals, List.filterMap_append, List.filterMap_append, hnone]
    rfl
  rw [after_eq hsignals hsound.escaped hrunAll]
  refine ⟨⟨delivered_of_sound hsound, hbuttons.1.trans hidle.symm, hbuttons.2.trans (congrArg (! ·) hidle.symm), ?_,
    ?_, ?_, ?_⟩, hsound, fun hbusy => absurd (hidle.symm.trans hbusy) (by simp)⟩
  · rw [hsound.idle hidle, hidle]
    rfl
  · rw [hdelivered, List.getLast?_concat]
    exact hresult
  · intro held hheld
    obtain rfl := Option.some.inj (hresult.symm.trans hheld)
    exact hpanel.trans (congrArg _ hfooter.symm)
  · show WindowSession.Shows _ u.attempt
    rw [hattempt]
    refine ⟨hlast.trans hlength.symm, _, hnew, fun hnot => absurd hnot ?_, ?_⟩
    · simp [StartedRun.ended, StartedRun.isOver, ProcessState.isOver]
    · intro how' hhow
      obtain rfl := ProcessState.notRunning.inj hhow
      exact ⟨result, hdeliveries, hverdict.trans (congrArg _ hpill.symm)⟩

/-- The exit codes that Qt delivers can be printed.
Source: Qt `QProcess.finished`
Kind: L -/
lemma returncode_printable {run : StartedRun} {exitCode : Int} (status : ExitStatus)
    (hrange : -2147483648 ≤ exitCode ∧ exitCode < 2147483648) :
    ∃ code, formatReturncode (run.returncode (.finished exitCode status)) = .ok code := by
  have hcode : ∃ code, intRepr exitCode = .ok code := by
    apply @intRepr_of_natAbs_lt exitCode 9 (by omega)
    omega
  unfold StartedRun.returncode
  cases status
  · dsimp only
    split
    · exact ⟨_, rfl⟩
    · exact hcode
  · exact ⟨_, rfl⟩

/-- A process finishes.
Source: `src/gui/main_window.py` `MainWindow._on_finished`
Kind: L -/
lemma Kept.finish (h : u.Kept w) {k : Nat} {exitCode : Int} {status : ExitStatus} {access : FileAccess}
    {now : DateTime} (hrange : -2147483648 ≤ exitCode ∧ exitCode < 2147483648)
    (horderly : u.Orderly w (.outside (.finished k exitCode status access now)))
    (hstep : u.session.step w.toSurroundings (.finished k exitCode status access now) = some t) :
    (u.after w t).Kept w := by
  obtain ⟨hcontroller, hshown⟩ := horderly
  have hsound := h.sound.step hcontroller hstep
  have hreturns := hshown t hstep
  unfold Session.step at hstep
  rw [if_neg (by simp [h.sound.escaped])] at hstep
  obtain ⟨hlive, ht⟩ := Option.ite_none_right_eq_some.mp hstep
  obtain rfl := Option.some.inj ht
  obtain ⟨run, hrun, hlive⟩ := Session.exists_of_live hlive
  obtain ⟨events, saved, hevents, hsaved, hruns, hsignals⟩ := finished_emits h.sound hrun hlive hcontroller.drains
    (hcontroller.record run hrun)
  have hbusy : u.session.isIdle = false := by
    rw [← Bool.not_eq_true, isIdle_iff]
    exact fun hall => absurd (hlive.symm.trans (hall k run hrun)) (by simp)
  obtain ⟨hlaunch, hstopped⟩ := h.flags hbusy
  rw [hsignals, List.drop_left, filter_closing hevents hsaved] at hreturns
  have hcode : ∃ code, formatReturncode
      (run.record w.toSurroundings (.finished exitCode status) now).pytestReturncode = .ok code :=
    returncode_printable status hrange
  obtain ⟨shown, pill, footer, hshows, hface, hpill, hfooter⟩ := run_closing w u.window k
    (run.returncode (.finished exitCode status)).isNone hevents hreturns hsaved hcode
  rw [hlaunch, hstopped, Bool.false_or] at hpill
  have hverdict : verdict (run.record w.toSurroundings (.finished exitCode status) now)
      (run.wasStopped (.finished exitCode status)) (ProcessEnd.finished exitCode status = .failedToStart) = .ok pill := by
    rw [wasStopped_finished]
    exact hpill
  rw [← List.append_assoc _ saved, ← List.append_assoc events] at hsignals hshows
  exact h.close hrun hlive hsound hruns (before_result _ hevents hsaved) hsignals hshows
    ⟨hface.runEnabled, hface.stopEnabled⟩ hface.result hface.pill hface.footer hverdict hfooter

/-- A process fails to start.
Source: `src/gui/main_window.py` `MainWindow._on_launch_failed`, `MainWindow._on_finished`
Kind: L -/
lemma Kept.fail (h : u.Kept w) {k : Nat} {reason : PyStr} {access : FileAccess} {now : DateTime}
    (horderly : u.Orderly w (.outside (.error k .failedToStart reason access now)))
    (hstep : u.session.step w.toSurroundings (.error k .failedToStart reason access now) = some t) :
    (u.after w t).Kept w := by
  have hsound := h.sound.step horderly.1 hstep
  unfold Session.step at hstep
  rw [if_neg (by simp [h.sound.escaped])] at hstep
  dsimp only at hstep
  rw [if_pos rfl] at hstep
  obtain ⟨hstarting, ht⟩ := Option.ite_none_right_eq_some.mp hstep
  obtain rfl := Option.some.inj ht
  obtain ⟨run, hrun, hstate⟩ := Option.map_eq_some_iff.mp hstarting
  have hlive : run.isOver = false := by
    rw [StartedRun.isOver, hstate]
    rfl
  obtain ⟨saved, result, hsaved, hnone, hruns, hsignals⟩ := failed_emits h.sound hrun hlive horderly.1.record
  have hcode : ∃ code, formatReturncode result.pytestReturncode = .ok code := by
    rw [hnone]
    exact ⟨_, rfl⟩
  have hevents : ∀ signal ∈ ([] : List ControllerSignal), signal.isEvent = true := by simp
  obtain ⟨shown, pill, footer, hshows, hface, hpill, hfooter⟩ := run_closing w
    (u.window.onLaunchFailed (Session.failedMessage reason)) k false hevents rfl hsaved hcode
  have hverdict : verdict result (run.wasStopped .failedToStart) (ProcessEnd.failedToStart = .failedToStart) =
      .ok pill := hpill
  rw [← List.cons_append] at hsignals
  refine h.close hrun hlive hsound hruns ?_ hsignals hshows
    ⟨hface.runEnabled, hface.stopEnabled⟩ hface.result hface.pill hface.footer hverdict hfooter
  intro signal hsignal
  rcases List.mem_cons.mp hsignal with rfl | hsignal
  · rfl
  · exact before_result false hevents hsaved signal hsignal

/-- Output and notes of the process's surroundings.
Source: `src/gui/run_controller.py` `RunController`
Kind: L -/
lemma quiet_modify {s : Session} (k : Nat) {f : StartedRun → StartedRun}
    (hf : ∀ run, s.runs[k]? = some run → (∀ how, (f run).state = .notRunning how ↔ run.state = .notRunning how) ∧
      (f run).stopCalled = run.stopCalled) : Quiet s { s with runs := s.runs.modify k f } [] := by
  refine ⟨(List.append_nil _).symm, by simp, rfl, List.length_modify .., ?_⟩
  intro j run' hrun'
  obtain ⟨run, hrun, rfl⟩ := exists_of_getElem?_modify hrun'
  refine ⟨run, hrun, ?_⟩
  split
  · next hkj =>
      obtain ⟨hstate, hstop⟩ := hf run (hkj ▸ hrun)
      exact ⟨hstate, fun _ => hstop⟩
  · exact ⟨fun _ => Iff.rfl, fun _ => rfl⟩

/-- The same runs under new signals.
Source: none: infrastructure
Kind: L -/
lemma quiet_of_runs {s : Session} {new : List ControllerSignal} (hsignals : t.signals = s.signals ++ new)
    (hnotes : ∀ signal ∈ new, signal.isNote = true) (hruns : t.runs = s.runs)
    (htimer : t.controller.timerActive = s.controller.timerActive) : Quiet s t new := by
  refine ⟨hsignals, hnotes, htimer, congrArg _ hruns, ?_⟩
  intro k run hrun
  rw [hruns] at hrun
  exact ⟨run, hrun, fun _ => Iff.rfl, fun _ => rfl⟩

/-- What Qt delivers of its own accord.
Source: `src/gui/run_controller.py` `RunController`
Kind: L -/
lemma Kept.outside (h : u.Kept w) {e : ControllerEvent} (houtside : u.session.isOutside e = true)
    (horderly : u.Orderly w (.outside e)) (hstep : u.session.step w.toSurroundings e = some t) :
    (u.after w t).Kept w := by
  have hsound := h.sound.step horderly.1 hstep
  have hopen : ¬ u.session.escaped.isSome = true := by simp [h.sound.escaped]
  cases e with
  | start _ | startRefused _ | stop => cases houtside
  | launched k =>
      unfold Session.step at hstep
      rw [if_neg hopen] at hstep
      obtain ⟨hstarting, ht⟩ := Option.ite_none_right_eq_some.mp hstep
      obtain rfl := Option.some.inj ht
      refine h.quiet (quiet_modify k fun run hrun => ⟨?_, rfl⟩) hsound rfl
      have hstate : run.state = .starting := by
        rw [Session.stateOf, hrun] at hstarting
        exact Option.some.inj hstarting
      simp [hstate]
  | write k toReportLog toEventsLog =>
      unfold Session.step at hstep
      rw [if_neg hopen] at hstep
      obtain rfl := Option.some.inj hstep
      exact h.quiet (quiet_modify k fun _ _ => ⟨fun _ => Iff.rfl, rfl⟩) hsound rfl
  | output data =>
      unfold Session.step at hstep
      rw [if_neg hopen] at hstep
      obtain rfl := Option.some.inj hstep
      rcases hprocess : u.session.controller.process with _ | k
      · have hsame : u.session.onOutput data = u.session := if_pos hprocess
        rw [hsame] at hsound ⊢
        exact h.quiet (quiet_of_runs (List.append_nil _).symm (by simp) rfl rfl) hsound rfl
      · have hemit : u.session.onOutput data =
            u.session.emit ((splitlines (decodeReplace data)).map .outputLine) := if_neg (by simp [hprocess])
        rw [hemit] at hsound ⊢
        refine h.quiet (quiet_of_runs rfl ?_ rfl rfl) hsound (run_output w u.window _)
        intro signal hsignal
        obtain ⟨line, -, rfl⟩ := List.mem_map.mp hsignal
        rfl
  | poll =>
      have hshown := horderly.2 t hstep
      unfold Session.step at hstep
      rw [if_neg hopen] at hstep
      obtain rfl := Option.some.inj hstep
      obtain ⟨events, hsignals, hevents⟩ := drain_signals w.toSurroundings u.session
      obtain ⟨hruns, htimer⟩ := drain_runs w.toSurroundings u.session
      rw [hsignals, List.drop_left, List.filter_eq_self.mpr hevents] at hshown
      refine h.quiet (quiet_of_runs hsignals ?_ hruns htimer) hsound hshown
      intro signal hsignal
      have hevent := hevents signal hsignal
      cases signal <;> first | rfl | cases hevent
  | error k error reason access now =>
      by_cases hfailed : error = .failedToStart
      · subst hfailed
        exact h.fail horderly hstep
      · unfold Session.step at hstep
        rw [if_neg hopen] at hstep
        dsimp only at hstep
        rw [if_neg hfailed] at hstep
        obtain ⟨-, ht⟩ := Option.ite_none_right_eq_some.mp hstep
        obtain rfl := Option.some.inj ht
        have hsame : u.session.onError w.toSurroundings error reason access now = u.session := if_pos hfailed
        rw [hsame] at hsound ⊢
        exact h.quiet (quiet_of_runs (List.append_nil _).symm (by simp) rfl rfl) hsound rfl
  | finished k exitCode status access now => exact h.finish (of_decide_eq_true houtside) horderly hstep

/-- **One event keeps it.**
Source: `src/gui/main_window.py` `MainWindow`
Kind: P -/
theorem Kept.step (h : u.Kept w) {e : WindowEvent} (horderly : u.Orderly w e) {v : WindowSession}
    (hstep : u.step w e = some v) : v.Kept w := by
  unfold WindowSession.step at hstep
  rw [if_neg (by simp [h.sound.escaped])] at hstep
  cases e with
  | clickRun click =>
      obtain ⟨henabled, hv⟩ := Option.ite_none_right_eq_some.mp hstep
      obtain rfl := Option.some.inj hv
      exact h.clickRun henabled horderly
  | clickStop =>
      obtain ⟨henabled, hv⟩ := Option.ite_none_right_eq_some.mp hstep
      obtain rfl := Option.some.inj hv
      exact h.clickStop henabled
  | outside e =>
      obtain ⟨houtside, hv⟩ := Option.ite_none_right_eq_some.mp hstep
      obtain ⟨t, ht, rfl⟩ := Option.map_eq_some_iff.mp hv
      exact h.outside houtside horderly ht

end WindowSession

end NetstackSuite.Gui
