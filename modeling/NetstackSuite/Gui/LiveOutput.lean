import NetstackSuite.Gui.RunDelivery
import NetstackSuite.Python.Chunks

/-!
# The live output

`RunController._on_output` decodes and splits what `readAllStandardOutput` returns, each time on its own; the pieces are
as QProcess delivers them. No other slot emits a line. `live_output_iff` says for which pieces the lines emitted are
those of the whole output.
-/

namespace NetstackSuite.Gui

open NetstackSuite.Python NetstackSuite.Reporting NetstackSuite.Runner NetstackSuite.Lib

/-- The pieces of the output, as they are read.
Source: Qt `QProcess.readAllStandardOutput`
Kind: D -/
def piecesOf (events : List ControllerEvent) : List Bytes :=
  events.filterMap fun e =>
    match e with
    | .output data => some data
    | _ => none

namespace Session

/-- The lines that the controller has emitted.
Source: `src/gui/run_controller.py` `RunController`
Kind: D -/
def outputLines (s : Session) : List PyStr :=
  s.signals.filterMap fun signal =>
    match signal with
    | .outputLine line => some line
    | _ => none

/-- Something that emits no line, and forgets no process.
Source: none: specification
Kind: D -/
structure Silent (s t : Session) : Prop where
  lines : t.outputLines = s.outputLines
  process : s.controller.process ≠ none → t.controller.process ≠ none

variable {w : Surroundings} {s t u : Session}

lemma Silent.refl (s : Session) : Silent s s := ⟨rfl, id⟩

lemma Silent.trans (hst : Silent s t) (htu : Silent t u) : Silent s u :=
  ⟨htu.lines.trans hst.lines, htu.process ∘ hst.process⟩

lemma outputLines_emit (s : Session) (signals : List ControllerSignal) :
    (s.emit signals).outputLines = s.outputLines ++ (outputLines { signals := signals }) := by
  rw [outputLines, emit, List.filterMap_append]
  rfl

/-- Source: `src/gui/run_controller.py` `RunController._drain`. Kind: L -/
lemma silent_drain (w : Surroundings) (s : Session) : Silent s (s.drain w) := by
  unfold drain
  split
  · split
    · exact ⟨by simp [outputLines], id⟩
    · split
      · exact ⟨by simp [outputLines], id⟩
      · exact ⟨by simp [outputLines], id⟩
  · exact .refl s

/-- Source: `src/gui/run_controller.py` `RunController._finalize`. Kind: L -/
lemma silent_finalize (w : Surroundings) (access : FileAccess) (now : DateTime) (returncode : Option Int)
    (s : Session) : Silent s (finalize w access now returncode s) := by
  unfold finalize
  split
  · simp only
    split
    · exact ⟨by simp [outputLines, emit], id⟩
    · split
      · exact ⟨by simp [outputLines, emit], id⟩
      · exact ⟨rfl, id⟩
  · exact ⟨rfl, id⟩

/-- Source: `src/gui/run_controller.py` `RunController._on_error`. Kind: L -/
lemma silent_onError (w : Surroundings) (error : ProcessError) (reason : PyStr) (access : FileAccess) (now : DateTime)
    (s : Session) : Silent s (onError w error reason access now s) := by
  have hfailed : Silent s (emit { s with controller := { s.controller with timerActive := false } }
      [.failed (failedMessage reason)]) := ⟨by simp [outputLines, emit], id⟩
  unfold onError
  split
  · exact .refl s
  · simp only
    split
    · exact hfailed.trans (silent_finalize _ _ _ _ _)
    · exact hfailed

/-- Source: `src/gui/run_controller.py` `RunController._on_finished`. Kind: L -/
lemma silent_onFinished (w : Surroundings) (exitCode : Int) (status : ExitStatus) (access : FileAccess)
    (now : DateTime) (s : Session) : Silent s (onFinished w exitCode status access now s) := by
  have htimer : Silent s { s with controller := { s.controller with timerActive := false } } := ⟨rfl, id⟩
  have hdrained := htimer.trans (silent_drain w _)
  unfold onFinished
  simp only
  split
  · exact hdrained
  · refine Silent.trans ?_ (silent_finalize _ _ _ _ _)
    refine hdrained.trans ?_
    split
    · exact ⟨by simp [outputLines, emit], id⟩
    · exact ⟨rfl, id⟩

/-- Source: `src/gui/run_controller.py` `RunController.stop`. Kind: L -/
lemma silent_stop (s : Session) : Silent s s.stop := by
  unfold stop
  split
  · split
    · exact ⟨rfl, id⟩
    · exact ⟨rfl, id⟩
  · exact ⟨rfl, id⟩

/-- Source: `src/gui/run_controller.py` `RunController._on_output`. Kind: L -/
lemma outputLines_onOutput (hprocess : s.controller.process ≠ none) (data : Bytes) :
    (s.onOutput data).outputLines = s.outputLines ++ decodedLines data := by
  rw [onOutput, if_neg hprocess, outputLines_emit]
  simp [outputLines, decodedLines]

/-- Source: `src/gui/run_controller.py` `RunController`. Kind: L -/
lemma silent_step {e : ControllerEvent} (hother : ∀ data, e ≠ .output data) (h : step w s e = some t) : Silent s t := by
  unfold step at h
  split at h
  · cases h
  · cases e with
    | start header =>
        obtain ⟨-, hnext⟩ := Option.ite_none_right_eq_some.1 h
        obtain rfl := Option.some.inj hnext
        exact ⟨rfl, fun _ => by simp [start]⟩
    | startRefused message =>
        obtain ⟨-, hnext⟩ := Option.ite_none_right_eq_some.1 h
        obtain rfl := Option.some.inj hnext
        exact ⟨by simp [outputLines, emit], id⟩
    | launched k =>
        obtain ⟨-, hnext⟩ := Option.ite_none_right_eq_some.1 h
        obtain rfl := Option.some.inj hnext
        exact ⟨rfl, id⟩
    | write k toReportLog toEventsLog =>
        cases h
        exact ⟨rfl, id⟩
    | output data => exact absurd rfl (hother data)
    | poll =>
        cases h
        exact silent_drain w s
    | stop =>
        cases h
        exact silent_stop s
    | error k error reason access now =>
        have hended (how : ProcessEnd) : Silent s (s.endProcess k how) := ⟨rfl, id⟩
        simp only at h
        split at h
        · obtain ⟨-, hnext⟩ := Option.ite_none_right_eq_some.1 h
          obtain rfl := Option.some.inj hnext
          exact (hended .failedToStart).trans (silent_onError _ _ _ _ _ _)
        · obtain ⟨-, hnext⟩ := Option.ite_none_right_eq_some.1 h
          obtain rfl := Option.some.inj hnext
          exact silent_onError _ _ _ _ _ _
    | finished k exitCode status access now =>
        have hended : Silent s (s.endProcess k (.finished exitCode status)) := ⟨rfl, id⟩
        obtain ⟨-, hnext⟩ := Option.ite_none_right_eq_some.1 h
        obtain rfl := Option.some.inj hnext
        exact hended.trans (silent_onFinished _ _ _ _ _ _)

/-- **One step**: only the slot that reads the output emits lines, and what it emits are the lines of the piece.
Source: `src/gui/run_controller.py` `RunController`
Kind: L -/
lemma outputLines_step {e : ControllerEvent} (hprocess : s.controller.process ≠ none) (h : step w s e = some t) :
    t.outputLines = s.outputLines ++ (piecesOf [e]).flatMap decodedLines ∧ t.controller.process ≠ none := by
  by_cases houtput : ∃ data, e = .output data
  · obtain ⟨data, rfl⟩ := houtput
    unfold step at h
    split at h <;> cases h
    refine ⟨?_, ?_⟩
    · rw [outputLines_onOutput hprocess]
      simp [piecesOf]
    · rw [onOutput, if_neg hprocess]
      exact hprocess
  · have hother (data : Bytes) : e ≠ .output data := fun he => houtput ⟨data, he⟩
    have hnone : piecesOf [e] = [] := by
      cases e with
      | output data => exact absurd rfl (hother data)
      | _ => rfl
    have hsilent := silent_step hother h
    exact ⟨by simp [hnone, hsilent.lines], hsilent.process hprocess⟩

/-- **A run of the slots** emits the lines of each piece.
Source: `src/gui/run_controller.py` `RunController`
Kind: L -/
lemma outputLines_execute {events : List ControllerEvent} (hprocess : s.controller.process ≠ none)
    (h : execute (step w) (fun _ _ => true) s events = some t) :
    t.outputLines = s.outputLines ++ (piecesOf events).flatMap decodedLines := by
  induction events generalizing s with
  | nil =>
      cases h
      simp [piecesOf]
  | cons e events ih =>
      rw [execute, if_pos rfl] at h
      rcases hstep : step w s e with _ | u <;> rw [hstep] at h
      · cases h
      · obtain ⟨hlines, hnext⟩ := outputLines_step hprocess hstep
        have hpieces : piecesOf (e :: events) = piecesOf [e] ++ piecesOf events := by
          rw [← List.singleton_append, piecesOf, List.filterMap_append]
          rfl
        rw [ih hnext h, hlines, hpieces, List.flatMap_append, List.append_assoc]

/-- **When the live output is the child's output**: every piece that more output follows is cut off after a line
boundary, and not inside a `\r\n`.
Source: `src/gui/run_controller.py` `RunController._on_output`
Kind: P -/
theorem live_output_iff (w : Surroundings) (s t : Session) (header : TestRunResult) (events : List ControllerEvent)
    (h : execute (step w) (fun _ _ => true) (s.start header) events = some t) :
    t.outputLines = s.outputLines ++ decodedLines (piecesOf events).flatten ↔ CutBetweenLines (piecesOf events) := by
  have hprocess : (s.start header).controller.process ≠ none := by simp [start]
  have hstart : (s.start header).outputLines = s.outputLines := rfl
  rw [outputLines_execute hprocess h, hstart, List.append_cancel_left_eq]
  exact flatMap_decodedLines_iff _

/-- A line and its end in one piece, a poll, and another line.
Source: none: infrastructure
Kind: D -/
def wholeLines : List ControllerEvent :=
  [.launched 0, .output (bytes "one\r\n"), .poll, .output (bytes "two")]

/-- **Pieces cut between lines** come out as the lines of the whole.
Source: `src/gui/run_controller.py` `RunController._on_output`
Kind: P -/
theorem whole_lines_delivered :
    ∃ t : Session, execute (step plainSurroundings) (fun _ _ => true) (start {} plainHeader) wholeLines = some t ∧
      t.outputLines = decodedLines (bytes "one\r\ntwo") := by
  have hrun : (execute (step plainSurroundings) (fun _ _ => true) (start {} plainHeader) wholeLines).isSome = true := by
    decide +kernel
  obtain ⟨t, ht⟩ := Option.isSome_iff_exists.1 hrun
  have hcut : CutBetweenLines (piecesOf wholeLines) := by
    refine ⟨fun _ _ => ⟨⟨LF, [0x0A], rfl, rfl, ?_⟩, ?_⟩, fun _ hlast => absurd rfl hlast, trivial⟩
    · exact ⟨bytes "one\r", rfl⟩
    · rintro ⟨-, hnext⟩
      exact absurd hnext (by decide +kernel)
  exact ⟨t, ht, (live_output_iff plainSurroundings {} t plainHeader wholeLines ht).2 hcut⟩

/-- **A line cut in two comes out as two.**
Source: `src/gui/run_controller.py` `RunController._on_output`
Kind: P -/
theorem cut_line_emitted_as_two :
    ¬ ∀ (w : Surroundings) (s t : Session) (header : TestRunResult) (events : List ControllerEvent),
      execute (step w) (fun _ _ => true) (s.start header) events = some t →
        t.outputLines = s.outputLines ++ decodedLines (piecesOf events).flatten := by
  intro h
  have hlines := h plainSurroundings {} _ plainHeader [.output (bytes "PASS"), .output (bytes "ED\n")] rfl
  exact absurd hlines (by decide +kernel)

end Session

end NetstackSuite.Gui
