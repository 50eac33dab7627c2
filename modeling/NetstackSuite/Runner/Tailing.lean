import NetstackSuite.Runner.Drain

/-!
# Tailing a log while it grows

The loops of `stream_run` and of the GUI's timer call the two drains again and again, each time from
the offset the last call returned, on files that another process is still writing. Here is why that
collects what one read of the finished files would: a drain is a loop over lines
(`drainTestEvents_eq`), lines do not reach across a newline (`logLines_append`), and so polling is an
instance of `NetstackSuite.Lib.Tail`.
-/

namespace NetstackSuite.Runner

open NetstackSuite.Python NetstackSuite.Reporting NetstackSuite.Lib

/-! ## Polls -/

/-- `offset = drain(path, offset, result, callback)`: an exception leaves the offset alone.
Source: `src/runner.py` `stream_run`
Kind: D -/
def polled {α : Type} (offset : Nat) (r : Feed α × Except PyExc Nat) :
    Outcome (Nat × Feed α) PyExc :=
  match r with
  | (feed, .ok newOffset) => ((newOffset, feed), none)
  | (feed, .error e) => ((offset, feed), some e)

/-- One poll of the report log.
Source: `src/runner.py` `stream_run`
Kind: D -/
def pollReportLog (R : Runtime) (callback : Callback TestEvent) (s : Nat × Feed TestEvent)
    (file : Bytes) : Outcome (Nat × Feed TestEvent) PyExc :=
  polled s.1 (drainTestEvents R callback (some file) s.1 s.2)

/-- One poll of the packet-event log.
Source: `src/runner.py` `stream_run`
Kind: D -/
def pollEventsLog (R : Runtime) (callback : Callback PacketEvent) (s : Nat × Feed PacketEvent)
    (file : Bytes) : Outcome (Nat × Feed PacketEvent) PyExc :=
  polled s.1 (drainPacketEvents R callback (some file) s.1 s.2)

/-! ## Polling is tailing -/

/-- What a drain does with the bytes it consumes.
Source: `src/runner.py` `drain_test_events`, `drain_packet_events`
Kind: D -/
def processing {α : Type} (step : Feed α → PyStr → Outcome (Feed α) PyExc) (consumed : Bytes)
    (feed : Feed α) : Outcome (Feed α) PyExc :=
  run step (logLines consumed) feed

/-- Lines are processed one by one, so a cut after a newline is not noticed.
Source: `src/runner.py` `drain_test_events`, `drain_packet_events`
Kind: L -/
lemma incremental_processing {α : Type} {Valid : Feed α → Prop}
    {step : Feed α → PyStr → Outcome (Feed α) PyExc}
    (hstep : ∀ feed line, Valid feed → Valid (step feed line).1) :
    Incremental NEWLINE Valid (processing step) where
  nil _ _ := rfl
  append a b s ha _ := by
    simp only [processing, logLines_append ha, run_append]
    rfl
  valid a s hs := run_invariant Valid _ hs fun s line _ h => hstep s line h

/-- A drain as a poll of the library.
Source: `src/runner.py` `stream_run`
Kind: L -/
lemma polled_returning {α : Type} (step : Feed α → PyStr → Outcome (Feed α) PyExc)
    (s : Nat × Feed α) (file : Bytes) :
    polled s.1 (returning (run step (readNewLines (some file) s.1).1 s.2)
      (readNewLines (some file) s.1).2) = poll NEWLINE (processing step) s file := by
  simp only [poll, processing, readNewLines, returning, polled]
  rcases run step (logLines (completePart NEWLINE (file.drop s.1))) s.2 with ⟨feed, _ | e⟩ <;> rfl

/-- A poll of the report log, as a poll of the library.
Source: `src/runner.py` `stream_run`
Kind: L -/
lemma pollReportLog_eq (R : Runtime) (callback : Callback TestEvent) {s : Nat × Feed TestEvent}
    (hs : WellKeyed s.2.events) (file : Bytes) :
    pollReportLog R callback s file = poll NEWLINE (processing (mergeStep R callback)) s file := by
  rw [pollReportLog, drainTestEvents_eq R callback (some file) s.1 hs, polled_returning]

/-- A poll of the packet-event log, as a poll of the library.
Source: `src/runner.py` `stream_run`
Kind: L -/
lemma pollEventsLog_eq (R : Runtime) (callback : Callback PacketEvent) (s : Nat × Feed PacketEvent)
    (file : Bytes) :
    pollEventsLog R callback s file = poll NEWLINE (processing (packetStep R callback)) s file := by
  rw [pollEventsLog, drainPacketEvents_eq, polled_returning]

/-- Polls of the report log keep the list of tests well keyed.
Source: `src/runner.py` `stream_run`
Kind: L -/
lemma wellKeyed_pollReportLog (R : Runtime) (callback : Callback TestEvent)
    {s : Nat × Feed TestEvent} (hs : WellKeyed s.2.events) (file : Bytes) :
    WellKeyed (pollReportLog R callback s file).1.2.events := by
  have h := run_invariant (fun feed : Feed TestEvent => WellKeyed feed.events)
    (logLines (completePart NEWLINE (file.drop s.1))) hs
    fun feed line _ h => h.mergeStep R callback line
  rw [pollReportLog_eq R callback hs, poll]
  simp only [processing]
  revert h
  rcases run (mergeStep R callback) _ s.2 with ⟨feed, _ | e⟩ <;> exact id

/-- A run of polls of the report log is a run of polls of the library.
Source: `src/runner.py` `stream_run`
Kind: L -/
lemma run_pollReportLog (R : Runtime) (callback : Callback TestEvent) (files : List Bytes)
    {s : Nat × Feed TestEvent} (hs : WellKeyed s.2.events) :
    run (pollReportLog R callback) files s =
      run (poll NEWLINE (processing (mergeStep R callback))) files s := by
  have h := run_simulates
    (fun s t : Nat × Feed TestEvent => s = t ∧ WellKeyed s.2.events)
    (pollReportLog R callback) (poll NEWLINE (processing (mergeStep R callback))) files
    (s := s) (t := s) ⟨rfl, hs⟩ (by
      rintro s _ file - ⟨rfl, hs⟩
      have hkeyed := wellKeyed_pollReportLog R callback hs file
      rw [pollReportLog_eq R callback hs] at hkeyed ⊢
      exact ⟨⟨rfl, hkeyed⟩, rfl⟩)
  exact Prod.ext h.1.1 h.2

/-- A run of polls of the packet-event log is a run of polls of the library.
Source: `src/runner.py` `stream_run`
Kind: L -/
lemma run_pollEventsLog (R : Runtime) (callback : Callback PacketEvent) (files : List Bytes)
    (s : Nat × Feed PacketEvent) :
    run (pollEventsLog R callback) files s =
      run (poll NEWLINE (processing (packetStep R callback))) files s := by
  congr 1
  funext s file
  exact pollEventsLog_eq R callback s file

/-- The complete part of a log, line by line.
Source: `src/runner.py` `read_new_lines`
Kind: L -/
lemma logLines_completePart (content : Bytes) :
    logLines (completePart NEWLINE content) = (terminated NEWLINE content).flatMap logLines := by
  rw [← terminated_flatten]
  have h : ∀ lines : List Bytes, (∀ l ∈ lines, Framed NEWLINE l) →
      logLines lines.flatten = lines.flatMap logLines := by
    intro lines
    induction lines with
    | nil => intro _; rfl
    | cons l lines ih =>
        intro hl
        rw [List.flatten_cons, logLines_append (hl l List.mem_cons_self), List.flatMap_cons,
          ih fun x hx => hl x (List.mem_cons_of_mem _ hx)]
  exact h _ fun l hl => (isLine_of_mem_terminated hl).framed

/-! ## Incremental tailing equals one read -/

/-- Two ways of tailing a log end alike: the same events, field by field and in order, the same
calls of the callback, the same exception if any, and otherwise the same offset.
Source: `src/runner.py` `stream_run`
Kind: D -/
structure EndAlike {α : Type} (r r' : Outcome (Nat × Feed α) PyExc) : Prop where
  feed : r.1.2 = r'.1.2
  raised : r.2 = r'.2
  offset : r'.2 = none → r.1.1 = r'.1.1

/-- One poll, as far as the reading goes: the lines read are handed on, and the offset advances.
Source: `src/runner.py` `read_new_lines`
Kind: D -/
def pollLines (s : Nat × List PyStr) (file : Bytes) : Outcome (Nat × List PyStr) PyExc :=
  let (lines, newOffset) := readNewLines (some file) s.1
  ((newOffset, s.2 ++ lines), none)

/-- Tailing has gone through these pieces: what is collected, and what is raised, is what a loop over the
lines of the pieces comes to, each piece once and in order; and if nothing is raised it ends behind them.
Source: `src/runner.py` `stream_run`
Kind: D -/
structure GoesThrough {α : Type} (step : Feed α → PyStr → Outcome (Feed α) PyExc) (pieces : List Bytes)
    (r : Outcome (Nat × Feed α) PyExc) : Prop where
  feed : r.1.2 = (run step (pieces.flatMap logLines) Feed.empty).1
  raised : r.2 = (run step (pieces.flatMap logLines) Feed.empty).2
  offset : r.2 = none → r.1.1 = pieces.flatten.length

/-- Polling goes through the newline-terminated pieces of the log, and not into an unterminated tail.
Source: `src/runner.py` `stream_run`
Kind: P -/
lemma goesThrough_of_polls {α : Type} {Valid : Feed α → Prop}
    {step : Feed α → PyStr → Outcome (Feed α) PyExc}
    (hstep : ∀ feed line, Valid feed → Valid (step feed line).1) (hempty : Valid Feed.empty)
    {content : Bytes} (sch : Schedule content) :
    GoesThrough step (terminated NEWLINE content)
      (run (poll NEWLINE (processing step)) sch.all (0, Feed.empty)) := by
  obtain ⟨hfeed, hraised, hoffset⟩ := polls_eq (incremental_processing hstep) hempty sch
  have hlines : processing step (completePart NEWLINE content) Feed.empty =
      run step ((terminated NEWLINE content).flatMap logLines) Feed.empty := by
    rw [processing, logLines_completePart]
  rw [hlines] at hfeed hraised
  refine ⟨hfeed, hraised, ?_⟩
  intro hnone
  rw [terminated_flatten]
  exact hoffset hnone

/-- Polling a log through a drain that goes line by line ends like the last poll alone.
Source: `src/runner.py` `stream_run`
Kind: P -/
lemma endAlike_of_polls {α : Type} {Valid : Feed α → Prop}
    {step : Feed α → PyStr → Outcome (Feed α) PyExc}
    (hstep : ∀ feed line, Valid feed → Valid (step feed line).1) (hempty : Valid Feed.empty)
    {content : Bytes} (sch : Schedule content) :
    EndAlike (run (poll NEWLINE (processing step)) sch.all (0, Feed.empty))
      (poll NEWLINE (processing step) (0, Feed.empty) content) := by
  obtain ⟨hfeed, hraised, hoffset⟩ := polls_eq (incremental_processing hstep) hempty sch
  have hone : (poll NEWLINE (processing step) (0, Feed.empty) content).1.2 =
        (processing step (completePart NEWLINE content) Feed.empty).1 ∧
      (poll NEWLINE (processing step) (0, Feed.empty) content).2 =
        (processing step (completePart NEWLINE content) Feed.empty).2 ∧
      ((poll NEWLINE (processing step) (0, Feed.empty) content).2 = none →
        (poll NEWLINE (processing step) (0, Feed.empty) content).1.1 =
          (completePart NEWLINE content).length) := by
    simp only [poll, List.drop_zero]
    rcases processing step (completePart NEWLINE content) Feed.empty with ⟨feed, _ | e⟩
    · exact ⟨rfl, rfl, fun _ => Nat.zero_add _⟩
    · exact ⟨rfl, rfl, fun hnone => absurd hnone (Option.some_ne_none e)⟩
  refine ⟨hfeed.trans hone.1.symm, hraised.trans hone.2.1.symm, ?_⟩
  intro hnone
  rw [hone.2.2 hnone]
  exact hoffset (by rw [hraised, ← hone.2.1, hnone])

/-- What polling the report log leaves and raises is what one loop over its complete lines does.
Source: `src/runner.py` `stream_run`
Kind: P -/
lemma run_pollReportLog_eq (R : Runtime) (callback : Callback TestEvent) {content : Bytes}
    (polls : Schedule content) :
    let whole := run (mergeStep R callback) (logLines (completePart NEWLINE content)) Feed.empty
    (run (pollReportLog R callback) polls.all (0, Feed.empty)).1.2 = whole.1 ∧
      (run (pollReportLog R callback) polls.all (0, Feed.empty)).2 = whole.2 := by
  have hvalid : ∀ feed line, WellKeyed feed.events →
      WellKeyed (mergeStep R callback feed line).1.events :=
    fun feed line h => h.mergeStep R callback line
  have hempty : WellKeyed (Feed.empty : Feed TestEvent).events := WellKeyed.nil
  obtain ⟨hfeed, hraised, -⟩ := polls_eq (incremental_processing hvalid) hempty polls
  rw [run_pollReportLog R callback _ hempty]
  exact ⟨hfeed, hraised⟩

/-- The reading alone, over any schedule: every terminated line, in order, each once.
Source: `src/runner.py` `read_new_lines`
Kind: P -/
lemma run_pollLines {content : Bytes} (sch : Schedule content) :
    run pollLines sch.all (0, []) =
      (((terminated NEWLINE content).flatten.length, (terminated NEWLINE content).flatMap logLines),
        none) := by
  let collecting : Bytes → List PyStr → Outcome (List PyStr) PyExc := fun consumed lines =>
    (lines ++ logLines consumed, none)
  have hinc : Incremental NEWLINE (fun _ => True) collecting :=
    { nil := fun s _ => by simp [collecting]
      append := fun a b s ha _ => by simp [collecting, logLines_append ha]
      valid := fun _ _ _ => trivial }
  obtain ⟨hlines, hraised, hoffset⟩ := polls_eq hinc (trivial : True) sch
  change run (poll NEWLINE collecting) sch.all (0, []) = _
  rw [terminated_flatten, ← logLines_completePart]
  rcases hrun : run (poll NEWLINE collecting) sch.all (0, []) with ⟨⟨offset, lines⟩, raised⟩
  rw [hrun] at hlines hraised hoffset
  simp only [collecting, List.nil_append] at hlines hraised hoffset
  rw [hlines, hraised, hoffset hraised]

/-- **Incremental tailing equals one read.** For all final contents of the two logs and every
schedule of polls of each, the drains end like a single drain of the whole content; the polls may
take turns in any way, on one result, if neither drain raises; over its polls each log hands on
the lines of its newline-terminated pieces, each once and in order, and no unterminated tail; and the
drains go through just these lines and end behind them.
Source: `src/runner.py` `stream_run`, `drain_test_events`, `drain_packet_events`
Kind: P -/
theorem polling_eq_single_drain (R : Runtime) (onTestEvent : Callback TestEvent)
    (onPacketEvent : Callback PacketEvent) (report events : Bytes) (reportPolls : Schedule report)
    (eventsPolls : Schedule events) :
    EndAlike (run (pollReportLog R onTestEvent) reportPolls.all (0, Feed.empty))
        (pollReportLog R onTestEvent (0, Feed.empty) report) ∧
      EndAlike (run (pollEventsLog R onPacketEvent) eventsPolls.all (0, Feed.empty))
        (pollEventsLog R onPacketEvent (0, Feed.empty) events) ∧
      (∀ turns : List (Bytes ⊕ Bytes),
        turns.filterMap Sum.getLeft? = reportPolls.all →
        turns.filterMap Sum.getRight? = eventsPolls.all →
        (pollReportLog R onTestEvent (0, Feed.empty) report).2 = none →
        (pollEventsLog R onPacketEvent (0, Feed.empty) events).2 = none →
        run (sideBySide (pollReportLog R onTestEvent) (pollEventsLog R onPacketEvent)) turns
            ((0, Feed.empty), (0, Feed.empty)) =
          (((pollReportLog R onTestEvent (0, Feed.empty) report).1,
            (pollEventsLog R onPacketEvent (0, Feed.empty) events).1), none)) ∧
      run pollLines reportPolls.all (0, []) =
        (((terminated NEWLINE report).flatten.length, (terminated NEWLINE report).flatMap logLines),
          none) ∧
      run pollLines eventsPolls.all (0, []) =
        (((terminated NEWLINE events).flatten.length, (terminated NEWLINE events).flatMap logLines),
          none) ∧
      GoesThrough (mergeStep R onTestEvent) (terminated NEWLINE report)
        (run (pollReportLog R onTestEvent) reportPolls.all (0, Feed.empty)) ∧
      GoesThrough (packetStep R onPacketEvent) (terminated NEWLINE events)
        (run (pollEventsLog R onPacketEvent) eventsPolls.all (0, Feed.empty)) := by
  have hkeyed : ∀ feed line, WellKeyed feed.events → WellKeyed (mergeStep R onTestEvent feed line).1.events :=
    fun feed line h => h.mergeStep R onTestEvent line
  have hany : ∀ (feed : Feed PacketEvent) (line : PyStr), True → True := fun _ _ => id
  have htests : EndAlike (run (pollReportLog R onTestEvent) reportPolls.all (0, Feed.empty))
      (pollReportLog R onTestEvent (0, Feed.empty) report) := by
    rw [run_pollReportLog R onTestEvent _ WellKeyed.nil,
      pollReportLog_eq R onTestEvent WellKeyed.nil]
    exact endAlike_of_polls hkeyed WellKeyed.nil reportPolls
  have hpackets : EndAlike (run (pollEventsLog R onPacketEvent) eventsPolls.all (0, Feed.empty))
      (pollEventsLog R onPacketEvent (0, Feed.empty) events) := by
    rw [run_pollEventsLog, pollEventsLog_eq]
    exact endAlike_of_polls hany trivial eventsPolls
  refine ⟨htests, hpackets, fun turns hleft hright hreport hevents => ?_, run_pollLines reportPolls,
    run_pollLines eventsPolls, ?_, ?_⟩
  · apply run_sideBySide
    · rw [hleft]
      exact Prod.ext (Prod.ext (htests.offset hreport) htests.feed) (htests.raised.trans hreport)
    · rw [hright]
      exact Prod.ext (Prod.ext (hpackets.offset hevents) hpackets.feed) (hpackets.raised.trans hevents)
  · rw [run_pollReportLog R onTestEvent _ WellKeyed.nil]
    exact goesThrough_of_polls hkeyed WellKeyed.nil reportPolls
  · rw [run_pollEventsLog]
    exact goesThrough_of_polls hany trivial eventsPolls

end NetstackSuite.Runner
