import NetstackSuite.Runner.Acceptance
import NetstackSuite.Runner.Stream

/-!
# What a run leaves behind

Two promises of `stream_run`, over all its runs: the run is persisted on every path, and the child does
not outlive the generator. The code keeps neither unconditionally. An exception of a drain in the
`finally` block leaves before `finalize_run`, and an exception other than an interrupt leaves the
loop without passing the handler that terminates the child; one bad log line or one raising
callback is enough for each. The theorems say which steps of a run have to be free of that for the
promise to hold.
-/

namespace NetstackSuite.Runner

open NetstackSuite.Python NetstackSuite.Reporting NetstackSuite.Lib

/-! ## What has been collected of a log -/

/-- The lines behind an offset, in terms of the bytes on disk.
Source: `src/runner.py` `read_new_lines`
Kind: L -/
lemma readNewLines_eq (file : Option Bytes) (offset : Nat) :
    readNewLines file offset =
      (logLines (completePart NEWLINE ((file.getD []).drop offset)),
        offset + (completePart NEWLINE ((file.getD []).drop offset)).length) := by
  cases file with
  | none => simp [readNewLines]
  | some content => rfl

@[simp] lemma getD_appendTo (file : Option Bytes) (bytes : Bytes) :
    (appendTo file bytes).getD [] = file.getD [] ++ bytes := by
  rw [appendTo]
  split
  · next h => simp [h]
  · rfl

/-- The tests account for every event before the offset.
Source: `src/runner.py` `stream_run`
Kind: D -/
structure TestsCollected (R : Runtime) (file : Option Bytes) (offset : Nat)
    (tests : List TestEvent) : Prop where
  keyed : WellKeyed tests
  boundary : AtBoundary NEWLINE (file.getD []) offset
  covered : ∀ e ∈ parsedEvents R (logLines ((file.getD []).take offset)), worstWins.Absorbs tests e

/-- The packets contain every event before the offset, in order.
Source: `src/runner.py` `stream_run`
Kind: D -/
structure PacketsCollected (R : Runtime) (file : Option Bytes) (offset : Nat)
    (packets : List PacketEvent) : Prop where
  boundary : AtBoundary NEWLINE (file.getD []) offset
  covered : (parsedPackets R (logLines ((file.getD []).take offset))).Sublist packets

/-- Nothing complete lies behind the offset.
Source: `src/runner.py` `stream_run`
Kind: D -/
def Drained (file : Option Bytes) (offset : Nat) : Prop :=
  completePart NEWLINE (file.getD []) = (file.getD []).take offset

/-- Growth of the report log.
Source: `src/runner.py` `stream_run`
Kind: L -/
lemma TestsCollected.append {R : Runtime} {file : Option Bytes} {offset : Nat}
    {tests : List TestEvent} (h : TestsCollected R file offset tests) (bytes : Bytes) :
    TestsCollected R (appendTo file bytes) offset tests := by
  obtain ⟨hboundary, htake⟩ := h.boundary.append bytes
  refine ⟨h.keyed, by rwa [getD_appendTo], ?_⟩
  rw [getD_appendTo, htake]
  exact h.covered

/-- Growth of the packet-event log.
Source: `src/runner.py` `stream_run`
Kind: L -/
lemma PacketsCollected.append {R : Runtime} {file : Option Bytes} {offset : Nat}
    {packets : List PacketEvent} (h : PacketsCollected R file offset packets) (bytes : Bytes) :
    PacketsCollected R (appendTo file bytes) offset packets := by
  obtain ⟨hboundary, htake⟩ := h.boundary.append bytes
  refine ⟨by rwa [getD_appendTo], ?_⟩
  rw [getD_appendTo, htake]
  exact h.covered

/-- A drain of the report log, returning or raising, goes on collecting; if it returns, nothing
complete is left behind its offset.
Source: `src/runner.py` `drain_test_events`
Kind: P -/
lemma TestsCollected.drain {R : Runtime} {file : Option Bytes} {offset : Nat}
    {feed : Feed TestEvent} (h : TestsCollected R file offset feed.events)
    (callback : Callback TestEvent) :
    let r := drainTestEvents R callback file offset feed
    (∀ newOffset, r.2 = .ok newOffset →
      TestsCollected R file newOffset r.1.events ∧ Drained file newOffset) ∧
    ∀ e, r.2 = .error e → TestsCollected R file offset r.1.events := by
  intro r
  obtain ⟨hkeyed, hrank, hok⟩ := drainTestEvents_spec R callback file offset h.keyed
  have hkept : ∀ e ∈ parsedEvents R (logLines ((file.getD []).take offset)),
      worstWins.Absorbs r.1.events e := fun e he => absorbs_of_rankOf_le (h.covered e he) hrank
  refine ⟨?_, fun e _ => ⟨hkeyed, h.boundary, hkept⟩⟩
  intro newOffset hr
  obtain ⟨rfl, hnew⟩ := hok newOffset hr
  obtain ⟨hboundary, htake, hdone⟩ := h.boundary.consume
  rw [readNewLines_eq] at hnew ⊢
  refine ⟨⟨hkeyed, hboundary, ?_⟩, hdone⟩
  intro e he
  rw [htake, logLines_append h.boundary.framed, parsedEvents_append] at he
  rcases List.mem_append.mp he with he | he
  · exact hkept e he
  · exact hnew e he

/-- A drain of the packet-event log, likewise.
Source: `src/runner.py` `drain_packet_events`
Kind: P -/
lemma PacketsCollected.drain {R : Runtime} {file : Option Bytes} {offset : Nat}
    {feed : Feed PacketEvent} (h : PacketsCollected R file offset feed.events)
    (callback : Callback PacketEvent) :
    let r := drainPacketEvents R callback file offset feed
    (∀ newOffset, r.2 = .ok newOffset →
      PacketsCollected R file newOffset r.1.events ∧ Drained file newOffset) ∧
    ∀ e, r.2 = .error e → PacketsCollected R file offset r.1.events := by
  intro r
  obtain ⟨hgrows, hok⟩ := drainPacketEvents_spec R callback file offset feed
  refine ⟨?_, fun e _ => ⟨h.boundary, h.covered.trans hgrows.sublist⟩⟩
  intro newOffset hr
  obtain ⟨rfl, hnew⟩ := hok newOffset hr
  obtain ⟨hboundary, htake, hdone⟩ := h.boundary.consume
  rw [readNewLines_eq] at hnew ⊢
  refine ⟨⟨hboundary, ?_⟩, hdone⟩
  change List.Sublist _ (drainPacketEvents R callback file offset feed).1.events
  rw [htake, logLines_append h.boundary.framed, parsedPackets_append, hnew]
  exact h.covered.append (List.Sublist.refl _)

/-! ## A run is persisted -/

/-- The final drain of the report log has returned.
Source: `src/runner.py` `stream_run`
Kind: D -/
def Pc.pastTests : Pc → Bool
  | .finalPackets _ | .finalizing _ | .lastYield | .ended _ => true
  | _ => false

/-- Both final drains have returned.
Source: `src/runner.py` `stream_run`
Kind: D -/
def Pc.pastPackets : Pc → Bool
  | .finalizing _ | .lastYield | .ended _ => true
  | _ => false

/-- `finalize_run` has returned.
Source: `src/runner.py` `stream_run`
Kind: D -/
def Pc.pastSave : Pc → Bool
  | .lastYield | .ended _ => true
  | _ => false

/-- `results.json` is there, and holds an event for every test and every packet event in the complete
lines on disk: a test event of the same nodeid, no better than what the line says, and the packet
events in their order.
Source: `src/runner.py` `stream_run`
Kind: D -/
def Persisted (run : StreamRun) (s : StreamState) : Prop :=
  ∃ result, s.results = some result ∧
    (∀ e ∈ parsedEvents run.runtime (logLines (completePart NEWLINE (s.reportLog.getD []))),
      ∃ t ∈ result.tests, t.key = e.key ∧ e.outcome ≤ t.outcome) ∧
    (parsedPackets run.runtime (logLines (completePart NEWLINE (s.eventsLog.getD [])))).Sublist
      result.packetEvents

/-- What a step has to meet for the run to be persisted: the lines left for the final drains are
accepted, and neither callback raises on the events that these announce; nothing is written to a log
behind its final drain; `results.json` can be written.
Source: `src/runner.py` `stream_run`
Kind: D -/
def FinishesCleanly (run : StreamRun) (s : StreamState) : Action → Prop
  | .advance =>
      match s.pc with
      | .finalTests _ =>
          Accepts run.runtime s.tests.events (readNewLines s.reportLog s.reportOffset).1 ∧
            QuietOn run.onTestEvent s.tests.calls
              (announcedTests run.runtime s.tests.events (readNewLines s.reportLog s.reportOffset).1)
      | .finalPackets _ =>
          AcceptsPackets run.runtime (readNewLines s.eventsLog s.eventsOffset).1 ∧
            QuietOn run.onPacketEvent s.packets.calls
              (parsedPackets run.runtime (readNewLines s.eventsLog s.eventsOffset).1)
      | _ => True
  | .write toReportLog toEventsLog =>
      (s.pc.pastTests = true → toReportLog = []) ∧ (s.pc.pastPackets = true → toEventsLog = [])
  | .saveFails => False
  | _ => True

/-- What holds in every state of such a run.
Source: `src/runner.py` `stream_run`
Kind: D -/
structure Collecting (run : StreamRun) (s : StreamState) : Prop where
  tests : TestsCollected run.runtime s.reportLog s.reportOffset s.tests.events
  packets : PacketsCollected run.runtime s.eventsLog s.eventsOffset s.packets.events
  testsDrained : s.pc.pastTests = true → Drained s.reportLog s.reportOffset
  packetsDrained : s.pc.pastPackets = true → Drained s.eventsLog s.eventsOffset
  saved : s.pc.pastSave = true → ∃ result, s.results = some result ∧
    result.tests = s.tests.events ∧ result.packetEvents = s.packets.events

lemma collecting_started (run : StreamRun) : Collecting run started where
  tests := ⟨WellKeyed.nil, .zero _, by simp [started, parsedEvents]⟩
  packets := ⟨.zero _, by simp [started, parsedPackets]⟩
  testsDrained := nofun
  packetsDrained := nofun
  saved := nofun

/-- A drain of the report log in the run: it returns, or it raises.
Source: `src/runner.py` `stream_run`
Kind: L -/
lemma drainReportLog_cases (run : StreamRun) (s : StreamState) (next : Pc) (onRaise : PyExc → Pc) :
    (∃ tests offset,
      drainTestEvents run.runtime run.onTestEvent s.reportLog s.reportOffset s.tests =
        (tests, .ok offset) ∧
      drainReportLog run s next onRaise = { s with tests, reportOffset := offset, pc := next }) ∨
    ∃ tests e,
      drainTestEvents run.runtime run.onTestEvent s.reportLog s.reportOffset s.tests =
        (tests, .error e) ∧
      drainReportLog run s next onRaise = { s with tests, pc := onRaise e } := by
  rw [drainReportLog]
  rcases drainTestEvents run.runtime run.onTestEvent s.reportLog s.reportOffset s.tests with
    ⟨tests, e | offset⟩
  · exact .inr ⟨tests, e, rfl, rfl⟩
  · exact .inl ⟨tests, offset, rfl, rfl⟩

/-- A drain of the packet-event log in the run: it returns, or it raises.
Source: `src/runner.py` `stream_run`
Kind: L -/
lemma drainEventsLog_cases (run : StreamRun) (s : StreamState) (next : Pc) (onRaise : PyExc → Pc) :
    (∃ packets offset,
      drainPacketEvents run.runtime run.onPacketEvent s.eventsLog s.eventsOffset s.packets =
        (packets, .ok offset) ∧
      drainEventsLog run s next onRaise = { s with packets, eventsOffset := offset, pc := next }) ∨
    ∃ packets e,
      drainPacketEvents run.runtime run.onPacketEvent s.eventsLog s.eventsOffset s.packets =
        (packets, .error e) ∧
      drainEventsLog run s next onRaise = { s with packets, pc := onRaise e } := by
  rw [drainEventsLog]
  rcases drainPacketEvents run.runtime run.onPacketEvent s.eventsLog s.eventsOffset s.packets with
    ⟨packets, e | offset⟩
  · exact .inr ⟨packets, e, rfl, rfl⟩
  · exact .inl ⟨packets, offset, rfl, rfl⟩

/-- An exception in the loop leads to the handler or to the start of the `finally` block.
Source: `src/runner.py` `stream_run`
Kind: L -/
lemma raiseInLoop_pastTests (e : PyExc) : (raiseInLoop e).pastTests = false := by
  rw [raiseInLoop]
  split <;> rfl

/-- Behind the final drain of the packets the report log has been drained too.
Source: `src/runner.py` `stream_run`
Kind: L -/
lemma Pc.pastTests_of_pastPackets {pc : Pc} (h : pc.pastPackets = true) : pc.pastTests = true := by
  cases pc <;> first | rfl | cases h

lemma Pc.pastPackets_of_pastSave {pc : Pc} (h : pc.pastSave = true) : pc.pastPackets = true := by
  cases pc <;> first | rfl | cases h

/-- A state whose drains still have to finish promises nothing about them.
Source: `src/runner.py` `stream_run`
Kind: L -/
lemma Collecting.of_not_pastTests {run : StreamRun} {s : StreamState}
    (tests : TestsCollected run.runtime s.reportLog s.reportOffset s.tests.events)
    (packets : PacketsCollected run.runtime s.eventsLog s.eventsOffset s.packets.events)
    (hpc : s.pc.pastTests = false) : Collecting run s where
  tests := tests
  packets := packets
  testsDrained h := by simp [hpc] at h
  packetsDrained h := by simp [Pc.pastTests_of_pastPackets h] at hpc
  saved h := by simp [Pc.pastTests_of_pastPackets (Pc.pastPackets_of_pastSave h)] at hpc

/-- Moving control keeps what was collected, as long as the new place promises no more.
Source: `src/runner.py` `stream_run`
Kind: L -/
lemma collecting_moves {run : StreamRun} {s t : StreamState} {a : Action} (hs : Collecting run s)
    (h : Moves s a t) : Collecting run t := by
  cases h with
  | finish hpc | closeLast hpc =>
      exact ⟨hs.tests, hs.packets, fun _ => hs.testsDrained (by rw [hpc]; rfl),
        fun _ => hs.packetsDrained (by rw [hpc]; rfl), fun _ => hs.saved (by rw [hpc]; rfl)⟩
  | exit hchild => exact ⟨hs.tests, hs.packets, hs.testsDrained, hs.packetsDrained, hs.saved⟩
  | _ => exact .of_not_pastTests hs.tests hs.packets rfl

/-- **Every clean step goes on collecting.**
Source: `src/runner.py` `stream_run`
Kind: P -/
theorem collecting_step {run : StreamRun} {s t : StreamState} {a : Action} (hs : Collecting run s)
    (ok : FinishesCleanly run s a) (next : step run s a = some t) : Collecting run t := by
  have htests := hs.tests.drain run.onTestEvent
  have hpackets := hs.packets.drain run.onPacketEvent
  cases step_cases next with
  | write toReportLog toEventsLog hchild =>
      obtain ⟨hreport, hevents⟩ := ok
      refine ⟨hs.tests.append toReportLog, hs.packets.append toEventsLog, fun hpc => ?_,
        fun hpc => ?_, hs.saved⟩
      · rw [hreport hpc]
        exact hs.testsDrained hpc
      · rw [hevents hpc]
        exact hs.packetsDrained hpc
  | drainTests hpc =>
      rcases drainReportLog_cases run s .drainPackets raiseInLoop with
        ⟨tests, offset, hr, ht⟩ | ⟨tests, e, hr, ht⟩ <;> rw [hr] at htests <;> rw [ht]
      · exact .of_not_pastTests (htests.1 offset rfl).1 hs.packets rfl
      · exact .of_not_pastTests (htests.2 e rfl) hs.packets (raiseInLoop_pastTests e)
  | drainPackets hpc =>
      rcases drainEventsLog_cases run s .yielding raiseInLoop with
        ⟨packets, offset, hr, ht⟩ | ⟨packets, e, hr, ht⟩ <;> rw [hr] at hpackets <;> rw [ht]
      · exact .of_not_pastTests hs.tests (hpackets.1 offset rfl).1 rfl
      · exact .of_not_pastTests hs.tests (hpackets.2 e rfl) (raiseInLoop_pastTests e)
  | finalTests raised hpc =>
      simp only [FinishesCleanly, hpc] at ok
      have hreturns := drainTestEvents_of_accepts hs.tests.keyed ok.1 ok.2
      rcases drainReportLog_cases run s (.finalPackets raised) fun e => .ended (some e) with
        ⟨tests, offset, hr, ht⟩ | ⟨tests, e, hr, ht⟩ <;> rw [hr] at htests hreturns
      · rw [ht]
        exact ⟨(htests.1 offset rfl).1, hs.packets, fun _ => (htests.1 offset rfl).2, nofun, nofun⟩
      · cases hreturns
  | finalPackets raised hpc =>
      simp only [FinishesCleanly, hpc] at ok
      have hreturns := drainPacketEvents_of_accepts ok.1 ok.2
      have hdrained := hs.testsDrained (by rw [hpc]; rfl)
      rcases drainEventsLog_cases run s (.finalizing raised) fun e => .ended (some e) with
        ⟨packets, offset, hr, ht⟩ | ⟨packets, e, hr, ht⟩ <;> rw [hr] at hpackets hreturns
      · rw [ht]
        exact ⟨hs.tests, (hpackets.1 offset rfl).1, fun _ => hdrained,
          fun _ => (hpackets.1 offset rfl).2, nofun⟩
      · cases hreturns
  | save now raised hpc =>
      exact ⟨hs.tests, hs.packets, fun _ => hs.testsDrained (by rw [hpc]; rfl),
        fun _ => hs.packetsDrained (by rw [hpc]; rfl), fun _ => ⟨_, rfl, rfl, rfl⟩⟩
  | saveFails raised hpc => exact ok.elim
  | moves h => exact collecting_moves hs h

/-- **A run is persisted**, when each of its steps is clean: if the lines left for the final drains are
accepted and no callback raises on their events, if nothing is written to a log behind its final drain, and
if `results.json` can be written, then once the generator has ended, by return or by exception,
`results.json` is there and holds an event for every test and packet event on disk.
Source: `src/runner.py` `stream_run`, `finalize_run`
Kind: P -/
theorem run_persisted (run : StreamRun) {s : StreamState} {raised : Option PyExc}
    (h : Reaches (step run) (FinishesCleanly run) started s) (hended : s.pc = .ended raised) :
    Persisted run s := by
  have hs : Collecting run s := h.invariant (Collecting run) (collecting_started run)
    fun _ _ _ hs ok next => collecting_step hs ok next
  obtain ⟨result, hresults, htests, hpackets⟩ := hs.saved (by rw [hended]; rfl)
  refine ⟨result, hresults, ?_, ?_⟩
  · intro e he
    rw [hs.testsDrained (by rw [hended]; rfl)] at he
    rw [htests]
    exact exists_of_absorbs (hs.tests.covered e he)
  · rw [hs.packetsDrained (by rw [hended]; rfl), hpackets]
    exact hs.packets.covered

/-- The conditions of a clean step that can be computed; for a run without callbacks they are all.
Source: none: infrastructure
Kind: D -/
def finishesCleanly (run : StreamRun) (s : StreamState) : Action → Bool
  | .advance =>
      match s.pc with
      | .finalTests _ =>
          decide (Accepts run.runtime s.tests.events (readNewLines s.reportLog s.reportOffset).1)
      | .finalPackets _ =>
          decide (AcceptsPackets run.runtime (readNewLines s.eventsLog s.eventsOffset).1)
      | _ => true
  | .write _ _ => !s.pc.pastTests
  | .saveFails => false
  | _ => true

lemma finishesCleanly_sound {run : StreamRun} (htests : run.onTestEvent = none)
    (hpackets : run.onPacketEvent = none) (s : StreamState) (a : Action)
    (h : finishesCleanly run s a = true) : FinishesCleanly run s a := by
  have hquiet : ∀ calls values, QuietOn run.onTestEvent calls values := by
    rw [htests]
    exact raisesOnly_none
  have hquiet' : ∀ calls values, QuietOn run.onPacketEvent calls values := by
    rw [hpackets]
    exact raisesOnly_none
  cases a with
  | advance =>
      cases hpc : s.pc <;> simp_all [finishesCleanly, FinishesCleanly]
  | write toReportLog toEventsLog =>
      have hpast : s.pc.pastTests = false := by simpa [finishesCleanly] using h
      constructor
      · intro hpc
        simp [hpast] at hpc
      · intro hpc
        have := Pc.pastTests_of_pastPackets hpc
        simp [hpast] at this
  | saveFails => cases h
  | _ => trivial

/-- A report line of a test that passed.
Source: none: infrastructure
Kind: D -/
def passedLine : Bytes :=
  bytes "\x7b\"$report_type\": \"TestReport\", \"when\": \"call\", \"outcome\": \"passed\", \"nodeid\": \"t\"\x7d\n"

/-- A report line whose nodeid is a list: the dictionary of nodeids cannot be asked about it.
Source: none: infrastructure
Kind: D -/
def listNodeidLine : Bytes :=
  bytes "\x7b\"$report_type\": \"TestReport\", \"when\": \"call\", \"nodeid\": []\x7d\n"

/-- A run that passes one test and ends.
Source: none: infrastructure
Kind: D -/
def passingRun : Option StreamState :=
  execute (step plainRun) (finishesCleanly plainRun) started
    [.advance, .write passedLine [], .exit 0, .advance, .advance, .advance, .advance, .advance,
      .advance, .advance, .save 1, .advance]

/-- The theorem on that run.
Source: `src/runner.py` `stream_run`
Kind: P -/
theorem run_persisted_passing :
    ∃ s, passingRun = some s ∧ s.pc = .ended none ∧ Persisted plainRun s := by
  have hpc : passingRun.map StreamState.pc = some (.ended none) := by
    rw [passingRun, passedLine, bytes_spelled rfl]
    decide +kernel
  obtain ⟨s, hs, hended⟩ := Option.map_eq_some_iff.mp hpc
  refine ⟨s, hs, hended, run_persisted plainRun ?_ hended⟩
  exact reaches_of_execute (finishesCleanly_sound rfl rfl) .start hs

/-- The child writes the line with the list for a nodeid and exits.
Source: none: infrastructure
Kind: D -/
def lostRun : Option StreamState :=
  execute (step plainRun) (fun _ a => a ≠ .saveFails) started
    [.write (passedLine ++ listNodeidLine) [], .exit 0, .advance, .advance]

/-- One bad line, and the run is not persisted: the final drain raises `TypeError`, and the generator
ends without a `results.json`.
Source: `src/runner.py` `stream_run`
Kind: P -/
theorem bad_line_loses_results :
    ∃ s, Reaches (step plainRun) (fun _ a => a ≠ .saveFails) started s ∧
      s.pc = .ended (some .typeError) ∧ s.results = none ∧ ¬ Persisted plainRun s := by
  have hrun : lostRun.map (fun s => (s.pc, s.results)) = some (.ended (some .typeError), none) := by
    rw [lostRun, passedLine, listNodeidLine, bytes_spelled rfl, bytes_spelled rfl]
    decide +kernel
  obtain ⟨s, hs, hend⟩ := Option.map_eq_some_iff.mp hrun
  obtain ⟨hpc, hresults⟩ := Prod.mk.inj hend
  refine ⟨s, reaches_of_execute (fun s a h => of_decide_eq_true h) .start hs, hpc, hresults, ?_⟩
  rintro ⟨result, hsaved, -⟩
  simp [hresults] at hsaved

/-! ## No orphaned child -/

/-- The callback raises nothing but an interrupt on these values.
Source: none: infrastructure
Kind: D -/
def OnlyInterruptsOn {α : Type} (callback : Callback α) (calls values : List α) : Prop :=
  RaisesOnly (fun e => e.isInterrupt = true) callback calls values

/-- What a step has to meet for the child not to be orphaned: in the loop, the lines a drain reads are
accepted and on the events that they announce the callbacks raise nothing but an interrupt; the wait for
the terminated child is neither given up nor interrupted again.
Source: `src/runner.py` `stream_run`
Kind: D -/
def LeavesByHandler (run : StreamRun) (s : StreamState) : Action → Prop
  | .advance =>
      match s.pc with
      | .drainTests =>
          Accepts run.runtime s.tests.events (readNewLines s.reportLog s.reportOffset).1 ∧
            OnlyInterruptsOn run.onTestEvent s.tests.calls
              (announcedTests run.runtime s.tests.events (readNewLines s.reportLog s.reportOffset).1)
      | .drainPackets =>
          AcceptsPackets run.runtime (readNewLines s.eventsLog s.eventsOffset).1 ∧
            OnlyInterruptsOn run.onPacketEvent s.packets.calls
              (parsedPackets run.runtime (readNewLines s.eventsLog s.eventsOffset).1)
      | _ => True
  | .interrupt =>
      match s.pc with
      | .terminating _ => False
      | _ => True
  | .timeout => False
  | _ => True

/-- The `finally` block has been entered.
Source: `src/runner.py` `stream_run`
Kind: D -/
def Pc.inFinally : Pc → Bool
  | .finalTests _ | .finalPackets _ | .finalizing _ | .lastYield | .ended _ => true
  | _ => false

/-- In the `finally` block and behind it, the child has ended; the tests stay well keyed throughout.
Source: `src/runner.py` `stream_run`
Kind: D -/
structure Reaped (s : StreamState) : Prop where
  keyed : WellKeyed s.tests.events
  child : s.pc.inFinally = true → ∃ rc, s.child = .exited rc

/-- An interrupt leads to the handler.
Source: `src/runner.py` `stream_run`
Kind: L -/
lemma raiseInLoop_inFinally {e : PyExc} (h : e.isInterrupt = true) :
    (raiseInLoop e).inFinally = false := by
  rw [raiseInLoop, if_pos h]
  rfl

/-- A drain of accepted lines in the loop returns or raises an interrupt.
Source: `src/runner.py` `stream_run`
Kind: L -/
lemma isInterrupt_of_drainTestEvents {R : Runtime} {callback : Callback TestEvent}
    {file : Option Bytes} {offset : Nat} {feed tests : Feed TestEvent} {e : PyExc}
    (hkeyed : WellKeyed feed.events) (h : Accepts R feed.events (readNewLines file offset).1)
    (hcallback : OnlyInterruptsOn callback feed.calls (announcedTests R feed.events (readNewLines file offset).1))
    (hr : drainTestEvents R callback file offset feed = (tests, .error e)) :
    e.isInterrupt = true := by
  rw [drainTestEvents_eq R callback file offset hkeyed] at hr
  have hraised := run_mergeStep_of_accepts h hcallback
  rcases hrun : run (mergeStep R callback) (readNewLines file offset).1 feed with ⟨feed', _ | e'⟩ <;>
    rw [hrun] at hr hraised
  · cases hr
  · cases hr
    exact hraised e rfl

/-- The same for the packet events.
Source: `src/runner.py` `stream_run`
Kind: L -/
lemma isInterrupt_of_drainPacketEvents {R : Runtime} {callback : Callback PacketEvent}
    {file : Option Bytes} {offset : Nat} {feed packets : Feed PacketEvent} {e : PyExc}
    (h : AcceptsPackets R (readNewLines file offset).1)
    (hcallback : OnlyInterruptsOn callback feed.calls (parsedPackets R (readNewLines file offset).1))
    (hr : drainPacketEvents R callback file offset feed = (packets, .error e)) :
    e.isInterrupt = true := by
  rw [drainPacketEvents_eq] at hr
  have hraised := run_packetStep_of_accepts h hcallback
  rcases hrun : run (packetStep R callback) (readNewLines file offset).1 feed with ⟨feed', _ | e'⟩ <;>
    rw [hrun] at hr hraised
  · cases hr
  · cases hr
    exact hraised e rfl

/-- **Every such step enters the `finally` block with the child ended.**
Source: `src/runner.py` `stream_run`
Kind: P -/
theorem reaped_step {run : StreamRun} {s t : StreamState} {a : Action} (hs : Reaped s)
    (ok : LeavesByHandler run s a) (next : step run s a = some t) : Reaped t := by
  have hkeyed := (drainTestEvents_spec run.runtime run.onTestEvent s.reportLog s.reportOffset
    hs.keyed).1
  cases step_cases next with
  | write toReportLog toEventsLog hchild => exact ⟨hs.keyed, hs.child⟩
  | drainTests hpc =>
      simp only [LeavesByHandler, hpc] at ok
      rcases drainReportLog_cases run s .drainPackets raiseInLoop with
        ⟨tests, offset, hr, ht⟩ | ⟨tests, e, hr, ht⟩ <;> rw [ht] <;> rw [hr] at hkeyed
      · exact ⟨hkeyed, nofun⟩
      · have he := isInterrupt_of_drainTestEvents hs.keyed ok.1 ok.2 hr
        exact ⟨hkeyed, fun h => by simp [raiseInLoop_inFinally he] at h⟩
  | drainPackets hpc =>
      simp only [LeavesByHandler, hpc] at ok
      rcases drainEventsLog_cases run s .yielding raiseInLoop with
        ⟨packets, offset, hr, ht⟩ | ⟨packets, e, hr, ht⟩ <;> rw [ht]
      · exact ⟨hs.keyed, nofun⟩
      · have he := isInterrupt_of_drainPacketEvents ok.1 ok.2 hr
        exact ⟨hs.keyed, fun h => by simp [raiseInLoop_inFinally he] at h⟩
  | finalTests raised hpc =>
      have hchild := hs.child (by rw [hpc]; rfl)
      rcases drainReportLog_cases run s (.finalPackets raised) fun e => .ended (some e) with
        ⟨tests, offset, hr, ht⟩ | ⟨tests, e, hr, ht⟩ <;> rw [ht] <;> rw [hr] at hkeyed <;>
        exact ⟨hkeyed, fun _ => hchild⟩
  | finalPackets raised hpc =>
      have hchild := hs.child (by rw [hpc]; rfl)
      rcases drainEventsLog_cases run s (.finalizing raised) fun e => .ended (some e) with
        ⟨packets, offset, hr, ht⟩ | ⟨packets, e, hr, ht⟩ <;> rw [ht] <;>
        exact ⟨hs.keyed, fun _ => hchild⟩
  | save now raised hpc => exact ⟨hs.keyed, fun _ => hs.child (by rw [hpc]; rfl)⟩
  | saveFails raised hpc => exact ⟨hs.keyed, fun _ => hs.child (by rw [hpc]; rfl)⟩
  | moves h =>
      cases h with
      | pollExited hpc hchild | waited hpc hchild => exact ⟨hs.keyed, fun _ => ⟨_, hchild⟩⟩
      | finish hpc | closeLast hpc => exact ⟨hs.keyed, fun _ => hs.child (by rw [hpc]; rfl)⟩
      | exit hchild => exact ⟨hs.keyed, fun _ => ⟨_, rfl⟩⟩
      | interruptWait hpc => simp [LeavesByHandler, hpc] at ok
      | timeout hpc => exact ok.elim
      | _ => exact ⟨hs.keyed, nofun⟩

/-- **No orphaned child**, when each step of the run leaves by the handler: if every line read in the
loop is accepted, the callbacks raise at most interrupts there, and the terminated child ends within
the bounded, uninterrupted wait, then once the generator has ended the child has ended.
Source: `src/runner.py` `stream_run`
Kind: P -/
theorem child_ended (run : StreamRun) {s : StreamState} {raised : Option PyExc}
    (h : Reaches (step run) (LeavesByHandler run) started s) (hended : s.pc = .ended raised) :
    ∃ rc, s.child = .exited rc := by
  have hs : Reaped s := h.invariant Reaped ⟨WellKeyed.nil, nofun⟩
    fun _ _ _ hs ok next => reaped_step hs ok next
  exact hs.child (by rw [hended]; rfl)

/-- The conditions of such a step that can be computed; for a run without callbacks they are all.
Source: none: infrastructure
Kind: D -/
def leavesByHandler (run : StreamRun) (s : StreamState) : Action → Bool
  | .advance =>
      match s.pc with
      | .drainTests =>
          decide (Accepts run.runtime s.tests.events (readNewLines s.reportLog s.reportOffset).1)
      | .drainPackets =>
          decide (AcceptsPackets run.runtime (readNewLines s.eventsLog s.eventsOffset).1)
      | _ => true
  | .interrupt =>
      match s.pc with
      | .terminating _ => false
      | _ => true
  | .timeout => false
  | _ => true

lemma leavesByHandler_sound {run : StreamRun} (htests : run.onTestEvent = none)
    (hpackets : run.onPacketEvent = none) (s : StreamState) (a : Action)
    (h : leavesByHandler run s a = true) : LeavesByHandler run s a := by
  have honly : ∀ calls values, OnlyInterruptsOn run.onTestEvent calls values := by
    rw [htests]
    exact raisesOnly_none
  have honly' : ∀ calls values, OnlyInterruptsOn run.onPacketEvent calls values := by
    rw [hpackets]
    exact raisesOnly_none
  cases a with
  | advance | interrupt =>
      cases hpc : s.pc <;> simp_all [leavesByHandler, LeavesByHandler]
  | timeout => cases h
  | _ => trivial

/-- A run stopped by Ctrl+C between two polls.
Source: none: infrastructure
Kind: D -/
def interruptedRun : Option StreamState :=
  execute (step plainRun) (leavesByHandler plainRun) started
    [.write passedLine [], .advance, .advance, .advance, .advance, .interrupt, .exit (-15), .advance,
      .advance, .advance, .save 1]

/-- The theorem on that run.
Source: `src/runner.py` `stream_run`
Kind: P -/
theorem child_ended_interrupted :
    ∃ s, interruptedRun = some s ∧ s.pc = .ended (some .keyboardInterrupt) ∧
      ∃ rc, s.child = .exited rc := by
  have hpc : interruptedRun.map StreamState.pc = some (.ended (some .keyboardInterrupt)) := by
    rw [interruptedRun, passedLine, bytes_spelled rfl]
    decide +kernel
  obtain ⟨s, hs, hended⟩ := Option.map_eq_some_iff.mp hpc
  refine ⟨s, hs, hended, child_ended plainRun ?_ hended⟩
  exact reaches_of_execute (leavesByHandler_sound rfl rfl) .start hs

/-- The child writes the line with the list for a nodeid and lives on.
Source: none: infrastructure
Kind: D -/
def orphaningRun : Option StreamState :=
  execute (step plainRun) (fun _ _ => true) started
    [.write listNodeidLine [], .advance, .advance, .advance]

/-- One bad line, and the child is orphaned: `TypeError` leaves the loop past the handler, and the
generator ends while the child runs.
Source: `src/runner.py` `stream_run`
Kind: P -/
theorem bad_line_orphans_child :
    ∃ s, Reaches (step plainRun) (fun _ _ => True) started s ∧
      s.pc = .ended (some .typeError) ∧ s.child = .running := by
  have hrun : orphaningRun.map (fun s => (s.pc, s.child)) =
      some (.ended (some .typeError), .running) := by
    rw [orphaningRun, listNodeidLine, bytes_spelled rfl]
    decide +kernel
  obtain ⟨s, hs, hend⟩ := Option.map_eq_some_iff.mp hrun
  obtain ⟨hpc, hchild⟩ := Prod.mk.inj hend
  exact ⟨s, reaches_of_execute (fun _ _ _ => trivial) .start hs, hpc, hchild⟩

end NetstackSuite.Runner
