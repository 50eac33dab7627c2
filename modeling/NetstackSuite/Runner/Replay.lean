import NetstackSuite.Runner.Acceptance

/-!
# A drain that is called again after its callback raised

An exception of a callback leaves a drain with part of the batch in the result and the caller's offset
in front of the batch, so the next call, the one in the `finally` block of `stream_run`, sees the same
lines again. For test events that does no harm: an event the tests account for changes nothing
(`Ranked.upsert_of_absorbed`). Packet events are appended without a look at what is there, so the
ones of the interrupted batch appear twice. `replay_exact_iff` is the exact statement.
-/

namespace NetstackSuite.Runner

open NetstackSuite.Python NetstackSuite.Reporting NetstackSuite.Lib

/-! ## Steps that announce what they did -/

section

variable {α : Type}

/-- What the two loops have in common: the callback is told about an event after it was put into the
result. So it has no influence on the events, and none on what is raised unless it raises itself.
Source: `src/runner.py` `drain_test_events`, `drain_packet_events`
Kind: D -/
structure Announcing (step : Callback α → Feed α → PyStr → Outcome (Feed α) PyExc) : Prop where
  events : ∀ c c' f f' line, f.events = f'.events →
    (step c f line).1.events = (step c' f' line).1.events
  quiet : ∀ c c' f f' line, f.events = f'.events → Quiet c → Quiet c' →
    (step c f line).2 = (step c' f' line).2
  returns : ∀ c f line, (step c f line).2 = none → (step none f line).2 = none

variable {step : Callback α → Feed α → PyStr → Outcome (Feed α) PyExc}

/-- Quiet callbacks cannot be told apart by what a loop leaves.
Source: `src/runner.py` `drain_test_events`, `drain_packet_events`
Kind: L -/
lemma Announcing.run_quiet (h : Announcing step) {c c' : Callback α} (hc : Quiet c) (hc' : Quiet c')
    (lines : List PyStr) {f f' : Feed α} (hf : f.events = f'.events) :
    (run (step c) lines f).1.events = (run (step c') lines f').1.events ∧
      (run (step c) lines f).2 = (run (step c') lines f').2 :=
  run_simulates (fun f f' : Feed α => f.events = f'.events) (step c) (step c') lines hf
    fun f f' line _ hf => ⟨h.events c c' f f' line hf, h.quiet c c' f f' line hf hc hc'⟩

/-- A loop that returned with some callback returns with a quiet one, and leaves the same events.
Source: `src/runner.py` `drain_test_events`, `drain_packet_events`
Kind: L -/
lemma Announcing.run_returns (h : Announcing step) {c c' : Callback α} (hc' : Quiet c')
    {lines : List PyStr} {f f' g : Feed α} (hf : f.events = f'.events)
    (hrun : run (step c) lines f = (g, none)) :
    ∃ g', run (step c') lines f' = (g', none) ∧ g'.events = g.events := by
  induction lines generalizing f f' with
  | nil =>
      cases hrun
      exact ⟨f', rfl, hf.symm⟩
  | cons line lines ih =>
      rw [run_cons] at hrun
      rcases hs : step c f line with ⟨f₁, _ | e⟩ <;> rw [hs] at hrun
      · have hevents := h.events c c' f f' line hf
        have hraised := h.returns c f line (by rw [hs])
        rw [h.quiet none c' f f' line hf quiet_none hc'] at hraised
        rcases hs' : step c' f' line with ⟨f₁', r⟩
        rw [hs, hs'] at hevents
        rw [hs'] at hraised
        obtain rfl : r = none := hraised
        obtain ⟨g', hg', hevents'⟩ := ih hevents hrun
        exact ⟨g', by rw [run_cons, hs', andThen_none, hg'], hevents'⟩
      · cases hrun

/-- The callback raises at a line of the loop, one that raises nothing of its own.
Source: `src/runner.py` `drain_test_events`, `drain_packet_events`
Kind: D -/
def CallbackRaises (step : Callback α → Feed α → PyStr → Outcome (Feed α) PyExc)
    (callback : Callback α) (lines : List PyStr) (feed feed' : Feed α) (e : PyExc) : Prop :=
  ∃ before line after feed₁, lines = before ++ line :: after ∧
    run (step callback) before feed = (feed₁, none) ∧ (step none feed₁ line).2 = none ∧
    step callback feed₁ line = (feed', some e)

/-- The interrupted loop ends with that exception.
Source: `src/runner.py` `drain_test_events`, `drain_packet_events`
Kind: L -/
lemma CallbackRaises.run_eq {callback : Callback α} {lines : List PyStr} {feed feed' : Feed α}
    {e : PyExc} (h : CallbackRaises step callback lines feed feed' e) :
    run (step callback) lines feed = (feed', some e) := by
  obtain ⟨before, line, after, feed₁, rfl, hbefore, -, hline⟩ := h
  rw [run_append, hbefore, andThen_none, run_cons, hline, andThen_some]

/-- The lines up to the interruption, without it: a quiet loop over them returns, and leaves the events
the interrupted one left.
Source: `src/runner.py` `drain_test_events`, `drain_packet_events`
Kind: P -/
lemma CallbackRaises.exists_run (hstep : Announcing step) {callback quiet : Callback α}
    (hquiet : Quiet quiet) {lines : List PyStr} {feed feed' : Feed α} {e : PyExc}
    (h : CallbackRaises step callback lines feed feed' e) :
    ∃ done rest g, lines = done ++ rest ∧ run (step quiet) done feed = (g, none) ∧
      g.events = feed'.events := by
  obtain ⟨before, line, after, feed₁, rfl, hbefore, hnone, hline⟩ := h
  obtain ⟨g₁, hg₁, hevents₁⟩ := hstep.run_returns hquiet rfl hbefore
  have hraised := hstep.quiet quiet none g₁ feed₁ line hevents₁ hquiet quiet_none
  have hevents := hstep.events quiet callback g₁ feed₁ line hevents₁
  rw [hnone] at hraised
  rw [hline] at hevents
  rcases hg : step quiet g₁ line with ⟨g, r⟩
  rw [hg] at hraised hevents
  obtain rfl : r = none := hraised
  refine ⟨before ++ [line], after, g, by simp, ?_, hevents⟩
  rw [run_append, hg₁, andThen_none, run_cons, hg, andThen_none, run_nil]

end

/-- Source: `src/runner.py` `drain_test_events`
Kind: L -/
lemma announcing_mergeStep (R : Runtime) : Announcing (mergeStep R) where
  events c c' f f' line hf := by
    simp only [mergeStep]
    rcases parseReportLogLine R line with e | _ | event
    · exact hf
    · exact hf
    · by_cases hk : event.key = none
      · simpa [hk] using hf
      · simp only [hk, if_false, mergeEventInto_events, hf]
  quiet c c' f f' line hf hc hc' := by
    simp only [mergeStep]
    rcases parseReportLogLine R line with e | _ | event
    · rfl
    · rfl
    · by_cases hk : event.key = none
      · simp [hk]
      · simp only [hk, if_false, mergeEventInto, hf]
        rcases worstWins.upsert f'.events event with ⟨⟨tests, _ | changed⟩, _ | e⟩
        · rfl
        · rfl
        · rw [hc.announce, hc'.announce]
        · rfl
  returns c f line h := by
    simp only [mergeStep] at h ⊢
    rcases hp : parseReportLogLine R line with e | _ | event
    · rw [hp] at h
      cases h
    · rfl
    · rw [hp] at h
      by_cases hk : event.key = none
      · simp [hk] at h
      · simp only [hk, if_false, mergeEventInto] at h ⊢
        rcases hup : worstWins.upsert f.events event with ⟨⟨tests, changed⟩, _ | e⟩
        · cases changed <;> rfl
        · rw [hup] at h
          cases h

/-- Source: `src/runner.py` `drain_packet_events`
Kind: L -/
lemma announcing_packetStep (R : Runtime) : Announcing (packetStep R) where
  events c c' f f' line hf := by
    rw [packetStep_events, packetStep_events, hf]
  quiet c c' f f' line hf hc hc' := by
    simp only [packetStep]
    rcases parsePacketEventLine R line with e | _ | event
    · rfl
    · rfl
    · simp only
      rw [hc.announce, hc'.announce]
  returns c f line h := by
    simp only [packetStep] at h ⊢
    rcases hp : parsePacketEventLine R line with e | _ | event
    · rw [hp] at h
      cases h
    · rfl
    · rfl

/-! ## Test events: a replay changes nothing -/

/-- A loop that returned met only lines the parser accepts, with nodeids that can be looked up.
Source: `src/runner.py` `drain_test_events`
Kind: L -/
lemma parses_of_run_mergeStep {R : Runtime} {c : Callback TestEvent} {lines : List PyStr}
    {f g : Feed TestEvent} (h : run (mergeStep R c) lines f = (g, none)) :
    ∀ line ∈ lines, ∃ r, parseReportLogLine R line = .ok r ∧
      ∀ event, r = some event → event.key ≠ none := by
  induction lines generalizing f with
  | nil => exact nofun
  | cons line lines ih =>
      rw [run_cons] at h
      rcases hs : mergeStep R c f line with ⟨f₁, _ | e⟩ <;> rw [hs] at h
      · refine List.forall_mem_cons.mpr ⟨?_, ih h⟩
        rw [mergeStep] at hs
        rcases hp : parseReportLogLine R line with e | r
        · rw [hp] at hs
          cases hs
        · refine ⟨r, rfl, ?_⟩
          rintro event rfl hkey
          rw [hp] at hs
          simp only [hkey, if_true] at hs
          cases hs
      · cases h

/-- A line whose event is accounted for leaves the result as it is, and raises only what its parser raises.
Source: `src/runner.py` `drain_test_events`
Kind: L -/
lemma mergeStep_of_absorbed {R : Runtime} (c : Callback TestEvent) {f : Feed TestEvent} {line : PyStr}
    (h : ∀ event, parseReportLogLine R line = .ok (some event) →
      event.key ≠ none ∧ worstWins.Absorbs f.events event) :
    (mergeStep R c f line).1 = f ∧
      ∀ r, parseReportLogLine R line = .ok r → (mergeStep R c f line).2 = none := by
  rw [mergeStep]
  rcases hp : parseReportLogLine R line with e | _ | event
  · refine ⟨rfl, ?_⟩
    rintro r ⟨⟩
  · exact ⟨rfl, fun _ _ => rfl⟩
  · obtain ⟨hkey, habsorbs⟩ := h event hp
    have hmerge : mergeEventInto c f event = (f, none) := by
      rw [mergeEventInto, worstWins.upsert_of_absorbed habsorbs]
    simp only [hkey, if_false]
    rw [hmerge]
    exact ⟨rfl, fun _ _ => rfl⟩

/-- **Lines a loop went through change nothing when they are seen again.**
Source: `src/runner.py` `drain_test_events`
Kind: P -/
lemma run_mergeStep_again {R : Runtime} {c : Callback TestEvent} {lines : List PyStr}
    {f g f' : Feed TestEvent} (h : run (mergeStep R c) lines f = (g, none))
    (hf' : f'.events = g.events) (c' : Callback TestEvent) : run (mergeStep R c') lines f' = (f', none) := by
  apply run_of_absorbed
  intro line hline
  obtain ⟨r, hr, hkey⟩ := parses_of_run_mergeStep h line hline
  have habsorbed : ∀ event, parseReportLogLine R line = .ok (some event) →
      event.key ≠ none ∧ worstWins.Absorbs f'.events event := by
    intro event hevent
    have hsome : r = some event := Except.ok.inj (hr.symm.trans hevent)
    have hmem : event ∈ parsedEvents R lines := List.mem_filterMap.mpr ⟨line, hline, by rw [hevent]⟩
    refine ⟨hkey event hsome, ?_⟩
    rw [hf', run_mergeStep_events h]
    exact worstWins.absorbs_collect hmem
  obtain ⟨hsame, hreturns⟩ := mergeStep_of_absorbed c' habsorbed
  exact Prod.ext hsame (hreturns r hr)

/-- **An interrupted loop over test events, done again on the same or more lines, ends like one that was
not interrupted.**
Source: `src/runner.py` `drain_test_events`
Kind: P -/
lemma replay_tests {R : Runtime} {callback quiet : Callback TestEvent} (hquiet : Quiet quiet)
    {lines : List PyStr} {feed feed' : Feed TestEvent} {e : PyExc}
    (h : CallbackRaises (mergeStep R) callback lines feed feed' e) (more : List PyStr) :
    (run (mergeStep R quiet) (lines ++ more) feed').1.events =
        (run (mergeStep R quiet) (lines ++ more) feed).1.events ∧
      (run (mergeStep R quiet) (lines ++ more) feed').2 =
        (run (mergeStep R quiet) (lines ++ more) feed).2 := by
  obtain ⟨done, rest, g, rfl, hdone, hevents⟩ := h.exists_run (announcing_mergeStep R) hquiet
  rw [List.append_assoc, run_append, run_append, hdone,
    run_mergeStep_again hdone hevents.symm quiet, andThen_none, andThen_none]
  exact (announcing_mergeStep R).run_quiet hquiet hquiet _ hevents.symm

/-! ## Packet events: a replay duplicates -/

/-- What a quiet loop appends depends on the lines alone.
Source: `src/runner.py` `drain_packet_events`
Kind: L -/
lemma run_packetStep_appends (R : Runtime) {quiet : Callback PacketEvent} (hquiet : Quiet quiet)
    (lines : List PyStr) :
    ∃ added raised, ∀ feed : Feed PacketEvent,
      (run (packetStep R quiet) lines feed).1.events = feed.events ++ added ∧
        (run (packetStep R quiet) lines feed).2 = raised := by
  induction lines with
  | nil => exact ⟨[], none, fun feed => ⟨(List.append_nil _).symm, rfl⟩⟩
  | cons line lines ih =>
      obtain ⟨added, raised, ih⟩ := ih
      rcases hp : parsePacketEventLine R line with e | event
      · refine ⟨[], some e, ?_⟩
        intro feed
        rw [run_cons, packetStep, hp]
        exact ⟨(List.append_nil _).symm, rfl⟩
      · refine ⟨event.toList ++ added, raised, ?_⟩
        intro feed
        have hevents := packetStep_events R quiet feed line
        have hraised : (packetStep R quiet feed line).2 = none := by
          rw [packetStep, hp]
          cases event with
          | none => rfl
          | some event => exact hquiet.announce _ _
        rw [run_cons]
        rcases hs : packetStep R quiet feed line with ⟨feed', r⟩
        rw [hs] at hevents hraised
        obtain rfl : r = none := hraised
        rw [andThen_none]
        refine ⟨?_, (ih feed').2⟩
        rw [(ih feed').1, hevents, List.append_assoc]
        congr 2
        cases event <;> simp [parsedPackets, hp]

/-- The interrupted loop had appended at least the event whose callback raised.
Source: `src/runner.py` `drain_packet_events`
Kind: L -/
lemma appended_of_callbackRaises {R : Runtime} {callback : Callback PacketEvent} {lines : List PyStr}
    {feed feed' : Feed PacketEvent} {e : PyExc}
    (h : CallbackRaises (packetStep R) callback lines feed feed' e) :
    ∃ added, added ≠ [] ∧ feed'.events = feed.events ++ added := by
  obtain ⟨before, line, after, feed₁, -, hbefore, hnone, hline⟩ := h
  have hevents := packetStep_events R callback feed₁ line
  have hbefore' := (run_packetStep_events R callback before feed).2 (by rw [hbefore])
  rw [hbefore] at hbefore'
  rw [hline] at hevents
  refine ⟨parsedPackets R before ++ parsedPackets R [line], ?_, ?_⟩
  · -- without an event there would have been no call
    rw [packetStep] at hline hnone
    rcases hp : parsePacketEventLine R line with e' | _ | event <;> rw [hp] at hline hnone
    · cases hnone
    · cases hline
    · simp [parsedPackets, hp]
  · rw [hevents, hbefore', List.append_assoc]

/-- **An interrupted loop over packet events, done again, never ends like one that was not
interrupted.**
Source: `src/runner.py` `drain_packet_events`
Kind: P -/
lemma replay_packets_ne {R : Runtime} {callback quiet : Callback PacketEvent} (hquiet : Quiet quiet)
    {lines lines' : List PyStr} {feed feed' : Feed PacketEvent} {e : PyExc}
    (h : CallbackRaises (packetStep R) callback lines feed feed' e) :
    (run (packetStep R quiet) lines' feed').1.events ≠
      (run (packetStep R quiet) lines' feed).1.events := by
  obtain ⟨added, hne, hadded⟩ := appended_of_callbackRaises h
  obtain ⟨more, _, hmore⟩ := run_packetStep_appends R hquiet lines'
  rw [(hmore feed').1, (hmore feed).1, hadded]
  intro heq
  have hlen := congrArg List.length heq
  simp only [List.length_append] at hlen
  exact hne (List.length_eq_zero_iff.mp (by omega))

/-! ## Both drains -/

/-- Offset and feed of the two logs.
Source: `src/runner.py` `stream_run`
Kind: D -/
abbrev Tails := (Nat × Feed TestEvent) × (Nat × Feed PacketEvent)

/-- The two drains one after the other, as in the loop and in the `finally` block of `stream_run`.
Source: `src/runner.py` `stream_run`
Kind: D -/
def drainBoth (R : Runtime) (onTestEvent : Callback TestEvent) (onPacketEvent : Callback PacketEvent)
    (report events : Bytes) (s : Tails) : Outcome Tails PyExc :=
  match pollReportLog R onTestEvent s.1 report with
  | (t, some e) => ((t, s.2), some e)
  | (t, none) =>
      let p := pollEventsLog R onPacketEvent s.2 events
      ((t, p.1), p.2)

/-- Which of the two drains.
Source: `src/runner.py` `stream_run`
Kind: D -/
inductive Drain where
  | testEvents
  | packetEvents
  deriving DecidableEq, Repr

/-- The callback of one drain raises somewhere inside it; `s'` is what it leaves.
Source: `src/runner.py` `stream_run`
Kind: D -/
inductive Interrupted (R : Runtime) (onTestEvent : Callback TestEvent)
    (onPacketEvent : Callback PacketEvent) (report events : Bytes) (s : Tails) :
    Drain → Tails → PyExc → Prop where
  | testEvents {tests : Feed TestEvent} {e : PyExc}
      (raises : CallbackRaises (mergeStep R) onTestEvent
        (readNewLines (some report) s.1.1).1 s.1.2 tests e) :
      Interrupted R onTestEvent onPacketEvent report events s .testEvents
        ((s.1.1, tests), s.2) e
  | packetEvents {t : Nat × Feed TestEvent} {packets : Feed PacketEvent} {e : PyExc}
      (drained : pollReportLog R onTestEvent s.1 report = (t, none))
      (raises : CallbackRaises (packetStep R) onPacketEvent
        (readNewLines (some events) s.2.1).1 s.2.2 packets e) :
      Interrupted R onTestEvent onPacketEvent report events s .packetEvents
        (t, (s.2.1, packets)) e

/-- A state reached by polling: the drains have gone through prefixes of the logs.
Source: `src/runner.py` `stream_run`
Kind: D -/
structure Polled (R : Runtime) (onTestEvent : Callback TestEvent)
    (onPacketEvent : Callback PacketEvent) (report events : Bytes) (s : Tails) : Prop where
  tests : ∃ (seen : Bytes) (polls : Schedule seen), seen <+: report ∧
    run (pollReportLog R onTestEvent) polls.all (0, Feed.empty) = (s.1, none)
  packets : ∃ (seen : Bytes) (polls : Schedule seen), seen <+: events ∧
    run (pollEventsLog R onPacketEvent) polls.all (0, Feed.empty) = (s.2, none)

/-! ### The drains, in terms of their loops -/

section

variable {R : Runtime} {onTestEvent : Callback TestEvent} {onPacketEvent : Callback PacketEvent}
  {report events : Bytes}

/-- What a poll leaves and raises is what its loop leaves and raises.
Source: `src/runner.py` `stream_run`
Kind: L -/
lemma pollReportLog_run (R : Runtime) (onTestEvent : Callback TestEvent) {s : Nat × Feed TestEvent}
    (hs : WellKeyed s.2.events) (file : Bytes) :
    let r := run (mergeStep R onTestEvent) (readNewLines (some file) s.1).1 s.2
    (pollReportLog R onTestEvent s file).1.2 = r.1 ∧
      (pollReportLog R onTestEvent s file).2 = r.2 ∧
      (pollReportLog R onTestEvent s file).1.1 =
        if r.2 = none then (readNewLines (some file) s.1).2 else s.1 := by
  rw [pollReportLog, drainTestEvents_eq R onTestEvent _ _ hs]
  rcases run (mergeStep R onTestEvent) (readNewLines (some file) s.1).1 s.2 with ⟨feed, _ | e⟩ <;>
    exact ⟨rfl, rfl, rfl⟩

/-- The same for the packet events.
Source: `src/runner.py` `stream_run`
Kind: L -/
lemma pollEventsLog_run (R : Runtime) (onPacketEvent : Callback PacketEvent) (s : Nat × Feed PacketEvent)
    (file : Bytes) :
    let r := run (packetStep R onPacketEvent) (readNewLines (some file) s.1).1 s.2
    (pollEventsLog R onPacketEvent s file).1.2 = r.1 ∧
      (pollEventsLog R onPacketEvent s file).2 = r.2 ∧
      (pollEventsLog R onPacketEvent s file).1.1 =
        if r.2 = none then (readNewLines (some file) s.1).2 else s.1 := by
  rw [pollEventsLog, drainPacketEvents_eq]
  rcases run (packetStep R onPacketEvent) (readNewLines (some file) s.1).1 s.2 with ⟨feed, _ | e⟩ <;>
    exact ⟨rfl, rfl, rfl⟩

/-- The lines behind an offset are the first lines behind it once the file has grown.
Source: `src/runner.py` `read_new_lines`
Kind: L -/
lemma exists_readNewLines_append {file file' : Bytes} (h : file <+: file') (offset : Nat) :
    ∃ more, (readNewLines (some file') offset).1 = (readNewLines (some file) offset).1 ++ more := by
  have hdrop : file.drop offset <+: file'.drop offset := by
    obtain ⟨t, rfl⟩ := h
    rw [List.drop_append]
    exact List.prefix_append _ _
  have hcut := completePart_of_isPrefix (d := NEWLINE) hdrop
  exact ⟨_, by simp only [readNewLines]; rw [hcut, logLines_append (framed_completePart _)]⟩

@[simp] lemma drainBoth_tests (s : Tails) :
    (drainBoth R onTestEvent onPacketEvent report events s).1.1 =
      (pollReportLog R onTestEvent s.1 report).1 := by
  rw [drainBoth]
  rcases pollReportLog R onTestEvent s.1 report with ⟨t, _ | e⟩ <;> rfl

lemma drainBoth_packets (s : Tails) :
    (drainBoth R onTestEvent onPacketEvent report events s).1.2 =
      if (pollReportLog R onTestEvent s.1 report).2 = none then
        (pollEventsLog R onPacketEvent s.2 events).1
      else s.2 := by
  rw [drainBoth]
  rcases pollReportLog R onTestEvent s.1 report with ⟨t, _ | e⟩ <;> rfl

/-- A state reached by polling has well-keyed tests.
Source: `src/runner.py` `stream_run`
Kind: L -/
lemma Polled.wellKeyed {s : Tails} (h : Polled R onTestEvent onPacketEvent report events s) :
    WellKeyed s.1.2.events := by
  obtain ⟨seen, polls, -, hrun⟩ := h.tests
  have hempty : WellKeyed ((0, Feed.empty) : Nat × Feed TestEvent).2.events := WellKeyed.nil
  have hkeyed := run_invariant (fun s : Nat × Feed TestEvent => WellKeyed s.2.events) polls.all
    hempty fun s file _ hs => wellKeyed_pollReportLog R onTestEvent hs file
  rwa [hrun] at hkeyed

/-- The interrupted drains end with the exception of the callback.
Source: `src/runner.py` `stream_run`
Kind: L -/
lemma Interrupted.drainBoth_eq {s s' : Tails} {drain : Drain} {e : PyExc}
    (hs : WellKeyed s.1.2.events)
    (h : Interrupted R onTestEvent onPacketEvent report events s drain s' e) :
    drainBoth R onTestEvent onPacketEvent report events s = (s', some e) := by
  cases h with
  | @testEvents tests _ raises =>
      obtain ⟨h₁, h₂, h₃⟩ := pollReportLog_run R onTestEvent hs report
      rw [raises.run_eq] at h₁ h₂ h₃
      have hpoll : pollReportLog R onTestEvent s.1 report = ((s.1.1, tests), some e) :=
        Prod.ext (Prod.ext h₃ h₁) h₂
      rw [drainBoth, hpoll]
  | packetEvents drained raises =>
      obtain ⟨h₁, h₂, h₃⟩ := pollEventsLog_run R onPacketEvent s.2 events
      rw [raises.run_eq] at h₁ h₂ h₃
      rw [drainBoth, drained]
      exact Prod.ext (Prod.ext rfl (Prod.ext h₃ h₁)) h₂

end

/-! ### The exact statement -/

section

variable {R : Runtime} {onTestEvent quietTest : Callback TestEvent}
  {onPacketEvent quietPacket : Callback PacketEvent} {report report' events events' : Bytes}

/-- After an interrupted drain of test events, doing both drains again leaves what an uninterrupted one
would.
Source: `src/runner.py` `stream_run`
Kind: P -/
lemma replay_after_tests (htest : Quiet quietTest) (hreport : report <+: report') {s : Tails}
    (hs : WellKeyed s.1.2.events) {tests : Feed TestEvent} {e : PyExc}
    (h : CallbackRaises (mergeStep R) onTestEvent (readNewLines (some report) s.1.1).1 s.1.2
      tests e) :
    let again := (drainBoth R quietTest quietPacket report' events' ((s.1.1, tests), s.2)).1
    let uninterrupted := (drainBoth R quietTest quietPacket report' events' s).1
    again.1.2.events = uninterrupted.1.2.events ∧
      again.2.2.events = uninterrupted.2.2.events := by
  have hkeyed : WellKeyed tests.events := by
    have := run_invariant (fun feed : Feed TestEvent => WellKeyed feed.events)
      (readNewLines (some report) s.1.1).1 hs fun feed line _ h => h.mergeStep R onTestEvent line
    rwa [h.run_eq] at this
  obtain ⟨more, hmore⟩ := exists_readNewLines_append hreport s.1.1
  obtain ⟨hevents, hraised⟩ := replay_tests htest h more
  rw [← hmore] at hevents hraised
  obtain ⟨h₁, h₂, -⟩ := pollReportLog_run R quietTest (s := (s.1.1, tests)) hkeyed report'
  obtain ⟨h₁', h₂', -⟩ := pollReportLog_run R quietTest hs report'
  refine ⟨?_, ?_⟩
  · rw [drainBoth_tests, drainBoth_tests, h₁, h₁', hevents]
  · rw [drainBoth_packets, drainBoth_packets, h₂, h₂', hraised]

/-- After an interrupted drain of packet events, doing both drains again never leaves the packet events
an uninterrupted one would.
Source: `src/runner.py` `stream_run`
Kind: P -/
lemma replay_after_packets_ne (htest : Quiet quietTest) (hpacket : Quiet quietPacket)
    (hreport : report <+: report') {s : Tails} (hs : WellKeyed s.1.2.events)
    {t : Nat × Feed TestEvent} {packets : Feed PacketEvent} {e : PyExc}
    (hdrained : pollReportLog R onTestEvent s.1 report = (t, none))
    (h : CallbackRaises (packetStep R) onPacketEvent (readNewLines (some events) s.2.1).1 s.2.2
      packets e) :
    (drainBoth R quietTest quietPacket report' events' (t, (s.2.1, packets))).1.2.2.events ≠
      (drainBoth R quietTest quietPacket report' events' s).1.2.2.events := by
  -- both replays get as far with the test events
  have hkeyed : WellKeyed t.2.events := by
    have := wellKeyed_pollReportLog R onTestEvent hs report
    rwa [hdrained] at this
  have hraised : (pollReportLog R quietTest t report').2 =
      (pollReportLog R quietTest s.1 report').2 := by
    obtain ⟨h₁, h₂, h₃⟩ := pollReportLog_run R onTestEvent hs report
    rw [hdrained] at h₁ h₂ h₃
    have hrun : run (mergeStep R onTestEvent) (readNewLines (some report) s.1.1).1 s.1.2 =
        (t.2, none) := Prod.ext h₁.symm h₂.symm
    obtain ⟨g, hg, hevents⟩ := (announcing_mergeStep R).run_returns htest rfl hrun
    rw [← h₂, if_pos rfl] at h₃
    have hquiet : pollReportLog R quietTest s.1 report = ((t.1, g), none) := by
      obtain ⟨h₁', h₂', h₃'⟩ := pollReportLog_run R quietTest hs report
      rw [hg] at h₁' h₂' h₃'
      exact Prod.ext (Prod.ext (h₃'.trans h₃.symm) h₁') h₂'
    have hkeyed' : WellKeyed g.events := hevents ▸ hkeyed
    rw [pollReportLog_eq R quietTest hs] at hquiet
    have hstep : ∀ feed line, WellKeyed feed.events →
        WellKeyed (mergeStep R quietTest feed line).1.events :=
      fun feed line h => h.mergeStep R quietTest line
    obtain ⟨-, hpoll⟩ := poll_poll (incremental_processing hstep) hs hreport hquiet
    obtain ⟨-, ht, -⟩ := pollReportLog_run R quietTest hkeyed report'
    obtain ⟨-, hg', -⟩ := pollReportLog_run R quietTest (s := (t.1, g)) hkeyed' report'
    rw [pollReportLog_eq R quietTest hs, ← hpoll, ← pollReportLog_eq R quietTest (s := (t.1, g)) hkeyed',
      ht, hg']
    exact ((announcing_mergeStep R).run_quiet htest htest _ hevents.symm).2
  rw [drainBoth_packets, drainBoth_packets, hraised]
  split
  · -- both get to the packet events, and read the same lines
    obtain ⟨h₁, -, -⟩ := pollEventsLog_run R quietPacket (s.2.1, packets) events'
    obtain ⟨h₁', -, -⟩ := pollEventsLog_run R quietPacket s.2 events'
    rw [h₁, h₁']
    exact replay_packets_ne hpacket h
  · -- neither does: the duplicates are there already
    obtain ⟨added, hne, hadded⟩ := appended_of_callbackRaises h
    rw [hadded]
    intro heq
    exact hne (List.append_right_eq_self.mp heq)

/-- **A replay is exact if and only if it was the drain of test events that was interrupted.** For all
logs, every state reached by polling, and every point of either drain at which its callback raises:
the drains end with that exception, and doing them again, on logs that may have grown, with
callbacks that do not raise, leaves the tests and the packet events of an uninterrupted drain
exactly if the interrupted drain is that of the test events.
Source: `src/runner.py` `stream_run`, `drain_test_events`, `drain_packet_events`
Kind: P -/
theorem replay_exact_iff (htest : Quiet quietTest) (hpacket : Quiet quietPacket)
    (hreport : report <+: report') {s s' : Tails}
    (hreached : Polled R onTestEvent onPacketEvent report events s) {drain : Drain} {e : PyExc}
    (h : Interrupted R onTestEvent onPacketEvent report events s drain s' e) :
    drainBoth R onTestEvent onPacketEvent report events s = (s', some e) ∧
      let again := (drainBoth R quietTest quietPacket report' events' s').1
      let uninterrupted := (drainBoth R quietTest quietPacket report' events' s).1
      (again.1.2.events = uninterrupted.1.2.events ∧
        again.2.2.events = uninterrupted.2.2.events) ↔ drain = .testEvents := by
  have hs := hreached.wellKeyed
  refine ⟨h.drainBoth_eq hs, ?_⟩
  cases h with
  | testEvents raises =>
      exact ⟨fun _ => rfl, fun _ => replay_after_tests htest hreport hs raises⟩
  | packetEvents drained raises =>
      refine ⟨?_, nofun⟩
      intro hexact
      exact absurd hexact.2 (replay_after_packets_ne htest hpacket hreport hs drained raises)

end

/-- A packet-event line.
Source: none: infrastructure
Kind: D -/
def sentLine : Bytes :=
  bytes "\x7b\"timestamp\": 1.0, \"direction\": \"sent\", \"summary\": \"IP\", \"size_bytes\": 54\x7d\n"

/-- A callback that raises whenever it is called.
Source: none: infrastructure
Kind: D -/
def raising : Callback PacketEvent := some fun _ _ => some (.other "RuntimeError")

/-- Nothing polled yet.
Source: none: infrastructure
Kind: D -/
def unpolled : Tails := ((0, Feed.empty), (0, Feed.empty))

/-- The callback of the packet drain raises at its only event; the replay appends it again.
Source: `src/runner.py` `drain_packet_events`
Kind: P -/
theorem replay_duplicates_packet :
    let interrupted := drainBoth plainRuntime none raising [] sentLine unpolled
    let again := (drainBoth plainRuntime none none [] sentLine interrupted.1).1.2.2.events
    let uninterrupted := (drainBoth plainRuntime none none [] sentLine unpolled).1.2.2.events
    interrupted.2 = some (.other "RuntimeError") ∧ uninterrupted.length = 1 ∧
      again = uninterrupted ++ uninterrupted := by
  decide +kernel

lemma polled_unpolled (onTestEvent : Callback TestEvent) (onPacketEvent : Callback PacketEvent)
    (report events : Bytes) :
    Polled plainRuntime onTestEvent onPacketEvent report events unpolled where
  tests := ⟨[], ⟨[], .singleton _⟩, List.nil_prefix, rfl⟩
  packets := ⟨[], ⟨[], .singleton _⟩, List.nil_prefix, rfl⟩

/-- The theorem at that interruption.
Source: `src/runner.py` `drain_packet_events`
Kind: P -/
theorem replay_exact_iff_sent :
    let s' := (drainBoth plainRuntime none raising [] sentLine unpolled).1
    let again := (drainBoth plainRuntime none none [] sentLine s').1
    let uninterrupted := (drainBoth plainRuntime none none [] sentLine unpolled).1
    ¬ (again.1.2.events = uninterrupted.1.2.events ∧
      again.2.2.events = uninterrupted.2.2.events) := by
  intro s' again uninterrupted
  have hlines : (readNewLines (some sentLine) 0).1.length = 1 := by decide +kernel
  obtain ⟨line, hline⟩ := List.length_eq_one_iff.mp hlines
  have hstep : (readNewLines (some sentLine) 0).1.map (fun line =>
      ((packetStep plainRuntime none Feed.empty line).2,
        (packetStep plainRuntime raising Feed.empty line).2)) =
      [(none, some (.other "RuntimeError"))] := by decide +kernel
  rw [hline] at hstep
  obtain ⟨hnone, hraised⟩ := Prod.mk.inj (List.singleton_inj.mp hstep)
  have h : Interrupted plainRuntime none raising [] sentLine unpolled .packetEvents
      ((0, Feed.empty), (0, (packetStep plainRuntime raising Feed.empty line).1))
      (.other "RuntimeError") :=
    .packetEvents rfl ⟨[], line, [], Feed.empty, hline, rfl, hnone, Prod.ext rfl hraised⟩
  obtain ⟨hdrain, hiff⟩ := @replay_exact_iff plainRuntime none none raising none [] [] sentLine sentLine
    quiet_none quiet_none List.prefix_rfl unpolled _ (polled_unpolled none raising [] sentLine)
    .packetEvents _ h
  intro hexact
  have hs' : s' = ((0, Feed.empty), (0, (packetStep plainRuntime raising Feed.empty line).1)) := by
    rw [show s' = (drainBoth plainRuntime none raising [] sentLine unpolled).1 from rfl, hdrain]
  simp only [again, uninterrupted, hs'] at hexact
  exact absurd (hiff.mp hexact) (by decide)

end NetstackSuite.Runner
