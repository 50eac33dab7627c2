import NetstackSuite.Python.TextFile
import NetstackSuite.Runner.Framing
import NetstackSuite.Runner.Replay

/-!
# Lines that are drained again

Every drain of test events, also one that an exception of the callback, of the parser or of the sum of two
durations cut short, leaves a result that accounts for the lines it went through (`AccountsFor`): the test of
each nodeid has the outcome of the worst of them already. So the lines of earlier drains change nothing when
they are read again, in whatever order and number (`replay_harmless`). The exception may come between the
new outcome and the callback; the outcome is assigned first, which is what the invariant needs.
-/

namespace NetstackSuite.Runner

open NetstackSuite.Python NetstackSuite.Reporting NetstackSuite.Lib

/-! ## Results and the lines behind them -/

/-- The lines a drain goes through: those it reads, up to the one where it raises.
Source: `src/runner.py` `drain_test_events`
Kind: D -/
def drainedLines (R : Runtime) (callback : Callback TestEvent) (file : Option Bytes) (offset : Nat)
    (feed : Feed TestEvent) : List PyStr :=
  match buildIndex feed.events 0 [] with
  | .error _ => []
  | .ok index => taken (testStep R callback) (readNewLines file offset).1 (feed, index)

/-- The results that drains make of an empty one, with the lines they went through; any callback, any file
and any offset for each of them, and each may have returned or raised.
Source: `src/runner.py` `drain_test_events`
Kind: D -/
inductive Gathered (R : Runtime) : List PyStr → Feed TestEvent → Prop where
  | start : Gathered R [] Feed.empty
  | drain {lines : List PyStr} {feed : Feed TestEvent} (before : Gathered R lines feed)
      (callback : Callback TestEvent) (file : Option Bytes) (offset : Nat) :
      Gathered R (lines ++ drainedLines R callback file offset feed)
        (drainTestEvents R callback file offset feed).1

/-- **The invariant**: every event of the lines is in the tests, at its outcome or a worse one.
Source: `src/runner.py` `drain_test_events`
Kind: D -/
structure AccountsFor (R : Runtime) (lines : List PyStr) (feed : Feed TestEvent) : Prop where
  keyed : WellKeyed feed.events
  absorbs : ∀ e ∈ parsedEvents R lines, e.key ≠ none → worstWins.Absorbs feed.events e

lemma AccountsFor.start (R : Runtime) : AccountsFor R [] Feed.empty :=
  ⟨WellKeyed.nil, List.forall_mem_nil _⟩

/-- The event of a line is accounted for behind its step, also if the step raises.
Source: `src/runner.py` `drain_test_events`
Kind: L -/
lemma absorbs_mergeStep {R : Runtime} (callback : Callback TestEvent) (feed : Feed TestEvent)
    {line : PyStr} {event : TestEvent} (hparse : parseReportLogLine R line = .ok (some event))
    (hkey : event.key ≠ none) :
    worstWins.Absorbs (mergeStep R callback feed line).1.events event := by
  rw [mergeStep, hparse]
  simp only [hkey, if_false]
  rw [mergeEventInto_events]
  exact worstWins.absorbs_upsert_self feed.events event

/-- One line more.
Source: `src/runner.py` `drain_test_events`
Kind: L -/
lemma AccountsFor.step {R : Runtime} {lines : List PyStr} {feed : Feed TestEvent}
    (h : AccountsFor R lines feed) (callback : Callback TestEvent) (line : PyStr) :
    AccountsFor R (lines ++ [line]) (mergeStep R callback feed line).1 where
  keyed := h.keyed.mergeStep R callback line
  absorbs := by
    intro e he hkey
    rw [parsedEvents_append] at he
    rcases List.mem_append.mp he with he | he
    · -- an earlier line: no outcome gets better
      exact absorbs_of_rankOf_le (h.absorbs e he hkey) (rankOf_le_mergeStep R callback feed line)
    · -- the line itself
      obtain ⟨line', hline', hparse⟩ := List.mem_filterMap.mp he
      obtain rfl := List.mem_singleton.mp hline'
      rcases hp : parseReportLogLine R line' with _ | event
      · rw [hp] at hparse
        cases hparse
      · rw [hp] at hparse
        obtain rfl : event = some e := hparse
        exact absorbs_mergeStep callback feed hp hkey

/-- The lines gone through, without the dictionary.
Source: `src/runner.py` `drain_test_events`
Kind: L -/
lemma drainedLines_eq (R : Runtime) (callback : Callback TestEvent) (file : Option Bytes) (offset : Nat)
    {feed : Feed TestEvent} (hkeyed : WellKeyed feed.events) :
    drainedLines R callback file offset feed =
      taken (mergeStep R callback) (readNewLines file offset).1 feed := by
  obtain ⟨index, hbuild, hindex⟩ := buildIndex_eq [] feed.events (fun _ => (rfl : Dict.get [] _ = _)) hkeyed
  rw [List.length_nil] at hbuild
  rw [drainedLines, hbuild]
  apply taken_simulates fun (s : Feed TestEvent × Dict HashKey Nat) (feed : Feed TestEvent) =>
    s.1 = feed ∧ Indexes s.2 feed.events
  · exact ⟨rfl, hindex⟩
  · rintro ⟨_, index⟩ feed line ⟨rfl, hindex⟩
    obtain ⟨hfeed, hraised, hindex'⟩ := testStep_simulates R callback hindex line
    exact ⟨⟨hfeed, hfeed ▸ hindex'⟩, hraised⟩

/-- What a drain leaves, whether it returns or raises.
Source: `src/runner.py` `drain_test_events`
Kind: L -/
lemma drainTestEvents_fst (R : Runtime) (callback : Callback TestEvent) (file : Option Bytes)
    (offset : Nat) {feed : Feed TestEvent} (hkeyed : WellKeyed feed.events) :
    (drainTestEvents R callback file offset feed).1 =
      (run (mergeStep R callback) (readNewLines file offset).1 feed).1 := by
  rw [drainTestEvents_eq R callback file offset hkeyed]
  rcases run (mergeStep R callback) (readNewLines file offset).1 feed with ⟨feed', _ | e⟩ <;> rfl

/-- **Results account for the lines behind them.**
Source: `src/runner.py` `drain_test_events`
Kind: P -/
lemma Gathered.accountsFor {R : Runtime} {lines : List PyStr} {feed : Feed TestEvent}
    (h : Gathered R lines feed) : AccountsFor R lines feed := by
  induction h with
  | start => exact AccountsFor.start R
  | drain before callback file offset ih =>
      rw [drainedLines_eq R callback file offset ih.keyed, drainTestEvents_fst R callback file offset ih.keyed]
      exact run_taken_invariant (AccountsFor R) _ ih fun gone feed line hgone => hgone.step callback line

/-! ## Every choice of drained lines is the lines of some log -/

/-- What `read_new_lines` returns: a text without line boundaries and surrogates that is not blank.
Source: `src/runner.py` `read_new_lines`
Kind: D -/
structure IsLogLine (line : PyStr) : Prop where
  writable : Writable line
  unbroken : ∀ c ∈ line, isLineBreak c = false
  notBlank : blank line = false

/-- Source: `src/runner.py` `read_new_lines`. Kind: L -/
lemma isLogLine_of_mem {file : Option Bytes} {offset : Nat} {line : PyStr}
    (h : line ∈ (readNewLines file offset).1) : IsLogLine line := by
  rcases file with _ | content
  · cases h
  · obtain ⟨hsplit, hstrip⟩ := List.mem_filter.mp h
    refine ⟨?_, ?_, ?_⟩
    · intro c hc
      exact writable_decodeReplace _ c (mem_splitlines hsplit hc).2
    · intro c hc
      exact (mem_splitlines hsplit hc).1
    · simpa [blank] using hstrip

/-- Source: `src/runner.py` `drain_test_events`. Kind: L -/
lemma Gathered.isLogLine {R : Runtime} {lines : List PyStr} {feed : Feed TestEvent}
    (h : Gathered R lines feed) : ∀ line ∈ lines, IsLogLine line := by
  induction h with
  | start => exact List.forall_mem_nil _
  | @drain lines feed before callback file offset ih =>
      intro line hline
      obtain hline | hline := List.mem_append.mp hline
      · exact ih line hline
      · unfold drainedLines at hline
        split at hline
        · cases hline
        · exact isLogLine_of_mem ((taken_isPrefix _ _ _).subset hline)

/-- Such a line as a record.
Source: none: specification
Kind: L -/
lemma IsLogLine.exists_record {line : PyStr} (h : IsLogLine line) : ∃ r : Record, r.text = line := by
  obtain ⟨data, hdata⟩ := h.writable.exists_encode
  have hplain : ∀ c, isLineBreak c = true → c ∉ line := by
    intro c hc hmem
    rw [h.unbroken c hmem] at hc
    cases hc
  exact ⟨⟨line, data, hdata, hplain LF (by decide), hplain CR (by decide)⟩, rfl⟩

/-- **Every sequence of such lines is what a log reads as.**
Source: `src/runner.py` `read_new_lines`
Kind: P -/
lemma exists_log {lines : List PyStr} (h : ∀ line ∈ lines, IsLogLine line) :
    ∃ file : Bytes, readNewLines (some file) 0 = (lines, file.length) := by
  have hrecords : ∃ records : List Record, records.map Record.text = lines := by
    induction lines with
    | nil => exact ⟨[], rfl⟩
    | cons line lines ih =>
        obtain ⟨hline, hlines⟩ := List.forall_mem_cons.mp h
        obtain ⟨r, rfl⟩ := hline.exists_record
        obtain ⟨records, rfl⟩ := ih hlines
        exact ⟨r :: records, rfl⟩
  obtain ⟨records, rfl⟩ := hrecords
  have htext : ∀ r ∈ records, IsLogLine r.text := fun r hr => h r.text (List.mem_map_of_mem hr)
  have hall : nonBlank records = records.map Record.text := by
    apply List.filter_eq_self.mpr
    intro line hline
    rw [(h line hline).notBlank]
    rfl
  refine ⟨logOf records, ?_⟩
  simp only [readNewLines, List.drop_zero]
  rw [completePart_of_framed (framed_logOf records), logLines_logOf,
    flatMap_lines_of_unbroken fun r hr _ => (htext r hr).unbroken, hall, Nat.zero_add]

/-! ## Replays -/

/-- A line that is accounted for leaves the result as it is, and raises only what its parser raises.
Source: `src/runner.py` `drain_test_events`
Kind: L -/
lemma AccountsFor.replay {R : Runtime} {lines : List PyStr} {feed : Feed TestEvent}
    (h : AccountsFor R lines feed) (hstr : ∀ e ∈ parsedEvents R lines, e.nodeid.isStr = true)
    (callback : Callback TestEvent) {line : PyStr} (hline : line ∈ lines) :
    (mergeStep R callback feed line).1 = feed ∧
      ∀ r, parseReportLogLine R line = .ok r → (mergeStep R callback feed line).2 = none := by
  apply mergeStep_of_absorbed
  intro event hevent
  have hmem : event ∈ parsedEvents R lines := List.mem_filterMap.mpr ⟨line, hline, by rw [hevent]⟩
  have hkey := TestEvent.key_ne_none (hstr event hmem)
  exact ⟨hkey, h.absorbs event hmem hkey⟩

/-- **Replaying test lines is harmless.** Of a result that any drains have made of lines with string
nodeids, take any lines they went through, in any order, as often as one likes. There is a log that
reads as these lines, and a drain that reads them, with whatever callback, changes no test and calls the
callback not once; if the parser accepts the lines, it returns.
Source: `src/runner.py` `drain_test_events`, `parse_report_log_line`
Kind: P -/
theorem replay_harmless (R : Runtime) {lines : List PyStr} {feed : Feed TestEvent}
    (gathered : Gathered R lines feed) (hstr : ∀ e ∈ parsedEvents R lines, e.nodeid.isStr = true)
    {again : List PyStr} (hagain : ∀ line ∈ again, line ∈ lines) :
    (∃ file : Bytes, readNewLines (some file) 0 = (again, file.length)) ∧
      ∀ (callback : Callback TestEvent) (file : Option Bytes) (offset : Nat),
        (readNewLines file offset).1 = again →
        let r := drainTestEvents R callback file offset feed
        r.1.events = feed.events ∧ r.1.calls = feed.calls ∧
          ((∀ line ∈ again, ∃ event, parseReportLogLine R line = .ok event) →
            r.2 = .ok (readNewLines file offset).2) := by
  have haccounts := gathered.accountsFor
  refine ⟨exists_log fun line hline => gathered.isLogLine line (hagain line hline), ?_⟩
  intro callback file offset hread r
  have hreplay := fun line hline => haccounts.replay hstr callback (hagain line hline)
  have hfeed : r.1 = feed := by
    unfold r
    rw [drainTestEvents_fst R callback file offset haccounts.keyed, hread]
    apply run_invariant (fun f => f = feed) again rfl
    rintro _ line hline rfl
    exact (hreplay line hline).1
  refine ⟨congrArg Feed.events hfeed, congrArg Feed.calls hfeed, ?_⟩
  intro hparse
  have hrun : run (mergeStep R callback) again feed = (feed, none) := by
    apply run_of_absorbed
    intro line hline
    obtain ⟨event, hevent⟩ := hparse line hline
    obtain ⟨hsame, hreturns⟩ := hreplay line hline
    exact Prod.ext hsame (hreturns event hevent)
  unfold r
  rw [drainTestEvents_eq R callback file offset haccounts.keyed, hread, hrun]
  rfl

/-- What a drain makes of the log of a test that errors in its teardown.
Source: none: infrastructure
Kind: D -/
def teardownFeed : Feed TestEvent := (drainTestEvents plainRuntime none (some teardownErrorLog) 0 Feed.empty).1

/-- The drain goes through all lines, whose nodeids are strings.
Source: none: infrastructure
Kind: L -/
lemma teardownFeed_gathered :
    drainedLines plainRuntime none (some teardownErrorLog) 0 Feed.empty =
        (readNewLines (some teardownErrorLog) 0).1 ∧
      (∀ e ∈ parsedEvents plainRuntime (readNewLines (some teardownErrorLog) 0).1, e.nodeid.isStr = true) ∧
      teardownFeed.events.map TestEvent.outcome = [.error, .passed] := by
  rw [teardownFeed, teardownErrorLog, bytes_spelled rfl, bytes_spelled rfl, bytes_spelled rfl]
  decide +kernel

/-- The theorem on that log: the whole of it is read again, with a callback that would raise.
Source: `src/runner.py` `drain_test_events`
Kind: P -/
theorem replay_harmless_teardown :
    teardownFeed.events.map TestEvent.outcome = [.error, .passed] ∧
      (drainTestEvents plainRuntime (some fun _ _ => some .typeError) (some teardownErrorLog) 0
        teardownFeed).1.events = teardownFeed.events := by
  obtain ⟨hdrained, hstr, houtcomes⟩ := teardownFeed_gathered
  have hgathered : Gathered plainRuntime (readNewLines (some teardownErrorLog) 0).1 teardownFeed := by
    have hdrain := Gathered.drain (R := plainRuntime) .start none (some teardownErrorLog) 0
    rwa [List.nil_append, hdrained] at hdrain
  refine ⟨houtcomes, ?_⟩
  -- from here on neither the log nor the result has to be evaluated
  generalize teardownFeed = feed at hgathered ⊢
  generalize hread : (readNewLines (some teardownErrorLog) 0).1 = again at hgathered hstr
  have hsame : ∀ line ∈ again, line ∈ again := fun _ hline => hline
  exact ((replay_harmless plainRuntime hgathered hstr hsame).2 _ _ _ hread).1

end NetstackSuite.Runner
