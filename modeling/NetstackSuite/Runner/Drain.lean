import NetstackSuite.Lib.Tail
import NetstackSuite.Lib.Upsert
import NetstackSuite.Runner.Parse

/-!
# The file-tailing helpers of `src/runner.py`

`readNewLines`, `drainTestEvents` and `drainPacketEvents`, as the code computes them: the lines behind
an offset are read, and each is parsed and put into the result in turn. An exception can come from
the parser, from the merge of two durations, from the hash of a nodeid or from the callback; it
leaves the events collected so far in the result and the caller's offset where it was.

`drain_test_events` looks events up in a dictionary it rebuilds on every call. The dictionary is
not observable: `drainTestEvents_eq` says that a drain is a loop of `mergeStep`, the worst-wins
`upsert` of `NetstackSuite.Lib.Upsert` on the list of events alone.
-/

namespace NetstackSuite.Runner

open NetstackSuite.Python NetstackSuite.Reporting NetstackSuite.Lib

/-! ## Lines -/

/-- `b"\n"`.
Source: `src/runner.py` `read_new_lines`
Kind: D -/
def NEWLINE : UInt8 := 0x0A

/-- The lines of a piece of a log that are not blank.
Source: `src/runner.py` `read_new_lines`
Kind: D -/
def logLines (consumed : Bytes) : List PyStr :=
  (splitlines (decodeReplace consumed)).filter fun ln => !(strip ln).isEmpty

/-- The complete lines behind an offset, and the offset behind them. `none` is a file that does not
exist.
Source: `src/runner.py` `read_new_lines`
Kind: D -/
def readNewLines (file : Option Bytes) (offset : Nat) : List PyStr × Nat :=
  match file with
  | none => ([], offset)
  | some content =>
      -- up to the last newline; nothing if there is none
      let consumed := completePart NEWLINE (content.drop offset)
      (logLines consumed, offset + consumed.length)

@[simp] lemma logLines_nil : logLines [] = [] := rfl

/-- The lines of a piece that ends with a newline do not depend on what follows it.
Source: `src/runner.py` `read_new_lines`
Kind: P -/
lemma logLines_append {a : Bytes} (ha : Framed NEWLINE a) (b : Bytes) :
    logLines (a ++ b) = logLines a ++ logLines b := by
  obtain rfl | ⟨a, rfl⟩ := ha
  · simp
  · have hascii : NEWLINE < 0x80 := by decide
    have hLF : chr NEWLINE.toNat = LF := by decide
    obtain ⟨t, ht⟩ := decodeReplace_concat_ascii a hascii
    rw [hLF] at ht
    simp only [logLines]
    rw [List.append_assoc, List.singleton_append, decodeReplace_append_ascii a b hascii, ht,
      List.append_assoc, List.singleton_append, splitlines_append_newline, List.filter_append]

/-- A callback, or none: the exception a call raises, given the values of the calls before it.
Source: `src/runner.py` `TestEventCallback`, `PacketEventCallback`
Kind: D -/
abbrev Callback (α : Type) := Option (List α → α → Option PyExc)

/-- The events a drain has collected, and the values its callback was called with.
Source: `src/runner.py` `drain_test_events`, `drain_packet_events`
Kind: D -/
structure Feed (α : Type) where
  /-- `result.tests`, or `result.packet_events`. -/
  events : List α
  /-- The calls made. -/
  calls : List α
  deriving DecidableEq

/-- Nothing collected yet.
Source: none: infrastructure
Kind: D -/
def Feed.empty {α : Type} : Feed α := ⟨[], []⟩

/-- `if callback: callback(event)`.
Source: `src/runner.py` `drain_test_events`, `drain_packet_events`
Kind: D -/
def announce {α : Type} (callback : Callback α) (feed : Feed α) (event : α) :
    Outcome (Feed α) PyExc :=
  match callback with
  | none => (feed, none)
  | some call => ({ feed with calls := feed.calls ++ [event] }, call feed.calls event)

@[simp] lemma announce_events {α : Type} (callback : Callback α) (feed : Feed α) (event : α) :
    (announce callback feed event).1.events = feed.events := by
  cases callback <;> rfl

/-! ## `drain_test_events` -/

/-- `existing` after a worse event of the same test: the outcome, then the message, then the
duration, whose `+=` may raise.
Source: `src/runner.py` `drain_test_events`
Kind: D -/
def mergeEvent (existing event : TestEvent) : Outcome TestEvent PyExc :=
  let worse := { existing with
    outcome := event.outcome
    message := if event.message.truthy then event.message else existing.message }
  match Json.iadd existing.durationS event.durationS with
  | .ok durationS => ({ worse with durationS }, none)
  | .error e => (worse, some e)

/-- `{t.nodeid: t for t in result.tests}`, an event being given by its position in the list.
Source: `src/runner.py` `drain_test_events`
Kind: D -/
def buildIndex : List TestEvent → Nat → Dict HashKey Nat → Except PyExc (Dict HashKey Nat)
  | [], _, index => .ok index
  | t :: ts, i, index =>
      match t.key with
      | some k => buildIndex ts (i + 1) (Dict.set index k i)
      | none => .error .typeError

/-- One line of the loop.
Source: `src/runner.py` `drain_test_events`
Kind: D -/
def testStep (R : Runtime) (callback : Callback TestEvent)
    (s : Feed TestEvent × Dict HashKey Nat) (line : PyStr) :
    Outcome (Feed TestEvent × Dict HashKey Nat) PyExc :=
  let (feed, index) := s
  match parseReportLogLine R line with
  | .error e => (s, some e)
  | .ok none => (s, none)
  | .ok (some event) =>
      match event.key with
      | none => (s, some .typeError)
      | some k =>
          match Dict.get index k with
          | none =>
              let index := Dict.set index k feed.events.length
              let r := announce callback { feed with events := feed.events ++ [event] } event
              ((r.1, index), r.2)
          | some i =>
              match feed.events[i]? with
              | none => (s, none) -- not reached: the index points into the list
              | some existing =>
                  if existing.outcome.severity < event.outcome.severity then
                    let (existing, raised) := mergeEvent existing event
                    let feed := { feed with events := feed.events.set i existing }
                    match raised with
                    | some e => ((feed, index), some e)
                    | none =>
                        let r := announce callback feed existing
                        ((r.1, index), r.2)
                  else (s, none)

/-- Parse appended report-log lines into the result; the new offset, or the exception.
Source: `src/runner.py` `drain_test_events`
Kind: D -/
def drainTestEvents (R : Runtime) (callback : Callback TestEvent) (file : Option Bytes)
    (offset : Nat) (feed : Feed TestEvent) : Feed TestEvent × Except PyExc Nat :=
  let (lines, newOffset) := readNewLines file offset
  if lines = [] then (feed, .ok newOffset)
  else
    match buildIndex feed.events 0 [] with
    | .error e => (feed, .error e)
    | .ok index =>
        match run (testStep R callback) lines (feed, index) with
        | ((feed, _), none) => (feed, .ok newOffset)
        | ((feed, _), some e) => (feed, .error e)

/-! ## `drain_packet_events` -/

/-- One line of the loop.
Source: `src/runner.py` `drain_packet_events`
Kind: D -/
def packetStep (R : Runtime) (callback : Callback PacketEvent) (feed : Feed PacketEvent)
    (line : PyStr) : Outcome (Feed PacketEvent) PyExc :=
  match parsePacketEventLine R line with
  | .error e => (feed, some e)
  | .ok none => (feed, none)
  | .ok (some event) => announce callback { feed with events := feed.events ++ [event] } event

/-- Parse appended packet-event lines into the result; the new offset, or the exception.
Source: `src/runner.py` `drain_packet_events`
Kind: D -/
def drainPacketEvents (R : Runtime) (callback : Callback PacketEvent) (file : Option Bytes)
    (offset : Nat) (feed : Feed PacketEvent) : Feed PacketEvent × Except PyExc Nat :=
  let (lines, newOffset) := readNewLines file offset
  match run (packetStep R callback) lines feed with
  | (feed, none) => (feed, .ok newOffset)
  | (feed, some e) => (feed, .error e)

/-! ## The worst-wins merge behind `drain_test_events` -/

/-- Test events, identified by their nodeid and ranked by their outcome.
Source: `src/runner.py` `_SEVERITY`, `drain_test_events`
Kind: D -/
def worstWins : Ranked TestEvent (Option HashKey) TestOutcome PyExc where
  key := TestEvent.key
  rank := TestEvent.outcome
  merge := mergeEvent
  key_merge x a := by
    simp only [mergeEvent]
    split <;> rfl
  rank_merge x a := by
    simp only [mergeEvent]
    split <;> rfl

/-- Put one event into the collection and announce what changed.
Source: `src/runner.py` `drain_test_events`
Kind: D -/
def mergeEventInto (callback : Callback TestEvent) (feed : Feed TestEvent) (event : TestEvent) :
    Outcome (Feed TestEvent) PyExc :=
  match worstWins.upsert feed.events event with
  | ((events, _), some e) => ({ feed with events }, some e)
  | ((events, none), none) => ({ feed with events }, none)
  | ((events, some changed), none) => announce callback { feed with events } changed

/-- One line of the loop, without the dictionary.
Source: `src/runner.py` `drain_test_events`
Kind: D -/
def mergeStep (R : Runtime) (callback : Callback TestEvent) (feed : Feed TestEvent) (line : PyStr) :
    Outcome (Feed TestEvent) PyExc :=
  match parseReportLogLine R line with
  | .error e => (feed, some e)
  | .ok none => (feed, none)
  | .ok (some event) =>
      if event.key = none then (feed, some .typeError) else mergeEventInto callback feed event

@[simp] lemma worstWins_key (t : TestEvent) : worstWins.key t = t.key := rfl

@[simp] lemma worstWins_rank (t : TestEvent) : worstWins.rank t = t.outcome := rfl

/-- The events a merge leaves are those of the upsert, whatever the callback does.
Source: `src/runner.py` `drain_test_events`
Kind: L -/
lemma mergeEventInto_events (callback : Callback TestEvent) (feed : Feed TestEvent)
    (event : TestEvent) :
    (mergeEventInto callback feed event).1.events = (worstWins.upsert feed.events event).1.1 := by
  simp only [mergeEventInto]
  rcases worstWins.upsert feed.events event with ⟨⟨events, _ | changed⟩, _ | e⟩ <;> simp

/-- The lists of events drains build: every nodeid is hashable, and no two are equal.
Source: `src/runner.py` `drain_test_events`
Kind: D -/
structure WellKeyed (tests : List TestEvent) : Prop where
  hashable : ∀ t ∈ tests, t.key ≠ none
  nodup : (tests.map TestEvent.key).Nodup

lemma WellKeyed.nil : WellKeyed [] := ⟨by simp, by simp⟩

/-- A list is determined by its keys to be well keyed.
Source: none: infrastructure
Kind: L -/
lemma WellKeyed.iff_keys {tests : List TestEvent} :
    WellKeyed tests ↔ none ∉ tests.map TestEvent.key ∧ (tests.map TestEvent.key).Nodup := by
  constructor
  · rintro ⟨h₁, h₂⟩
    refine ⟨?_, h₂⟩
    intro h
    obtain ⟨t, ht, hk⟩ := List.mem_map.mp h
    exact h₁ t ht hk
  · rintro ⟨h₁, h₂⟩
    exact ⟨fun t ht hk => h₁ (List.mem_map.mpr ⟨t, ht, hk⟩), h₂⟩

/-- Merging an event with a hashable nodeid keeps the list well keyed.
Source: `src/runner.py` `drain_test_events`
Kind: L -/
lemma WellKeyed.upsert {tests : List TestEvent} (h : WellKeyed tests) {event : TestEvent}
    (hevent : event.key ≠ none) : WellKeyed (worstWins.upsert tests event).1.1 := by
  rw [WellKeyed.iff_keys] at h ⊢
  have hkeys := worstWins.keys_upsert tests event
  have hnodup := worstWins.nodup_keys_upsert h.2 event
  refine ⟨?_, hnodup⟩
  intro hmem
  change none ∈ List.map worstWins.key _ at hmem
  rw [hkeys] at hmem
  split at hmem
  · exact h.1 hmem
  · rcases List.mem_append.mp hmem with hmem | hmem
    · exact h.1 hmem
    · exact hevent (List.mem_singleton.mp hmem).symm

/-- Every step of a drain keeps the list well keyed.
Source: `src/runner.py` `drain_test_events`
Kind: L -/
lemma WellKeyed.mergeStep {feed : Feed TestEvent} (h : WellKeyed feed.events) (R : Runtime)
    (callback : Callback TestEvent) (line : PyStr) :
    WellKeyed (mergeStep R callback feed line).1.events := by
  simp only [Runner.mergeStep]
  split
  · exact h
  · exact h
  · split
    · exact h
    · next event _ hevent =>
      rw [mergeEventInto_events]
      exact h.upsert hevent

/-! ## The dictionary is not observable -/

/-- The dictionary says where each nodeid stands.
Source: `src/runner.py` `drain_test_events`
Kind: D -/
def Indexes (index : Dict HashKey Nat) (tests : List TestEvent) : Prop :=
  ∀ k, Dict.get index k = worstWins.place tests (some k)

/-- Registering an appended event, if its nodeid was unknown.
Source: `src/runner.py` `drain_test_events`
Kind: L -/
lemma Indexes.append {index : Dict HashKey Nat} {tests : List TestEvent} (h : Indexes index tests)
    {event : TestEvent} {k : HashKey} (hk : event.key = some k)
    (hnew : worstWins.place tests (some k) = none) :
    Indexes (Dict.set index k tests.length) (tests ++ [event]) := by
  intro k₀
  have hplace : worstWins.place (tests ++ [event]) (some k₀) =
      (worstWins.place tests (some k₀)).or (if k₀ = k then some tests.length else none) := by
    simp only [Ranked.place, List.map_append, List.findIdx?_append, List.map_singleton,
      List.findIdx?_singleton, worstWins_key, hk, List.length_map]
    by_cases hkk : k₀ = k
    · simp [hkk]
    · simp [hkk, Ne.symm hkk]
  rw [Dict.get_set, hplace, h k₀]
  split
  · next hkk => rw [hkk, hnew, Option.none_or]
  · rw [Option.or_none]

/-- The dictionary is about the nodeids only.
Source: `src/runner.py` `drain_test_events`
Kind: L -/
lemma Indexes.of_keys_eq {index : Dict HashKey Nat} {tests tests' : List TestEvent}
    (h : Indexes index tests) (hkeys : tests'.map worstWins.key = tests.map worstWins.key) :
    Indexes index tests' := by
  intro k
  rw [h k, Ranked.place, Ranked.place, hkeys]

/-- A nodeid that no event has is unknown.
Source: `src/runner.py` `drain_test_events`
Kind: L -/
lemma place_eq_none {tests : List TestEvent} {k : Option HashKey}
    (h : k ∉ tests.map TestEvent.key) : worstWins.place tests k = none := by
  rw [Ranked.place, List.findIdx?_eq_none_iff]
  intro k' hk'
  have hne : k' ≠ k := fun he => h (he ▸ hk')
  simpa using hne

/-- **The comprehension builds the dictionary of the list.**
Source: `src/runner.py` `drain_test_events`
Kind: P -/
lemma buildIndex_eq (seen tests : List TestEvent) {index : Dict HashKey Nat}
    (hindex : Indexes index seen) (hkeyed : WellKeyed (seen ++ tests)) :
    ∃ index', buildIndex tests seen.length index = .ok index' ∧ Indexes index' (seen ++ tests) := by
  induction tests generalizing seen index with
  | nil => exact ⟨index, rfl, by simpa using hindex⟩
  | cons t ts ih =>
      obtain ⟨k, hk⟩ := Option.ne_none_iff_exists'.mp (hkeyed.hashable t (by simp))
      have hnew : some k ∉ seen.map TestEvent.key := by
        have hnodup := hkeyed.nodup
        rw [List.map_append, List.map_cons, hk, List.nodup_append] at hnodup
        exact fun hmem => hnodup.2.2 _ hmem _ List.mem_cons_self rfl
      have hstep := hindex.append hk (place_eq_none hnew)
      rw [← List.singleton_append, ← List.append_assoc] at hkeyed ⊢
      have := ih (seen ++ [t]) hstep hkeyed
      simpa [buildIndex, hk] using this

/-- **One line with the dictionary is one line without it.**
Source: `src/runner.py` `drain_test_events`
Kind: P -/
lemma testStep_simulates (R : Runtime) (callback : Callback TestEvent) {feed : Feed TestEvent}
    {index : Dict HashKey Nat} (hindex : Indexes index feed.events) (line : PyStr) :
    (testStep R callback (feed, index) line).1.1 = (mergeStep R callback feed line).1 ∧
      (testStep R callback (feed, index) line).2 = (mergeStep R callback feed line).2 ∧
      Indexes (testStep R callback (feed, index) line).1.2
        (testStep R callback (feed, index) line).1.1.events := by
  simp only [testStep, mergeStep]
  rcases parseReportLogLine R line with e | _ | event
  · exact ⟨rfl, rfl, hindex⟩
  · exact ⟨rfl, rfl, hindex⟩
  · rcases hk : event.key with _ | k
    · simp [hk, hindex]
    · have hget := hindex k
      simp only [hk, reduceCtorEq, if_false, mergeEventInto]
      rcases hp : worstWins.place feed.events (some k) with _ | i
      · -- a new nodeid: both append
        rw [hp] at hget
        rw [worstWins.upsert_of_place_none (by rw [worstWins_key, hk, hp]), hget]
        refine ⟨rfl, rfl, ?_⟩
        simpa using hindex.append hk hp
      · -- a known one: both look at the event at its place
        rw [hp] at hget
        obtain ⟨existing, hi, hik, hup⟩ :=
          worstWins.upsert_of_place_some (a := event) (by rw [worstWins_key, hk, hp])
        have hkeys := worstWins.keys_upsert feed.events event
        have hmem : worstWins.key event ∈ feed.events.map worstWins.key :=
          List.mem_map.mpr ⟨existing, List.mem_of_getElem? hi, hik⟩
        rw [if_pos hmem] at hkeys
        simp only [hget, hi]
        by_cases hlt : existing.outcome.severity < event.outcome.severity
        · have hlt' : worstWins.rank existing < worstWins.rank event := hlt
          rw [if_pos hlt'] at hup
          change _ = ((feed.events.set i (mergeEvent existing event).1,
            if (mergeEvent existing event).2 = none then some (mergeEvent existing event).1
            else none), (mergeEvent existing event).2) at hup
          rw [hup] at hkeys ⊢
          have hindex' := hindex.of_keys_eq hkeys
          simp only [hlt, if_true]
          rcases hm : mergeEvent existing event with ⟨worse, _ | e⟩
          · rw [hm] at hindex'
            refine ⟨rfl, rfl, ?_⟩
            simpa using hindex'
          · rw [hm] at hindex'
            exact ⟨rfl, rfl, hindex'⟩
        · have hlt' : ¬ worstWins.rank existing < worstWins.rank event := hlt
          rw [if_neg hlt'] at hup
          rw [hup]
          simp only [hlt, if_false]
          exact ⟨trivial, trivial, hindex⟩

/-- What a drain returns: the new offset, unless the loop raised.
Source: `src/runner.py` `drain_test_events`, `drain_packet_events`
Kind: D -/
def returning {α : Type} (r : Outcome (Feed α) PyExc) (newOffset : Nat) :
    Feed α × Except PyExc Nat :=
  match r with
  | (feed, none) => (feed, .ok newOffset)
  | (feed, some e) => (feed, .error e)

/-- **A drain of test events is a loop of merges.**
Source: `src/runner.py` `drain_test_events`
Kind: P -/
theorem drainTestEvents_eq (R : Runtime) (callback : Callback TestEvent) (file : Option Bytes)
    (offset : Nat) {feed : Feed TestEvent} (hkeyed : WellKeyed feed.events) :
    drainTestEvents R callback file offset feed =
      returning (run (mergeStep R callback) (readNewLines file offset).1 feed)
        (readNewLines file offset).2 := by
  obtain ⟨index, hbuild, hindex⟩ := buildIndex_eq [] feed.events (fun _ => (rfl : Dict.get [] _ = _)) hkeyed
  simp only [drainTestEvents]
  split
  · next hlines => rw [hlines]; rfl
  · rw [List.length_nil] at hbuild
    rw [hbuild]
    have hsim := run_simulates
      (fun (s : Feed TestEvent × Dict HashKey Nat) (feed : Feed TestEvent) =>
        s.1 = feed ∧ WellKeyed feed.events ∧ Indexes s.2 feed.events)
      (testStep R callback) (mergeStep R callback) (readNewLines file offset).1
      (s := (feed, index)) (t := feed) ⟨rfl, hkeyed, hindex⟩ (by
        rintro ⟨_, index⟩ feed line - ⟨rfl, hkeyed, hindex⟩
        obtain ⟨h₁, h₂, h₃⟩ := testStep_simulates R callback hindex line
        exact ⟨⟨h₁, hkeyed.mergeStep R callback line, h₁ ▸ h₃⟩, h₂⟩)
    rcases hrun : run (testStep R callback) (readNewLines file offset).1 (feed, index) with
      ⟨⟨feed', index'⟩, r⟩
    rcases hrun' : run (mergeStep R callback) (readNewLines file offset).1 feed with ⟨feed'', r'⟩
    rw [hrun, hrun'] at hsim
    obtain ⟨⟨hfeed, -, -⟩, hr⟩ := hsim
    simp only at hfeed hr
    subst hfeed hr
    simp only [hrun]
    cases r <;> rfl

/-- A drain of packet events, in the same terms.
Source: `src/runner.py` `drain_packet_events`
Kind: L -/
lemma drainPacketEvents_eq (R : Runtime) (callback : Callback PacketEvent) (file : Option Bytes)
    (offset : Nat) (feed : Feed PacketEvent) :
    drainPacketEvents R callback file offset feed =
      returning (run (packetStep R callback) (readNewLines file offset).1 feed)
        (readNewLines file offset).2 := by
  simp only [drainPacketEvents, returning]
  rcases run (packetStep R callback) (readNewLines file offset).1 feed with ⟨feed', _ | e⟩ <;> rfl

end NetstackSuite.Runner
