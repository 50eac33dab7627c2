import NetstackSuite.Reporting.ReportData
import NetstackSuite.Runner.Tailing

/-!
# The verdict of each test

What a drained report log says about the tests: one event for each nodeid, in the order of first
appearance, with the worst outcome any of its reports carries. The argument is the one of
`NetstackSuite.Lib.Upsert`, at the type of test events; the counters and the findings of the report then
follow from the list.
-/

namespace NetstackSuite.Runner

open NetstackSuite.Python NetstackSuite.Reporting NetstackSuite.Lib

/-- The events the lines of a report log yield, in order.
Source: `src/runner.py` `drain_test_events`
Kind: D -/
def parsedEvents (R : Runtime) (lines : List PyStr) : List TestEvent :=
  lines.filterMap fun line =>
    match parseReportLogLine R line with
    | .ok event => event
    | .error _ => none

/-- The outcomes some events give to one nodeid.
Source: none: infrastructure
Kind: D -/
def outcomesOf (events : List TestEvent) (nodeid : Json) : Set TestOutcome :=
  {o | ∃ e ∈ events, e.nodeid = nodeid ∧ e.outcome = o}

lemma parsedEvents_cons (R : Runtime) (line : PyStr) (lines : List PyStr) :
    parsedEvents R (line :: lines) =
      (match parseReportLogLine R line with
        | .ok (some event) => [event]
        | _ => []) ++ parsedEvents R lines := by
  rw [parsedEvents, List.filterMap_cons]
  rcases parseReportLogLine R line with e | _ | event <;> rfl

lemma parsedEvents_append (R : Runtime) (lines lines' : List PyStr) :
    parsedEvents R (lines ++ lines') = parsedEvents R lines ++ parsedEvents R lines' :=
  List.filterMap_append

/-! ## A drain that returns has collected every event -/

/-- A step that does not raise puts the event of its line into the collection.
Source: `src/runner.py` `drain_test_events`
Kind: L -/
lemma mergeStep_events {R : Runtime} {callback : Callback TestEvent} {feed feed' : Feed TestEvent}
    {line : PyStr} (h : mergeStep R callback feed line = (feed', none)) :
    feed'.events = worstWins.collect feed.events (parsedEvents R [line]) := by
  rw [mergeStep] at h
  rw [parsedEvents_cons]
  rcases hp : parseReportLogLine R line with e | _ | event <;> rw [hp] at h
  · cases h
  · cases h
    rfl
  · simp only at h
    split at h
    · cases h
    · have := mergeEventInto_events callback feed event
      rw [h] at this
      exact this

/-- **A loop that does not raise collects the events of its lines.**
Source: `src/runner.py` `drain_test_events`
Kind: P -/
lemma run_mergeStep_events {R : Runtime} {callback : Callback TestEvent} {lines : List PyStr}
    {feed feed' : Feed TestEvent} (h : run (mergeStep R callback) lines feed = (feed', none)) :
    feed'.events = worstWins.collect feed.events (parsedEvents R lines) := by
  induction lines generalizing feed with
  | nil =>
      cases h
      rfl
  | cons line lines ih =>
      rw [run_cons] at h
      rcases hs : mergeStep R callback feed line with ⟨feed₁, _ | e⟩ <;> rw [hs] at h
      · have hsplit := parsedEvents_append R [line] lines
        rw [List.singleton_append] at hsplit
        rw [hsplit, worstWins.collect_append, ← mergeStep_events hs]
        exact ih h
      · cases h

/-! ## When a drain returns -/

/-- A callback that never raises.
Source: none: infrastructure
Kind: D -/
def Quiet {α : Type} (callback : Callback α) : Prop :=
  ∀ call, callback = some call → ∀ calls a, call calls a = none

lemma quiet_none {α : Type} : Quiet (none : Callback α) := nofun

/-- Is the value a float?
Source: none: infrastructure
Kind: D -/
def isFloat : Json → Bool
  | .float _ => true
  | _ => false

lemma Quiet.announce {α : Type} {callback : Callback α} (h : Quiet callback) (feed : Feed α)
    (event : α) : (announce callback feed event).2 = none := by
  cases callback with
  | none => rfl
  | some call => exact h call rfl _ _

/-- Merging durations that are floats does not raise, and leaves a float.
Source: `src/runner.py` `drain_test_events`
Kind: L -/
lemma mergeEvent_of_isFloat {existing event : TestEvent} (h₁ : isFloat existing.durationS = true)
    (h₂ : isFloat event.durationS = true) :
    (mergeEvent existing event).2 = none ∧
      isFloat (mergeEvent existing event).1.durationS = true := by
  obtain ⟨nodeid, outcome, d, markers, message⟩ := existing
  obtain ⟨nodeid', outcome', d', markers', message'⟩ := event
  cases d <;> cases h₁
  cases d' <;> cases h₂
  exact ⟨rfl, rfl⟩

/-- Merging an event whose duration is a float into such events raises only if the callback does.
Source: `src/runner.py` `drain_test_events`
Kind: L -/
lemma mergeEventInto_of_isFloat {callback : Callback TestEvent} (hquiet : Quiet callback)
    {feed : Feed TestEvent} {event : TestEvent} (h : ∀ t ∈ feed.events, isFloat t.durationS = true)
    (hevent : isFloat event.durationS = true) :
    (mergeEventInto callback feed event).2 = none ∧
      ∀ t ∈ (mergeEventInto callback feed event).1.events, isFloat t.durationS = true := by
  obtain ⟨hraised, hevents⟩ := worstWins.upsert_preserves (fun t => isFloat t.durationS = true) h
    (fun _ => hevent) fun t ht _ _ => mergeEvent_of_isFloat (h t ht) hevent
  rw [mergeEventInto_events]
  refine ⟨?_, hevents⟩
  rw [mergeEventInto]
  rcases hup : worstWins.upsert feed.events event with ⟨⟨tests, changed⟩, raised⟩
  rw [hup] at hraised
  obtain rfl : raised = none := hraised
  cases changed with
  | none => rfl
  | some changed => exact hquiet.announce _ _

/-- **A drain returns** if the parser accepts every line, the nodeids are strings, the durations are
floats and the callback does not raise.
Source: `src/runner.py` `drain_test_events`
Kind: P -/
lemma run_mergeStep_returns {R : Runtime} {callback : Callback TestEvent} (hquiet : Quiet callback)
    {lines : List PyStr} (hparse : ∀ line ∈ lines, ∃ r, parseReportLogLine R line = .ok r)
    (hevents : ∀ e ∈ parsedEvents R lines, e.nodeid.isStr = true ∧ isFloat e.durationS = true)
    {feed : Feed TestEvent} (hfeed : ∀ t ∈ feed.events, isFloat t.durationS = true) :
    (run (mergeStep R callback) lines feed).2 = none := by
  induction lines generalizing feed with
  | nil => rfl
  | cons line lines ih =>
      obtain ⟨r, hr⟩ := hparse line List.mem_cons_self
      have ih' := fun {feed} => @ih (fun l hl => hparse l (List.mem_cons_of_mem _ hl))
        (fun e he => hevents e (by rw [parsedEvents_cons]; exact List.mem_append_right _ he)) feed
      rw [run_cons, mergeStep, hr]
      cases r with
      | none => exact ih' hfeed
      | some event =>
          obtain ⟨hstr, hfloat⟩ := hevents event (by simp [parsedEvents_cons, hr])
          have hkey := TestEvent.key_ne_none hstr
          obtain ⟨hraised, hkept⟩ := mergeEventInto_of_isFloat hquiet hfeed hfloat
          simp only [hkey, if_false]
          rcases hm : mergeEventInto callback feed event with ⟨feed', _ | e⟩ <;> rw [hm] at hraised hkept
          · exact ih' hkept
          · cases hraised

/-! ## Nodeids and keys -/

/-- The nodeid a key belongs to, if it is a string.
Source: none: infrastructure
Kind: D -/
def nodeidOfKey : Option HashKey → Json
  | some (.str s) => .str s
  | _ => .null

lemma nodeidOfKey_key {t : TestEvent} (h : t.nodeid.isStr = true) : nodeidOfKey t.key = t.nodeid := by
  obtain ⟨s, hs⟩ := Json.isStr_iff.mp h
  rw [TestEvent.key, hs]
  rfl

/-- Distinct string nodeids have distinct keys.
Source: none: infrastructure
Kind: L -/
lemma key_eq_iff {t u : TestEvent} (ht : t.nodeid.isStr = true) (hu : u.nodeid.isStr = true) :
    t.key = u.key ↔ t.nodeid = u.nodeid := by
  constructor
  · intro h
    rw [← nodeidOfKey_key ht, ← nodeidOfKey_key hu, h]
  · intro h
    rw [TestEvent.key, TestEvent.key, h]

/-- Dropping repetitions commutes with a map that keeps the elements apart.
Source: none: infrastructure
Kind: L -/
lemma eraseDups_map {α β : Type} [DecidableEq α] [DecidableEq β] (f : α → β) (as : List α)
    (h : ∀ a ∈ as, ∀ b ∈ as, f a = f b → a = b) :
    (as.map f).eraseDups = as.eraseDups.map f := by
  induction as using List.reverseRecOn with
  | nil => rfl
  | append_singleton as a ih =>
      have ih' := ih fun x hx y hy => h x (by simp [hx]) y (by simp [hy])
      have hmem : f a ∈ as.map f ↔ a ∈ as := by
        constructor
        · intro hfa
          obtain ⟨b, hb, hfb⟩ := List.mem_map.mp hfa
          rwa [← h b (by simp [hb]) a (by simp) hfb]
        · exact List.mem_map_of_mem
      rw [List.map_append, List.eraseDups_append, List.eraseDups_append, List.map_append, ih',
        List.map_singleton]
      congr 1
      by_cases ha : a ∈ as
      · have h₁ : [f a].removeAll (as.map f) = [] := by simpa [List.removeAll] using hmem.mpr ha
        have h₂ : [a].removeAll as = [] := by simpa [List.removeAll] using ha
        rw [h₁, h₂]
        rfl
      · have h₁ : [f a].removeAll (as.map f) = [f a] := by
          have hfa : f a ∉ as.map f := mt hmem.mp ha
          simpa [List.removeAll] using hfa
        have h₂ : [a].removeAll as = [a] := by simpa [List.removeAll] using ha
        rw [h₁, h₂]
        rfl

/-- An event of a collection has the nodeid of one of the events collected.
Source: `src/runner.py` `drain_test_events`
Kind: L -/
lemma exists_key_of_mem_collect {events : List TestEvent} {t : TestEvent}
    (ht : t ∈ worstWins.collect [] events) : ∃ e ∈ events, e.key = t.key := by
  obtain ⟨⟨e, he, hk, -⟩, -⟩ := worstWins.isGreatest_rank ht
  exact ⟨e, he, hk⟩

/-! ## The collection of events with string nodeids -/

section

variable {events : List TestEvent} (hstr : ∀ e ∈ events, e.nodeid.isStr = true)

include hstr

/-- Collected nodeids are strings.
Source: `src/runner.py` `drain_test_events`
Kind: L -/
lemma isStr_of_mem_collect {t : TestEvent} (ht : t ∈ worstWins.collect [] events) :
    t.nodeid.isStr = true := by
  obtain ⟨e, he, hk⟩ := exists_key_of_mem_collect ht
  cases hn : e.nodeid with
  | str s =>
      have hkey : t.nodeid.hashKey = some (.str s) := by
        rw [← TestEvent.key, ← hk, TestEvent.key, hn, Json.hashKey_str]
      rw [Json.hashKey_eq_str_iff.mp hkey]
      rfl
  | _ =>
      have := hstr e he
      simp [hn, Json.isStr] at this

/-- **One event for each nodeid, in the order of first appearance.**
Source: `src/runner.py` `drain_test_events`
Kind: P -/
lemma nodeids_collect :
    (worstWins.collect [] events).map TestEvent.nodeid =
      (events.map TestEvent.nodeid).eraseDups := by
  have hcollect : (worstWins.collect [] events).map TestEvent.nodeid =
      ((worstWins.collect [] events).map worstWins.key).map nodeidOfKey := by
    rw [List.map_map]
    exact List.map_congr_left fun t ht => (nodeidOfKey_key (isStr_of_mem_collect hstr ht)).symm
  have hevents : events.map TestEvent.nodeid = (events.map worstWins.key).map nodeidOfKey := by
    rw [List.map_map]
    exact List.map_congr_left fun e he => (nodeidOfKey_key (hstr e he)).symm
  rw [hcollect, hevents, worstWins.keys_collect]
  refine (eraseDups_map _ _ fun k hk l hl hkl => ?_).symm
  obtain ⟨e, he, rfl⟩ := List.mem_map.mp hk
  obtain ⟨f, hf, rfl⟩ := List.mem_map.mp hl
  rw [worstWins_key, worstWins_key, nodeidOfKey_key (hstr e he), nodeidOfKey_key (hstr f hf)] at hkl
  exact (key_eq_iff (hstr e he) (hstr f hf)).mpr hkl

/-- The nodeids are distinct.
Source: `src/runner.py` `drain_test_events`
Kind: L -/
lemma nodup_nodeids_collect : ((worstWins.collect [] events).map TestEvent.nodeid).Nodup := by
  have hkeys := worstWins.nodup_keys_collect [] (by simp) events
  rw [List.Nodup, List.pairwise_map] at hkeys ⊢
  refine hkeys.imp_of_mem fun {t u} ht hu hne he => hne ?_
  exact (key_eq_iff (isStr_of_mem_collect hstr ht) (isStr_of_mem_collect hstr hu)).mpr he

/-- **The outcome of a test is the worst its reports carry.**
Source: `src/runner.py` `drain_test_events`
Kind: P -/
lemma isGreatest_outcome {t : TestEvent} (ht : t ∈ worstWins.collect [] events) :
    IsGreatest (outcomesOf events t.nodeid) t.outcome := by
  have hgreatest := worstWins.isGreatest_rank ht
  have hset : outcomesOf events t.nodeid =
      {r | ∃ e ∈ events, worstWins.key e = worstWins.key t ∧ worstWins.rank e = r} := by
    ext o
    constructor
    · rintro ⟨e, he, hn, ho⟩
      exact ⟨e, he, (key_eq_iff (hstr e he) (isStr_of_mem_collect hstr ht)).mpr hn, ho⟩
    · rintro ⟨e, he, hk, ho⟩
      exact ⟨e, he, (key_eq_iff (hstr e he) (isStr_of_mem_collect hstr ht)).mp hk, ho⟩
  rw [hset]
  exact hgreatest

/-- A nodeid has a worst outcome exactly if it was collected with that outcome.
Source: `src/runner.py` `drain_test_events`
Kind: L -/
lemma isGreatest_iff_mem {nodeid : Json} {o : TestOutcome} :
    IsGreatest (outcomesOf events nodeid) o ↔
      ∃ t ∈ worstWins.collect [] events, t.nodeid = nodeid ∧ t.outcome = o := by
  constructor
  · intro h
    obtain ⟨e, he, hn, -⟩ := h.1
    have hmem : nodeid ∈ (worstWins.collect [] events).map TestEvent.nodeid := by
      rw [nodeids_collect hstr, List.mem_eraseDups]
      exact List.mem_map.mpr ⟨e, he, hn⟩
    obtain ⟨t, ht, rfl⟩ := List.mem_map.mp hmem
    exact ⟨t, ht, rfl, (isGreatest_outcome hstr ht).unique h⟩
  · rintro ⟨t, ht, rfl, rfl⟩
    exact isGreatest_outcome hstr ht

/-- The order of the reports does not matter to the worst outcomes.
Source: `src/runner.py` `drain_test_events`
Kind: L -/
lemma outcomes_of_perm {events' : List TestEvent} (hperm : events'.Perm events) (nodeid : Json)
    (o : TestOutcome) :
    (∃ t ∈ worstWins.collect [] events', t.nodeid = nodeid ∧ t.outcome = o) ↔
      ∃ t ∈ worstWins.collect [] events, t.nodeid = nodeid ∧ t.outcome = o := by
  have hstr' : ∀ e ∈ events', e.nodeid.isStr = true := fun e he => hstr e (hperm.mem_iff.mp he)
  have hset : outcomesOf events' nodeid = outcomesOf events nodeid := by
    ext o
    simp only [outcomesOf, Set.mem_ofPred_eq, hperm.mem_iff]
  rw [← isGreatest_iff_mem hstr', ← isGreatest_iff_mem hstr, hset]

end

/-! ## Verdict merge -/

/-- A run of polls that raises nothing collects the events of the complete lines.
Source: `src/runner.py` `stream_run`
Kind: L -/
lemma events_of_polls {R : Runtime} {callback : Callback TestEvent} {content : Bytes}
    (polls : Schedule content) {offset : Nat} {feed : Feed TestEvent}
    (h : run (pollReportLog R callback) polls.all (0, Feed.empty) = ((offset, feed), none)) :
    feed.events =
      worstWins.collect [] (parsedEvents R (logLines (completePart NEWLINE content))) := by
  obtain ⟨hfeed, hraised⟩ := run_pollReportLog_eq R callback polls
  rw [h] at hfeed hraised
  exact run_mergeStep_events (Prod.ext hfeed.symm hraised.symm)

/-- **Verdict merge.** However the report log is polled, if the nodeids of its events are strings: the
drains return when nothing raises on the way, and when they have returned there is one test for
each nodeid, in the order of first appearance, with the worst outcome of its reports, hence the
same for every order of the lines; the four counters add up; and the findings are the tests whose
worst outcome is a failure or an error, each once, errors first, each group ordered by nodeid.
Source: `src/runner.py` `drain_test_events`, `src/reporting/report_data.py` `build_findings`
Kind: P -/
theorem verdict_merge (R : Runtime) (callback : Callback TestEvent) (catalog : Catalog)
    (header : TestRunResult) {content : Bytes} (polls : Schedule content)
    (hstr : ∀ e ∈ parsedEvents R (logLines (completePart NEWLINE content)), e.nodeid.isStr = true) :
    let lines := logLines (completePart NEWLINE content)
    let events := parsedEvents R lines
    (Quiet callback → (∀ line ∈ lines, ∃ r, parseReportLogLine R line = .ok r) →
      (∀ e ∈ events, isFloat e.durationS = true) →
      (run (pollReportLog R callback) polls.all (0, Feed.empty)).2 = none) ∧
    ∀ offset feed,
      run (pollReportLog R callback) polls.all (0, Feed.empty) = ((offset, feed), none) →
      let result := { header with tests := feed.events }
      result.tests.map TestEvent.nodeid = (events.map TestEvent.nodeid).eraseDups ∧
      (∀ t ∈ result.tests, IsGreatest (outcomesOf events t.nodeid) t.outcome) ∧
      (∀ (content' : Bytes) (polls' : Schedule content') (offset' : Nat) (feed' : Feed TestEvent),
        (logLines (completePart NEWLINE content')).Perm lines →
        run (pollReportLog R callback) polls'.all (0, Feed.empty) = ((offset', feed'), none) →
        ∀ nodeid o, (∃ t ∈ feed'.events, t.nodeid = nodeid ∧ t.outcome = o) ↔
          ∃ t ∈ result.tests, t.nodeid = nodeid ∧ t.outcome = o) ∧
      result.passed + result.failed + result.errors + result.skipped = result.total ∧
      ∃ findings, buildFindings catalog result = .ok findings ∧
        (findings.map fun f => f.event.nodeid).Nodup ∧
        (∀ nodeid, nodeid ∈ findings.map (fun f => f.event.nodeid) ↔
          IsGreatest (outcomesOf events nodeid) .failed ∨
            IsGreatest (outcomesOf events nodeid) .error) ∧
        findings.Pairwise fun f g =>
          f.event.outcome = .error ∧ g.event.outcome = .failed ∨
            f.event.outcome = g.event.outcome ∧
              nodeidText f.event.nodeid < nodeidText g.event.nodeid := by
  intro lines events
  constructor
  · intro hquiet hparse hfloat
    rw [(run_pollReportLog_eq R callback polls).2]
    exact run_mergeStep_returns hquiet hparse (fun e he => ⟨hstr e he, hfloat e he⟩)
      (by simp [Feed.empty])
  · intro offset feed hrun
    have hevents := events_of_polls polls hrun
    intro result
    have htests : result.tests = worstWins.collect [] events := hevents
    have hproblems : ∀ t ∈ result.tests, isProblem t = true → t.nodeid.isStr = true :=
      fun t ht _ => isStr_of_mem_collect hstr (htests ▸ ht)
    refine ⟨?_, ?_, ?_, result.tally_add, _, buildFindings_eq_ok hproblems, ?_, ?_, ?_⟩
    · rw [htests]
      exact nodeids_collect hstr
    · intro t ht
      exact isGreatest_outcome hstr (htests ▸ ht)
    · intro content' polls' offset' feed' hperm hrun' nodeid o
      rw [events_of_polls polls' hrun', htests]
      exact outcomes_of_perm hstr (hperm.filterMap _) nodeid o
    · rw [List.map_map]
      exact nodup_sortedProblems (htests ▸ nodup_nodeids_collect hstr)
    · intro nodeid
      rw [isGreatest_iff_mem hstr, isGreatest_iff_mem hstr, ← htests, List.map_map]
      exact mem_nodeids_sortedProblems
    · rw [List.pairwise_map]
      exact sortedProblems_pairwise hproblems (htests ▸ nodup_nodeids_collect hstr)

/-- A report log in which a test passes and then errors in its teardown, while another test passes.
Source: `tests_internal/test_runner_args.py` `test_drain_upserts_worst_outcome_per_nodeid`
Kind: D -/
def teardownErrorLog : Bytes :=
  bytes "\x7b\"$report_type\": \"TestReport\", \"when\": \"call\", \"outcome\": \"passed\", \"nodeid\": \"t\"\x7d\n" ++
  bytes "\x7b\"$report_type\": \"TestReport\", \"when\": \"call\", \"outcome\": \"passed\", \"nodeid\": \"u\"\x7d\n" ++
  bytes "\x7b\"$report_type\": \"TestReport\", \"when\": \"teardown\", \"outcome\": \"failed\", \"nodeid\": \"t\"\x7d\n"

/-- The theorem on that log: the drain returns, and each test has the worst of its outcomes.
Source: `src/runner.py` `drain_test_events`
Kind: P -/
theorem verdict_merge_teardown :
    let polls : Schedule teardownErrorLog := ⟨[], .singleton _⟩
    let events := parsedEvents plainRuntime (logLines (completePart NEWLINE teardownErrorLog))
    (run (pollReportLog plainRuntime none) polls.all (0, Feed.empty)).2 = none ∧
      ∀ t ∈ (run (pollReportLog plainRuntime none) polls.all (0, Feed.empty)).1.2.events,
        IsGreatest (outcomesOf events t.nodeid) t.outcome := by
  intro polls events
  have hstr : ∀ e ∈ events, e.nodeid.isStr = true ∧ isFloat e.durationS = true := by
    unfold events
    rw [teardownErrorLog, bytes_spelled rfl, bytes_spelled rfl, bytes_spelled rfl]
    decide +kernel
  have hparse : ∀ line ∈ logLines (completePart NEWLINE teardownErrorLog),
      (parseReportLogLine plainRuntime line).isOk = true := by
    rw [teardownErrorLog, bytes_spelled rfl, bytes_spelled rfl, bytes_spelled rfl]
    decide +kernel
  obtain ⟨hreturns, hverdict⟩ := verdict_merge plainRuntime none [] plainHeader polls
    fun e he => (hstr e he).1
  have hparse' : ∀ line ∈ logLines (completePart NEWLINE teardownErrorLog),
      ∃ r, parseReportLogLine plainRuntime line = .ok r := by
    intro line hline
    have hok := hparse line hline
    rcases hp : parseReportLogLine plainRuntime line with e | r
    · rw [hp] at hok
      cases hok
    · exact ⟨r, rfl⟩
  have hnone := hreturns nofun hparse' fun e he => (hstr e he).2
  rcases hrun : run (pollReportLog plainRuntime none) polls.all (0, Feed.empty) with
    ⟨⟨offset, feed⟩, raised⟩
  rw [hrun] at hnone
  obtain rfl : raised = none := hnone
  exact ⟨rfl, (hverdict offset feed hrun).2.1⟩

end NetstackSuite.Runner
