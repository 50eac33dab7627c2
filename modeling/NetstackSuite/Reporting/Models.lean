import Mathlib.Order.Lattice
import Mathlib.Order.Basic
import NetstackSuite.Python.Json

/-!
# The result models of `src/reporting/models.py`

`PacketEvent`, `TestEvent` and `TestRunResult`, with the counters every front end reads.

A field that the readers of `src/runner.py` copy out of a JSON record without checking it
(`nodeid`, `duration_s`, `message`, `timestamp`, `summary`, `size_bytes`, `test_nodeid`) has the
type the code gives it in fact: any JSON value. The fields a reader does decide (`direction`,
`outcome`, `markers`) have their declared types.
-/

namespace NetstackSuite.Reporting

open NetstackSuite.Python

/-! ## Packet events -/

/-- Which way a frame went.
Source: `src/reporting/models.py` `PacketDirection`
Kind: D -/
inductive PacketDirection where
  | sent
  | received
  deriving DecidableEq, Repr

/-- The spelling of a direction in a record.
Source: `src/reporting/models.py` `PacketDirection`
Kind: D -/
def PacketDirection.value : PacketDirection → PyStr
  | .sent => text "sent"
  | .received => text "received"

/-- `PacketDirection(v)`: a lookup by value, `ValueError` for anything else.
Source: `src/reporting/models.py` `PacketDirection`
Kind: D -/
def PacketDirection.ofValue (v : Json) : Except PyExc PacketDirection :=
  if v.eqStr PacketDirection.sent.value then .ok .sent
  else if v.eqStr PacketDirection.received.value then .ok .received
  else .error .valueError

@[simp] lemma PacketDirection.ofValue_value (d : PacketDirection) :
    PacketDirection.ofValue (.str d.value) = .ok d := by
  cases d <;> decide +kernel

/-- One frame sent or received.
Source: `src/reporting/models.py` `PacketEvent`
Kind: D -/
structure PacketEvent where
  timestamp : Json
  direction : PacketDirection
  summary : Json
  sizeBytes : Json
  testNodeid : Json
  deriving DecidableEq

/-- The record a packet event is written as.
Source: `src/reporting/models.py` `PacketEvent.to_dict`
Kind: D -/
def PacketEvent.toDict (e : PacketEvent) : Json :=
  .dict [(text "timestamp", e.timestamp), (text "direction", .str e.direction.value),
    (text "summary", e.summary), (text "size_bytes", e.sizeBytes),
    (text "test_nodeid", e.testNodeid)]

/-! ## Test events -/

/-- The verdict of a test.
Source: `src/reporting/models.py` `TestOutcome`
Kind: D -/
inductive TestOutcome where
  | passed
  | failed
  | skipped
  | error
  deriving DecidableEq, Repr

namespace TestOutcome

/-- The spelling of an outcome.
Source: `src/reporting/models.py` `TestOutcome`
Kind: D -/
def value : TestOutcome → PyStr
  | .passed => text "passed"
  | .failed => text "failed"
  | .skipped => text "skipped"
  | .error => text "error"

/-- Worst-wins ordering when a test produces reports in several phases.
Source: `src/runner.py` `_SEVERITY`
Kind: D -/
def severity : TestOutcome → Nat
  | .passed => 0
  | .skipped => 1
  | .failed => 2
  | .error => 3

lemma severity_injective : Function.Injective severity := by
  intro a b h
  cases a <;> cases b <;> first | rfl | cases h

/-- Outcomes are ordered by severity: `PASSED < SKIPPED < FAILED < ERROR`.
Source: `src/runner.py` `_SEVERITY`
Kind: D -/
instance : LinearOrder TestOutcome := LinearOrder.lift' severity severity_injective

end TestOutcome

/-- One test of the run.
Source: `src/reporting/models.py` `TestEvent`
Kind: D -/
structure TestEvent where
  nodeid : Json
  outcome : TestOutcome
  durationS : Json
  markers : List PyStr := []
  message : Json := .null
  deriving DecidableEq

/-- The key a test event has in a dictionary indexed by nodeid.
Source: `src/runner.py` `drain_test_events`
Kind: D -/
def TestEvent.key (t : TestEvent) : Option HashKey := t.nodeid.hashKey

/-- A string nodeid can be looked up.
Source: `src/runner.py` `drain_test_events`
Kind: L -/
lemma TestEvent.key_ne_none {t : TestEvent} (h : t.nodeid.isStr = true) : t.key ≠ none := by
  obtain ⟨s, hs⟩ := Json.isStr_iff.mp h
  rw [key, hs, Json.hashKey_str]
  simp

/-- `str(v)` of a value, given the `str` of values that are no strings.
Source: Python `str`
Kind: D -/
def strOf (str : Json → PyStr) : Json → PyStr
  | .str s => s
  | v => str v

/-- `format(s.upper(), str(width))` of a lower-case ASCII word.
Source: `src/reporting/models.py` `TestEvent.summary_line`
Kind: D -/
def label (s : PyStr) (width : Nat) : PyStr :=
  let upper : PyStr := s.map fun c => if 0x61 ≤ c ∧ c ≤ 0x7A then chr (c.val - 0x20) else c
  upper ++ List.replicate (width - upper.length) 0x20

/-- One console line for a test. Formatting the duration may raise.
Source: `src/reporting/models.py` `TestEvent.summary_line`
Kind: D -/
def TestEvent.summaryLine (str : Json → PyStr) (t : TestEvent) (labelWidth : Nat := 7) :
    Except PyExc PyStr := do
  let duration ← t.durationS.formatFixed3
  let line := text "[" ++ label t.outcome.value labelWidth ++ text "] " ++ strOf str t.nodeid ++
    text " (" ++ duration ++ text "s)"
  return if t.message.truthy then line ++ text " — " ++ strOf str t.message else line

/-! ## Runs -/

/-- A point in time, in microseconds since the epoch.
Source: Python `datetime`
Kind: D -/
abbrev DateTime := Int

/-- A run: its header, its tests and packets, and pytest's exit code.
Source: `src/reporting/models.py` `TestRunResult`
Kind: D -/
structure TestRunResult where
  runId : PyStr
  startedAt : DateTime
  finishedAt : Option DateTime
  targetIp : PyStr
  targetStack : PyStr
  hostPlatform : PyStr
  payloadMode : PyStr := text "random"
  role : PyStr := text "client"
  proxyLeg : Option PyStr := none
  tests : List TestEvent := []
  packetEvents : List PacketEvent := []
  pytestReturncode : Option Int := none
  deriving DecidableEq

/-- The header of a run, for concrete runs.
Source: none: infrastructure
Kind: D -/
def plainHeader : TestRunResult where
  runId := text "20250101T000000-abc123"
  startedAt := 0
  finishedAt := none
  targetIp := text "192.0.2.1"
  targetStack := text "linux"
  hostPlatform := text "Linux"

namespace TestRunResult

variable (r : TestRunResult)

/-- How many tests ended with the given outcome.
Source: `src/reporting/models.py` `TestRunResult.passed` and its three siblings
Kind: D -/
def tally (o : TestOutcome) : Nat := r.tests.countP fun t => t.outcome = o

/-- Source: `src/reporting/models.py` `TestRunResult.passed`
Kind: D -/
def passed : Nat := r.tally .passed

/-- Source: `src/reporting/models.py` `TestRunResult.failed`
Kind: D -/
def failed : Nat := r.tally .failed

/-- Source: `src/reporting/models.py` `TestRunResult.errors`
Kind: D -/
def errors : Nat := r.tally .error

/-- Source: `src/reporting/models.py` `TestRunResult.skipped`
Kind: D -/
def skipped : Nat := r.tally .skipped

/-- Source: `src/reporting/models.py` `TestRunResult.total`
Kind: D -/
def total : Nat := r.tests.length

/-- Pytest itself failed to run the tests.
Source: `src/reporting/models.py` `TestRunResult.errored`
Kind: D -/
def errored : Bool :=
  match r.pytestReturncode with
  | some rc => 2 ≤ rc
  | none => false

/-- Every test is in exactly one tally.
Source: `src/reporting/models.py` `TestRunResult`
Kind: L -/
lemma tally_add : r.passed + r.failed + r.errors + r.skipped = r.total := by
  simp only [passed, failed, errors, skipped, total, tally]
  induction r.tests with
  | nil => rfl
  | cons t ts ih =>
      simp only [List.countP_cons, List.length_cons]
      cases t.outcome <;> simp <;> omega

/-- A tally is zero exactly when no test ended that way.
Source: `src/reporting/models.py` `TestRunResult`
Kind: L -/
lemma tally_eq_zero_iff (o : TestOutcome) : r.tally o = 0 ↔ ∀ t ∈ r.tests, t.outcome ≠ o := by
  simp [tally, List.countP_eq_zero]

end TestRunResult

end NetstackSuite.Reporting
