import Mathlib.Data.List.DropRight
import Mathlib.Data.List.Infix
import NetstackSuite.Plotting.Metrics

/-!
# The rolling window of the metrics is a recomputation

`MetricsBuffer` of `src/plotting/metrics.py` once more, over events of the declared types, for timestamps
of any type that can be subtracted. It keeps running totals and drops old points;
`snapshot_eq_recomputed` says that what it hands out is the end of the five series computed from scratch.
`toJson_add` connects it to the accumulator over what a record may hold.
-/

namespace NetstackSuite.Plotting.Timeline

open NetstackSuite.Python NetstackSuite.Reporting NetstackSuite.Lib

/-! ## The accumulator -/

/-- What the accumulator reads of an event.
Source: `src/reporting/models.py` `PacketEvent`
Kind: D -/
structure Event (τ : Type) where
  timestamp : τ
  direction : PacketDirection
  sizeBytes : Int
  deriving DecidableEq

/-- Source: `src/plotting/metrics.py` `MetricsSnapshot`. Kind: D -/
structure MetricsSnapshot (τ : Type) where
  elapsedS : List τ
  sentCumulative : List Nat
  receivedCumulative : List Nat
  bytesSentCumulative : List Int
  bytesReceivedCumulative : List Int
  deriving DecidableEq

/-- Source: `src/plotting/metrics.py` `MetricsBuffer`. Kind: D -/
structure MetricsBuffer (τ : Type) where
  maxPoints : Nat := 100000
  startTime : Option τ := none
  sent : Nat := 0
  received : Nat := 0
  bytesSent : Int := 0
  bytesReceived : Int := 0
  elapsed : List τ := []
  sentCum : List Nat := []
  recvCum : List Nat := []
  bytesSentCum : List Int := []
  bytesRecvCum : List Int := []

variable {τ : Type}

namespace MetricsBuffer

/-- The counters of the event's direction.
Source: `src/plotting/metrics.py` `MetricsBuffer.add`
Kind: D -/
def count (b : MetricsBuffer τ) (event : Event τ) : MetricsBuffer τ :=
  match event.direction with
  | .sent => { b with sent := b.sent + 1, bytesSent := b.bytesSent + event.sizeBytes }
  | .received =>
      { b with received := b.received + 1, bytesReceived := b.bytesReceived + event.sizeBytes }

/-- The point of the event, appended to the windows.
Source: `src/plotting/metrics.py` `MetricsBuffer.add`
Kind: D -/
def append (b : MetricsBuffer τ) (elapsed : τ) : MetricsBuffer τ :=
  { b with
    elapsed := push b.maxPoints b.elapsed elapsed
    sentCum := push b.maxPoints b.sentCum b.sent
    recvCum := push b.maxPoints b.recvCum b.received
    bytesSentCum := push b.maxPoints b.bytesSentCum b.bytesSent
    bytesRecvCum := push b.maxPoints b.bytesRecvCum b.bytesReceived }

/-- Add one event.
Source: `src/plotting/metrics.py` `MetricsBuffer.add`
Kind: D -/
def add [Sub τ] (b : MetricsBuffer τ) (event : Event τ) : MetricsBuffer τ :=
  let start := b.startTime.getD event.timestamp
  ({ b with startTime := some start }.count event).append (event.timestamp - start)

/-- Source: `src/plotting/metrics.py` `MetricsBuffer.snapshot`. Kind: D -/
def snapshot (b : MetricsBuffer τ) : MetricsSnapshot τ :=
  ⟨b.elapsed, b.sentCum, b.recvCum, b.bytesSentCum, b.bytesRecvCum⟩

/-- Source: `src/plotting/metrics.py` `MetricsBuffer.clear`. Kind: D -/
def clear (b : MetricsBuffer τ) : MetricsBuffer τ :=
  { b with
    startTime := none
    sent := 0
    received := 0
    bytesSent := 0
    bytesReceived := 0
    elapsed := []
    sentCum := []
    recvCum := []
    bytesSentCum := []
    bytesRecvCum := [] }

end MetricsBuffer

/-- A call on the accumulator.
Source: `src/plotting/metrics.py` `MetricsBuffer`
Kind: D -/
inductive Call (τ : Type) where
  | add (event : Event τ)
  | clear

/-- Source: `src/plotting/metrics.py` `MetricsBuffer`. Kind: D -/
def MetricsBuffer.call [Sub τ] (b : MetricsBuffer τ) : Call τ → MetricsBuffer τ
  | .add event => b.add event
  | .clear => b.clear

/-- The accumulator after some calls.
Source: `src/plotting/metrics.py` `MetricsBuffer`
Kind: D -/
def MetricsBuffer.after [Sub τ] (b : MetricsBuffer τ) (calls : List (Call τ)) : MetricsBuffer τ :=
  calls.foldl MetricsBuffer.call b

/-! ## The series from scratch -/

/-- The events added since the last call of `clear`.
Source: none: specification
Kind: D -/
def sinceClear (calls : List (Call τ)) : List (Event τ) :=
  calls.foldl (fun events call =>
    match call with
    | .add event => events ++ [event]
    | .clear => []) []

/-- A value for each event, computed from the events up to and including it.
Source: none: specification
Kind: D -/
def cumulative {α : Type} (f : List (Event τ) → α) (events : List (Event τ)) : List α :=
  events.inits.tail.map f

/-- The time of each event since the first.
Source: none: specification
Kind: D -/
def elapsedSeries [Sub τ] (events : List (Event τ)) : List τ :=
  match events with
  | [] => []
  | first :: _ => events.map fun e => e.timestamp - first.timestamp

/-- How many of the events went one way.
Source: none: specification
Kind: D -/
def packets (d : PacketDirection) (events : List (Event τ)) : Nat :=
  events.countP fun e => e.direction = d

/-- The bytes of the events that went one way.
Source: none: specification
Kind: D -/
def byteSum (d : PacketDirection) (events : List (Event τ)) : Int :=
  ((events.filter fun e => e.direction = d).map Event.sizeBytes).foldl (· + ·) 0

/-- The five series.
Source: none: specification
Kind: D -/
def recomputed [Sub τ] (events : List (Event τ)) : MetricsSnapshot τ where
  elapsedS := elapsedSeries events
  sentCumulative := cumulative (packets .sent) events
  receivedCumulative := cumulative (packets .received) events
  bytesSentCumulative := cumulative (byteSum .sent) events
  bytesReceivedCumulative := cumulative (byteSum .received) events

/-- The last entries of each series.
Source: none: specification
Kind: D -/
def MetricsSnapshot.last (n : Nat) (s : MetricsSnapshot τ) : MetricsSnapshot τ where
  elapsedS := s.elapsedS.rtake n
  sentCumulative := s.sentCumulative.rtake n
  receivedCumulative := s.receivedCumulative.rtake n
  bytesSentCumulative := s.bytesSentCumulative.rtake n
  bytesReceivedCumulative := s.bytesReceivedCumulative.rtake n

/-! ## One more event -/

/-- A window over a list is pushed as the list is.
Source: Python `collections.deque`
Kind: L -/
lemma push_rtake {α : Type} (n : Nat) (l : List α) (a : α) :
    push n (l.rtake n) a = (l ++ [a]).rtake n := by
  have hpush : ∀ w : List α, push n w a = (w ++ [a]).rtake n := fun _ => rfl
  rw [hpush]
  rcases n with _ | n
  · rw [List.rtake_zero, List.rtake_zero]
  · rw [List.rtake_concat_succ, List.rtake_concat_succ, List.rtake_eq_reverse_take_reverse,
      List.rtake_eq_reverse_take_reverse (n := n + 1), List.rtake_eq_reverse_take_reverse (n := n),
      List.reverse_reverse, List.take_take, Nat.min_eq_left (Nat.le_succ n)]

lemma cumulative_concat {α : Type} (f : List (Event τ) → α) (events : List (Event τ)) (e : Event τ) :
    cumulative f (events ++ [e]) = cumulative f events ++ [f (events ++ [e])] := by
  have hinits : (events ++ [e]).inits.tail = events.inits.tail ++ [events ++ [e]] := by
    rw [List.inits_append]
    rcases events with _ | ⟨first, rest⟩ <;> simp
  unfold cumulative
  rw [hinits, List.map_append, List.map_singleton]

lemma elapsedSeries_concat [Sub τ] (events : List (Event τ)) (e : Event τ) :
    elapsedSeries (events ++ [e]) =
      elapsedSeries events ++ [e.timestamp - ((events.head?.map Event.timestamp).getD e.timestamp)] := by
  rcases events with _ | ⟨first, rest⟩
  · rfl
  · simp [elapsedSeries]

lemma packets_concat (d : PacketDirection) (events : List (Event τ)) (e : Event τ) :
    packets d (events ++ [e]) = packets d events + (if e.direction = d then 1 else 0) := by
  simp [packets, List.countP_append, List.countP_singleton]

lemma byteSum_concat (d : PacketDirection) (events : List (Event τ)) (e : Event τ) :
    byteSum d (events ++ [e]) = byteSum d events + (if e.direction = d then e.sizeBytes else 0) := by
  unfold byteSum
  rw [List.filter_append, List.map_append, List.foldl_append]
  by_cases hd : e.direction = d <;> simp [hd]

/-! ## The invariant -/

/-- The totals are those of all events, and the windows the ends of their series.
Source: `src/plotting/metrics.py` `MetricsBuffer`
Kind: D -/
structure MetricsBuffer.Holds [Sub τ] (b : MetricsBuffer τ) (events : List (Event τ)) : Prop where
  startTime : b.startTime = events.head?.map Event.timestamp
  sent : b.sent = packets .sent events
  received : b.received = packets .received events
  bytesSent : b.bytesSent = byteSum .sent events
  bytesReceived : b.bytesReceived = byteSum .received events
  windows : b.snapshot = (recomputed events).last b.maxPoints

/-- What counting an event does to the totals.
Source: `src/plotting/metrics.py` `MetricsBuffer.add`
Kind: L -/
lemma MetricsBuffer.count_spec (b : MetricsBuffer τ) (event : Event τ) :
    b.count event = { b with
      sent := b.sent + (if event.direction = .sent then 1 else 0)
      received := b.received + (if event.direction = .received then 1 else 0)
      bytesSent := b.bytesSent + (if event.direction = .sent then event.sizeBytes else 0)
      bytesReceived := b.bytesReceived + (if event.direction = .received then event.sizeBytes else 0) } := by
  unfold count
  rcases hd : event.direction with _ | _ <;> simp

/-- **Adding an event keeps the totals and the windows.**
Source: `src/plotting/metrics.py` `MetricsBuffer.add`
Kind: P -/
lemma MetricsBuffer.Holds.add [Sub τ] {b : MetricsBuffer τ} {events : List (Event τ)} (h : b.Holds events)
    (event : Event τ) : (b.add event).Holds (events ++ [event]) := by
  have hstart : some (b.startTime.getD event.timestamp) =
      (events ++ [event]).head?.map Event.timestamp := by
    rw [h.startTime]
    rcases events with _ | ⟨first, rest⟩ <;> rfl
  have hwindows := h.windows
  unfold snapshot recomputed MetricsSnapshot.last at hwindows
  simp only [MetricsSnapshot.mk.injEq] at hwindows
  obtain ⟨helapsed, hsent, hreceived, hbytesSent, hbytesReceived⟩ := hwindows
  unfold MetricsBuffer.add
  simp only [MetricsBuffer.count_spec, MetricsBuffer.append]
  constructor
  case startTime => exact hstart
  case sent => rw [packets_concat, ← h.sent]
  case received => rw [packets_concat, ← h.received]
  case bytesSent => rw [byteSum_concat, ← h.bytesSent]
  case bytesReceived => rw [byteSum_concat, ← h.bytesReceived]
  case windows =>
    unfold snapshot recomputed MetricsSnapshot.last
    simp only [helapsed, hsent, hreceived, hbytesSent, hbytesReceived, push_rtake, cumulative_concat,
      elapsedSeries_concat, packets_concat, byteSum_concat, h.sent, h.received, h.bytesSent,
      h.bytesReceived, h.startTime]

/-- **Clearing forgets the events.**
Source: `src/plotting/metrics.py` `MetricsBuffer.clear`
Kind: P -/
lemma MetricsBuffer.holds_clear [Sub τ] (b : MetricsBuffer τ) : b.clear.Holds [] := by
  constructor <;> simp [clear, packets, byteSum, snapshot, recomputed, MetricsSnapshot.last, cumulative,
    elapsedSeries, List.rtake]

lemma MetricsBuffer.maxPoints_call [Sub τ] (b : MetricsBuffer τ) (c : Call τ) :
    (b.call c).maxPoints = b.maxPoints := by
  cases c with
  | add event =>
      show (b.add event).maxPoints = b.maxPoints
      simp only [add, append, count_spec]
  | clear => rfl

/-- **Over any calls the accumulator holds the events since the last clear.**
Source: `src/plotting/metrics.py` `MetricsBuffer`
Kind: P -/
theorem MetricsBuffer.holds_after [Sub τ] (maxPoints : Nat) (calls : List (Call τ)) :
    (({ maxPoints } : MetricsBuffer τ).after calls).Holds (sinceClear calls) ∧
      (({ maxPoints } : MetricsBuffer τ).after calls).maxPoints = maxPoints := by
  induction calls using List.reverseRecOn with
  | nil => exact ⟨MetricsBuffer.holds_clear { maxPoints }, rfl⟩
  | append_singleton calls c ih =>
      obtain ⟨hholds, hmax⟩ := ih
      unfold after at hholds hmax ⊢
      unfold sinceClear at hholds ⊢
      rw [List.foldl_append, List.foldl_append, List.foldl_cons, List.foldl_nil]
      refine ⟨?_, (maxPoints_call _ c).trans hmax⟩
      cases c with
      | add event => exact hholds.add event
      | clear => exact MetricsBuffer.holds_clear _

/-! ## What a snapshot shows -/

@[simp] lemma length_cumulative {α : Type} (f : List (Event τ) → α) (events : List (Event τ)) :
    (cumulative f events).length = events.length := by
  simp [cumulative]

@[simp] lemma length_elapsedSeries [Sub τ] (events : List (Event τ)) :
    (elapsedSeries events).length = events.length := by
  rcases events with _ | ⟨first, rest⟩
  · rfl
  · exact List.length_map _

/-- Every event went one way or the other.
Source: `src/plotting/metrics.py` `MetricsBuffer.add`
Kind: L -/
lemma packets_add (events : List (Event τ)) :
    packets .sent events + packets .received events = events.length := by
  induction events using List.reverseRecOn with
  | nil => rfl
  | append_singleton events e ih =>
      rw [packets_concat, packets_concat, List.length_append, List.length_singleton, ← ih]
      rcases e.direction with _ | _ <;> simp <;> omega

/-- An entry of a series is about the events up to its own.
Source: none: infrastructure
Kind: L -/
lemma cumulative_getElem? {α : Type} (f : List (Event τ) → α) (events : List (Event τ)) {i : Nat}
    (hi : i < events.length) : (cumulative f events)[i]? = some (f (events.take (i + 1))) := by
  have hlength : i + 1 < events.inits.length := by
    rw [List.length_inits]
    omega
  unfold cumulative
  rw [List.getElem?_map, List.getElem?_tail, List.getElem?_eq_getElem hlength, List.getElem_inits]
  rfl

/-- **In every entry, the packets sent and received are as many as the events up to it.**
Source: `src/plotting/metrics.py` `MetricsBuffer.add`
Kind: P -/
lemma cumulative_add {events : List (Event τ)} {i s r : Nat}
    (hs : (cumulative (packets .sent) events)[i]? = some s)
    (hr : (cumulative (packets .received) events)[i]? = some r) : s + r = i + 1 := by
  have hi : i < events.length := by
    rw [← length_cumulative (packets .sent) events]
    exact (List.getElem?_eq_some_iff.mp hs).1
  rw [cumulative_getElem? _ _ hi, Option.some.injEq] at hs hr
  rw [← hs, ← hr, packets_add, List.length_take, Nat.min_eq_left hi]

/-- The rolling window shows what a recomputation would: the last points of the five series of the events
since the last clear, in lists of one length, whose entries count each event once.
Source: `src/plotting/metrics.py` `MetricsBuffer`
Kind: D -/
structure MetricsSnapshot.Shows [Sub τ] (s : MetricsSnapshot τ) (maxPoints : Nat)
    (events : List (Event τ)) : Prop where
  recomputed : s = (recomputed events).last maxPoints
  lengths : s.elapsedS.length = min maxPoints events.length ∧
    s.sentCumulative.length = s.elapsedS.length ∧
    s.receivedCumulative.length = s.elapsedS.length ∧
    s.bytesSentCumulative.length = s.elapsedS.length ∧
    s.bytesReceivedCumulative.length = s.elapsedS.length
  /-- The entry with index `i` is that of the event behind the `events.length - s.elapsedS.length` events
  that were dropped and the `i` retained before it. -/
  index : ∀ i sent received : Nat, s.sentCumulative[i]? = some sent →
    s.receivedCumulative[i]? = some received →
    sent + received = events.length - s.elapsedS.length + i + 1

/-- **The incremental window equals recomputation**, after any calls and for every bound.
Source: `src/plotting/metrics.py` `MetricsBuffer`
Kind: P -/
theorem snapshot_eq_recomputed [Sub τ] (maxPoints : Nat) (calls : List (Call τ)) :
    (({ maxPoints } : MetricsBuffer τ).after calls).snapshot.Shows maxPoints (sinceClear calls) := by
  obtain ⟨hholds, hmax⟩ := MetricsBuffer.holds_after maxPoints calls
  have hwindows := hholds.windows
  rw [hmax] at hwindows
  rw [hwindows]
  have hlength : ∀ {α : Type} (l : List α), l.length = (sinceClear calls).length →
      (l.rtake maxPoints).length = min maxPoints (sinceClear calls).length := by
    intro α l hl
    rw [List.rtake, List.length_drop, hl]
    omega
  have hentry : ∀ (f : List (Event τ) → Nat) (i : Nat),
      ((cumulative f (sinceClear calls)).rtake maxPoints)[i]? =
        (cumulative f (sinceClear calls))[(sinceClear calls).length - maxPoints + i]? := by
    intro f i
    rw [List.rtake, length_cumulative, List.getElem?_drop]
  have helapsed := hlength _ (length_elapsedSeries (sinceClear calls))
  constructor
  case recomputed => rfl
  case lengths =>
    refine ⟨helapsed, ?_, ?_, ?_, ?_⟩
    · exact (hlength _ (length_cumulative _ _)).trans helapsed.symm
    · exact (hlength _ (length_cumulative _ _)).trans helapsed.symm
    · exact (hlength _ (length_cumulative _ _)).trans helapsed.symm
    · exact (hlength _ (length_cumulative _ _)).trans helapsed.symm
  case index =>
    intro i sent received hsent hreceived
    have hsum := cumulative_add ((hentry _ i).symm.trans hsent) ((hentry _ i).symm.trans hreceived)
    change sent + received =
      (sinceClear calls).length - ((elapsedSeries (sinceClear calls)).rtake maxPoints).length + i + 1
    rw [helapsed, hsum]
    omega

/-! ## The accumulator over records -/

instance : Sub PyFloat := ⟨PyFloat.sub⟩

/-- An event as a record holds it.
Source: `src/reporting/models.py` `PacketEvent`
Kind: D -/
def Event.toJson (event : Event PyFloat) (summary testNodeid : Json) : PacketEvent where
  timestamp := .float event.timestamp
  direction := event.direction
  summary := summary
  sizeBytes := .int event.sizeBytes
  testNodeid := testNodeid

/-- The accumulator as one over records.
Source: `src/plotting/metrics.py` `MetricsBuffer`
Kind: D -/
def MetricsBuffer.toJson (b : MetricsBuffer PyFloat) : Plotting.MetricsBuffer where
  maxPoints := b.maxPoints
  startTime := (b.startTime.map Json.float).getD .null
  sent := b.sent
  received := b.received
  bytesSent := .int b.bytesSent
  bytesReceived := .int b.bytesReceived
  elapsed := b.elapsed.map Json.float
  sentCum := b.sentCum
  recvCum := b.recvCum
  bytesSentCum := b.bytesSentCum.map Json.int
  bytesRecvCum := b.bytesRecvCum.map Json.int

lemma push_map {α β : Type} (f : α → β) (n : Nat) (w : List α) (a : α) :
    push n (w.map f) (f a) = (push n w a).map f := by
  simp [push, List.map_drop]

/-- **On records of the declared types, the accumulator over records does the same, and never raises.**
Source: `src/plotting/metrics.py` `MetricsBuffer.add`
Kind: P -/
theorem MetricsBuffer.toJson_add (b : MetricsBuffer PyFloat) (event : Event PyFloat)
    (summary testNodeid : Json) :
    b.toJson.add (event.toJson summary testNodeid) = ((b.add event).toJson, none) := by
  have hsub : ∀ x y : PyFloat, Json.sub (.float x) (.float y) = .ok (.float (x - y)) := fun _ _ => rfl
  rcases event with ⟨timestamp, direction, sizeBytes⟩
  rcases b with ⟨maxPoints, start, sent, received, bytesSent, bytesReceived, elapsed, sentCum, recvCum,
    bytesSentCum, bytesRecvCum⟩
  rcases start with _ | start <;> rcases direction with _ | _ <;>
    simp [Plotting.MetricsBuffer.add, Plotting.MetricsBuffer.count, Plotting.MetricsBuffer.append, add,
      count, append, toJson, Event.toJson, hsub, push_map]

end NetstackSuite.Plotting.Timeline
