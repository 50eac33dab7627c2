import NetstackSuite.Runner.Acceptance
import NetstackSuite.Runner.Records

/-!
# What a bad line costs the packet events

The packet drain catches what its parser raises on a bad record, but checks no types: a record with the
four keys and a known direction is made an event of, whatever its values are. So a bad line costs
nothing but itself (`PacketsUnharmed`) while every line is harmless (`HarmlessPacketLine`): skipped, or a
well-formed record whose timestamp can be subtracted from each earlier one, as the metrics do.
-/

namespace NetstackSuite.Runner

open NetstackSuite.Python NetstackSuite.Reporting NetstackSuite.Plotting NetstackSuite.Lib

section

variable (R : Runtime)

/-- A line that is dropped: no JSON value, or one that lacks a required key or a known direction.
Source: `src/runner.py` `drain_packet_events`
Kind: D -/
def DroppedPacket (line : PyStr) : Prop :=
  match Json.loads R.recursionLimit line with
  | .error e => isSkipped e = true
  | .ok data => acceptedPacket data = false

/-- A line that does no harm: all that is read of it is dropped, or it is a well-formed record whose
timestamp can be subtracted from each earlier one.
Source: `src/runner.py` `drain_packet_events`, `src/plotting/metrics.py` `MetricsBuffer.add`
Kind: D -/
def HarmlessPacketLine (packets : List PacketEvent) (b : Bytes) : Prop :=
  (∀ line ∈ logLines b, DroppedPacket R line) ∨
    ∃ line kvs, logLines b = [line] ∧ Json.loads R.recursionLimit line = .ok (.dict kvs) ∧
      wellFormedPacket (.dict kvs) = true ∧
        ∀ e ∈ packets, (Json.sub e.timestamp (Json.get kvs (text "timestamp"))).isOk = true

end

variable {R : Runtime}

/-! ## Dropped lines -/

/-- **A line is dropped exactly if the parser skips it.**
Source: `src/runner.py` `drain_packet_events`
Kind: P -/
lemma droppedPacket_iff {line : PyStr} :
    DroppedPacket R line ↔ parsePacketEventLine R line = .ok none := by
  unfold DroppedPacket parsePacketEventLine
  rcases Json.loads R.recursionLimit line with e | data
  · dsimp only [Except.bind]
    split <;> simp_all
  · obtain ⟨haccepted, hskipped⟩ := packetEventOf_spec data
    dsimp only [Except.bind]
    rcases ha : acceptedPacket data with _ | _
    · obtain ⟨e, he, hskip⟩ := hskipped ha
      rw [he]
      simp [hskip]
    · obtain ⟨kvs, event, -, hok, -⟩ := haccepted ha
      rw [hok]
      simp

/-- An event with the types its consumers rely on.
Source: `src/reporting/models.py` `PacketEvent`
Kind: D -/
structure SoundPacket (e : PacketEvent) : Prop where
  summary : e.summary.isStr = true
  timestamp : e.timestamp.isNumber = true
  size : isInt e.sizeBytes = true

/-- Events whose timestamps can be subtracted from each other.
Source: `src/plotting/metrics.py` `MetricsBuffer.add`
Kind: D -/
def Subtractable (packets : List PacketEvent) : Prop :=
  ∀ e ∈ packets, ∀ first ∈ packets, (Json.sub e.timestamp first.timestamp).isOk = true

/-- Subtraction raises alike in both directions.
Source: Python `-`
Kind: L -/
lemma isOk_sub_comm (a b : Json) : (Json.sub a b).isOk = (Json.sub b a).isOk := by
  unfold Json.sub
  rcases a.asNumber with _ | (i | x) <;> rcases b.asNumber with _ | (j | y)
  · rfl
  · rfl
  · rfl
  · rfl
  · rfl
  · simp only [Json.arith]
    rcases Json.toFloat (.inl i) with e | x <;> rfl
  · rfl
  · simp only [Json.arith]
    rcases Json.toFloat (.inl j) with e | x <;> rfl
  · rfl

/-- A number can be subtracted from itself.
Source: Python `-`
Kind: L -/
lemma isOk_sub_self {a : Json} (h : a.isNumber = true) : (Json.sub a a).isOk = true := by
  cases a with
  | int i => rfl
  | float x => rfl
  | _ => cases h

/-- One more event.
Source: none: infrastructure
Kind: L -/
lemma Subtractable.concat {packets : List PacketEvent} {event : PacketEvent}
    (hnumber : event.timestamp.isNumber = true) :
    Subtractable (packets ++ [event]) ↔
      Subtractable packets ∧
        ∀ e ∈ packets, (Json.sub e.timestamp event.timestamp).isOk = true := by
  constructor
  · intro h
    have hleft : ∀ {e}, e ∈ packets → e ∈ packets ++ [event] := List.mem_append_left _
    exact ⟨fun e he first hfirst => h e (hleft he) first (hleft hfirst),
      fun e he => h e (hleft he) event (by simp)⟩
  · rintro ⟨h, hevent⟩ e he first hfirst
    rcases List.mem_append.mp he with he | he <;> rcases List.mem_append.mp hfirst with hfirst | hfirst
    · exact h e he first hfirst
    · rw [List.mem_singleton.mp hfirst]
      exact hevent e he
    · rw [List.mem_singleton.mp he, isOk_sub_comm]
      exact hevent first hfirst
    · rw [List.mem_singleton.mp he, List.mem_singleton.mp hfirst]
      exact isOk_sub_self hnumber

/-- What the parser makes of a well-formed record.
Source: `src/runner.py` `drain_packet_events`
Kind: L -/
lemma parsePacketEventLine_of_wellFormed {line : PyStr} {data : Json}
    (hloads : Json.loads R.recursionLimit line = .ok data) (hwf : wellFormedPacket data = true) :
    ∃ kvs event, data = .dict kvs ∧ parsePacketEventLine R line = .ok (some event) ∧
      SoundPacket event ∧ event.timestamp = Json.get kvs (text "timestamp") := by
  have haccepted : acceptedPacket data = true := by
    unfold wellFormedPacket at hwf
    split at hwf
    · simp only [Bool.and_eq_true] at hwf
      exact hwf.1.1.1
    · cases hwf
  obtain ⟨kvs, event, rfl, hevent, htimestamp, hsummary, hsize⟩ :=
    (packetEventOf_spec data).1 haccepted
  simp only [wellFormedPacket, Bool.and_eq_true] at hwf
  refine ⟨kvs, event, rfl, ?_, ⟨?_, ?_, ?_⟩, htimestamp⟩
  · rw [parsePacketEventLine, hloads]
    simp only [Except.bind, hevent]
  · rw [hsummary]
    exact hwf.1.2
  · rw [htimestamp]
    exact hwf.1.1.2
  · rw [hsize]
    exact hwf.2

/-! ## Logs of harmless lines -/

/-- Dropped lines are accepted and yield nothing.
Source: `src/runner.py` `drain_packet_events`
Kind: P -/
lemma acceptsPackets_of_dropped {lines : List PyStr} (h : ∀ line ∈ lines, DroppedPacket R line) :
    AcceptsPackets R lines ∧ parsedPackets R lines = [] := by
  refine ⟨fun line hline => ⟨none, droppedPacket_iff.mp (h line hline)⟩, ?_⟩
  rw [parsedPackets, List.filterMap_eq_nil_iff]
  intro line hline
  rw [droppedPacket_iff.mp (h line hline)]

/-- One harmless line is accepted, and the events stay sound and subtractable.
Source: `src/runner.py` `drain_packet_events`
Kind: P -/
lemma HarmlessPacketLine.step {packets : List PacketEvent} {b : Bytes}
    (h : HarmlessPacketLine R packets b) (hsound : ∀ e ∈ packets, SoundPacket e)
    (hsub : Subtractable packets) :
    AcceptsPackets R (logLines b) ∧
      (∀ e ∈ packets ++ parsedPackets R (logLines b), SoundPacket e) ∧
        Subtractable (packets ++ parsedPackets R (logLines b)) := by
  rcases h with hdropped | ⟨line, kvs, hlines, hloads, hwf, hheld⟩
  · obtain ⟨haccepts, hnone⟩ := acceptsPackets_of_dropped hdropped
    rw [hnone, List.append_nil]
    exact ⟨haccepts, hsound, hsub⟩
  · obtain ⟨kvs', event, heq, hparse, hevent, htimestamp⟩ :=
      parsePacketEventLine_of_wellFormed hloads hwf
    cases heq
    have hparsed : parsedPackets R [line] = [event] := by simp [parsedPackets, hparse]
    rw [hlines, hparsed]
    refine ⟨by simp [AcceptsPackets, hparse], ?_, ?_⟩
    · exact List.forall_mem_append.mpr ⟨hsound, by simpa using hevent⟩
    · rw [Subtractable.concat hevent.timestamp, htimestamp]
      exact ⟨hsub, hheld⟩

end NetstackSuite.Runner
