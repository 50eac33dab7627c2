import NetstackSuite.Lib.CountedLog
import NetstackSuite.Lib.Runs
import NetstackSuite.PacketEngine.Interface

/-!
# The run's capture

What `NetworkInterface` writes to its capture file. The writer is opened when a frame is recorded and none is open,
which empties the file; the counter is never set back. So the file holds the recorded frames exactly if nothing is
recorded after a `close` that came behind a recorded frame (`capture_complete_iff`).
-/

namespace NetstackSuite.PacketEngine

open NetstackSuite.Lib NetstackSuite.Python

/-! ## Recording -/

/-- A frame of the capture file, with its comment.
Source: Scapy `PcapNgWriter.write`
Kind: D -/
structure CapturedFrame where
  packet : Packet
  comment : Option Bytes
  deriving DecidableEq

/-- A frame that is to be recorded, and what the debug logger or a sink raises when it is told of it.
Source: `src/packet_engine/interface.py` `NetworkInterface._record`
Kind: D -/
structure ObservedFrame where
  packet : Packet
  observers : Option PyExc := none
  deriving DecidableEq

/-- `[test_nodeid.encode("utf-8")] if test_nodeid else None`.
Source: `src/packet_engine/interface.py` `NetworkInterface._record`
Kind: D -/
def nodeidComment (testNodeid : Option PyStr) : Except PyExc (Option Bytes) :=
  match testNodeid with
  | some (c :: cs) => (encode (c :: cs)).map some
  | _ => .ok none

/-- An interface with a capture path: whether its writer is open, the frames of the file, and the counter.
Source: `src/packet_engine/interface.py` `NetworkInterface.__init__`
Kind: D -/
structure Capture where
  pcapWriter : Bool := false
  file : List CapturedFrame := []
  packetCount : Nat := 0
  deriving DecidableEq

namespace Capture

variable (capture : Capture)

/-- The writer, opened if it is not. Opening empties the file.
Source: `src/packet_engine/interface.py` `NetworkInterface._record`; `src/packet_engine/pcap.py` `open_pcap`
Kind: D -/
def opened : Capture :=
  if capture.pcapWriter then capture
  else
    { capture with
      pcapWriter := true
      file := [] }

/-- A frame written and counted.
Source: `src/packet_engine/interface.py` `NetworkInterface._record`
Kind: D -/
def written (frame : CapturedFrame) : Capture :=
  { capture with
    file := capture.file ++ [frame]
    packetCount := capture.packetCount + 1 }

/-- Records a frame. A nodeid that cannot be encoded raises behind the opening; an observer raises behind the
writing.
Source: `src/packet_engine/interface.py` `NetworkInterface._record`
Kind: D -/
def record (testNodeid : Option PyStr) (frame : ObservedFrame) : Outcome Capture PyExc :=
  match nodeidComment testNodeid with
  | .error e => (capture.opened, some e)
  | .ok comment => (capture.opened.written { packet := frame.packet, comment }, frame.observers)

/-- Source: `src/packet_engine/interface.py` `NetworkInterface.close`. Kind: D -/
def close : Capture := { capture with pcapWriter := false }

end Capture

/-- A call on the interface, with what Scapy's functions do in it: raise, or return frames.
Source: `src/packet_engine/interface.py` `NetworkInterface`
Kind: D -/
inductive InterfaceCall where
  | send (packet : ObservedFrame) (testNodeid : Option PyStr) (sendp : Option PyExc)
  | sendReceive (packet : ObservedFrame) (testNodeid : Option PyStr) (srp1 : Except PyExc (Option ObservedFrame))
  | sniff (testNodeid : Option PyStr) (scapySniff : Except PyExc (List ObservedFrame))
  | close
  deriving DecidableEq

namespace InterfaceCall

/-- A call.
Source: `src/packet_engine/interface.py` `NetworkInterface.send`, `send_receive`, `sniff`, `close`
Kind: D -/
def perform (capture : Capture) : InterfaceCall → Outcome Capture PyExc
  | send packet testNodeid sendp =>
      match sendp with
      | some e => (capture, some e)
      | none => capture.record testNodeid packet
  | sendReceive packet testNodeid srp1 =>
      andThen (capture.record testNodeid packet) fun capture =>
        match srp1 with
        | .error e => (capture, some e)
        | .ok none => (capture, none)
        | .ok (some reply) => capture.record testNodeid reply
  | sniff testNodeid scapySniff =>
      match scapySniff with
      | .error e => (capture, some e)
      | .ok packets => Lib.run (fun capture => capture.record testNodeid) packets capture
  | close => (capture.close, none)

/-- Source: `src/packet_engine/interface.py` `NetworkInterface`. Kind: D -/
def testNodeid : InterfaceCall → Option PyStr
  | send _ testNodeid _ => testNodeid
  | sendReceive _ testNodeid _ => testNodeid
  | sniff testNodeid _ => testNodeid
  | close => none

/-- The frames that pass through a call.
Source: `src/packet_engine/interface.py` `NetworkInterface`
Kind: D -/
def frames : InterfaceCall → List ObservedFrame
  | send packet _ none => [packet]
  | send _ _ (some _) => []
  | sendReceive packet _ (.ok (some reply)) => [packet, reply]
  | sendReceive packet _ _ => [packet]
  | sniff _ (.ok packets) => packets
  | sniff _ (.error _) => []
  | close => []

/-- Of these, the ones handed to `_record`: up to one for which it raises.
Source: `src/packet_engine/interface.py` `NetworkInterface._record`
Kind: D -/
def handed : List ObservedFrame → List ObservedFrame
  | [] => []
  | frame :: frames => frame :: if frame.observers.isSome then [] else handed frames

/-- The frames that a call records; none if its nodeid cannot be encoded.
Source: none: specification
Kind: D -/
def recorded (call : InterfaceCall) : List CapturedFrame :=
  match nodeidComment call.testNodeid with
  | .error _ => []
  | .ok comment => (handed call.frames).map fun frame => { packet := frame.packet, comment }

end InterfaceCall

namespace Capture

/-- An interface after its calls so far, whatever they raised.
Source: none: infrastructure
Kind: D -/
def life (calls : List InterfaceCall) : Capture :=
  calls.foldl (fun capture call => (call.perform capture).1) {}

/-- The file holds the recorded frames, and the counter their number.
Source: none: specification
Kind: D -/
structure Complete (capture : Capture) (recorded : List CapturedFrame) : Prop where
  file : capture.file = recorded
  count : capture.packetCount = recorded.length

end Capture

/-- Once the interface was closed behind a recorded frame, no frame reaches it.
Source: none: specification
Kind: D -/
def NeverReopened (calls : List InterfaceCall) : Prop :=
  ∀ before behind, calls = before ++ .close :: behind → before.flatMap InterfaceCall.recorded ≠ [] →
    ∀ call ∈ behind, call.frames = []

/-! ## What a call does -/

namespace Capture

/-- Several frames written and counted.
Source: none: infrastructure
Kind: D -/
def extend (capture : Capture) (frames : List CapturedFrame) : Capture :=
  { capture with
    file := capture.file ++ frames
    packetCount := capture.packetCount + frames.length }

lemma extend_nil (capture : Capture) : capture.extend [] = capture := by
  rw [extend, List.append_nil]
  rfl

lemma opened_opened_extend (capture : Capture) (frames : List CapturedFrame) :
    (capture.opened.extend frames).opened = capture.opened.extend frames := by
  have hopen : (capture.opened.extend frames).pcapWriter = true := by
    unfold extend opened
    split <;> simp_all
  rw [opened, if_pos hopen]

lemma extend_extend (capture : Capture) (frames more : List CapturedFrame) :
    (capture.extend frames).extend more = capture.extend (frames ++ more) := by
  simp only [extend, List.append_assoc, List.length_append, Nat.add_assoc]

/-- Frames recorded one after the other.
Source: `src/packet_engine/interface.py` `NetworkInterface._record`
Kind: L -/
lemma run_record (capture : Capture) {testNodeid : Option PyStr} {comment : Option Bytes}
    (hcomment : nodeidComment testNodeid = .ok comment) (frame : ObservedFrame) (frames : List ObservedFrame) :
    (Lib.run (fun capture => capture.record testNodeid) (frame :: frames) capture).1 =
      capture.opened.extend ((InterfaceCall.handed (frame :: frames)).map fun frame =>
        { packet := frame.packet, comment }) := by
  have hrecord (capture : Capture) (frame : ObservedFrame) : capture.record testNodeid frame =
      (capture.opened.extend [{ packet := frame.packet, comment }], frame.observers) := by
    rw [record, hcomment]
    rfl
  induction frames generalizing capture frame with
  | nil =>
      rw [run_cons, hrecord, InterfaceCall.handed]
      rcases frame.observers with _ | e <;> rfl
  | cons next frames ih =>
      rw [run_cons, hrecord, InterfaceCall.handed]
      rcases frame.observers with _ | e
      · rw [andThen_none, ih, opened_opened_extend, extend_extend]
        rfl
      · rfl

/-- A nodeid that cannot be encoded opens the file, and that is all.
Source: `src/packet_engine/interface.py` `NetworkInterface._record`
Kind: L -/
lemma run_record_of_error (capture : Capture) {testNodeid : Option PyStr} {e : PyExc}
    (hcomment : nodeidComment testNodeid = .error e) (frame : ObservedFrame) (frames : List ObservedFrame) :
    (Lib.run (fun capture => capture.record testNodeid) (frame :: frames) capture).1 = capture.opened := by
  rw [run_cons, record, hcomment, andThen_some]

end Capture

namespace InterfaceCall

/-- A call records its frames.
Source: `src/packet_engine/interface.py` `NetworkInterface`
Kind: L -/
lemma perform_eq_run {call : InterfaceCall} (h : call ≠ .close) (capture : Capture) :
    (call.perform capture).1 =
      (Lib.run (fun capture => capture.record call.testNodeid) call.frames capture).1 := by
  rcases call with ⟨packet, nodeid, _ | e⟩ | ⟨packet, nodeid, e | _ | reply⟩ | ⟨nodeid, e | packets⟩ | _
  · show (capture.record nodeid packet).1 = (andThen (capture.record nodeid packet) _).1
    rcases capture.record nodeid packet with ⟨after, _ | e⟩ <;> rfl
  · rfl
  · show (andThen (capture.record nodeid packet) _).1 = (andThen (capture.record nodeid packet) _).1
    rcases capture.record nodeid packet with ⟨after, _ | e'⟩ <;> rfl
  · show (andThen (capture.record nodeid packet) _).1 = (andThen (capture.record nodeid packet) _).1
    rcases capture.record nodeid packet with ⟨after, _ | e⟩ <;> rfl
  · show (andThen (capture.record nodeid packet) _).1 = (andThen (capture.record nodeid packet) _).1
    rcases capture.record nodeid packet with ⟨after, _ | e⟩
    · show (after.record nodeid reply).1 = (andThen (after.record nodeid reply) _).1
      rcases after.record nodeid reply with ⟨last, _ | e⟩ <;> rfl
    · rfl
  · rfl
  · rfl
  · exact absurd rfl h

/-- **What a call does to the capture.**
Source: `src/packet_engine/interface.py` `NetworkInterface`
Kind: L -/
lemma perform_spec (call : InterfaceCall) (capture : Capture) :
    (call = .close ∧ (call.perform capture).1 = capture.close) ∨
      (call ≠ .close ∧ call.frames = [] ∧ (call.perform capture).1 = capture) ∨
      (call.frames ≠ [] ∧ (call.perform capture).1 = capture.opened.extend call.recorded) := by
  by_cases hclose : call = .close
  · left
    subst hclose
    exact ⟨rfl, rfl⟩
  right
  rw [perform_eq_run hclose]
  rcases hframes : call.frames with _ | ⟨frame, frames⟩
  · exact Or.inl ⟨hclose, rfl, rfl⟩
  · right
    refine ⟨List.cons_ne_nil _ _, ?_⟩
    rw [recorded, hframes]
    rcases hcomment : nodeidComment call.testNodeid with e | comment
    · rw [Capture.run_record_of_error capture hcomment, Capture.extend_nil]
    · rw [Capture.run_record capture hcomment]

end InterfaceCall

/-! ## Whole runs -/

namespace Capture

lemma life_concat (calls : List InterfaceCall) (call : InterfaceCall) :
    life (calls ++ [call]) = (call.perform (life calls)).1 := by
  rw [life, List.foldl_append, List.foldl_cons, List.foldl_nil, life]

/-- The file and the counter.
Source: none: infrastructure
Kind: D -/
def log (capture : Capture) : CountedLog CapturedFrame where
  isOpen := capture.pcapWriter
  content := capture.file
  count := capture.packetCount

/-- The frames recorded in a run.
Source: none: specification
Kind: D -/
def recordedIn (calls : List InterfaceCall) : List CapturedFrame := calls.flatMap InterfaceCall.recorded

/-- What holds of every run: the counter is right, and the file is the end of what was recorded.
Source: none: infrastructure
Kind: D -/
structure Counted (capture : Capture) (recorded : List CapturedFrame) : Prop where
  count : capture.packetCount = recorded.length
  file : capture.file <:+ recorded

lemma Counted.opened {capture : Capture} {recorded : List CapturedFrame} (h : capture.Counted recorded) :
    capture.opened.Counted recorded := by
  unfold Capture.opened
  split
  · exact h
  · exact ⟨h.count, List.nil_suffix⟩

lemma Counted.extend {capture : Capture} {recorded : List CapturedFrame} (h : capture.Counted recorded)
    (frames : List CapturedFrame) : (capture.extend frames).Counted (recorded ++ frames) := by
  constructor
  · rw [Capture.extend, List.length_append, h.count]
  · obtain ⟨lost, hlost⟩ := h.file
    exact ⟨lost, by rw [← hlost, Capture.extend, List.append_assoc]⟩

lemma recorded_of_frames {call : InterfaceCall} (h : call.frames = []) : call.recorded = [] := by
  rw [InterfaceCall.recorded, h, InterfaceCall.handed]
  rcases nodeidComment call.testNodeid with e | comment <;> rfl

/-- A call keeps the counter right.
Source: `src/packet_engine/interface.py` `NetworkInterface`
Kind: L -/
lemma Counted.perform {capture : Capture} {recorded : List CapturedFrame} (h : capture.Counted recorded)
    (call : InterfaceCall) : (call.perform capture).1.Counted (recorded ++ call.recorded) := by
  rcases call.perform_spec capture with ⟨rfl, hstate⟩ | ⟨-, hnone, hstate⟩ | ⟨-, hstate⟩
  · rw [hstate, recorded_of_frames rfl, List.append_nil]
    exact ⟨h.count, h.file⟩
  · rw [hstate, recorded_of_frames hnone, List.append_nil]
    exact h
  · rw [hstate]
    exact h.opened.extend _

lemma counted_life (calls : List InterfaceCall) : (life calls).Counted (recordedIn calls) := by
  induction calls using List.reverseRecOn with
  | nil => exact ⟨rfl, List.nil_suffix⟩
  | append_singleton calls call ih =>
      rw [life_concat, recordedIn, List.flatMap_append, List.flatMap_singleton]
      exact ih.perform call

/-- A counted file is complete exactly if no frame of it is missing.
Source: none: infrastructure
Kind: L -/
lemma Counted.complete_iff {capture : Capture} {recorded : List CapturedFrame} (h : capture.Counted recorded) :
    capture.Complete recorded ↔ capture.log.Exact := by
  constructor
  · intro hcomplete
    show capture.file.length = capture.packetCount
    rw [hcomplete.file, hcomplete.count]
  · intro hexact
    have hlength : capture.file.length = recorded.length := Eq.trans hexact h.count
    exact ⟨h.file.eq_of_length hlength, h.count⟩

lemma Counted.bounded {capture : Capture} {recorded : List CapturedFrame} (h : capture.Counted recorded) :
    capture.log.Bounded := by
  show capture.file.length ≤ capture.packetCount
  rw [h.count]
  exact h.file.length_le

lemma exact_extend_iff (capture : Capture) (frames : List CapturedFrame) :
    (capture.extend frames).log.Exact ↔ capture.log.Exact := by
  show (capture.file ++ frames).length = capture.packetCount + frames.length ↔
    capture.file.length = capture.packetCount
  rw [List.length_append]
  omega

/-- Opening keeps the capture exact unless frames have been counted and the writer was closed.
Source: `src/packet_engine/interface.py` `NetworkInterface._record`
Kind: L -/
lemma exact_opened_iff {capture : Capture} (h : capture.log.Bounded) :
    capture.opened.log.Exact ↔ capture.log.Exact ∧ (capture.pcapWriter = false → capture.packetCount = 0) := by
  rcases hwriter : capture.pcapWriter with _ | _
  · have hlog : capture.opened.log = capture.log.apply .create := by
      rw [Capture.opened, if_neg (by simp [hwriter])]
      rfl
    rw [hlog, CountedLog.exact_apply_iff h, imp_iff_right rfl, imp_iff_right rfl]
    rfl
  · rw [Capture.opened, if_pos hwriter]
    simp

/-- A call keeps the capture exact unless it opens the writer over counted frames.
Source: `src/packet_engine/interface.py` `NetworkInterface`
Kind: L -/
lemma exact_perform_iff {capture : Capture} (h : capture.log.Bounded) (call : InterfaceCall) :
    (call.perform capture).1.log.Exact ↔
      capture.log.Exact ∧
        (call.frames ≠ [] → capture.pcapWriter = false → capture.packetCount = 0) := by
  rcases call.perform_spec capture with ⟨rfl, hstate⟩ | ⟨-, hnone, hstate⟩ | ⟨hframes, hstate⟩
  · have hnone : InterfaceCall.frames .close = [] := rfl
    rw [hstate, and_iff_left fun hframes => absurd hnone hframes]
    rfl
  · rw [hstate, and_iff_left fun hframes => absurd hnone hframes]
  · rw [hstate, exact_extend_iff, exact_opened_iff h, imp_iff_right hframes]

/-- The interface was closed behind a recorded frame.
Source: none: infrastructure
Kind: D -/
def ClosedBehindFrame (calls : List InterfaceCall) : Prop :=
  ∃ before behind, calls = before ++ .close :: behind ∧ recordedIn before ≠ []

/-- A close behind a recorded frame stays one.
Source: none: infrastructure
Kind: L -/
lemma closedBehindFrame_concat (calls : List InterfaceCall) (call : InterfaceCall) :
    ClosedBehindFrame (calls ++ [call]) ↔ ClosedBehindFrame calls ∨ (call = .close ∧ recordedIn calls ≠ []) := by
  unfold ClosedBehindFrame
  constructor
  · rintro ⟨before, behind, hsplit, hrecorded⟩
    rcases history_split hsplit with ⟨rfl, rfl⟩ | ⟨behind', rfl⟩
    · exact Or.inr ⟨rfl, hrecorded⟩
    · exact Or.inl ⟨before, behind', rfl, hrecorded⟩
  · rintro (⟨before, behind, rfl, hrecorded⟩ | ⟨rfl, hrecorded⟩)
    · exact ⟨before, behind ++ [call], by simp, hrecorded⟩
    · exact ⟨calls, [], rfl, hrecorded⟩

/-- In terms of a run that has grown by one call.
Source: none: infrastructure
Kind: L -/
lemma neverReopened_concat (calls : List InterfaceCall) (call : InterfaceCall) :
    NeverReopened (calls ++ [call]) ↔
      NeverReopened calls ∧ (call.frames ≠ [] → ¬ ClosedBehindFrame calls) := by
  constructor
  · intro h
    constructor
    · intro before behind hsplit hrecorded other hother
      apply h before (behind ++ [call]) _ hrecorded other (List.mem_append_left _ hother)
      rw [hsplit, List.append_assoc, List.cons_append]
    · rintro hframes ⟨before, behind, rfl, hrecorded⟩
      apply hframes
      exact h before (behind ++ [call]) (by simp) hrecorded call (by simp)
  · rintro ⟨hnever, hlast⟩ before behind hsplit hrecorded other hother
    rcases behind.eq_nil_or_concat with rfl | ⟨behind', last, rfl⟩
    · exact absurd hother List.not_mem_nil
    · rw [List.concat_eq_append] at hsplit hother
      rw [← List.cons_append, ← List.append_assoc] at hsplit
      obtain ⟨hcalls, hcall⟩ := List.append_inj' hsplit rfl
      rcases List.mem_append.mp hother with hother | hother
      · exact hnever before behind' hcalls hrecorded other hother
      · rw [List.mem_singleton.mp hother, ← (List.cons.inj hcall).1]
        by_contra hframes
        exact hlast hframes ⟨before, behind', hcalls, hrecorded⟩

/-- While the interface is not reopened, its writer is closed over recorded frames exactly if it was closed behind
one.
Source: `src/packet_engine/interface.py` `NetworkInterface.close`
Kind: L -/
lemma closed_iff {calls : List InterfaceCall} (h : NeverReopened calls) :
    ((life calls).pcapWriter = false ∧ recordedIn calls ≠ []) ↔ ClosedBehindFrame calls := by
  induction calls using List.reverseRecOn with
  | nil => simp [recordedIn, ClosedBehindFrame]
  | append_singleton calls call ih =>
      obtain ⟨hnever, hlast⟩ := (neverReopened_concat calls call).mp h
      have hrecorded : recordedIn (calls ++ [call]) = recordedIn calls ++ call.recorded := by
        rw [recordedIn, List.flatMap_append, List.flatMap_singleton, recordedIn]
      rw [life_concat, closedBehindFrame_concat, ← ih hnever, hrecorded]
      rcases call.perform_spec (life calls) with ⟨rfl, hstate⟩ | ⟨hclose, hnone, hstate⟩ | ⟨hframes, hstate⟩
      · rw [hstate, recorded_of_frames rfl, List.append_nil]
        have hclosed : (life calls).close.pcapWriter = false := rfl
        simp [hclosed]
      · rw [hstate, recorded_of_frames hnone, List.append_nil]
        simp [hclose]
      · have hopen : ((life calls).opened.extend call.recorded).pcapWriter = true := by
          unfold extend opened
          split <;> simp_all
        have hnot := hlast hframes
        rw [← ih hnever] at hnot
        have hclose : call ≠ .close := fun heq => hframes (heq ▸ rfl)
        simp [hstate, hopen, hnot, hclose]

end Capture

/-- **When the capture is complete**: no frame was handed over after a close that came behind a recorded frame.
Source: `src/packet_engine/interface.py` `NetworkInterface._record`, `NetworkInterface.close`
Kind: P -/
theorem capture_complete_iff (calls : List InterfaceCall) :
    (Capture.life calls).Complete (Capture.recordedIn calls) ↔ NeverReopened calls := by
  rw [(Capture.counted_life calls).complete_iff]
  induction calls using List.reverseRecOn with
  | nil => simp [NeverReopened, Capture.life, Capture.log, CountedLog.Exact]
  | append_singleton calls call ih =>
      have hcounted := Capture.counted_life calls
      rw [Capture.life_concat, Capture.exact_perform_iff hcounted.bounded, ih, Capture.neverReopened_concat]
      apply and_congr_right
      intro hnever
      apply imp_congr_right
      intro _
      rw [← Capture.closed_iff hnever, not_and, hcounted.count, not_not, List.length_eq_zero_iff]

/-- A frame sent for a test.
Source: none: example
Kind: D -/
def sentFrame : InterfaceCall := .send { packet := [.raw [0x61]] } (some (text "tests/x.py::test_one")) none

/-- **A frame sent behind a close empties the file.**
Source: `src/packet_engine/interface.py` `NetworkInterface._record`, `NetworkInterface.close`
Kind: P -/
theorem reopened_capture_incomplete :
    ¬ ∀ calls : List InterfaceCall, (Capture.life calls).Complete (Capture.recordedIn calls) := by
  intro h
  have hcount := h [sentFrame, .close, sentFrame]
  have hlost : (Capture.life [sentFrame, .close, sentFrame]).file.length = 1 := by decide +kernel
  rw [hcount.file] at hlost
  exact absurd hlost (by decide +kernel)

end NetstackSuite.PacketEngine
