import NetstackSuite.Lib.CountedLog
import NetstackSuite.Lib.Runs
import NetstackSuite.PacketEngine.Interface

/-!
# The packet recorder

`PacketRecorder` of `src/packet_engine/recorder.py`, whole calls at a time: `start`, a frame that reaches the
handler, `join` and `stop`. Its file and its counter are a `CountedLog`: `start` creates the file anew and leaves
the counter alone, so the two agree exactly as long as every recording starts before a frame has been counted
(`recorder_count_iff`).
-/

namespace NetstackSuite.PacketEngine

open NetstackSuite.Lib NetstackSuite.Python

/-- Source: `src/errors.py` `CaptureError`. Kind: D -/
def captureError : PyExc := .other "CaptureError"

/-- `except Exception` catches it: it is no interrupt and no exit, and not one of the other classes outside `Exception`.
Source: Python `Exception`
Kind: D -/
def isCaught (e : PyExc) : Bool :=
  !e.isInterrupt &&
    ["SystemExit", "BaseException", "BaseExceptionGroup", "CancelledError"].all fun cls => e ≠ .other cls

/-! ## The recorder -/

/-- A recorder: whether a writer is open, the frames of the output file, the frames counted, and whether there is a
sniffer.
Source: `src/packet_engine/recorder.py` `PacketRecorder.__init__`
Kind: D -/
structure PacketRecorder where
  writer : Bool := false
  file : List Packet := []
  packetCount : Nat := 0
  sniffer : Bool := false
  deriving DecidableEq

namespace PacketRecorder

variable (recorder : PacketRecorder)

/-- Source: `src/packet_engine/recorder.py` `PacketRecorder._close_writer`. Kind: D -/
def closeWriter : PacketRecorder := { recorder with writer := false }

/-- A frame that nothing interrupts: written and counted, or dropped if the writer was closed.
Source: `src/packet_engine/recorder.py` `PacketRecorder._handle`
Kind: D -/
def handle (packet : Packet) : PacketRecorder :=
  if recorder.writer then
    { recorder with
      file := recorder.file ++ [packet]
      packetCount := recorder.packetCount + 1 }
  else recorder

/-- Opens the file, which empties it, and starts a sniffer; either may raise.
Source: `src/packet_engine/recorder.py` `PacketRecorder.start`; `src/packet_engine/pcap.py` `open_pcap`
Kind: D -/
def start (openPcap asyncSniffer : Option PyExc) : Outcome PacketRecorder PyExc :=
  match openPcap with
  | some e => (recorder, some e)
  | none =>
      ({ recorder with
          writer := true
          file := []
          sniffer := true }, asyncSniffer)

/-- What becomes of an exception of the sniffer.
Source: `src/packet_engine/recorder.py` `PacketRecorder._capture_error`
Kind: D -/
def translated (e : PyExc) : PyExc := if isCaught e then captureError else e

/-- Waits for the sniffer, if there is one, which may raise. The writer is closed either way.
Source: `src/packet_engine/recorder.py` `PacketRecorder.join`
Kind: D -/
def join (snifferJoin : Option PyExc) : Outcome PacketRecorder PyExc :=
  (recorder.closeWriter, if recorder.sniffer then snifferJoin.map translated else none)

/-- Stops the sniffer, if one is running, which may raise, and returns the count. The writer is closed either way.
Source: `src/packet_engine/recorder.py` `PacketRecorder.stop`
Kind: D -/
def stop (running : Bool) (snifferStop : Option PyExc) : PacketRecorder × Except PyExc Nat :=
  match if recorder.sniffer && running then snifferStop else none with
  | some e => (recorder.closeWriter, .error (translated e))
  | none => (recorder.closeWriter, .ok recorder.closeWriter.packetCount)

end PacketRecorder

/-- What happens to a recorder, with what the outside does: whether the file can be opened, whether the sniffer
starts, whether it is running, what it raises.
Source: `src/packet_engine/recorder.py` `PacketRecorder`
Kind: D -/
inductive RecorderOp where
  | start (openPcap asyncSniffer : Option PyExc)
  | frame (packet : Packet)
  | join (snifferJoin : Option PyExc)
  | stop (running : Bool) (snifferStop : Option PyExc)
  deriving DecidableEq

namespace RecorderOp

/-- The recorder behind an operation, whatever it raised.
Source: `src/packet_engine/recorder.py` `PacketRecorder`
Kind: D -/
def apply (recorder : PacketRecorder) : RecorderOp → PacketRecorder
  | start openPcap asyncSniffer => (recorder.start openPcap asyncSniffer).1
  | frame packet => recorder.handle packet
  | join snifferJoin => (recorder.join snifferJoin).1
  | stop running snifferStop => (recorder.stop running snifferStop).1

/-- What an operation does to the file and the counter.
Source: none: specification
Kind: D -/
def logOps : RecorderOp → List (LogOp Packet)
  | start none _ => [.create]
  | start (some _) _ => []
  | frame packet => [.append packet]
  | join _ => [.close]
  | stop _ _ => [.close]

end RecorderOp

namespace PacketRecorder

/-- A recorder's whole life so far.
Source: none: infrastructure
Kind: D -/
def life (ops : List RecorderOp) : PacketRecorder := ops.foldl RecorderOp.apply {}

/-- The file and the counter.
Source: none: infrastructure
Kind: D -/
def log (recorder : PacketRecorder) : CountedLog Packet where
  isOpen := recorder.writer
  content := recorder.file
  count := recorder.packetCount

/-- **The recorder refines the log.**
Source: `src/packet_engine/recorder.py` `PacketRecorder`
Kind: L -/
lemma log_apply (recorder : PacketRecorder) (op : RecorderOp) :
    (op.apply recorder).log = recorder.log.run op.logOps := by
  rcases op with ⟨openPcap, asyncSniffer⟩ | packet | snifferJoin | ⟨running, snifferStop⟩
  · rcases openPcap with _ | e <;> rfl
  · simp only [RecorderOp.apply, RecorderOp.logOps, handle, log, CountedLog.run, List.foldl_cons, List.foldl_nil,
      CountedLog.apply]
    split <;> rfl
  · rfl
  · simp only [RecorderOp.apply, stop]
    split <;> rfl

lemma life_concat (ops : List RecorderOp) (op : RecorderOp) : life (ops ++ [op]) = op.apply (life ops) := by
  rw [life, List.foldl_append, List.foldl_cons, List.foldl_nil, life]

lemma bounded_life (ops : List RecorderOp) : (life ops).log.Bounded := by
  induction ops using List.reverseRecOn with
  | nil => exact CountedLog.bounded_init
  | append_singleton ops op ih =>
      rw [life_concat, log_apply]
      exact ih.run op.logOps

/-- The count is the file's, and so is what `stop` would return.
Source: none: specification
Kind: D -/
structure CountsFile (recorder : PacketRecorder) : Prop where
  count : recorder.packetCount = recorder.file.length
  stopped : ∀ running snifferStop n, (recorder.stop running snifferStop).2 = .ok n →
    n = (recorder.stop running snifferStop).1.file.length

/-- Every `start` that opens the file finds the counter at zero.
Source: none: specification
Kind: D -/
def StartsUncounted (ops : List RecorderOp) : Prop :=
  ∀ asyncSniffer before behind, ops = before ++ .start none asyncSniffer :: behind →
    (life before).packetCount = 0

/-- What `stop` does to the recorder, and what it returns if it does.
Source: `src/packet_engine/recorder.py` `PacketRecorder.stop`
Kind: L -/
lemma stop_spec (recorder : PacketRecorder) {running : Bool} {snifferStop : Option PyExc} :
    (recorder.stop running snifferStop).1 = recorder.closeWriter ∧
      ∀ n, (recorder.stop running snifferStop).2 = .ok n → n = recorder.packetCount := by
  unfold stop
  split
  · exact ⟨rfl, fun n h => nomatch h⟩
  · exact ⟨rfl, fun n h => (Except.ok.inj h).symm⟩

lemma countsFile_iff (recorder : PacketRecorder) : recorder.CountsFile ↔ recorder.log.Exact := by
  constructor
  · intro h
    exact h.count.symm
  · intro h
    refine ⟨h.symm, ?_⟩
    intro running snifferStop n hn
    obtain ⟨hstate, hvalue⟩ := stop_spec recorder
    rw [hstate, hvalue n hn]
    exact h.symm

/-- An operation keeps the count right exactly if it was, and the file is not opened over frames counted.
Source: `src/packet_engine/recorder.py` `PacketRecorder`
Kind: L -/
lemma exact_log_apply_iff {recorder : PacketRecorder} (h : recorder.log.Bounded) (op : RecorderOp) :
    (op.apply recorder).log.Exact ↔
      recorder.log.Exact ∧ ∀ asyncSniffer, op = .start none asyncSniffer → recorder.packetCount = 0 := by
  rw [log_apply]
  rcases op with ⟨_ | e, asyncSniffer⟩ | packet | snifferJoin | ⟨running, snifferStop⟩
  · show (recorder.log.apply .create).Exact ↔ _
    rw [CountedLog.exact_apply_iff h]
    simp [log]
  · simp [RecorderOp.logOps, CountedLog.run]
  · show (recorder.log.apply (.append packet)).Exact ↔ _
    rw [CountedLog.exact_apply_iff h]
    simp
  · show (recorder.log.apply .close).Exact ↔ _
    rw [CountedLog.exact_apply_iff h]
    simp
  · show (recorder.log.apply .close).Exact ↔ _
    rw [CountedLog.exact_apply_iff h]
    simp

/-- **When the recorder's count is the file's**: no recording was started over frames that had been counted.
Source: `src/packet_engine/recorder.py` `PacketRecorder`
Kind: P -/
theorem recorder_count_iff (ops : List RecorderOp) : (life ops).CountsFile ↔ StartsUncounted ops := by
  rw [countsFile_iff]
  induction ops using List.reverseRecOn with
  | nil => simp [life, log, CountedLog.Exact, StartsUncounted]
  | append_singleton ops op ih =>
      rw [life_concat, exact_log_apply_iff (bounded_life ops), ih]
      unfold StartsUncounted
      rw [← forall_and]
      apply forall_congr'
      intro asyncSniffer
      exact (forall_history_concat (P := fun before => (life before).packetCount = 0)).symm

/-- **The second recording counts the first one's frame.**
Source: `src/packet_engine/recorder.py` `PacketRecorder.start`
Kind: P -/
theorem restarted_recorder_miscounts :
    ¬ ∀ ops : List RecorderOp, (life ops).CountsFile := by
  intro h
  have hcount := (h [.start none none, .frame [], .stop true none, .start none none]).count
  exact absurd hcount (by decide +kernel)

end PacketRecorder

end NetstackSuite.PacketEngine
