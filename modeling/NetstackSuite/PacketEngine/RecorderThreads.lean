import NetstackSuite.Lib.Runs
import NetstackSuite.PacketEngine.Recorder

/-!
# The recorder's two threads

`PacketRecorder._handle` on the sniffer's thread, one step at a time, beside `join` and `stop` on the caller's. The
handler reads the writer once and uses it twice, without a lock and without a handler for what these uses raise; the
caller closes the writer and forgets it, in two steps.

`handler_survives` says which runs the handler survives with every frame accounted for: those in which no frame is
taken up with a closed writer, the writer is not closed while the handler uses it, writing and flushing succeed, and
the sinks raise nothing but what `except Exception` catches. `doomed_of_not_harmless` says that there are no others.
-/

namespace NetstackSuite.PacketEngine

open NetstackSuite.Lib NetstackSuite.Python

/-! ## The threads -/

/-- Where the handler is: ready for a frame; with a writer read, before its writing, its flushing, its counting; before
the next sink; or ended by an exception, and the sniffer's thread with it.
Source: `src/packet_engine/recorder.py` `PacketRecorder._handle`
Kind: D -/
inductive Handler where
  | ready
  | writing (packet : Packet)
  | flushing (packet : Packet)
  | counting (packet : Packet)
  | telling (packet : Packet) (sink : Nat)
  | raised (e : PyExc)
  deriving DecidableEq

/-- Where the caller is: outside; in `join` or `stop`, waiting for the sniffer; or in `_close_writer`, before its test,
its closing, its assignment.
Source: `src/packet_engine/recorder.py` `PacketRecorder.join`, `PacketRecorder.stop`, `PacketRecorder._close_writer`
Kind: D -/
inductive Caller where
  | outside
  | waiting
  | testing
  | closing
  | clearing
  deriving DecidableEq, Repr

/-- A recording that has been started. `writer` says whether `self._writer` is set, `isOpen` whether the writer is
open.
Source: `src/packet_engine/recorder.py` `PacketRecorder`
Kind: D -/
structure Recording where
  writer : Bool := true
  isOpen : Bool := true
  /-- The frames whose writing completed. -/
  written : List Packet := []
  packetCount : Nat := 0
  /-- The frames offered, each with the number of the sink. -/
  offered : List (Packet × Nat) := []
  handler : Handler := .ready
  caller : Caller := .outside
  /-- The sniffer's thread has ended by itself. -/
  sniffed : Bool := false
  deriving DecidableEq

/-- A step of the handler, with what the writer or the sink raises in it.
Source: `src/packet_engine/recorder.py` `PacketRecorder._handle`
Kind: D -/
inductive HandlerMove where
  | write (failure : Option PyExc)
  | flush (failure : Option PyExc)
  | count
  | tell (failure : Option PyExc)
  deriving DecidableEq

/-- What the writer or the sink raises ends the handler.
Source: none: specification
Kind: D -/
def HandlerMove.fails : HandlerMove → Bool
  | .write failure | .flush failure => failure.isSome
  | .count => false
  | .tell failure => failure.any fun e => !isCaught e

/-- A step of the caller. A wait is over when the sniffer's thread has ended, or by an exception: the sniffer's, or
Ctrl+C.
Source: `src/packet_engine/recorder.py` `PacketRecorder.join`, `PacketRecorder.stop`, `PacketRecorder._close_writer`
Kind: D -/
inductive CallerMove where
  | call
  | waitOver (returned : Bool)
  | test
  | close (failure : Option PyExc)
  | clear
  deriving DecidableEq

/-- What happens next.
Source: `src/packet_engine/recorder.py` `PacketRecorder`
Kind: D -/
inductive RecordingAction where
  | frame (packet : Packet)
  | handler (move : HandlerMove)
  | caller (move : CallerMove)
  deriving DecidableEq

namespace Recording

section Steps

-- How many sinks are subscribed.
variable (sinks : Nat)

/-- Source: Python `io.IOBase`. Kind: D -/
def useOfWriter (s : Recording) (failure : Option PyExc) : Option PyExc :=
  if s.isOpen then failure else some .valueError

/-- The loop over the sinks, from one of them on.
Source: `src/packet_engine/recorder.py` `PacketRecorder._handle`
Kind: D -/
def tellFrom (packet : Packet) (sink : Nat) : Handler := if sink < sinks then .telling packet sink else .ready

/-- Source: `src/packet_engine/recorder.py` `PacketRecorder._handle`. Kind: D -/
def handlerStep (s : Recording) (move : HandlerMove) : Option Recording :=
  match move, s.handler with
  | .write failure, .writing packet =>
      match s.useOfWriter failure with
      | some e => some { s with handler := .raised e }
      | none => some { s with
          written := s.written ++ [packet]
          handler := .flushing packet }
  | .flush failure, .flushing packet =>
      match s.useOfWriter failure with
      | some e => some { s with handler := .raised e }
      | none => some { s with handler := .counting packet }
  | .count, .counting packet => some { s with
      packetCount := s.packetCount + 1
      handler := tellFrom sinks packet 0 }
  | .tell failure, .telling packet sink =>
      match failure.filter fun e => !isCaught e with
      | some e => some { s with
          offered := s.offered ++ [(packet, sink)]
          handler := .raised e }
      | none => some { s with
          offered := s.offered ++ [(packet, sink)]
          handler := tellFrom sinks packet (sink + 1) }
  | _, _ => none

/-- Source: `src/packet_engine/recorder.py` `PacketRecorder.join`, `PacketRecorder._close_writer`. Kind: D -/
def callerStep (s : Recording) (move : CallerMove) : Option Recording :=
  match move, s.caller with
  | .call, .outside => some { s with caller := .waiting }
  | .waitOver false, .waiting => some { s with caller := .testing }
  | .waitOver true, .waiting =>
      if s.handler = .ready then some { s with
        caller := .testing
        sniffed := true }
      else none
  | .test, .testing => some { s with caller := if s.writer then .closing else .outside }
  | .close failure, .closing => some { s with
      isOpen := false
      caller := if failure.isNone then .clearing else .outside }
  | .clear, .clearing => some { s with
      writer := false
      caller := .outside }
  | _, _ => none

/-- One step. The sniffer hands a frame to a handler that is ready for it, which reads the writer, and drops the frame
if there is none.
Source: `src/packet_engine/recorder.py` `PacketRecorder`
Kind: D -/
def step (s : Recording) : RecordingAction → Option Recording
  | .frame packet =>
      if s.handler = .ready ∧ s.sniffed = false then
        some (if s.writer then { s with handler := .writing packet } else s)
      else none
  | .handler move => handlerStep sinks s move
  | .caller move => callerStep s move

end Steps

/-! ## Every packet written, counted and offered once -/

/-- Each packet offered to each sink, in order.
Source: none: specification
Kind: D -/
def offers (sinks : Nat) (packets : List Packet) : List (Packet × Nat) :=
  packets.flatMap fun packet => (List.range sinks).map fun sink => (packet, sink)

/-- The handler has raised nothing, and each frame written has been counted once and offered to every sink in order;
the one in hand as far as the handler has come.
Source: none: specification
Kind: D -/
def Accounted (sinks : Nat) (s : Recording) : Prop :=
  match s.handler with
  | .ready | .writing _ => s.packetCount = s.written.length ∧ s.offered = offers sinks s.written
  | .flushing packet | .counting packet =>
      ∃ before, s.written = before ++ [packet] ∧ s.packetCount = before.length ∧ s.offered = offers sinks before
  | .telling packet sink =>
      ∃ before, s.written = before ++ [packet] ∧ s.packetCount = s.written.length ∧ sink < sinks ∧
        s.offered = offers sinks before ++ (List.range sink).map fun k => (packet, k)
  | .raised _ => False

/-- The handler is between reading the writer and its last use.
Source: none: specification
Kind: D -/
def usesWriter (s : Recording) : Bool :=
  match s.handler with
  | .writing _ | .flushing _ => true
  | _ => false

/-- A step that does the handler no harm.
Source: none: specification
Kind: D -/
def harmless (s : Recording) : RecordingAction → Bool
  | .frame _ => !s.writer || s.isOpen
  | .handler move => !move.fails
  | .caller (.close _) => !s.usesWriter
  | .caller _ => true

/-- A step of the handler that does not end it.
Source: none: specification
Kind: D -/
def harmlessStep (sinks : Nat) (s : Recording) (move : HandlerMove) : Option Recording :=
  if move.fails then none else handlerStep sinks s move

/-- What every run of harmless steps keeps: the frames are accounted for, and a writer in use is open.
Source: none: specification
Kind: D -/
structure Sound (sinks : Nat) (s : Recording) : Prop where
  accounted : Accounted sinks s
  inUse : s.usesWriter = true → s.isOpen = true

/-- The frame in hand is done with: the handler has returned, and every frame written has been counted once and offered
to every sink in order.
Source: none: specification
Kind: D -/
def Returned (sinks : Nat) (s : Recording) : Prop :=
  s.handler = .ready ∧ s.packetCount = s.written.length ∧ s.offered = offers sinks s.written

/-- Source: none: specification. Kind: D -/
def Raised (s : Recording) : Prop := ∃ e, s.handler = .raised e

/-- What the handler has still to do for the frame in hand.
Source: none: infrastructure
Kind: D -/
def remaining (sinks : Nat) (s : Recording) : Nat :=
  match s.handler with
  | .ready => 0
  | .writing _ => sinks + 4
  | .flushing _ => sinks + 3
  | .counting _ => sinks + 2
  | .telling _ sink => sinks - sink + 1
  | .raised _ => 0

/-- The handler has raised, or will with its next step: it uses a closed writer.
Source: none: specification
Kind: D -/
def Doomed (s : Recording) : Prop := s.Raised ∨ (s.usesWriter = true ∧ s.isOpen = false)

/-! ## What a step does -/

variable {sinks : Nat} {s t : Recording}

/-- Source: none: infrastructure. Kind: L -/
lemma offers_concat (before : List Packet) (packet : Packet) :
    offers sinks (before ++ [packet]) =
      offers sinks before ++ (List.range sinks).map fun sink => (packet, sink) := by
  rw [offers, List.flatMap_append, List.flatMap_singleton]
  rfl

/-- A writer that does what is asked of it is open.
Source: none: infrastructure
Kind: L -/
lemma useOfWriter_none (hopen : s.isOpen = true) : s.useOfWriter none = none := by
  rw [useOfWriter, if_pos hopen]

/-- The frame in hand, written, counted and offered to the sinks so far, wherever the loop over the sinks goes on.
Source: `src/packet_engine/recorder.py` `PacketRecorder._handle`
Kind: L -/
lemma accounted_tellFrom {before : List Packet} {packet : Packet} {sink : Nat} (hsink : sink ≤ sinks)
    (hwritten : s.written = before ++ [packet]) (hcount : s.packetCount = s.written.length)
    (hoffered : s.offered = offers sinks before ++ (List.range sink).map fun k => (packet, k))
    (hhandler : s.handler = tellFrom sinks packet sink) : Accounted sinks s := by
  rw [tellFrom] at hhandler
  split at hhandler
  · next hless =>
    rw [Accounted, hhandler]
    exact ⟨before, hwritten, hcount, hless, hoffered⟩
  · next hmore =>
    obtain rfl : sink = sinks := by omega
    rw [Accounted, hhandler]
    constructor
    · exact hcount
    · rw [hoffered, hwritten, offers_concat]

/-- Source: `src/packet_engine/recorder.py` `PacketRecorder._handle`. Kind: L -/
lemma usesWriter_tellFrom {packet : Packet} {sink : Nat} (hhandler : s.handler = tellFrom sinks packet sink) :
    s.usesWriter = false := by
  rw [tellFrom] at hhandler
  split at hhandler <;> rw [usesWriter, hhandler]

/-- Source: none: infrastructure. Kind: L -/
lemma remaining_tellFrom {packet : Packet} {sink : Nat} (hhandler : s.handler = tellFrom sinks packet sink) :
    s.remaining sinks ≤ sinks - sink + 1 := by
  rw [tellFrom] at hhandler
  split at hhandler <;> simp [remaining, hhandler]

/-- **One step of the handler**, if nothing harms it: the frames stay accounted for, and less is left to do.
Source: `src/packet_engine/recorder.py` `PacketRecorder._handle`
Kind: L -/
lemma sound_handlerStep {move : HandlerMove} (hs : Sound sinks s) (hmove : move.fails = false)
    (h : handlerStep sinks s move = some t) : Sound sinks t ∧ t.remaining sinks < s.remaining sinks := by
  obtain ⟨haccounted, hopen⟩ := hs
  unfold handlerStep at h
  split at h
  case h_1 failure packet hhandler =>
    obtain rfl : failure = none := by simpa [HandlerMove.fails] using hmove
    rw [Accounted, hhandler] at haccounted
    rw [useOfWriter_none (hopen (by rw [usesWriter, hhandler]))] at h
    cases h
    refine ⟨⟨?_, fun _ => hopen (by rw [usesWriter, hhandler])⟩, by simp [remaining, hhandler]⟩
    exact ⟨s.written, rfl, haccounted⟩
  case h_2 failure packet hhandler =>
    obtain rfl : failure = none := by simpa [HandlerMove.fails] using hmove
    rw [Accounted, hhandler] at haccounted
    rw [useOfWriter_none (hopen (by rw [usesWriter, hhandler]))] at h
    cases h
    exact ⟨⟨haccounted, nofun⟩, by simp [remaining, hhandler]⟩
  case h_3 packet hhandler =>
    rw [Accounted, hhandler] at haccounted
    obtain ⟨before, hwritten, hcount, hoffered⟩ := haccounted
    cases h
    refine ⟨⟨?_, ?_⟩, ?_⟩
    · apply accounted_tellFrom (Nat.zero_le sinks)
      · exact hwritten
      · simp [hwritten, hcount]
      · simp [hoffered]
      · rfl
    · intro huses
      rw [usesWriter_tellFrom rfl] at huses
      cases huses
    · apply lt_of_le_of_lt (remaining_tellFrom rfl)
      simp [remaining, hhandler]
  case h_4 failure packet sink hhandler =>
    have hcaught : (failure.filter fun e => !isCaught e) = none := by
      apply Option.filter_eq_none_iff.2
      intro e he hraised
      simp [HandlerMove.fails, he, hraised] at hmove
    rw [Accounted, hhandler] at haccounted
    obtain ⟨before, hwritten, hcount, hsink, hoffered⟩ := haccounted
    rw [hcaught] at h
    cases h
    refine ⟨⟨?_, ?_⟩, ?_⟩
    · apply accounted_tellFrom hsink
      · exact hwritten
      · exact hcount
      · simp [hoffered, List.range_succ]
      · rfl
    · intro huses
      rw [usesWriter_tellFrom rfl] at huses
      cases huses
    · apply lt_of_le_of_lt (remaining_tellFrom rfl)
      simp only [remaining, hhandler]
      omega
  case h_5 => cases h

/-- **One step of the caller**, if it does not close a writer in use.
Source: `src/packet_engine/recorder.py` `PacketRecorder.join`, `PacketRecorder.stop`, `PacketRecorder._close_writer`
Kind: L -/
lemma sound_callerStep {move : CallerMove} (hs : Sound sinks s) (hmove : s.harmless (.caller move) = true)
    (h : callerStep s move = some t) : Sound sinks t := by
  obtain ⟨haccounted, hopen⟩ := hs
  unfold callerStep at h
  split at h
  case h_5 failure hcaller =>
    cases h
    have hfree : s.usesWriter = false := by simpa [harmless] using hmove
    refine ⟨haccounted, fun huses => ?_⟩
    exact absurd huses (by simpa [usesWriter] using hfree)
  case h_3 =>
    split at h <;> cases h
    exact ⟨haccounted, hopen⟩
  case h_7 => cases h
  all_goals
    cases h
    exact ⟨haccounted, hopen⟩

/-- **One step**, if nothing harms the handler.
Source: `src/packet_engine/recorder.py` `PacketRecorder`
Kind: L -/
lemma sound_step {action : RecordingAction} (hs : Sound sinks s) (haction : s.harmless action = true)
    (h : step sinks s action = some t) : Sound sinks t := by
  cases action with
  | frame packet =>
      rw [step] at h
      split at h
      · next hready =>
        cases h
        split
        · next hwriter =>
          refine ⟨?_, fun _ => ?_⟩
          · have haccounted := hs.accounted
            rw [Accounted, hready.1] at haccounted
            exact haccounted
          · simpa [harmless, hwriter] using haction
        · exact hs
      · cases h
  | handler move =>
      have hmove : move.fails = false := by simpa [harmless] using haction
      exact (sound_handlerStep hs hmove h).1
  | caller move => exact sound_callerStep hs haction h

/-- The handler does not get stuck.
Source: `src/packet_engine/recorder.py` `PacketRecorder._handle`
Kind: L -/
lemma harmlessStep_enabled (hs : Sound sinks s) (hbusy : s.handler ≠ .ready) :
    ∃ move t, harmlessStep sinks s move = some t := by
  cases hhandler : s.handler with
  | ready => exact absurd hhandler hbusy
  | writing packet =>
      have hopen := hs.inUse (by rw [usesWriter, hhandler])
      refine ⟨.write none, Option.isSome_iff_exists.1 ?_⟩
      simp [harmlessStep, HandlerMove.fails, handlerStep, hhandler, useOfWriter_none hopen]
  | flushing packet =>
      have hopen := hs.inUse (by rw [usesWriter, hhandler])
      refine ⟨.flush none, Option.isSome_iff_exists.1 ?_⟩
      simp [harmlessStep, HandlerMove.fails, handlerStep, hhandler, useOfWriter_none hopen]
  | counting packet =>
      refine ⟨.count, Option.isSome_iff_exists.1 ?_⟩
      simp [harmlessStep, HandlerMove.fails, handlerStep, hhandler]
  | telling packet sink =>
      refine ⟨.tell none, Option.isSome_iff_exists.1 ?_⟩
      simp [harmlessStep, HandlerMove.fails, handlerStep, hhandler]
  | raised e =>
      have haccounted := hs.accounted
      rw [Accounted, hhandler] at haccounted
      exact haccounted.elim

/-- What a step of the handler keeps that does not end it.
Source: `src/packet_engine/recorder.py` `PacketRecorder._handle`
Kind: L -/
lemma sound_harmlessStep {move : HandlerMove} (hs : Sound sinks s) (h : harmlessStep sinks s move = some t) :
    Sound sinks t ∧ t.remaining sinks < s.remaining sinks := by
  rw [harmlessStep] at h
  split at h
  · cases h
  · next hmove => exact sound_handlerStep hs (by simpa using hmove) h

/-- What every run of harmless steps comes to.
Source: `src/packet_engine/recorder.py` `PacketRecorder`
Kind: L -/
lemma sound_of_reaches (h : Reaches (step sinks) (fun s a => s.harmless a = true) {} s) : Sound sinks s := by
  apply h.invariant (Sound sinks)
  · refine ⟨?_, nofun⟩
    exact ⟨rfl, rfl⟩
  · intro s a t hs hok hstep
    exact sound_step hs hok hstep

/-! ## When the handler survives -/

/-- **The handler survives what does it no harm**: in every state of every such run of the two threads it has raised
nothing, the frames are accounted for, and with its own steps it returns, with every frame written counted once and
offered to every sink in order.
Source: `src/packet_engine/recorder.py` `PacketRecorder._handle`
Kind: P -/
theorem handler_survives (sinks : Nat) (s : Recording)
    (h : Reaches (step sinks) (fun s a => s.harmless a = true) {} s) :
    Accounted sinks s ∧ Inevitable (harmlessStep sinks) (Returned sinks) s := by
  have hs := sound_of_reaches h
  refine ⟨hs.accounted, ?_⟩
  apply Inevitable.of_measure (remaining sinks) _ _ hs
  · intro s move t hs hstep
    exact sound_harmlessStep hs hstep
  · intro s hs hbusy
    apply harmlessStep_enabled hs
    intro hready
    have haccounted := hs.accounted
    rw [Accounted, hready] at haccounted
    exact hbusy ⟨hready, haccounted⟩

/-- A frame that two sinks are offered, of which the first raises, while the caller waits in vain; then the capture is
closed.
Source: none: infrastructure
Kind: D -/
def harmlessRun : Option Recording :=
  execute (step 2) harmless {}
    [.frame [], .handler (.write none), .caller .call, .handler (.flush none), .handler .count,
      .handler (.tell (some .valueError)), .caller (.waitOver false), .caller .test, .caller (.close none),
      .handler (.tell none), .caller .clear, .frame []]

/-- **A run in which a sink raises and the wait is interrupted**: the frame is counted, and both sinks are offered it.
Source: `src/packet_engine/recorder.py` `PacketRecorder._handle`
Kind: P -/
theorem failing_sink_survived :
    ∃ s, harmlessRun = some s ∧ s.packetCount = 1 ∧ s.offered = [([], 0), ([], 1)] ∧
      Inevitable (harmlessStep 2) (Returned 2) s := by
  have hrun : harmlessRun.map (fun s => (s.packetCount, s.offered)) = some (1, [([], 0), ([], 1)]) := by decide +kernel
  obtain ⟨s, hs, hend⟩ := Option.map_eq_some_iff.1 hrun
  obtain ⟨hcount, hoffered⟩ := Prod.mk.inj hend
  refine ⟨s, hs, hcount, hoffered, (handler_survives 2 s ?_).2⟩
  exact reaches_of_execute (fun _ _ h => h) .start hs

/-! ## When it does not -/

/-- Source: Python `io.IOBase`. Kind: L -/
lemma useOfWriter_raises {failure : Option PyExc} (h : failure.isSome = true ∨ s.isOpen = false) :
    ∃ e, s.useOfWriter failure = some e := by
  rw [useOfWriter]
  split
  · next hopen =>
    apply Option.isSome_iff_exists.1
    simpa [hopen] using h
  · exact ⟨.valueError, rfl⟩

/-- What the writer or a sink raises past the handler's guards ends it.
Source: `src/packet_engine/recorder.py` `PacketRecorder._handle`
Kind: L -/
lemma raised_of_harm {move : HandlerMove} (hharm : move.fails = true ∨ (s.usesWriter = true ∧ s.isOpen = false))
    (h : handlerStep sinks s move = some t) : Raised t := by
  unfold handlerStep at h
  split at h
  case h_1 failure packet hhandler =>
    obtain ⟨e, he⟩ := useOfWriter_raises (hharm.imp_right And.right)
    rw [he] at h
    cases h
    exact ⟨e, rfl⟩
  case h_2 failure packet hhandler =>
    obtain ⟨e, he⟩ := useOfWriter_raises (hharm.imp_right And.right)
    rw [he] at h
    cases h
    exact ⟨e, rfl⟩
  case h_3 packet hhandler => simp [HandlerMove.fails, usesWriter, hhandler] at hharm
  case h_4 failure packet sink hhandler =>
    cases failure with
    | none => simp [HandlerMove.fails, usesWriter, hhandler] at hharm
    | some e =>
        have he : isCaught e = false := by simpa [HandlerMove.fails, usesWriter, hhandler] using hharm
        simp only [Option.filter_some, he, Bool.not_false, if_true] at h
        cases h
        exact ⟨e, rfl⟩
  case h_5 => cases h

/-- Source: `src/packet_engine/recorder.py` `PacketRecorder._handle`. Kind: L -/
lemma handlerStep_of_raised (hs : Raised s) (move : HandlerMove) : handlerStep sinks s move = none := by
  obtain ⟨e, he⟩ := hs
  unfold handlerStep
  split
  case h_5 => rfl
  all_goals
    next hhandler =>
    rw [he] at hhandler
    cases hhandler

/-- The next step of the doomed handler.
Source: `src/packet_engine/recorder.py` `PacketRecorder._handle`
Kind: L -/
lemma raised_of_doomed {move : HandlerMove} (hs : Doomed s) (h : handlerStep sinks s move = some t) : Raised t := by
  rcases hs with hraised | hclosed
  · rw [handlerStep_of_raised hraised] at h
    cases h
  · exact raised_of_harm (Or.inr hclosed) h

/-- The doomed handler is not ready for a frame.
Source: `src/packet_engine/recorder.py` `PacketRecorder._handle`
Kind: L -/
lemma not_ready_of_doomed (hs : Doomed s) : s.handler ≠ .ready := by
  intro hready
  rcases hs with ⟨e, he⟩ | ⟨huses, -⟩
  · rw [hready] at he
    cases he
  · rw [usesWriter, hready] at huses
    cases huses

/-- The caller leaves the handler where it is, and opens no writer.
Source: `src/packet_engine/recorder.py` `PacketRecorder.join`, `PacketRecorder.stop`, `PacketRecorder._close_writer`
Kind: L -/
lemma callerStep_frame {move : CallerMove} (h : callerStep s move = some t) :
    t.handler = s.handler ∧ (s.isOpen = false → t.isOpen = false) := by
  unfold callerStep at h
  split at h
  case h_3 =>
    split at h <;> cases h
    exact ⟨rfl, id⟩
  case h_5 =>
    cases h
    exact ⟨rfl, fun _ => rfl⟩
  case h_7 => cases h
  all_goals
    cases h
    exact ⟨rfl, id⟩

/-- Source: `src/packet_engine/recorder.py` `PacketRecorder._close_writer`. Kind: L -/
lemma callerStep_close {failure : Option PyExc} (h : callerStep s (.close failure) = some t) :
    t.handler = s.handler ∧ t.isOpen = false := by
  cases hcaller : s.caller with
  | closing =>
      simp only [callerStep, hcaller] at h
      cases h
      exact ⟨rfl, rfl⟩
  | _ => simp [callerStep, hcaller] at h

/-- Doom is not averted.
Source: `src/packet_engine/recorder.py` `PacketRecorder`
Kind: L -/
lemma doomed_step {action : RecordingAction} (hs : Doomed s) (h : step sinks s action = some t) : Doomed t := by
  cases action with
  | frame packet =>
      rw [step, if_neg fun hready => not_ready_of_doomed hs hready.1] at h
      cases h
  | handler move => exact Or.inl (raised_of_doomed hs h)
  | caller move =>
      obtain ⟨hhandler, hclosed⟩ := callerStep_frame h
      rw [Doomed, Raised, usesWriter, hhandler]
      exact hs.imp_right (And.imp_right hclosed)

/-- Any step that is not harmless dooms it.
Source: `src/packet_engine/recorder.py` `PacketRecorder`
Kind: L -/
lemma doomed_of_harm {action : RecordingAction} (haction : s.harmless action = false)
    (h : step sinks s action = some t) : Doomed t := by
  cases action with
  | frame packet =>
      obtain ⟨hwriter, hclosed⟩ : s.writer = true ∧ s.isOpen = false := by simpa [harmless] using haction
      rw [step, if_pos hwriter] at h
      split at h <;> cases h
      exact Or.inr ⟨rfl, hclosed⟩
  | handler move =>
      have hmove : move.fails = true := by simpa [harmless] using haction
      exact Or.inl (raised_of_harm (Or.inl hmove) h)
  | caller move =>
      cases move with
      | close failure =>
          have huses : s.usesWriter = true := by simpa [harmless] using haction
          obtain ⟨hhandler, hclosed⟩ := callerStep_close h
          rw [Doomed, usesWriter, hhandler]
          exact Or.inr ⟨huses, hclosed⟩
      | _ => cases haction

/-- The doomed handler raises.
Source: `src/packet_engine/recorder.py` `PacketRecorder._handle`
Kind: L -/
lemma inevitable_of_doomed (hs : Doomed s) : Inevitable (handlerStep sinks) Raised s := by
  rcases hs with hraised | ⟨huses, hclosed⟩
  · exact .now hraised
  · apply Inevitable.later
    · rw [usesWriter] at huses
      split at huses
      · next hhandler =>
        exact ⟨.write none, Option.isSome_iff_exists.1 (by simp [handlerStep, hhandler, useOfWriter, hclosed])⟩
      · next hhandler =>
        exact ⟨.flush none, Option.isSome_iff_exists.1 (by simp [handlerStep, hhandler, useOfWriter, hclosed])⟩
      · cases huses
    · intro move t hstep
      exact .now (raised_of_harm (Or.inr ⟨huses, hclosed⟩) hstep)

/-- **Nothing else does the handler no harm**: after any other step, whatever the two threads do, it has raised or will
with its next step.
Source: `src/packet_engine/recorder.py` `PacketRecorder._handle`
Kind: P -/
theorem doomed_of_not_harmless (sinks : Nat) (s t u : Recording) (action : RecordingAction)
    (haction : s.harmless action = false) (h : step sinks s action = some t)
    (hu : Reaches (step sinks) (fun _ _ => True) t u) : Inevitable (handlerStep sinks) Raised u := by
  apply inevitable_of_doomed
  apply hu.invariant Doomed (doomed_of_harm haction h)
  intro s a t hs _ hstep
  exact doomed_step hs hstep

/-- A frame is written; Ctrl+C interrupts the wait, and the writer is closed before the frame is flushed.
Source: none: infrastructure
Kind: D -/
def interruptedRun : Option Recording :=
  execute (step 1) (fun _ _ => true) {}
    [.frame [], .handler (.write none), .caller .call, .caller (.waitOver false), .caller .test, .caller (.close none),
      .handler (.flush none)]

/-- **A writer closed under the handler ends the capture**: `ValueError`, without a failure of the writer or of a sink,
and a frame written is neither counted nor offered.
Source: `src/packet_engine/recorder.py` `PacketRecorder._handle`, `PacketRecorder.join`
Kind: P -/
theorem closed_writer_ends_capture :
    ∃ s, Reaches (step 1) (fun _ _ => True) {} s ∧
      s.handler = .raised .valueError ∧ s.written = [[]] ∧ s.packetCount = 0 ∧ s.offered = [] := by
  have hrun : interruptedRun = some { ({} : Recording) with
      isOpen := false
      written := [[]]
      handler := .raised .valueError
      caller := .clearing } := by
    decide +kernel
  exact ⟨_, reaches_of_execute (fun _ _ _ => trivial) .start hrun, rfl, rfl, rfl, rfl⟩

end Recording

end NetstackSuite.PacketEngine
