import NetstackSuite.Lib.Runs
import NetstackSuite.Reporting.Collector
import NetstackSuite.Runner.Tailing
import NetstackSuite.Runner.Acceptance

/-!
# The packet-event channel

Threads of the pytest process call one `PacketEventLogWriter`; the parent process tails the file it
writes. `channelStep` is this system: a call formats its line, takes the lock, writes and flushes
(the reader may see any part of the line), and lets the lock go; `close` may come between any two
calls; the reader polls at any time.

The invariant is that what is on disk and what the lock's holder has still to flush are together the
records of the admitted events, in the order in which their calls took the lock (`Written`). The
reader, by `NetstackSuite.Lib.Tail`, has the complete ones of them.
-/

namespace NetstackSuite.Runner

open NetstackSuite.Python NetstackSuite.Reporting NetstackSuite.Lib

/-! ## The system -/

/-- Where a writer thread is.
Source: `src/reporting/collector.py` `PacketEventLogWriter.__call__`
Kind: D -/
inductive WriterPc where
  /-- Between two calls. -/
  | idle
  /-- Its line formatted, waiting for the lock. -/
  | waiting (event : PacketEvent) (line : PyStr)
  /-- Holding the lock. -/
  | inside
  /-- A call has raised. -/
  | raised (e : PyExc)
  deriving DecidableEq

/-- A writer thread: the calls it has still to make.
Source: `src/reporting/collector.py` `PacketEventLogWriter.__call__`
Kind: D -/
structure Writer where
  calls : List PacketEvent
  pc : WriterPc := .idle
  deriving DecidableEq

/-- The writers, the log writer they share, the file and its reader.
Source: `src/reporting/collector.py` `PacketEventLogWriter`, `src/runner.py` `drain_packet_events`
Kind: D -/
structure Channel where
  writers : List Writer
  /-- `_lock`: its holder, and the bytes the holder has still to flush. -/
  lock : Option (Nat × Bytes) := none
  /-- `_closed` -/
  closed : Bool := false
  /-- `packet_events.jsonl` on disk. -/
  file : Bytes := []
  /-- The reader's offset. -/
  offset : Nat := 0
  /-- `result.packet_events`. -/
  packets : Feed PacketEvent := .empty
  /-- The calls that took the lock before `close`, in order, with their threads. -/
  admitted : List (Nat × PacketEvent) := []
  deriving DecidableEq

/-- What happens next.
Source: `src/reporting/collector.py` `PacketEventLogWriter`
Kind: D -/
inductive ChannelAction where
  /-- A thread makes its next call, and formats the line. -/
  | call (writer : Nat)
  /-- A waiting thread takes the lock; it returns at once if the log writer is closed. -/
  | acquire (writer : Nat)
  /-- Some of what the holder has written reaches the file. -/
  | flush (n : Nat)
  /-- The holder lets the lock go. -/
  | release
  /-- `close()`, under the lock. -/
  | close
  /-- The reader drains. -/
  | poll
  deriving DecidableEq, Repr

/-- How the channel is set up.
Source: none: infrastructure
Kind: D -/
structure ChannelSetup where
  /-- The reader's surroundings. -/
  runtime : Runtime
  callback : Callback PacketEvent
  /-- The recursion limit of the writing process. -/
  depth : Nat
  /-- Does the platform translate newlines? -/
  windows : Bool

/-- One step.
Source: `src/reporting/collector.py` `PacketEventLogWriter`, `src/runner.py` `drain_packet_events`
Kind: D -/
def channelStep (c : ChannelSetup) (s : Channel) : ChannelAction → Option Channel
  | .call i =>
      match s.writers[i]? with
      | some ⟨event :: calls, .idle⟩ =>
          match eventLine c.depth event with
          | .ok line => some { s with writers := s.writers.set i ⟨calls, .waiting event line⟩ }
          | .error e => some { s with writers := s.writers.set i ⟨calls, .raised e⟩ }
      | _ => none
  | .acquire i =>
      match s.lock, s.writers[i]? with
      | none, some ⟨calls, .waiting event line⟩ =>
          if s.closed then some { s with writers := s.writers.set i ⟨calls, .idle⟩ }
          else
            match writeLine c.windows line with
            | .ok bytes => some { s with
                writers := s.writers.set i ⟨calls, .inside⟩
                lock := some (i, bytes)
                admitted := s.admitted ++ [(i, event)] }
            | .error e => some { s with writers := s.writers.set i ⟨calls, .raised e⟩ }
      | _, _ => none
  | .flush n =>
      match s.lock with
      | some (i, left) => some { s with file := s.file ++ left.take n, lock := some (i, left.drop n) }
      | none => none
  | .release =>
      match s.lock with
      | some (i, []) =>
          match s.writers[i]? with
          | some ⟨calls, .inside⟩ =>
              some { s with writers := s.writers.set i ⟨calls, .idle⟩, lock := none }
          | _ => none
      | _ => none
  | .close =>
      match s.lock with
      | none => some { s with closed := true }
      | some _ => none
  | .poll =>
      let r := pollEventsLog c.runtime c.callback (s.offset, s.packets) s.file
      some { s with offset := r.1.1, packets := r.1.2 }

/-- The log writer just opened, each thread with its calls before it.
Source: `src/reporting/collector.py` `PacketEventLogWriter.__init__`
Kind: D -/
def opened (calls : List (List PacketEvent)) : Channel where
  writers := calls.map fun events => ⟨events, .idle⟩

/-- The events of one thread that were admitted, in order.
Source: none: infrastructure
Kind: D -/
def Channel.admittedBy (s : Channel) (i : Nat) : List PacketEvent :=
  (s.admitted.filter fun a => a.1 = i).map Prod.snd

/-- All threads have made all their calls.
Source: none: infrastructure
Kind: D -/
def Channel.finished (s : Channel) : Bool := s.writers.all fun w => w.calls.isEmpty && w.pc = .idle

/-- The event survives `json.dumps` and `json.loads`.
Source: Python `json`
Kind: D -/
def RoundTrips (c : ChannelSetup) (event : PacketEvent) : Prop :=
  ∃ line, eventLine c.depth event = .ok line ∧
    Json.loads c.runtime.recursionLimit line = .ok event.toDict

/-- Whether an event survives can be computed.
Source: none: infrastructure
Kind: D -/
instance (c : ChannelSetup) (event : PacketEvent) : Decidable (RoundTrips c event) :=
  match h : eventLine c.depth event with
  | .error _ => .isFalse fun ⟨_, hline, _⟩ => nomatch h.symm.trans hline
  | .ok line =>
      if hloads : Json.loads c.runtime.recursionLimit line = .ok event.toDict then
        .isTrue ⟨line, h, hloads⟩
      else .isFalse fun ⟨_, hline, hloads'⟩ => by
        rw [h] at hline
        cases hline
        exact hloads hloads'

/-! ## Records -/

/-- A record is one line of the log.
Source: `src/reporting/collector.py` `PacketEventLogWriter.__call__`
Kind: L -/
lemma isLine_record {depth : Nat} {event : PacketEvent} {line : PyStr}
    (h : eventLine depth event = .ok line) (windows : Bool) :
    IsLine NEWLINE (record depth windows event) := by
  obtain ⟨-, b, hrecord, -, -, hmap⟩ := record_spec h windows
  have hb : NEWLINE ∉ b := by
    rw [hmap]
    intro hmem
    obtain ⟨c, hc, heq⟩ := List.mem_map.mp hmem
    obtain ⟨hlo, hhi⟩ := printableAscii_dumps depth _ _ h c hc
    have hval := congrArg UInt8.toNat heq
    rw [UInt8.toNat_ofNat'] at hval
    have hlo' : 0x20 ≤ c.val := hlo
    have hhi' : c.val ≤ 0x7E := hhi
    have hten : NEWLINE.toNat = 10 := rfl
    omega
  rw [hrecord]
  cases windows with
  | false => exact ⟨b, hb, rfl⟩
  | true =>
      refine ⟨b ++ bytes "\r", ?_, by rw [List.append_assoc]; rfl⟩
      rw [List.mem_append]
      exact fun hmem => hmem.elim hb (by decide)

/-- **The reader gets from a record the one line that was written.**
Source: `src/runner.py` `read_new_lines`
Kind: P -/
lemma logLines_record {depth : Nat} {event : PacketEvent} {line : PyStr}
    (h : eventLine depth event = .ok line) (windows : Bool) :
    logLines (record depth windows event) = [line] := by
  obtain ⟨-, b, hrecord, hlow, hdecode, -⟩ := record_spec h windows
  have hsep : ∀ x ∈ linesep windows, x < 0x80 := by
    have hall : (linesep windows).all (fun x => decide (x < 0x80)) = true := by
      cases windows <;> decide
    simpa using hall
  have hdecoded : decodeReplace (record depth windows event) =
      line ++ if windows then [CR, LF] else [LF] := by
    have hall : ∀ x ∈ b ++ linesep windows, x < 0x80 := List.forall_mem_append.mpr ⟨hlow, hsep⟩
    rw [hrecord, decodeReplace_of_ascii hall, List.map_append, ← decodeReplace_of_ascii hlow, hdecode]
    cases windows <;> rfl
  have hbreak : ∀ c ∈ line, isLineBreak c = false := by
    intro c hc
    obtain ⟨hlo, hhi⟩ := printableAscii_dumps depth _ _ h c hc
    have hlo' : 0x20 ≤ c.val := hlo
    have hhi' : c.val ≤ 0x7E := hhi
    simp only [isLineBreak, Bool.or_eq_false_iff, decide_eq_false_iff_not, Fin.ext_iff, LF, CR]
    refine ⟨⟨⟨⟨⟨⟨⟨⟨⟨?_, ?_⟩, ?_⟩, ?_⟩, ?_⟩, ?_⟩, ?_⟩, ?_⟩, ?_⟩, ?_⟩ <;>
      intro he <;> revert hlo' hhi' <;> rw [he] <;> decide
  have hsplit : splitlines (decodeReplace (record depth windows event)) = [line] := by
    rw [hdecoded]
    cases windows with
    | false => exact splitlinesFrom_line [] hbreak
    | true => exact splitlinesFrom_line_crlf [] hbreak
  have hblank : strip line ≠ [] := by
    obtain ⟨rest, rfl⟩ := eventLine_head h
    exact strip_ne_nil_of_head (by decide)
  simp [logLines, hsplit, hblank]

/-- The reader makes the written event of the line, field by field.
Source: `src/runner.py` `drain_packet_events`
Kind: P -/
lemma packetEventOf_toDict (event : PacketEvent) : packetEventOf event.toDict = .ok event := by
  have hne₁ : text "timestamp" ≠ text "direction" := by decide
  have hne₂ : text "timestamp" ≠ text "summary" := by decide
  have hne₃ : text "timestamp" ≠ text "size_bytes" := by decide
  have hne₄ : text "timestamp" ≠ text "test_nodeid" := by decide
  have hne₅ : text "direction" ≠ text "summary" := by decide
  have hne₆ : text "direction" ≠ text "size_bytes" := by decide
  have hne₇ : text "direction" ≠ text "test_nodeid" := by decide
  have hne₈ : text "summary" ≠ text "size_bytes" := by decide
  have hne₉ : text "summary" ≠ text "test_nodeid" := by decide
  have hne₁₀ : text "size_bytes" ≠ text "test_nodeid" := by decide
  simp only [packetEventOf, PacketEvent.toDict, item, getAttr, Json.get, Json.getD, Dict.get, hne₁,
    hne₂, hne₃, hne₄, hne₅, hne₆, hne₇, hne₈, hne₉, hne₁₀, if_false, if_true, Option.getD_some, bind,
    Except.bind, PacketDirection.ofValue_value, pure, Except.pure]

/-- The reader gets the written events from their records, in order.
Source: `src/runner.py` `drain_packet_events`
Kind: P -/
lemma parsedPackets_records {c : ChannelSetup} {events : List PacketEvent}
    (h : ∀ e ∈ events, RoundTrips c e) :
    let lines := logLines (events.map (record c.depth c.windows)).flatten
    AcceptsPackets c.runtime lines ∧ parsedPackets c.runtime lines = events := by
  induction events with
  | nil => exact ⟨nofun, rfl⟩
  | cons event events ih =>
      obtain ⟨⟨line, hline, hloads⟩, hrest⟩ := List.forall_mem_cons.mp h
      obtain ⟨ih₁, ih₂⟩ := ih hrest
      have hparse : parsePacketEventLine c.runtime line = .ok (some event) := by
        rw [parsePacketEventLine, hloads]
        simp only [Except.bind, packetEventOf_toDict]
      intro lines
      have hlines : lines =
          line :: logLines (events.map (record c.depth c.windows)).flatten := by
        show logLines (record c.depth c.windows event ++ _) = _
        rw [logLines_append (isLine_record hline c.windows).framed, logLines_record hline c.windows]
        rfl
      rw [hlines]
      refine ⟨List.forall_mem_cons.mpr ⟨⟨_, hparse⟩, ih₁⟩, ?_⟩
      rw [parsedPackets, List.filterMap_cons, hparse]
      exact congrArg _ ih₂

/-! ## What a step can do -/

/-- What a step can do.
Source: `src/reporting/collector.py` `PacketEventLogWriter`, `src/runner.py` `drain_packet_events`
Kind: D -/
inductive ChannelCases (c : ChannelSetup) (s : Channel) : ChannelAction → Channel → Prop where
  | called {i : Nat} {event : PacketEvent} {calls : List PacketEvent} {line : PyStr}
      (hw : s.writers[i]? = some ⟨event :: calls, .idle⟩) (hline : eventLine c.depth event = .ok line) :
      ChannelCases c s (.call i) { s with writers := s.writers.set i ⟨calls, .waiting event line⟩ }
  | callRaised {i : Nat} {event : PacketEvent} {calls : List PacketEvent} {e : PyExc}
      (hw : s.writers[i]? = some ⟨event :: calls, .idle⟩)
      (hline : eventLine c.depth event = .error e) :
      ChannelCases c s (.call i) { s with writers := s.writers.set i ⟨calls, .raised e⟩ }
  | admitted {i : Nat} {event : PacketEvent} {calls : List PacketEvent} {line : PyStr} {bytes : Bytes}
      (hlock : s.lock = none) (hw : s.writers[i]? = some ⟨calls, .waiting event line⟩)
      (hopen : s.closed = false) (hwrite : writeLine c.windows line = .ok bytes) :
      ChannelCases c s (.acquire i) { s with
        writers := s.writers.set i ⟨calls, .inside⟩
        lock := some (i, bytes)
        admitted := s.admitted ++ [(i, event)] }
  | dropped {i : Nat} {event : PacketEvent} {calls : List PacketEvent} {line : PyStr}
      (hw : s.writers[i]? = some ⟨calls, .waiting event line⟩) (hclosed : s.closed = true) :
      ChannelCases c s (.acquire i) { s with writers := s.writers.set i ⟨calls, .idle⟩ }
  | acquireRaised {i : Nat} {event : PacketEvent} {calls : List PacketEvent} {line : PyStr} {e : PyExc}
      (hw : s.writers[i]? = some ⟨calls, .waiting event line⟩)
      (hwrite : writeLine c.windows line = .error e) :
      ChannelCases c s (.acquire i) { s with writers := s.writers.set i ⟨calls, .raised e⟩ }
  | flushed {i n : Nat} {left : Bytes} (hlock : s.lock = some (i, left)) :
      ChannelCases c s (.flush n) { s with
        file := s.file ++ left.take n
        lock := some (i, left.drop n) }
  | released {i : Nat} {calls : List PacketEvent} (hlock : s.lock = some (i, []))
      (hw : s.writers[i]? = some ⟨calls, .inside⟩) :
      ChannelCases c s .release { s with writers := s.writers.set i ⟨calls, .idle⟩, lock := none }
  | closed (hlock : s.lock = none) : ChannelCases c s .close { s with closed := true }
  | polled : ChannelCases c s .poll { s with
        offset := (pollEventsLog c.runtime c.callback (s.offset, s.packets) s.file).1.1
        packets := (pollEventsLog c.runtime c.callback (s.offset, s.packets) s.file).1.2 }

/-- **What a step can do**: every enabled step is one of the cases.
Source: `src/reporting/collector.py` `PacketEventLogWriter`, `src/runner.py` `drain_packet_events`
Kind: P -/
theorem channelStep_cases {c : ChannelSetup} {s t : Channel} {a : ChannelAction}
    (h : channelStep c s a = some t) : ChannelCases c s a t := by
  cases a with
  | call i =>
      simp only [channelStep] at h
      split at h
      · next hw =>
        split at h <;> cases h
        · next hline => exact .called hw hline
        · next hline => exact .callRaised hw hline
      · cases h
  | acquire i =>
      simp only [channelStep] at h
      split at h
      · next hlock hw =>
        split at h
        · next hclosed =>
          cases h
          exact .dropped hw hclosed
        · next hopen =>
          split at h <;> cases h
          · next hwrite => exact .admitted hlock hw (by simpa using hopen) hwrite
          · next hwrite => exact .acquireRaised hw hwrite
      · cases h
  | flush n =>
      simp only [channelStep] at h
      split at h <;> cases h
      next hlock => exact .flushed hlock
  | release =>
      simp only [channelStep] at h
      split at h
      · next hlock =>
        split at h <;> cases h
        next hw => exact .released hlock hw
      · cases h
  | close =>
      simp only [channelStep] at h
      split at h <;> cases h
      next hlock => exact .closed hlock
  | poll =>
      cases h
      exact .polled

/-! ## Every call is accounted for -/

/-- The event a writer has formatted and not yet handed in.
Source: none: infrastructure
Kind: D -/
def Writer.pending (w : Writer) : List PacketEvent :=
  match w.pc with
  | .waiting event _ => [event]
  | _ => []

/-- Each thread's calls are, in order: those admitted, those dropped after `close`, the one it is at, and
those to come.
Source: `src/reporting/collector.py` `PacketEventLogWriter.__call__`
Kind: D -/
structure Accounted (c : ChannelSetup) (calls : List (List PacketEvent)) (s : Channel) : Prop where
  length : s.writers.length = calls.length
  split : ∀ (i : Nat) (w : Writer) (cs : List PacketEvent), s.writers[i]? = some w →
    calls[i]? = some cs → ∃ dropped, cs = s.admittedBy i ++ dropped ++ w.pending ++ w.calls ∧
      (s.closed = false → dropped = [])
  formatted : ∀ (i : Nat) (cs : List PacketEvent) (event : PacketEvent) (line : PyStr),
    s.writers[i]? = some ⟨cs, .waiting event line⟩ → eventLine c.depth event = .ok line
  members : ∀ a ∈ s.admitted, ∃ cs, calls[a.1]? = some cs ∧ a.2 ∈ cs

variable {c : ChannelSetup} {calls : List (List PacketEvent)} {s t : Channel}

lemma accounted_opened (c : ChannelSetup) (calls : List (List PacketEvent)) :
    Accounted c calls (opened calls) where
  length := by simp [opened]
  split i w cs hw hcs := by
    simp only [opened, List.getElem?_map, hcs, Option.map_some, Option.some.injEq] at hw
    subst hw
    exact ⟨[], by simp [Channel.admittedBy, opened, Writer.pending], fun _ => rfl⟩
  formatted i cs event line hw := by
    simp only [opened, List.getElem?_map, Option.map_eq_some_iff, Writer.mk.injEq] at hw
    obtain ⟨_, _, _, hpc⟩ := hw
    cases hpc
  members := nofun

/-- Replacing one thread's state.
Source: none: infrastructure
Kind: L -/
lemma getElem?_set_writer {ws : List Writer} {i j : Nat} {w w' v : Writer} (hw : ws[i]? = some w)
    (h : (ws.set i w')[j]? = some v) : (j = i ∧ v = w') ∨ (j ≠ i ∧ ws[j]? = some v) := by
  rw [List.getElem?_set] at h
  split at h
  · next hij =>
    have hlt : i < ws.length := (List.getElem?_eq_some_iff.mp hw).1
    rw [if_pos hlt, Option.some_inj] at h
    exact .inl ⟨hij.symm, h.symm⟩
  · next hij => exact .inr ⟨fun he => hij he.symm, h⟩

/-- A change of one thread's state that moves its calls from one part to the next keeps the account.
Source: `src/reporting/collector.py` `PacketEventLogWriter.__call__`
Kind: P -/
lemma Accounted.set (h : Accounted c calls s) {i : Nat} {w w' : Writer}
    (hw : s.writers[i]? = some w) (hwriters : t.writers = s.writers.set i w')
    (hothers : ∀ j, j ≠ i → t.admittedBy j = s.admittedBy j) (hclosed : t.closed = s.closed)
    (hself : ∀ cs dropped, cs = s.admittedBy i ++ dropped ++ w.pending ++ w.calls →
      (s.closed = false → dropped = []) →
        ∃ dropped', cs = t.admittedBy i ++ dropped' ++ w'.pending ++ w'.calls ∧
          (s.closed = false → dropped' = []))
    (hformatted : ∀ cs event line, w' = ⟨cs, .waiting event line⟩ → eventLine c.depth event = .ok line)
    (hmembers : ∀ a ∈ t.admitted, ∃ cs, calls[a.1]? = some cs ∧ a.2 ∈ cs) : Accounted c calls t where
  length := by rw [hwriters, List.length_set, h.length]
  split j v cs hv hcs := by
    rw [hwriters] at hv
    rw [hclosed]
    rcases getElem?_set_writer hw hv with ⟨rfl, rfl⟩ | ⟨hj, hv⟩
    · obtain ⟨dropped, hsplit, hnone⟩ := h.split j w cs hw hcs
      exact hself cs dropped hsplit hnone
    · rw [hothers j hj]
      exact h.split j v cs hv hcs
  formatted j cs event line hv := by
    rw [hwriters] at hv
    rcases getElem?_set_writer hw hv with ⟨rfl, heq⟩ | ⟨-, hv⟩
    · exact hformatted cs event line heq.symm
    · exact h.formatted j cs event line hv
  members := hmembers

/-- The calls of a thread that exists.
Source: none: infrastructure
Kind: L -/
lemma Accounted.calls_of_writer (h : Accounted c calls s) {i : Nat} {w : Writer}
    (hw : s.writers[i]? = some w) : ∃ cs, calls[i]? = some cs := by
  have hlt : i < calls.length := h.length ▸ (List.getElem?_eq_some_iff.mp hw).1
  exact ⟨_, List.getElem?_eq_getElem hlt⟩

/-- **Every step keeps the account**, if the events survive the round trip: no call raises.
Source: `src/reporting/collector.py` `PacketEventLogWriter`
Kind: P -/
lemma Accounted.step (h : Accounted c calls s)
    (hround : ∀ cs ∈ calls, ∀ e ∈ cs, RoundTrips c e) {a : ChannelAction}
    (hstep : ChannelCases c s a t) : Accounted c calls t := by
  cases hstep with
  | @called i event rest line hw hline =>
      refine h.set hw rfl (fun _ _ => rfl) rfl (fun cs dropped hsplit hnone => ?_) ?_ h.members
      · refine ⟨dropped, ?_, hnone⟩
        rw [hsplit]
        simp [Writer.pending, Channel.admittedBy]
      · rintro _ _ _ ⟨⟩
        exact hline
  | @callRaised i event rest e hw hline =>
      obtain ⟨cs, hcs⟩ := h.calls_of_writer hw
      obtain ⟨dropped, hsplit, -⟩ := h.split i _ cs hw hcs
      have hmem : event ∈ cs := by
        rw [hsplit]
        simp
      obtain ⟨line, hok, -⟩ := hround cs (List.mem_of_getElem? hcs) event hmem
      rw [hok] at hline
      cases hline
  | @admitted i event rest line bytes hlock hw hopen hwrite =>
      obtain ⟨cs, hcs⟩ := h.calls_of_writer hw
      obtain ⟨dropped, hsplit, hnone⟩ := h.split i _ cs hw hcs
      refine h.set hw rfl (fun j hj => ?_) rfl (fun cs dropped hsplit hnone => ?_) nofun ?_
      · simp [Channel.admittedBy, List.filter_append, Ne.symm hj]
      · refine ⟨[], ?_, fun _ => rfl⟩
        rw [hsplit, hnone hopen]
        simp [Channel.admittedBy, List.filter_append, Writer.pending]
      · refine List.forall_mem_append.mpr ⟨h.members, ?_⟩
        simp only [List.mem_singleton, forall_eq]
        refine ⟨cs, hcs, ?_⟩
        rw [hsplit]
        simp [Writer.pending]
  | @dropped i event rest line hw hclosed =>
      refine h.set hw rfl (fun _ _ => rfl) rfl (fun cs dropped hsplit _ => ?_) nofun h.members
      refine ⟨dropped ++ [event], ?_, ?_⟩
      · rw [hsplit]
        simp [Writer.pending, Channel.admittedBy]
      · intro hopen
        rw [hclosed] at hopen
        cases hopen
  | @acquireRaised i event rest line e hw hwrite =>
      have hline := h.formatted i rest event line hw
      rw [(record_spec hline c.windows).1] at hwrite
      cases hwrite
  | flushed hlock => exact ⟨h.length, h.split, h.formatted, h.members⟩
  | @released i rest hlock hw =>
      refine h.set hw rfl (fun _ _ => rfl) rfl (fun cs dropped hsplit hnone => ?_) nofun h.members
      exact ⟨dropped, hsplit, hnone⟩
  | closed hlock =>
      refine ⟨h.length, ?_, h.formatted, h.members⟩
      intro i w cs hw hcs
      obtain ⟨dropped, hsplit, -⟩ := h.split i w cs hw hcs
      exact ⟨dropped, hsplit, nofun⟩
  | polled => exact ⟨h.length, h.split, h.formatted, h.members⟩

/-! ## What is on disk -/

/-- What the holder of the lock has still to flush.
Source: `src/reporting/collector.py` `PacketEventLogWriter.__call__`
Kind: D -/
def Channel.unflushed (s : Channel) : Bytes :=
  match s.lock with
  | some (_, left) => left
  | none => []

/-- The admitted events, in the order of the lock.
Source: none: infrastructure
Kind: D -/
def Channel.events (s : Channel) : List PacketEvent := s.admitted.map Prod.snd

/-- What is on disk and what is still to be flushed are the records of the admitted events.
Source: `src/reporting/collector.py` `PacketEventLogWriter`
Kind: D -/
def Written (c : ChannelSetup) (s : Channel) : Prop :=
  s.file ++ s.unflushed = (s.events.map (record c.depth c.windows)).flatten

/-- **Every step keeps the disk in order.**
Source: `src/reporting/collector.py` `PacketEventLogWriter`
Kind: P -/
lemma Written.step (h : Written c s) (haccounted : Accounted c calls s) {a : ChannelAction}
    (hstep : ChannelCases c s a t) : Written c t := by
  unfold Written Channel.unflushed Channel.events at *
  cases hstep with
  | called hw hline => exact h
  | callRaised hw hline => exact h
  | @admitted i event rest line bytes hlock hw hopen hwrite =>
      have hline := haccounted.formatted i rest event line hw
      rw [(record_spec hline c.windows).1] at hwrite
      cases hwrite
      rw [hlock, List.append_nil] at h
      simp [h]
  | dropped hw hclosed => exact h
  | acquireRaised hw hwrite => exact h
  | @flushed i n left hlock =>
      rw [hlock] at h
      show (s.file ++ left.take n) ++ left.drop n = _
      rw [List.append_assoc, List.take_append_drop]
      exact h
  | released hlock hw =>
      rw [hlock] at h
      exact h
  | closed hlock => exact h
  | polled => exact h

/-! ## What the reader has -/

/-- The reader stands behind a line and has the events of the lines before.
Source: `src/runner.py` `drain_packet_events`
Kind: D -/
structure HasRead (c : ChannelSetup) (s : Channel) : Prop where
  boundary : AtBoundary NEWLINE s.file s.offset
  events : s.packets.events = parsedPackets c.runtime (logLines (s.file.take s.offset))

/-- Admitted events survive the round trip.
Source: none: infrastructure
Kind: L -/
lemma Accounted.roundTrips (h : Accounted c calls s)
    (hround : ∀ cs ∈ calls, ∀ e ∈ cs, RoundTrips c e) : ∀ e ∈ s.events, RoundTrips c e := by
  intro e he
  obtain ⟨a, ha, rfl⟩ := List.mem_map.mp he
  obtain ⟨cs, hcs, hmem⟩ := h.members a ha
  exact hround cs (List.mem_of_getElem? hcs) a.2 hmem

/-- **The complete lines on disk are the records of the first few admitted events.**
Source: `src/reporting/collector.py` `PacketEventLogWriter`
Kind: P -/
lemma Written.completePart (h : Written c s) (hround : ∀ e ∈ s.events, RoundTrips c e) {p : Bytes}
    (hp : p <+: s.file) :
    ∃ k, Lib.completePart NEWLINE p =
      ((s.events.take k).map (record c.depth c.windows)).flatten := by
  have hlines : ∀ x ∈ s.events.map (record c.depth c.windows), IsLine NEWLINE x := by
    intro x hx
    obtain ⟨e, he, rfl⟩ := List.mem_map.mp hx
    obtain ⟨line, hline, -⟩ := hround e he
    exact isLine_record hline c.windows
  have hpre : p <+: (s.events.map (record c.depth c.windows)).flatten :=
    h ▸ hp.trans (List.prefix_append _ _)
  obtain ⟨k, hk⟩ := completePart_of_isPrefix_flatten hlines hpre
  exact ⟨k, by rw [hk, List.map_take]⟩

/-- A poll returns: it meets nothing but complete records.
Source: `src/runner.py` `drain_packet_events`
Kind: P -/
lemma HasRead.drain (h : HasRead c s) (hwritten : Written c s) (hquiet : Quiet c.callback)
    (hround : ∀ e ∈ s.events, RoundTrips c e) :
    let r := drainPacketEvents c.runtime c.callback (some s.file) s.offset s.packets
    let chunk := Lib.completePart NEWLINE (s.file.drop s.offset)
    r.2 = .ok (s.offset + chunk.length) ∧
      r.1.events = parsedPackets c.runtime (logLines (Lib.completePart NEWLINE s.file)) := by
  intro r chunk
  obtain ⟨-, htake, hdone⟩ := h.boundary.consume
  obtain ⟨k, hk⟩ := hwritten.completePart hround List.prefix_rfl
  have haccepts : AcceptsPackets c.runtime (logLines chunk) := by
    have htaken : ∀ e ∈ s.events.take k, RoundTrips c e :=
      fun e he => hround e (List.mem_of_mem_take he)
    have hall := (parsedPackets_records htaken).1
    rw [← hk, hdone, htake, logLines_append h.boundary.framed] at hall
    exact fun l hl => hall l (List.mem_append_right _ hl)
  have hok : r.2 = .ok (s.offset + chunk.length) :=
    drainPacketEvents_of_accepts haccepts (hquiet.raisesOnly _ _)
  refine ⟨hok, ?_⟩
  obtain ⟨-, hevents⟩ :=
    (drainPacketEvents_spec c.runtime c.callback (some s.file) s.offset s.packets).2 _ hok
  rw [hevents, hdone, htake, logLines_append h.boundary.framed, parsedPackets_append, h.events]
  rfl

/-- **Every step keeps the reader at a line, with the events before it.**
Source: `src/runner.py` `drain_packet_events`
Kind: P -/
lemma HasRead.step (h : HasRead c s) (hwritten : Written c s) (hquiet : Quiet c.callback)
    (hround : ∀ e ∈ s.events, RoundTrips c e) {a : ChannelAction} (hstep : ChannelCases c s a t) :
    HasRead c t := by
  cases hstep with
  | called hw hline => exact ⟨h.boundary, h.events⟩
  | callRaised hw hline => exact ⟨h.boundary, h.events⟩
  | admitted hlock hw hopen hwrite => exact ⟨h.boundary, h.events⟩
  | dropped hw hclosed => exact ⟨h.boundary, h.events⟩
  | acquireRaised hw hwrite => exact ⟨h.boundary, h.events⟩
  | @flushed i n left hlock =>
      obtain ⟨hboundary, htake⟩ := h.boundary.append (left.take n)
      refine ⟨hboundary, ?_⟩
      show s.packets.events = parsedPackets c.runtime (logLines ((s.file ++ left.take n).take s.offset))
      rw [htake]
      exact h.events
  | released hlock hw => exact ⟨h.boundary, h.events⟩
  | closed hlock => exact ⟨h.boundary, h.events⟩
  | polled =>
      obtain ⟨hok, hevents⟩ := h.drain hwritten hquiet hround
      obtain ⟨hboundary, -, hdone⟩ := h.boundary.consume
      rcases hr : drainPacketEvents c.runtime c.callback (some s.file) s.offset s.packets with
        ⟨feed, result⟩
      rw [hr] at hok hevents
      obtain rfl : result = .ok _ := hok
      have hpoll : pollEventsLog c.runtime c.callback (s.offset, s.packets) s.file =
          ((s.offset + (completePart NEWLINE (s.file.drop s.offset)).length, feed), none) := by
        rw [pollEventsLog, hr]
        rfl
      rw [hpoll]
      refine ⟨hboundary, ?_⟩
      show feed.events = parsedPackets c.runtime (logLines (s.file.take _))
      rw [← hdone]
      exact hevents

/-! ## The channel is exact -/

/-- **The packet-event channel loses nothing, repeats nothing and reorders nothing.** For any threads with
any calls, in every state that any interleaving of them, of `close` and of polls can reach: what the
reader has is the beginning of the admitted events; each thread's admitted events are the
beginning of its calls, and all of them once it has made them and `close` has not come; and when no
write is under way, a drain makes what the reader has exactly the admitted events, in the order of
the lock, field by field, with the offset at the end of the file.
Source: `src/reporting/collector.py` `PacketEventLogWriter`, `src/runner.py` `drain_packet_events`
Kind: P -/
theorem channel_exact (c : ChannelSetup) (hquiet : Quiet c.callback)
    (calls : List (List PacketEvent)) (hround : ∀ cs ∈ calls, ∀ e ∈ cs, RoundTrips c e) {s : Channel}
    (hs : Reaches (channelStep c) (fun _ _ => True) (opened calls) s) :
    s.packets.events <+: s.events ∧
      (∀ (i : Nat) (cs : List PacketEvent), calls[i]? = some cs →
        s.admittedBy i <+: cs ∧
          (s.closed = false → s.finished = true → s.admittedBy i = cs)) ∧
      (s.lock = none →
        let r := drainPacketEvents c.runtime c.callback (some s.file) s.offset s.packets
        r.1.events = s.events ∧ r.2 = .ok s.file.length) := by
  have hinv : Accounted c calls s ∧ Written c s ∧ HasRead c s := by
    refine hs.invariant (fun s => Accounted c calls s ∧ Written c s ∧ HasRead c s) ?_ ?_
    · exact ⟨accounted_opened c calls, rfl, .zero _, rfl⟩
    · rintro s a t ⟨haccounted, hwritten, hread⟩ - hstep
      have hcases := channelStep_cases hstep
      exact ⟨haccounted.step hround hcases, hwritten.step haccounted hcases,
        hread.step hwritten hquiet (haccounted.roundTrips hround) hcases⟩
  obtain ⟨haccounted, hwritten, hread⟩ := hinv
  have hevents := haccounted.roundTrips hround
  refine ⟨?_, ?_, ?_⟩
  · -- the reader's offset is behind the first few records
    obtain ⟨k, hk⟩ := hwritten.completePart hevents (List.take_prefix s.offset s.file)
    rw [completePart_of_framed hread.boundary.framed] at hk
    rw [hread.events, hk, (parsedPackets_records fun e he => hevents e (List.mem_of_mem_take he)).2]
    exact List.take_prefix k _
  · intro i cs hcs
    have hlt : i < s.writers.length := by
      rw [haccounted.length]
      exact (List.getElem?_eq_some_iff.mp hcs).1
    obtain ⟨dropped, hsplit, hnone⟩ :=
      haccounted.split i s.writers[i] cs (List.getElem?_eq_getElem hlt) hcs
    refine ⟨⟨dropped ++ s.writers[i].pending ++ s.writers[i].calls, ?_⟩, ?_⟩
    · rw [hsplit, List.append_assoc, List.append_assoc, List.append_assoc]
    · intro hopen hfinished
      rw [Channel.finished, List.all_eq_true] at hfinished
      have hw := hfinished s.writers[i] (List.getElem_mem hlt)
      simp only [Bool.and_eq_true, List.isEmpty_iff, decide_eq_true_eq] at hw
      rw [hsplit, hnone hopen, hw.1, Writer.pending, hw.2]
      simp
  · intro hlock
    have hfile : s.file = (s.events.map (record c.depth c.windows)).flatten := by
      have h := hwritten
      rw [Written, Channel.unflushed, hlock, List.append_nil] at h
      exact h
    have hframed : Framed NEWLINE s.file := by
      rw [hfile]
      apply framed_flatten
      intro x hx
      obtain ⟨e, he, rfl⟩ := List.mem_map.mp hx
      obtain ⟨line, hline, -⟩ := hevents e he
      exact isLine_record hline c.windows
    obtain ⟨hok, hdrained⟩ := hread.drain hwritten hquiet hevents
    rw [completePart_of_framed hframed] at hdrained
    refine ⟨?_, ?_⟩
    · rw [hdrained, hfile]
      exact (parsedPackets_records hevents).2
    · obtain ⟨-, htake, hdone⟩ := hread.boundary.consume
      rw [completePart_of_framed hframed] at hdone
      have hlength := congrArg List.length (hdone.trans htake)
      rw [List.length_append, List.length_take_of_le hread.boundary.le] at hlength
      rw [hok, ← hlength]

/-- A channel on a platform that does not translate newlines, read without a callback.
Source: none: infrastructure
Kind: D -/
def plainSetup : ChannelSetup where
  runtime := plainRuntime
  callback := none
  depth := 1000
  windows := false

/-- An event for concrete runs.
Source: none: infrastructure
Kind: D -/
def plainEvent (direction : PacketDirection) (size : Int) : PacketEvent where
  timestamp := .float (.ofDecimal false 17000000005 (-1))
  direction := direction
  summary := .str (text "IP / TCP")
  sizeBytes := .int size
  testNodeid := .null

/-- The calls of two threads.
Source: none: infrastructure
Kind: D -/
def twoWriters : List (List PacketEvent) :=
  [[plainEvent .sent 54, plainEvent .received 60], [plainEvent .sent 40]]

/-- They take turns, the reader sees half a line, and `close` comes before the first thread's second call
takes the lock.
Source: none: infrastructure
Kind: D -/
def closingActions : List ChannelAction :=
  [.call 0, .call 1, .acquire 1, .flush 30, .poll, .flush 500, .release, .acquire 0, .flush 7, .poll,
    .flush 500, .release, .call 0, .close, .acquire 0]

/-- The theorem on that run: two events are admitted, and read in the order of the lock.
Source: `src/reporting/collector.py` `PacketEventLogWriter`
Kind: P -/
theorem channel_exact_closing :
    ∃ s, Reaches (channelStep plainSetup) (fun _ _ => True) (opened twoWriters) s ∧
      (drainPacketEvents plainRuntime none (some s.file) s.offset s.packets).1.events =
        [plainEvent .sent 40, plainEvent .sent 54] := by
  have hround : ∀ cs ∈ twoWriters, ∀ e ∈ cs, RoundTrips plainSetup e := by decide +kernel
  have hrun : (execute (channelStep plainSetup) (fun _ _ => true) (opened twoWriters) closingActions).any
      (fun s => s.lock = none && s.events = [plainEvent .sent 40, plainEvent .sent 54]) = true := by
    decide +kernel
  obtain ⟨s, hs, hend⟩ := (Option.any_eq_true _ _).mp hrun
  simp only [Bool.and_eq_true, decide_eq_true_eq] at hend
  obtain ⟨hlock, hevents⟩ := hend
  have hreach := reaches_of_execute (fun _ _ _ => trivial) .start hs
  obtain ⟨-, -, hexact⟩ := channel_exact plainSetup quiet_none twoWriters hround hreach
  exact ⟨s, hreach, (hexact hlock).1.trans hevents⟩

end NetstackSuite.Runner
