import NetstackSuite.Runner.Verdict

/-!
# What a drain leaves, and when it gets through

Specifications of the two drains for **every** callback, raising or not: what is in the result
afterwards even if the drain raised, and what more is there if it returned; and the conditions on the
lines (`Accepts`, `AcceptsPackets`) and on the callback (`QuietOn` the events that the lines announce)
under which a drain returns.
-/

namespace NetstackSuite.Runner

open NetstackSuite.Python NetstackSuite.Reporting NetstackSuite.Lib

/-! ## Callbacks -/

section

variable {α : Type}

/-- If the callback raises on one of these values, given to it one after the other behind the calls made
before, then the first exception is of this kind.
Source: none: infrastructure
Kind: D -/
def RaisesOnly (P : PyExc → Prop) (callback : Callback α) : List α → List α → Prop
  | _, [] => True
  | calls, a :: values =>
      match callback.bind fun call => call calls a with
      | none => RaisesOnly P callback (calls ++ [a]) values
      | some e => P e

/-- The callback raises on none of these values.
Source: none: infrastructure
Kind: D -/
def QuietOn (callback : Callback α) (calls values : List α) : Prop :=
  RaisesOnly (fun _ => False) callback calls values

variable {P : PyExc → Prop} {callback : Callback α}

/-- A callback that never raises.
Source: none: infrastructure
Kind: L -/
lemma Quiet.raisesOnly (h : Quiet callback) (calls values : List α) : RaisesOnly P callback calls values := by
  induction values generalizing calls with
  | nil => trivial
  | cons a values ih =>
      have hreturns : (callback.bind fun call => call calls a) = none := by
        cases callback with
        | none => rfl
        | some call => exact h call rfl calls a
      rw [RaisesOnly, hreturns]
      exact ih _

lemma raisesOnly_none (calls values : List α) : RaisesOnly P (none : Callback α) calls values :=
  Quiet.raisesOnly (fun _ hcall => absurd hcall (by simp)) calls values

/-- One value is announced: the callback returns, and the others are still to come, or its exception is
of the kind.
Source: `src/runner.py` `drain_test_events`, `drain_packet_events`
Kind: L -/
lemma RaisesOnly.announce {feed : Feed α} {a : α} {values : List α}
    (h : RaisesOnly P callback feed.calls (a :: values)) :
    ((announce callback feed a).2 = none ∧ RaisesOnly P callback (announce callback feed a).1.calls values) ∨
      ∃ e, (announce callback feed a).2 = some e ∧ P e := by
  cases callback with
  | none => exact .inl ⟨rfl, raisesOnly_none _ _⟩
  | some call =>
      rw [RaisesOnly, Option.bind_some] at h
      cases hcall : call feed.calls a with
      | none =>
          rw [hcall] at h
          exact .inl ⟨hcall, h⟩
      | some e =>
          rw [hcall] at h
          exact .inr ⟨e, hcall, h⟩

end

/-! ## Test events -/

/-- The parser and the merge accept the lines, one after the other, from the given tests on.
Source: `src/runner.py` `drain_test_events`
Kind: D -/
def Accepts (R : Runtime) : List TestEvent → List PyStr → Prop
  | _, [] => True
  | tests, line :: lines =>
      match parseReportLogLine R line with
      | .error _ => False
      | .ok none => Accepts R tests lines
      | .ok (some event) =>
          event.key ≠ none ∧ (worstWins.upsert tests event).2 = none ∧
            Accepts R (worstWins.upsert tests event).1.1 lines

/-- The events that the lines announce, as far as they are accepted: what each of them adds or makes worse.
Source: `src/runner.py` `drain_test_events`
Kind: D -/
def announcedTests (R : Runtime) : List TestEvent → List PyStr → List TestEvent
  | _, [] => []
  | tests, line :: lines =>
      match parseReportLogLine R line with
      | .error _ => []
      | .ok none => announcedTests R tests lines
      | .ok (some event) =>
          (worstWins.upsert tests event).1.2.toList ++ announcedTests R (worstWins.upsert tests event).1.1 lines

/-- Acceptance can be computed.
Source: none: infrastructure
Kind: D -/
instance decidableAccepts (R : Runtime) :
    ∀ tests lines, Decidable (Accepts R tests lines)
  | _, [] => .isTrue trivial
  | tests, line :: lines =>
      match h : parseReportLogLine R line with
      | .error _ => .isFalse (by simp [Accepts, h])
      | .ok none =>
          have := decidableAccepts R tests lines
          decidable_of_iff (Accepts R tests lines) (by simp [Accepts, h])
      | .ok (some event) =>
          have := decidableAccepts R (worstWins.upsert tests event).1.1 lines
          decidable_of_iff (event.key ≠ none ∧ (worstWins.upsert tests event).2 = none ∧
            Accepts R (worstWins.upsert tests event).1.1 lines) (by simp [Accepts, h])

/-- A step never lowers the rank of a nodeid, even if it raises.
Source: `src/runner.py` `drain_test_events`
Kind: L -/
lemma rankOf_le_mergeStep (R : Runtime) (callback : Callback TestEvent) (feed : Feed TestEvent)
    (line : PyStr) (k : Option HashKey) :
    worstWins.rankOf feed.events k ≤
      worstWins.rankOf (mergeStep R callback feed line).1.events k := by
  rw [mergeStep]
  split
  · exact le_rfl
  · exact le_rfl
  · split
    · exact le_rfl
    · rw [mergeEventInto_events]
      exact worstWins.rankOf_le_collect feed.events [_] k

/-- **What a drain of test events leaves.** Whatever happens, no test is lost and no outcome gets
better; if it returns, every event of the lines read is accounted for.
Source: `src/runner.py` `drain_test_events`
Kind: P -/
theorem drainTestEvents_spec (R : Runtime) (callback : Callback TestEvent) (file : Option Bytes)
    (offset : Nat) {feed : Feed TestEvent} (hkeyed : WellKeyed feed.events) :
    let r := drainTestEvents R callback file offset feed
    WellKeyed r.1.events ∧
      (∀ k, worstWins.rankOf feed.events k ≤ worstWins.rankOf r.1.events k) ∧
      ∀ newOffset, r.2 = .ok newOffset →
        newOffset = (readNewLines file offset).2 ∧
          ∀ e ∈ parsedEvents R (readNewLines file offset).1, worstWins.Absorbs r.1.events e := by
  intro r
  have hr : r = returning (run (mergeStep R callback) (readNewLines file offset).1 feed)
      (readNewLines file offset).2 := drainTestEvents_eq R callback file offset hkeyed
  have hkeyed' := run_invariant (fun feed : Feed TestEvent => WellKeyed feed.events)
    (readNewLines file offset).1 hkeyed fun feed line _ h => h.mergeStep R callback line
  have hrank : ∀ k, worstWins.rankOf feed.events k ≤
      worstWins.rankOf (run (mergeStep R callback) (readNewLines file offset).1 feed).1.events k :=
    fun k => run_invariant
      (fun feed' : Feed TestEvent => worstWins.rankOf feed.events k ≤
        worstWins.rankOf feed'.events k)
      _ le_rfl fun feed' line _ h => h.trans (rankOf_le_mergeStep R callback feed' line k)
  rcases hrun : run (mergeStep R callback) (readNewLines file offset).1 feed with ⟨feed', _ | e⟩ <;>
    rw [hrun] at hr hkeyed' hrank <;> rw [hr]
  · refine ⟨hkeyed', hrank, fun newOffset hok => ⟨?_, ?_⟩⟩
    · cases hok
      rfl
    · intro e he
      change worstWins.Absorbs feed'.events e
      rw [run_mergeStep_events hrun]
      exact worstWins.absorbs_collect he
  · exact ⟨hkeyed', hrank, nofun⟩

/-- What is accounted for stays so while no outcome gets better.
Source: `src/runner.py` `drain_test_events`
Kind: L -/
lemma absorbs_of_rankOf_le {tests tests' : List TestEvent} {e : TestEvent}
    (h : worstWins.Absorbs tests e)
    (hle : ∀ k, worstWins.rankOf tests k ≤ worstWins.rankOf tests' k) : worstWins.Absorbs tests' e :=
  le_trans h (hle _)

/-- An event accounted for has a test of the same nodeid with its outcome or a worse one.
Source: `src/runner.py` `drain_test_events`
Kind: L -/
lemma exists_of_absorbs {tests : List TestEvent} {e : TestEvent} (h : worstWins.Absorbs tests e) :
    ∃ t ∈ tests, t.key = e.key ∧ e.outcome ≤ t.outcome := by
  simp only [Ranked.Absorbs, Ranked.rankOf] at h
  split at h
  · next t ht =>
    have hk := List.find?_some ht
    exact ⟨t, List.mem_of_find?_eq_some ht, of_decide_eq_true hk, WithBot.coe_le_coe.mp h⟩
  · exact absurd (le_bot_iff.mp h) WithBot.coe_ne_bot

/-- A merge that raises nothing itself announces what changed.
Source: `src/runner.py` `drain_test_events`
Kind: L -/
lemma RaisesOnly.merge {P : PyExc → Prop} {callback : Callback TestEvent} {feed : Feed TestEvent}
    {event : TestEvent} {values : List TestEvent} (hup : (worstWins.upsert feed.events event).2 = none)
    (h : RaisesOnly P callback feed.calls ((worstWins.upsert feed.events event).1.2.toList ++ values)) :
    ((mergeEventInto callback feed event).2 = none ∧
        RaisesOnly P callback (mergeEventInto callback feed event).1.calls values) ∨
      ∃ e, (mergeEventInto callback feed event).2 = some e ∧ P e := by
  rw [mergeEventInto]
  rcases hr : worstWins.upsert feed.events event with ⟨⟨tests, changed⟩, raised⟩
  rw [hr] at hup h
  obtain rfl : raised = none := hup
  cases changed with
  | none => exact .inl ⟨rfl, h⟩
  | some changed =>
      let merged : Feed TestEvent := { feed with events := tests }
      have hmerged : RaisesOnly P callback merged.calls (changed :: values) := h
      exact hmerged.announce

/-- **A drain of accepted lines raises only what its callback raises.**
Source: `src/runner.py` `drain_test_events`
Kind: P -/
lemma run_mergeStep_of_accepts {R : Runtime} {callback : Callback TestEvent} {lines : List PyStr}
    {feed : Feed TestEvent} {P : PyExc → Prop} (h : Accepts R feed.events lines)
    (hcallback : RaisesOnly P callback feed.calls (announcedTests R feed.events lines)) :
    ∀ e, (run (mergeStep R callback) lines feed).2 = some e → P e := by
  induction lines generalizing feed with
  | nil => exact nofun
  | cons line lines ih =>
      rw [Accepts] at h
      rw [announcedTests] at hcallback
      rw [run_cons, mergeStep]
      rcases hp : parseReportLogLine R line with e | _ | event <;> rw [hp] at h hcallback
      · exact h.elim
      · exact ih h hcallback
      · obtain ⟨hkey, hup, hrest⟩ := h
        simp only [hkey, if_false]
        have hevents := mergeEventInto_events callback feed event
        rcases hcallback.merge hup with ⟨hreturns, hcalls⟩ | ⟨e, hraised, hP⟩
        · rcases hm : mergeEventInto callback feed event with ⟨feed', raised⟩
          rw [hm] at hevents hreturns hcalls
          obtain rfl : raised = none := hreturns
          rw [andThen_none]
          exact ih (by rwa [hevents]) (by rwa [hevents])
        · rcases hm : mergeEventInto callback feed event with ⟨feed', raised⟩
          rw [hm] at hraised
          obtain rfl : raised = some e := hraised
          rintro _ ⟨⟩
          exact hP

/-- A drain of accepted lines returns, if the callback raises on nothing that they announce.
Source: `src/runner.py` `drain_test_events`
Kind: L -/
lemma drainTestEvents_of_accepts {R : Runtime} {callback : Callback TestEvent} {file : Option Bytes}
    {offset : Nat} {feed : Feed TestEvent} (hkeyed : WellKeyed feed.events)
    (h : Accepts R feed.events (readNewLines file offset).1)
    (hquiet : QuietOn callback feed.calls (announcedTests R feed.events (readNewLines file offset).1)) :
    (drainTestEvents R callback file offset feed).2 = .ok (readNewLines file offset).2 := by
  have hraised := run_mergeStep_of_accepts h hquiet
  rw [drainTestEvents_eq R callback file offset hkeyed]
  rcases hrun : run (mergeStep R callback) (readNewLines file offset).1 feed with ⟨feed', _ | e⟩
  · rfl
  · rw [hrun] at hraised
    exact (hraised e rfl).elim

/-! ## Packet events -/

/-- The events the lines of a packet-event log yield, in order.
Source: `src/runner.py` `drain_packet_events`
Kind: D -/
def parsedPackets (R : Runtime) (lines : List PyStr) : List PacketEvent :=
  lines.filterMap fun line =>
    match parsePacketEventLine R line with
    | .ok event => event
    | .error _ => none

/-- The parser raises on none of the lines.
Source: `src/runner.py` `drain_packet_events`
Kind: D -/
def AcceptsPackets (R : Runtime) (lines : List PyStr) : Prop :=
  ∀ line ∈ lines, ∃ event, parsePacketEventLine R line = .ok event

/-- Acceptance can be computed.
Source: none: infrastructure
Kind: D -/
instance decidableAcceptsPackets (R : Runtime) (lines : List PyStr) :
    Decidable (AcceptsPackets R lines) :=
  decidable_of_iff (∀ line ∈ lines, (parsePacketEventLine R line).isOk = true) (by
    apply forall₂_congr
    intro line _
    cases parsePacketEventLine R line <;> simp [Except.isOk, Except.toBool])

lemma parsedPackets_append (R : Runtime) (lines lines' : List PyStr) :
    parsedPackets R (lines ++ lines') = parsedPackets R lines ++ parsedPackets R lines' :=
  List.filterMap_append

/-- One step appends the event of its line, if the parser does not raise.
Source: `src/runner.py` `drain_packet_events`
Kind: L -/
lemma packetStep_events (R : Runtime) (callback : Callback PacketEvent) (feed : Feed PacketEvent)
    (line : PyStr) :
    (packetStep R callback feed line).1.events = feed.events ++ parsedPackets R [line] := by
  rw [packetStep]
  rcases hp : parsePacketEventLine R line with e | _ | event <;> simp [parsedPackets, hp]

/-- **What a drain of packet events leaves.** Whatever happens, what was there stays in front; if it
returns, the events of the lines read follow, in order.
Source: `src/runner.py` `drain_packet_events`
Kind: P -/
theorem run_packetStep_events (R : Runtime) (callback : Callback PacketEvent) (lines : List PyStr)
    (feed : Feed PacketEvent) :
    feed.events <+: (run (packetStep R callback) lines feed).1.events ∧
      ((run (packetStep R callback) lines feed).2 = none →
        (run (packetStep R callback) lines feed).1.events =
          feed.events ++ parsedPackets R lines) := by
  induction lines generalizing feed with
  | nil => exact ⟨List.prefix_rfl, fun _ => (List.append_nil _).symm⟩
  | cons line lines ih =>
      have hstep := packetStep_events R callback feed line
      rw [run_cons]
      rcases hs : packetStep R callback feed line with ⟨feed', _ | e⟩ <;> rw [hs] at hstep
      · obtain ⟨ih₁, ih₂⟩ := ih feed'
        rw [andThen_none]
        refine ⟨(hstep ▸ List.prefix_append _ _).trans ih₁, ?_⟩
        intro hnone
        have happ := parsedPackets_append R [line] lines
        rw [List.singleton_append] at happ
        rw [ih₂ hnone, hstep, happ, List.append_assoc]
      · exact ⟨hstep ▸ List.prefix_append _ _, nofun⟩

/-- The same for a drain.
Source: `src/runner.py` `drain_packet_events`
Kind: P -/
theorem drainPacketEvents_spec (R : Runtime) (callback : Callback PacketEvent) (file : Option Bytes)
    (offset : Nat) (feed : Feed PacketEvent) :
    let r := drainPacketEvents R callback file offset feed
    feed.events <+: r.1.events ∧
      ∀ newOffset, r.2 = .ok newOffset →
        newOffset = (readNewLines file offset).2 ∧
          r.1.events = feed.events ++ parsedPackets R (readNewLines file offset).1 := by
  intro r
  have hr : r = returning (run (packetStep R callback) (readNewLines file offset).1 feed)
      (readNewLines file offset).2 := drainPacketEvents_eq R callback file offset feed
  obtain ⟨h₁, h₂⟩ := run_packetStep_events R callback (readNewLines file offset).1 feed
  rcases hrun : run (packetStep R callback) (readNewLines file offset).1 feed with ⟨feed', _ | e⟩ <;>
    rw [hrun] at hr h₁ h₂ <;> rw [hr]
  · refine ⟨h₁, fun newOffset hok => ⟨?_, h₂ rfl⟩⟩
    cases hok
    rfl
  · exact ⟨h₁, nofun⟩

/-- **A drain of accepted packet lines raises only what its callback raises.**
Source: `src/runner.py` `drain_packet_events`
Kind: P -/
lemma run_packetStep_of_accepts {R : Runtime} {callback : Callback PacketEvent} {lines : List PyStr}
    {feed : Feed PacketEvent} {P : PyExc → Prop} (h : AcceptsPackets R lines)
    (hcallback : RaisesOnly P callback feed.calls (parsedPackets R lines)) :
    ∀ e, (run (packetStep R callback) lines feed).2 = some e → P e := by
  induction lines generalizing feed with
  | nil => exact nofun
  | cons line lines ih =>
      have hrest : AcceptsPackets R lines := fun l hl => h l (List.mem_cons_of_mem _ hl)
      obtain ⟨event, hp⟩ := h line List.mem_cons_self
      have hvalues : parsedPackets R (line :: lines) = event.toList ++ parsedPackets R lines := by
        cases event <;> simp [parsedPackets, hp]
      rw [hvalues] at hcallback
      rw [run_cons, packetStep, hp]
      cases event with
      | none => exact ih hrest hcallback
      | some event =>
          dsimp only
          let added : Feed PacketEvent := { feed with events := feed.events ++ [event] }
          have hadded : RaisesOnly P callback added.calls (event :: parsedPackets R lines) := hcallback
          rcases hadded.announce with ⟨hreturns, hcalls⟩ | ⟨e, hraised, hP⟩
          · rcases hm : announce callback added event with ⟨feed', raised⟩
            rw [hm] at hreturns hcalls
            obtain rfl : raised = none := hreturns
            rw [andThen_none]
            exact ih hrest hcalls
          · rcases hm : announce callback added event with ⟨feed', raised⟩
            rw [hm] at hraised
            obtain rfl : raised = some e := hraised
            rintro _ ⟨⟩
            exact hP

/-- A drain of accepted packet lines returns, if the callback raises on none of their events.
Source: `src/runner.py` `drain_packet_events`
Kind: L -/
lemma drainPacketEvents_of_accepts {R : Runtime} {callback : Callback PacketEvent}
    {file : Option Bytes} {offset : Nat} {feed : Feed PacketEvent}
    (h : AcceptsPackets R (readNewLines file offset).1)
    (hquiet : QuietOn callback feed.calls (parsedPackets R (readNewLines file offset).1)) :
    (drainPacketEvents R callback file offset feed).2 = .ok (readNewLines file offset).2 := by
  have hraised := run_packetStep_of_accepts h hquiet
  rw [drainPacketEvents_eq]
  rcases hrun : run (packetStep R callback) (readNewLines file offset).1 feed with ⟨feed', _ | e⟩
  · rfl
  · rw [hrun] at hraised
    exact (hraised e rfl).elim

end NetstackSuite.Runner
