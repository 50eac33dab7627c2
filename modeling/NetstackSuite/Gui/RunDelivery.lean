import NetstackSuite.Gui.RunLifecycle
import NetstackSuite.Runner.Channel

/-!
# The delivery of runs

Sessions whose drains return and whose results can be written as JSON deliver every run once
(`runs_delivered`). A run whose result cannot be written is lost: `_finalize` catches only the
`RunArtifactError` that `save` makes of an `OSError`, and what `asdict` or `json.dumps` raises leaves the slot
in front of the emission (`Sound.lost`). A line of the packet-event log can do it that the suite's own reader
accepts: `asdict` takes more of the recursion limit for a list than the parser does
(`deep_summary_not_delivered`).
-/

namespace NetstackSuite.Gui

open NetstackSuite.Python NetstackSuite.Reporting NetstackSuite.Runner NetstackSuite.Lib

variable {w : Surroundings}

namespace Session

variable {s : Session}

/-- What a session promises between two slots: each run whose process is over has been delivered, once,
and none in flight has; and the timer rests when no run is in flight.
Source: `src/gui/run_controller.py` `RunController`
Kind: D -/
structure Delivered (w : Surroundings) (s : Session) : Prop where
  escaped : s.escaped = none
  once : ∀ k run, s.runs[k]? = some run → DeliveredOnce w run (s.deliveries k)
  none_else : ∀ k, s.runs.length ≤ k → s.deliveries k = []
  timer : s.isIdle = true → s.controller.timerActive = false

/-- **Every run is delivered once**, in every state of every session whose drains return and whose results
can be written as JSON.
Source: `src/gui/run_controller.py` `RunController`
Kind: P -/
theorem runs_delivered (w : Surroundings) {s : Session}
    (h : Reaches (Session.step w) (Orderly w) {} s) : s.Delivered w := by
  have hsound : s.Sound w := h.invariant (Session.Sound w) Sound.nil fun _ _ _ hs hok hnext =>
    hs.step hok hnext
  exact ⟨hsound.escaped, hsound.deliveries, hsound.none_else, hsound.idle⟩

/-! ## A run that finishes and is delivered -/

/-- Whether a result can be written is decided by writing it.
Source: none: infrastructure
Kind: D -/
instance (w : Surroundings) (result : TestRunResult) : Decidable (Recordable w result) :=
  decidable_of_iff
    ((∀ v ∈ result.object.records, v.copyFrames w.limits.asdict ≤ w.limits.asdict.frames) ∧
      (Json.dumpsWith (some 2) 0 w.limits.dumps (result.object.toDict w.iso)).isOk = true) (by
      unfold Recordable
      cases Json.dumpsWith (some 2) 0 w.limits.dumps (result.object.toDict w.iso) <;> simp [Except.isOk,
        Except.toBool])

/-- What a recursion limit of 1000 leaves under Python 3.11.
Source: Python `sys.getrecursionlimit`
Kind: D -/
def plainLimits : RecursionLimits where
  dumps := 990
  loads := 990
  asdict := { frames := 990, container := 2, scalar := 3 }
  four_le_dumps := by decide
  four_le_loads := by decide
  two_le_asdict := by decide

/-- Surroundings with the default recursion limit.
Source: none: infrastructure
Kind: D -/
def plainSurroundings : Surroundings where
  runtime := plainRuntime
  iso := sampleIso
  limits := plainLimits
  windows := false

/-- A run with a packet event; it is polled, and finishes.
Source: none: infrastructure
Kind: D -/
def closingEvents : List ControllerEvent :=
  [.start plainHeader, .launched 0, .write 0 [] sentLine, .poll,
    .finished 0 0 .normalExit ⟨true, true⟩ 1000000]

/-- A check that is enough for a step to be orderly.
Source: none: infrastructure
Kind: D -/
def orderlyCheck (w : Surroundings) (s : Session) : ControllerEvent → Bool
  | .poll => decide ((s.drain w).escaped = none)
  | .finished k exitCode status _ now =>
      decide (((s.ending k (.finished exitCode status)).drain w).escaped = none) &&
        (s.runs[k]?).all fun run => decide (Recordable w (run.record w (.finished exitCode status) now))
  | .error _ _ _ _ _ => false
  | _ => true

/-- Source: none: infrastructure. Kind: L -/
lemma orderly_of_check {e : ControllerEvent} (h : orderlyCheck w s e = true) : Orderly w s e := by
  cases e with
  | start _ | startRefused _ | launched _ | write _ _ _ | output _ | stop => exact ⟨trivial, trivial⟩
  | poll =>
      have hdrains : (s.drain w).escaped = none := of_decide_eq_true h
      exact ⟨hdrains, trivial⟩
  | error _ _ _ _ _ => cases h
  | finished k exitCode status access now =>
      obtain ⟨hdrains, hrecord⟩ := Bool.and_eq_true_iff.mp h
      have hreturns : ((s.ending k (.finished exitCode status)).drain w).escaped = none :=
        of_decide_eq_true hdrains
      refine ⟨hreturns, ?_⟩
      intro run hrun
      rw [Option.mem_def.mp hrun] at hrecord
      exact of_decide_eq_true hrecord

/-- The theorem on that run.
Source: `src/gui/run_controller.py` `RunController`
Kind: P -/
theorem runs_delivered_closing : ∃ s : Session, s.Delivered plainSurroundings ∧
    (s.deliveries 0).map TestRunResult.pytestReturncode = [some 0] := by
  have hrun : (execute (Session.step plainSurroundings) (orderlyCheck plainSurroundings) {}
      closingEvents).any (fun s : Session => (s.deliveries 0).map TestRunResult.pytestReturncode = [some 0]) =
        true := by decide +kernel
  obtain ⟨s, hs, hcode⟩ := (Option.any_eq_true _ _).mp hrun
  exact ⟨s, runs_delivered plainSurroundings
    (reaches_of_execute (fun _ _ => orderly_of_check) .start hs), of_decide_eq_true hcode⟩

/-! ## A run that is lost -/

/-- What `save` raises for a result that cannot be written is no `RunArtifactError`.
Source: `src/run_artifacts.py` `RunArtifacts.save`
Kind: L -/
lemma save_escapes {result : TestRunResult} {access : FileAccess} (hmkdir : access.mkdir = true)
    (hnot : ¬ Recordable w result) :
    ∃ e, e ≠ runArtifactError ∧ save w.iso w.limits w.windows access result.object = .error e := by
  unfold save
  rw [hmkdir, TestRunObject.toDictWithin_eq]
  by_cases hcopies : ∀ v ∈ result.object.records, v.copyFrames w.limits.asdict ≤ w.limits.asdict.frames
  · rw [if_pos hcopies]
    rcases hdumps : Json.dumpsWith (some 2) 0 w.limits.dumps (result.object.toDict w.iso) with e | content
    · refine ⟨e, ?_, ?_⟩
      · rcases Json.dumpsWith_error _ _ _ _ e hdumps with rfl | rfl
        · decide
        · decide
      · simp [hdumps, bind, Except.bind]
    · exact absurd ⟨hcopies, content, hdumps⟩ hnot
  · rw [if_neg hcopies]
    exact ⟨.recursionError, by decide, rfl⟩

/-- What is raised for a result that cannot be written leaves `_finalize` in front of the emission.
Source: `src/gui/run_controller.py` `RunController._finalize`
Kind: L -/
lemma finalize_escapes {k : Nat} {result : TestRunResult} {returncode : Option Int} {access : FileAccess}
    {now : DateTime} (hheld : s.controller.result = some (k, result))
    (hdir : s.controller.runDir = some k) (hmkdir : access.mkdir = true)
    (hnot : ¬ Recordable w (finalizeRun result returncode now)) :
    ∃ e, s.finalize w access now returncode = { s with
      controller := { s.controller with result := some (k, finalizeRun result returncode now) }
      escaped := some e } := by
  obtain ⟨e, hne, hsave⟩ := save_escapes hmkdir hnot
  refine ⟨e, ?_⟩
  simp only [Session.finalize, hheld, hdir, hsave, if_neg hne]

/-- **A run whose record cannot be written is lost**: its process is over, and nothing is delivered for it.
Source: `src/gui/run_controller.py` `RunController._on_finished`, `RunController._finalize`
Kind: P -/
theorem Sound.lost (h : s.Sound w) {k : Nat} {run : StartedRun} (hrun : s.runs[k]? = some run)
    (hlive : run.isOver = false) {exitCode : Int} {status : ExitStatus} {access : FileAccess}
    {now : DateTime} (hreturns : DrainsReturn w s (.finished k exitCode status access now))
    (hmkdir : access.mkdir = true)
    (hnot : ¬ Recordable w (run.record w (.finished exitCode status) now)) :
    ∃ t, s.step w (.finished k exitCode status access now) = some t ∧ ¬ t.Delivered w := by
  obtain ⟨t, result, ⟨hruns, -, -, hsignals, hworks⟩, heq, hread⟩ :=
    h.closing hrun hlive hreturns
  rw [← hread] at hnot
  obtain ⟨e, hfinal⟩ := finalize_escapes hworks.held hworks.runDir hmkdir hnot
  have hstate : (s.stateOf k).any (! ·.isOver) = true := by
    unfold stateOf
    rw [hrun]
    simpa [StartedRun.isOver] using hlive
  refine ⟨(s.endProcess k (.finished exitCode status)).onFinished w exitCode status access now, ?_, ?_⟩
  · unfold Session.step
    rw [if_neg (by simp [h.escaped])]
    exact if_pos hstate
  · intro hdelivered
    rw [heq, hfinal] at hdelivered
    have hover : t.runs[k]? = some (run.ended (.finished exitCode status)) := by
      rw [hruns]
      exact (h.ending hrun hlive _).1
    obtain ⟨result', hone, -⟩ := (hdelivered.once k _ hover).delivered _ rfl
    have hnone : t.deliveries k = [] := (hsignals k).trans ((h.deliveries k run hrun).pending hlive)
    cases hnone.symm.trans hone

/-! ## A packet event that does it -/

/-- `n` lists around an empty one.
Source: none: infrastructure
Kind: D -/
def nested : Nat → Json
  | 0 => .list []
  | n + 1 => .list [nested n]

lemma readsBack_nested (n : Nat) : Json.ReadsBack (n + 1) (nested n) := by
  induction n with
  | zero => exact .list fun v hv => absurd hv List.not_mem_nil
  | succ n ih => exact .list (List.forall_mem_singleton.mpr ih)

/-- Each list takes the frames of a container.
Source: Python `dataclasses._asdict_inner`
Kind: L -/
lemma copyFrames_nested (limit : CopyLimit) (n : Nat) :
    (nested n).copyFrames limit = (n + 1) * limit.container := by
  induction n with
  | zero => simp [nested, Json.copyFrames, Json.copyFramesElements]
  | succ n ih =>
      rw [nested, Json.copyFrames, Json.copyFramesElements, Json.copyFramesElements, ih, Nat.max_zero,
        Nat.succ_mul (n + 1), Nat.add_comm]

/-- A packet event whose summary is nested.
Source: none: infrastructure
Kind: D -/
def deepEvent (n : Nat) : PacketEvent where
  timestamp := .float (.ofDecimal false 15 (-1))
  direction := .sent
  summary := nested n
  sizeBytes := .int 60
  testNodeid := .null

/-- The copy of a packet event takes a container more than its summary has.
Source: `src/reporting/models.py` `PacketEvent.to_dict`
Kind: L -/
lemma summary_depth {result : TestRunResult} (h : Recordable w result) {n : Nat}
    (hmem : deepEvent n ∈ result.packetEvents) : (n + 2) * w.limits.asdict.container ≤ w.limits.asdict.frames := by
  have hrecord : (deepEvent n).toDict ∈ result.object.records :=
    List.mem_append_right _ (List.mem_map_of_mem hmem)
  have hcopied := h.1 _ hrecord
  have hsummary : (nested n).copyFrames w.limits.asdict ≤ Json.copyFramesMembers w.limits.asdict
      [(text "timestamp", (deepEvent n).timestamp), (text "direction", .str (deepEvent n).direction.value),
        (text "summary", nested n), (text "size_bytes", (deepEvent n).sizeBytes),
        (text "test_nodeid", (deepEvent n).testNodeid)] :=
    Json.copyFrames_le_of_mem (List.mem_cons_of_mem _ (List.mem_cons_of_mem _ List.mem_cons_self))
  rw [copyFrames_nested] at hsummary
  unfold PacketEvent.toDict at hcopied
  rw [Json.copyFrames] at hcopied
  calc (n + 2) * w.limits.asdict.container
      = w.limits.asdict.container + (n + 1) * w.limits.asdict.container := by
        rw [Nat.succ_mul (n + 1), Nat.add_comm]
    _ ≤ _ := Nat.add_le_add_left hsummary _
    _ ≤ w.limits.asdict.frames := hcopied

/-- The text of that event's dictionary, as a line.
Source: none: infrastructure
Kind: D -/
def deepLine (n : Nat) : Bytes := record 1000 false (deepEvent n)

/-- The reader accepts it as long as the recursion limit does.
Source: `src/runner.py` `drain_packet_events`
Kind: L -/
lemma deepLine_accepted {n : Nat} (hn : n + 2 ≤ 1000) :
    let lines := (readNewLines (appendTo none (deepLine n)) 0).1
    AcceptsPackets plainRuntime lines ∧ parsedPackets plainRuntime lines = [deepEvent n] := by
  have htime : JsonInverse (.float (.ofDecimal false 15 (-1))) :=
    ⟨text "1.5", by decide +kernel, by decide +kernel⟩
  have hsize : JsonInverse (.int 60) := ⟨text "60", by decide +kernel, by decide +kernel⟩
  have hscalars : ∀ v ∈ (deepEvent n).scalars, Json.ReadsBack (n + 1) v := by
    simp only [PacketEvent.scalars, List.forall_mem_cons]
    exact ⟨htime.readsBack.mono (Nat.zero_le _), readsBack_nested n, hsize.readsBack.mono (Nat.zero_le _),
      jsonInverse_null.readsBack.mono (Nat.zero_le _), List.forall_mem_nil _⟩
  obtain ⟨line, hline, hloads⟩ := Json.loads_dumpsWith (readsBack_packetEvent hscalars) none hn hn
  rw [Json.dumpsWith_none] at hline
  have hround : ∀ e ∈ [deepEvent n], RoundTrips plainSetup e :=
    List.forall_mem_singleton.mpr ⟨line, hline, hloads⟩
  have hrecords := parsedPackets_records hround
  rw [List.map_singleton, List.flatten_singleton] at hrecords
  have hlines : (readNewLines (appendTo none (deepLine n)) 0).1 = logLines (deepLine n) := by
    rw [readNewLines_eq, getD_appendTo]
    exact congrArg logLines (completePart_of_framed (isLine_record hline false).framed)
  intro lines
  rw [show lines = logLines (deepLine n) from hlines]
  exact hrecords

/-- A run whose process has written that line.
Source: none: infrastructure
Kind: D -/
def deepSession (n : Nat) : Session where
  controller := {
    process := some 0
    timerActive := true
    result := some (0, newRunResult plainHeader)
    runDir := some 0 }
  runs := [{
    header := newRunResult plainHeader
    state := .running
    eventsLog := appendTo none (deepLine n) }]

lemma deepSession_reached (n : Nat) (allowed : Session → ControllerEvent → Prop)
    (hstart : ∀ s, allowed s (.start plainHeader)) (hlaunched : ∀ s, allowed s (.launched 0))
    (hwrite : ∀ s, allowed s (.write 0 [] (deepLine n))) :
    Reaches (Session.step plainSurroundings) allowed {} (deepSession n) :=
  .step (.step (.step .start (hstart _) rfl) (hlaunched _) rfl) (hwrite _) rfl

/-- The drain of that run returns.
Source: `src/gui/run_controller.py` `RunController._drain`
Kind: L -/
lemma deepSession_drain {n : Nat} (hn : n + 2 ≤ 1000) (how : ProcessEnd) :
    (((deepSession n).ending 0 how).drain plainSurroundings).escaped = none := by
  have hquiet : Quiet (emitting : Callback PacketEvent) := fun call hcall calls a => by
    rw [← Option.some.inj hcall]
  have hok : (drainPacketEvents plainRuntime emitting (appendTo none (deepLine n)) 0 ⟨[], []⟩).2 = _ :=
    drainPacketEvents_of_accepts (deepLine_accepted hn).1 (hquiet.raisesOnly _ _)
  have htests : drainTestEvents plainRuntime emitting none 0 ⟨[], []⟩ = (⟨[], []⟩, .ok 0) := rfl
  rcases hpackets : drainPacketEvents plainRuntime emitting (appendTo none (deepLine n)) 0 ⟨[], []⟩ with
    ⟨packets, e | newOffset⟩
  · rw [hpackets] at hok
    cases hok
  · simp only [Session.drain, deepSession, ending, endProcess, newRunResult, plainHeader,
      plainSurroundings, List.modify_zero_cons, List.getElem?_cons_zero, Option.bind_some, htests, hpackets]

/-- A record of that run cannot be written.
Source: `src/run_artifacts.py` `RunArtifacts.save`
Kind: L -/
lemma deepSession_record {n : Nat} (hn : n + 2 ≤ 1000) (hdeep : 990 < (n + 2) * 2) (how : ProcessEnd)
    (now : DateTime) {run : StartedRun} (hrun : (deepSession n).runs[0]? = some run) :
    ¬ Recordable plainSurroundings (run.record plainSurroundings how now) := by
  obtain rfl := Option.some.inj hrun
  obtain ⟨haccepts, hparsed⟩ := deepLine_accepted hn
  have hok : (drainPacketEvents plainRuntime none (appendTo none (deepLine n)) 0 Feed.empty).2 = _ :=
    drainPacketEvents_of_accepts haccepts (raisesOnly_none _ _)
  obtain ⟨-, hevents⟩ := (drainPacketEvents_spec plainRuntime none _ 0 Feed.empty).2 _ hok
  intro hrecord
  have hmem : deepEvent n ∈ (drainPacketEvents plainRuntime none (appendTo none (deepLine n)) 0
      Feed.empty).1.events := by
    rw [hevents, hparsed]
    exact List.mem_append_right _ List.mem_cons_self
  have hdepth : (n + 2) * 2 ≤ 990 := summary_depth hrecord hmem
  omega

/-- **A packet event can lose a run**: the reader accepts its line, the drains return, and the result is never
delivered.
Source: `src/gui/run_controller.py` `RunController._finalize`
Kind: P -/
theorem deep_summary_not_delivered :
    ∃ s, Reaches (Session.step plainSurroundings) (DrainsReturn plainSurroundings) {} s ∧
      ¬ Session.Delivered plainSurroundings s := by
  have hsound : (deepSession 600).Sound plainSurroundings :=
    (deepSession_reached 600 (Orderly plainSurroundings) (fun _ => ⟨trivial, trivial⟩)
      (fun _ => ⟨trivial, trivial⟩) fun _ => ⟨trivial, trivial⟩).invariant _ Sound.nil
      fun _ _ _ hs hok hnext => hs.step hok hnext
  have hreturns : DrainsReturn plainSurroundings (deepSession 600)
      (.finished 0 0 .normalExit ⟨true, true⟩ 1000000) := deepSession_drain (by decide) _
  obtain ⟨t, hstep, hlost⟩ := hsound.lost rfl rfl hreturns rfl
    (deepSession_record (by decide) (by decide) _ _ rfl)
  exact ⟨t, .step (deepSession_reached 600 _ (fun _ => trivial) (fun _ => trivial) fun _ => trivial) hreturns hstep,
    hlost⟩

end Session

end NetstackSuite.Gui
