import NetstackSuite.Lib.Runs
import NetstackSuite.Proxy.Inducer

/-!
# One loop at a time

`TrafficInducer.start` and `TrafficInducer.stop` of `src/proxy/inducer.py`: one caller, and the loops it has
started so far, under one latch. `stop` waits for the loop, but not for ever; a `start` behind a join that has
given up clears the latch before the old loop has seen it.

`one_loop_of_prompt` says that nothing else goes wrong, except that a join may also give up on a loop that
has looked at the latch already and not begun its attempt yet.

The counters and their lock are left out here: a section is one step of its loop.
-/

namespace NetstackSuite.Proxy

open NetstackSuite.Python NetstackSuite.Lib

/-! ## Calls and loops -/

/-- What happened, in order: a loop was started, an attempt of a loop was begun, `stop` has returned.
Source: none: infrastructure
Kind: D -/
inductive Moment
  | started (i : Nat)
  | begun (i : Nat)
  | stopped
  deriving DecidableEq

/-- An inducer: the latch, the loop it refers to by its number, all loops, whether the caller is in the join of
`stop`, and what happened.
Source: `src/proxy/inducer.py` `TrafficInducer`
Kind: D -/
structure Inducing where
  stop : Bool
  thread : Option Nat
  loops : List InducerLoop
  joining : Bool
  history : List Moment

namespace Inducing

/-- Source: `src/proxy/inducer.py` `TrafficInducer.__init__`. Kind: D -/
def initial : Inducing := ⟨false, none, [], false, []⟩

/-- The latch is cleared and a loop started, unless there is one.
Source: `src/proxy/inducer.py` `TrafficInducer.start`
Kind: D -/
def startLoop (s : Inducing) : Inducing :=
  if s.thread.isSome then s
  else
    { s with
      stop := false
      thread := some s.loops.length
      loops := s.loops ++ [.initial]
      history := s.history ++ [.started s.loops.length] }

/-- `stop` up to the join, which it comes to if there is a loop.
Source: `src/proxy/inducer.py` `TrafficInducer.stop`
Kind: D -/
def beginStop (s : Inducing) : Inducing :=
  if s.thread.isSome then { s with stop := true, joining := true }
  else { s with stop := true, history := s.history ++ [.stopped] }

/-- `stop` behind the join.
Source: `src/proxy/inducer.py` `TrafficInducer.stop`
Kind: D -/
def endStop (s : Inducing) : Inducing :=
  { s with thread := none, joining := false, history := s.history ++ [.stopped] }

/-- A loop goes on.
Source: none: infrastructure
Kind: D -/
def goOn (s : Inducing) (i : Nat) (l : InducerLoop) : Inducing := { s with loops := s.loops.set i l }

/-- The loop the caller waits for.
Source: `src/proxy/inducer.py` `TrafficInducer.stop`
Kind: D -/
def joined (s : Inducing) : Option InducerLoop := s.thread.bind fun i => s.loops[i]?

end Inducing

/-- A call, the end of its join (`gaveUp`: because it has waited long enough), a step of a loop outside the
lock, or its section.
Source: `src/proxy/inducer.py` `TrafficInducer`
Kind: D -/
inductive InducingAction
  | start
  | stop
  | joined
  | gaveUp
  | move (i : Nat) (e : LoopEvent)
  | critical (i : Nat)
  deriving DecidableEq

/-- One step.
Source: `src/proxy/inducer.py` `TrafficInducer`
Kind: D -/
def inducingStep (interval : PyFloat) (s : Inducing) : InducingAction → Option Inducing
  | .start => if s.joining then none else some s.startLoop
  | .stop => if s.joining then none else some s.beginStop
  | .joined => if s.joining ∧ s.joined.any (·.finished) then some s.endStop else none
  | .gaveUp => if s.joining ∧ s.joined.any (!·.finished) then some s.endStop else none
  | .move i e => do
      let l ← s.loops[i]?
      let l ← l.move interval s.stop e
      return s.goOn i l
  | .critical i => do
      let l ← s.loops[i]?
      let _ ← l.critical
      return { s.goOn i (l.after interval) with
        history := s.history ++ if l.place = .counting then [.begun i] else [] }

/-! ## One attempt, and none after a stop -/

/-- Is the loop in an attempt?
Source: `src/proxy/inducer.py` `TrafficInducer._loop`
Kind: D -/
def InducerLoop.attempting (l : InducerLoop) : Bool :=
  match l.place with
  | .dialling | .handshaking | .roundTripping | .closing _ => true
  | _ => false

/-- At most one loop is in an attempt.
Source: none: specification
Kind: D -/
def Inducing.OneAttempt (s : Inducing) : Prop :=
  ∀ (i j : Nat) (l m : InducerLoop), s.loops[i]? = some l → s.loops[j]? = some m →
    l.attempting = true → m.attempting = true → i = j

/-- A `stop` has returned since the loop was started.
Source: none: specification
Kind: D -/
def Revoked (history : List Moment) (i : Nat) : Prop :=
  ∃ before behind, history = before ++ .stopped :: behind ∧ .started i ∈ before

/-- No attempt is begun by a loop that was started before a `stop` that has returned.
Source: none: specification
Kind: D -/
def Quiet (history : List Moment) : Prop :=
  ∀ before behind i, history = before ++ .begun i :: behind → ¬ Revoked before i

/-- The step is no start of a loop while another one has not come to its end, and no join that gives up on a
loop between its look at the latch and its attempt.
Source: none: specification
Kind: D -/
def Prompt (s : Inducing) : InducingAction → Prop
  | .start => s.thread = none → ∀ l ∈ s.loops, l.finished = true
  | .gaveUp => ∀ l, s.joined = some l → l.place ≠ .counting
  | _ => True

/-! ## What a loop does -/

namespace InducerLoop

/-- A loop that moves has not come to its end; with the latch set it begins no attempt.
Source: `src/proxy/inducer.py` `TrafficInducer._loop`
Kind: L -/
lemma move_spec {interval : PyFloat} {stop : Bool} {l l' : InducerLoop} {e : LoopEvent}
    (h : l.move interval stop e = some l') :
    l.finished = false ∧ (stop = true → l'.place ≠ .counting) := by
  rcases l with ⟨place, failures, sockets, held, past, current⟩
  have hfinish : ∀ (l : InducerLoop) raised, (l.finish raised).place ≠ .counting := by
    intro l raised
    rcases raised with _ | exc
    · exact LoopPlace.noConfusion
    · unfold finish
      rcases hexc : exc.isException with _ | _ <;> simp [hexc, goto]
  rcases place with _ | _ | _ | _ | _ | raised | _ | _ | _ | _ | _ | _ <;> rcases e with _ | exc <;>
    cases h <;> refine ⟨rfl, fun hstop => ?_⟩
  case looping.next =>
    subst hstop
    exact LoopPlace.noConfusion
  case dialling.raised => exact hfinish _ _
  case closing.next => exact hfinish _ _
  case closing.raised => exact hfinish _ _
  all_goals
    exact LoopPlace.noConfusion

/-- A loop with a section has not come to its end, and behind it does not begin an attempt.
Source: `src/proxy/inducer.py` `TrafficInducer._loop`
Kind: L -/
lemma critical_spec (interval : PyFloat) {l : InducerLoop} {body : List TallyInstr}
    (h : l.critical = some body) : l.finished = false ∧ (l.after interval).place ≠ .counting := by
  rcases l with ⟨place, failures, sockets, held, past, current⟩
  have hrecover : ∀ l : InducerLoop, (l.recover interval).place ≠ .counting := by
    intro l
    unfold recover
    split
    · split
      · exact LoopPlace.noConfusion
      · exact LoopPlace.noConfusion
    · exact LoopPlace.noConfusion
  rcases place with _ | _ | _ | _ | _ | _ | exc | _ | _ | _ | _ | _ <;> try cases h
  case tallying =>
    refine ⟨rfl, ?_⟩
    unfold after
    simp only
    split
    · exact hrecover _
    · exact LoopPlace.noConfusion
  all_goals
    exact ⟨rfl, LoopPlace.noConfusion⟩

/-- A loop in an attempt has not come to its end.
Source: none: infrastructure
Kind: L -/
lemma finished_of_attempting {l : InducerLoop} (h : l.attempting = true) : l.finished = false := by
  rcases l with ⟨place, failures, sockets, held, past, current⟩
  rcases place with _ | _ | _ | _ | _ | _ | _ | _ | _ | _ | _ | _ <;> first | rfl | cases h

end InducerLoop

/-! ## Histories -/

/-- Source: none: infrastructure. Kind: L -/
lemma revoked_concat {history : List Moment} {m : Moment} {i : Nat} (h : Revoked (history ++ [m]) i) :
    Revoked history i ∨ m = .stopped := by
  obtain ⟨before, behind, hsplit, hstarted⟩ := h
  rcases history_split hsplit with ⟨-, hlast⟩ | ⟨behind', hhistory⟩
  · right
    exact hlast
  · left
    exact ⟨before, behind', hhistory, hstarted⟩

/-- Source: none: infrastructure. Kind: L -/
lemma Quiet.concat {history : List Moment} {m : Moment} (h : Quiet history)
    (hm : ∀ i, m = .begun i → ¬ Revoked history i) : Quiet (history ++ [m]) := by
  intro before behind i hsplit
  rcases history_split hsplit with ⟨rfl, hlast⟩ | ⟨behind', hhistory⟩
  · exact hm i hlast
  · exact h before behind' i hhistory

/-! ## Every step -/

namespace Inducing

/-- The loop begins no attempt for as long as the latch is not cleared.
Source: `src/proxy/inducer.py` `TrafficInducer._loop`
Kind: D -/
def Halted (s : Inducing) (l : InducerLoop) : Prop :=
  l.finished = true ∨ s.stop = true ∧ l.place ≠ .counting

/-- What holds between the steps: only the loop started last may run, and it is the one that is referred to;
whoever waits for it has set the latch; loops that nobody refers to, and loops that were stopped, are halted.
Source: `src/proxy/inducer.py` `TrafficInducer`
Kind: D -/
structure Sound (s : Inducing) : Prop where
  last : ∀ (i : Nat) l, s.loops[i]? = some l → l.finished = false → i + 1 = s.loops.length
  thread : ∀ i, s.thread = some i → i + 1 = s.loops.length
  joining : s.joining = true → s.stop = true ∧ s.thread.isSome = true
  idle : s.thread = none → ∀ l ∈ s.loops, s.Halted l
  revoked : ∀ i l, Revoked s.history i → s.loops[i]? = some l → s.Halted l
  started : ∀ i, .started i ∈ s.history → i < s.loops.length
  quiet : Quiet s.history

lemma sound_initial : initial.Sound where
  last := fun i l h => by cases h
  thread := fun i h => by cases h
  joining := fun h => by cases h
  idle := fun _ l hl => absurd hl List.not_mem_nil
  revoked := fun i l _ h => by cases h
  started := fun i h => absurd h List.not_mem_nil
  quiet := by
    intro before behind i h
    simp [initial] at h

/-- **The loops do not overlap.**
Source: `src/proxy/inducer.py` `TrafficInducer`
Kind: P -/
lemma Sound.oneAttempt {s : Inducing} (h : s.Sound) : s.OneAttempt := by
  intro i j l m hl hm hli hmj
  have hi := h.last i l hl (InducerLoop.finished_of_attempting hli)
  have hj := h.last j m hm (InducerLoop.finished_of_attempting hmj)
  omega

/-- A loop that goes on, and is halted if it was.
Source: `src/proxy/inducer.py` `TrafficInducer._loop`
Kind: L -/
lemma Sound.goOn {s : Inducing} (h : s.Sound) {i : Nat} {l l' : InducerLoop} (hi : s.loops[i]? = some l)
    (hrunning : l.finished = false) (hplace : s.stop = true → l'.place ≠ .counting)
    {begun : List Moment} (hbegun : begun = [] ∨ begun = [.begun i] ∧ ¬ s.Halted l) :
    ({ s.goOn i l' with history := s.history ++ begun } : Inducing).Sound := by
  have hlast := h.last i l hi hrunning
  have hbefore : ∀ (j : Nat) m, (s.loops.set i l')[j]? = some m → j = i ∧ m = l' ∨ s.loops[j]? = some m := by
    intro j m hm
    by_cases hji : j = i
    · subst hji
      rw [List.getElem?_set_self (by omega)] at hm
      exact Or.inl ⟨rfl, (Option.some.inj hm).symm⟩
    · rw [List.getElem?_set_ne (Ne.symm hji)] at hm
      exact Or.inr hm
  have hhalted : s.Halted l → s.Halted l' := by
    intro hl
    rcases hl with hfinished | ⟨hstop, -⟩
    · rw [hrunning] at hfinished
      cases hfinished
    · exact Or.inr ⟨hstop, hplace hstop⟩
  have hrevoked : ∀ j, Revoked (s.history ++ begun) j → Revoked s.history j := by
    intro j hj
    rcases hbegun with rfl | ⟨rfl, -⟩
    · rwa [List.append_nil] at hj
    · exact (revoked_concat hj).resolve_right Moment.noConfusion
  refine ⟨?_, ?_, h.joining, ?_, ?_, ?_, ?_⟩
  · intro j m hm hmrunning
    simp only [Inducing.goOn, List.length_set] at hm ⊢
    rcases hbefore j m hm with ⟨rfl, -⟩ | hm
    · exact hlast
    · exact h.last j m hm hmrunning
  · intro j hj
    simp only [Inducing.goOn, List.length_set]
    exact h.thread j hj
  · intro hnone m hm
    obtain ⟨j, hj⟩ := List.getElem?_of_mem hm
    rcases hbefore j m hj with ⟨rfl, rfl⟩ | hm
    · exact hhalted (h.idle hnone l (List.mem_of_getElem? hi))
    · exact h.idle hnone m (List.mem_of_getElem? hm)
  · intro j m hj hm
    rcases hbefore j m hm with ⟨rfl, rfl⟩ | hm
    · exact hhalted (h.revoked j l (hrevoked j hj) hi)
    · exact h.revoked j m (hrevoked j hj) hm
  · intro j hj
    simp only [Inducing.goOn, List.length_set]
    apply h.started j
    rcases hbegun with rfl | ⟨rfl, -⟩
    · rwa [List.append_nil] at hj
    · exact (List.mem_append.mp hj).resolve_right fun hmem => by cases List.mem_singleton.mp hmem
  · rcases hbegun with rfl | ⟨rfl, hnot⟩
    · rw [List.append_nil]
      exact h.quiet
    · apply h.quiet.concat
      intro j hj hrevoked
      cases hj
      exact hnot (h.revoked i l hrevoked hi)

/-- Setting the latch halts no loop less.
Source: `src/proxy/inducer.py` `TrafficInducer.stop`
Kind: L -/
lemma Sound.latch {s : Inducing} (h : s.Sound) {joining : Bool}
    (hjoining : joining = true → s.thread.isSome = true) :
    ({ s with stop := true, joining := joining } : Inducing).Sound := by
  have hset : ∀ l, s.Halted l → ({ s with stop := true, joining := joining } : Inducing).Halted l :=
    fun l hl => hl.imp_right fun hstop => ⟨rfl, hstop.2⟩
  exact ⟨h.last, h.thread, fun hj => ⟨rfl, hjoining hj⟩, fun hnone l hl => hset l (h.idle hnone l hl),
    fun i l hi hl => hset l (h.revoked i l hi hl), h.started, h.quiet⟩

/-- Once every loop is halted, `stop` may return.
Source: `src/proxy/inducer.py` `TrafficInducer.stop`
Kind: L -/
lemma Sound.stopped {s : Inducing} (h : s.Sound) (hhalted : ∀ l ∈ s.loops, s.Halted l) : s.endStop.Sound where
  last := h.last
  thread := fun i hi => by cases hi
  joining := fun hjoining => by cases hjoining
  idle := fun _ => hhalted
  revoked := fun i l _ hl => hhalted l (List.mem_of_getElem? hl)
  started := fun i hi => h.started i
    ((List.mem_append.mp hi).resolve_right fun hmem => by cases List.mem_singleton.mp hmem)
  quiet := h.quiet.concat fun i hi => by cases hi

/-- **A loop started when all others have come to their end is the only one.**
Source: `src/proxy/inducer.py` `TrafficInducer.start`
Kind: P -/
lemma Sound.startLoop {s : Inducing} (h : s.Sound) (hjoining : s.joining = false)
    (hfinished : s.thread = none → ∀ l ∈ s.loops, l.finished = true) : s.startLoop.Sound := by
  unfold Inducing.startLoop
  split
  · exact h
  · next hnone =>
    rw [Bool.not_eq_true, Option.isSome_eq_false_iff, Option.isNone_iff_eq_none] at hnone
    have hold : ∀ (i : Nat) l, (s.loops ++ [InducerLoop.initial])[i]? = some l →
        i < s.loops.length ∧ l.finished = true ∨ i = s.loops.length := by
      intro i l hl
      by_cases hi : i < s.loops.length
      · rw [List.getElem?_append_left hi] at hl
        exact Or.inl ⟨hi, hfinished hnone l (List.mem_of_getElem? hl)⟩
      · have hlength := (List.getElem?_eq_some_iff.mp hl).1
        rw [List.length_append, List.length_singleton] at hlength
        omega
    refine ⟨?_, ?_, ?_, ?_, ?_, ?_, ?_⟩
    · intro i l hl hrunning
      rw [List.length_append, List.length_singleton]
      rcases hold i l hl with ⟨-, hdone⟩ | rfl
      · rw [hrunning] at hdone
        cases hdone
      · rfl
    · intro i hi
      rw [List.length_append, List.length_singleton, ← Option.some.inj hi]
    · intro hj
      rw [hjoining] at hj
      cases hj
    · intro hthread
      cases hthread
    · intro i l hi hl
      rcases hold i l hl with ⟨-, hdone⟩ | rfl
      · exact Or.inl hdone
      · obtain ⟨before, behind, hsplit, hmem⟩ := (revoked_concat hi).resolve_right Moment.noConfusion
        have hlength := h.started s.loops.length (by rw [hsplit]; exact List.mem_append_left _ hmem)
        omega
    · intro i hi
      rw [List.length_append, List.length_singleton]
      rcases List.mem_append.mp hi with hi | hi
      · exact Nat.lt_succ_of_lt (h.started i hi)
      · rw [Moment.started.inj (List.mem_singleton.mp hi)]
        omega
    · exact h.quiet.concat fun i hi => by cases hi

/-- The loop that is waited for is the only one that may still run.
Source: `src/proxy/inducer.py` `TrafficInducer.stop`
Kind: L -/
lemma Sound.halted_of_joined {s : Inducing} (h : s.Sound) {l : InducerLoop} (hl : s.joined = some l)
    (hhalted : s.Halted l) : ∀ m ∈ s.loops, s.Halted m := by
  intro m hm
  obtain ⟨i, hi, hat⟩ := Option.bind_eq_some_iff.mp hl
  obtain ⟨j, hj⟩ := List.getElem?_of_mem hm
  rcases hfinished : m.finished with _ | _
  · have hsame : j = i := by
      have := h.last j m hj hfinished
      have := h.thread i hi
      omega
    rw [hsame, hat] at hj
    rw [← Option.some.inj hj]
    exact hhalted
  · exact Or.inl hfinished

end Inducing

/-- **Every prompt step keeps the invariant.**
Source: `src/proxy/inducer.py` `TrafficInducer`
Kind: P -/
theorem inducing_step {interval : PyFloat} {s t : Inducing} {a : InducingAction} (h : s.Sound)
    (hprompt : Prompt s a) (hstep : inducingStep interval s a = some t) : t.Sound := by
  cases a with
  | start =>
      unfold inducingStep at hstep
      simp only at hstep
      split at hstep
      · cases hstep
      · next hjoining =>
        obtain rfl := Option.some.inj hstep
        exact h.startLoop (Bool.eq_false_iff.mpr hjoining) hprompt
  | stop =>
      unfold inducingStep at hstep
      simp only at hstep
      split at hstep
      · cases hstep
      · next hidle =>
        obtain rfl := Option.some.inj hstep
        unfold Inducing.beginStop
        split
        · next hthread => exact h.latch fun _ => hthread
        · next hthread =>
          have hnone : s.thread = none := by simpa using hthread
          have hlatched : ({ s with stop := true, joining := false } : Inducing).Sound :=
            h.latch fun hjoining => by cases hjoining
          have hreturned := hlatched.stopped (hlatched.idle hnone)
          rcases s with ⟨stop, thread, loops, joining, history⟩
          obtain rfl : thread = none := hnone
          obtain rfl : joining = false := Bool.eq_false_iff.mpr hidle
          exact hreturned
  | joined =>
      unfold inducingStep at hstep
      simp only at hstep
      split at hstep
      · next hcond =>
        obtain rfl := Option.some.inj hstep
        obtain ⟨l, hl, hfinished⟩ := (Option.any_eq_true _ _).mp hcond.2
        exact h.stopped (h.halted_of_joined hl (Or.inl hfinished))
      · cases hstep
  | gaveUp =>
      unfold inducingStep at hstep
      simp only at hstep
      split at hstep
      · next hcond =>
        obtain rfl := Option.some.inj hstep
        obtain ⟨l, hl, -⟩ := (Option.any_eq_true _ _).mp hcond.2
        exact h.stopped (h.halted_of_joined hl (Or.inr ⟨(h.joining hcond.1).1, hprompt l hl⟩))
      · cases hstep
  | move i e =>
      obtain ⟨l, hi, hgo⟩ := Option.bind_eq_some_iff.mp hstep
      obtain ⟨l', hmove, hgoOn⟩ := Option.bind_eq_some_iff.mp hgo
      obtain rfl := Option.some.inj hgoOn
      obtain ⟨hrunning, hplace⟩ := InducerLoop.move_spec hmove
      have hsound := h.goOn hi hrunning hplace (Or.inl rfl)
      rwa [List.append_nil] at hsound
  | critical i =>
      obtain ⟨l, hi, hgo⟩ := Option.bind_eq_some_iff.mp hstep
      obtain ⟨body, hbody, hgoOn⟩ := Option.bind_eq_some_iff.mp hgo
      obtain rfl := Option.some.inj hgoOn
      obtain ⟨hrunning, hplace⟩ := InducerLoop.critical_spec interval hbody
      apply h.goOn hi hrunning fun _ => hplace
      split
      · next hcounting =>
        refine Or.inr ⟨rfl, ?_⟩
        rintro (hfinished | ⟨-, hne⟩)
        · rw [hrunning] at hfinished
          cases hfinished
        · exact hne hcounting
      · exact Or.inl rfl

/-- **One loop at a time**, in every run in which no loop is started while another one has not come to its end
and no join gives up on a loop that is about to begin an attempt.
Source: `src/proxy/inducer.py` `TrafficInducer`
Kind: P -/
theorem one_loop_of_prompt {interval : PyFloat} {s : Inducing}
    (h : Reaches (inducingStep interval) Prompt .initial s) : s.OneAttempt ∧ Quiet s.history := by
  have hsound : s.Sound := by
    apply h.invariant Inducing.Sound Inducing.sound_initial
    exact fun s a t hs hprompt hstep => inducing_step hs hprompt hstep
  exact ⟨hsound.oneAttempt, hsound.quiet⟩

/-- A loop is stopped during an attempt, which ends before the join gives up; then another loop is started.
Source: none: infrastructure
Kind: D -/
def promptActions : List InducingAction :=
  [.start, .move 0 .next, .critical 0, .move 0 .next, .stop, .move 0 .next, .move 0 .next, .move 0 .next,
    .critical 0, .move 0 .next, .move 0 .next, .joined, .start, .move 1 .next, .critical 1]

/-- Source: none: infrastructure. Kind: D -/
def isPrompt (s : Inducing) : InducingAction → Bool
  | .start => s.loops.all (·.finished)
  | .gaveUp => false
  | _ => true

/-- Two loops that follow each other.
Source: `src/proxy/inducer.py` `TrafficInducer`
Kind: P -/
theorem promptActions_one_loop :
    ∃ s, Reaches (inducingStep DEFAULT_INTERVAL_S) Prompt .initial s ∧
      s.history = [.started 0, .begun 0, .stopped, .started 1, .begun 1] ∧ s.OneAttempt ∧ Quiet s.history := by
  have hprompt : ∀ (s : Inducing) a, isPrompt s a = true → Prompt s a := by
    intro s a h
    rcases a with _ | _ | _ | _ | _ | _ <;> try exact trivial
    · exact fun _ => List.all_eq_true.mp h
    · cases h
  have hrun : (execute (inducingStep DEFAULT_INTERVAL_S) isPrompt .initial promptActions).any
      (fun s => s.history = [.started 0, .begun 0, .stopped, .started 1, .begun 1]) = true := by
    decide +kernel
  obtain ⟨s, hs, hhistory⟩ := (Option.any_eq_true _ _).mp hrun
  have hreach := reaches_of_execute hprompt .start hs
  exact ⟨s, hreach, of_decide_eq_true hhistory, one_loop_of_prompt hreach⟩

/-- The join gives up during an attempt, and another loop is started before the attempt fails.
Source: none: infrastructure
Kind: D -/
def overlappingActions : List InducingAction :=
  [.start, .move 0 .next, .critical 0, .stop, .gaveUp, .start, .move 1 .next, .critical 1,
    .move 0 (.raised refused), .critical 0, .move 0 .next, .move 0 .next, .critical 0]

/-- **A `start` behind a join that gave up revives the loop that was stopped.**
Source: `src/proxy/inducer.py` `TrafficInducer`
Kind: P -/
theorem overlapping_loops :
    ∃ s, Reaches (inducingStep DEFAULT_INTERVAL_S) (fun _ _ => True) .initial s ∧
      ¬ s.OneAttempt ∧ ¬ Quiet s.history := by
  have hrun : (execute (inducingStep DEFAULT_INTERVAL_S) (fun _ _ => true) .initial overlappingActions).any
      (fun s => s.loops.map (·.place) = [.dialling, .dialling] ∧
        s.history = [.started 0, .begun 0, .stopped, .started 1, .begun 1, .begun 0]) = true := by
    decide +kernel
  obtain ⟨s, hs, hend⟩ := (Option.any_eq_true _ _).mp hrun
  obtain ⟨hplaces, hhistory⟩ := of_decide_eq_true hend
  refine ⟨s, reaches_of_execute (fun _ _ _ => trivial) .start hs, ?_, ?_⟩
  · intro hone
    have hat : ∀ i : Nat, (s.loops.map (·.place))[i]? = some .dialling →
        ∃ l, s.loops[i]? = some l ∧ l.attempting = true := by
      intro i hplace
      rw [List.getElem?_map] at hplace
      obtain ⟨l, hl, hdialling⟩ := Option.map_eq_some_iff.mp hplace
      refine ⟨l, hl, ?_⟩
      unfold InducerLoop.attempting
      rw [hdialling]
    obtain ⟨l, hl, hattempting⟩ := hat 0 (by rw [hplaces]; rfl)
    obtain ⟨m, hm, hattempting'⟩ := hat 1 (by rw [hplaces]; rfl)
    have := hone 0 1 l m hl hm hattempting hattempting'
    omega
  · intro hquiet
    apply hquiet [.started 0, .begun 0, .stopped, .started 1, .begun 1] [] 0 hhistory
    exact ⟨[.started 0, .begun 0], [.started 1, .begun 1], rfl, by decide⟩

end NetstackSuite.Proxy
