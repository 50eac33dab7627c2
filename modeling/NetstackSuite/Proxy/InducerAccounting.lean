import NetstackSuite.Lib.Runs
import NetstackSuite.Proxy.Inducer

/-!
# What the inducer's counters say

The counters of `TrafficInducer` are updated in sections of their own, around attempts that hold no lock.
`Consistent` relates them to the loop's place if sections are single steps; by `Program.atomic_of_reaches` it
holds of every state of the interleaved inducer with the running section completed. `inducer_accounted` states
it of the states themselves, together with the pace of the loop and its sockets.
-/

namespace NetstackSuite.Proxy

open NetstackSuite.Python NetstackSuite.Lib

/-! ## The pace and the sockets of a loop -/

/-- How many of the last attempts failed, in a row.
Source: none: specification
Kind: D -/
def recentFailures (laps : List Lap) : Nat :=
  (laps.reverse.takeWhile fun lap => lap.succeeded = some false).length

/-- The waits behind `k` failures in a row.
Source: none: specification
Kind: D -/
def expectedWaits (interval : PyFloat) (k : Nat) : List PyFloat :=
  (if BACKOFF_AFTER_FAILURES ≤ k then (backoff interval k).toList else []) ++ [interval]

/-- The attempt has an outcome, and the waits behind it are right for the failures up to it.
Source: none: specification
Kind: D -/
def Settled (interval : PyFloat) (earlier : List Lap) (lap : Lap) : Prop :=
  lap.succeeded.isSome = true ∧ lap.waits = expectedWaits interval (recentFailures (earlier ++ [lap]))

/-- Each of the attempts is settled.
Source: none: specification
Kind: D -/
def Paced (interval : PyFloat) (laps : List Lap) : Prop :=
  ∀ earlier lap later, laps = earlier ++ lap :: later → Settled interval earlier lap

lemma recentFailures_concat (laps : List Lap) (lap : Lap) :
    recentFailures (laps ++ [lap]) = if lap.succeeded = some false then recentFailures laps + 1 else 0 := by
  unfold recentFailures
  rw [List.reverse_append, List.reverse_singleton, List.singleton_append, List.takeWhile_cons]
  split
  · next h => rw [if_pos (of_decide_eq_true h), List.length_cons]
  · next h => rw [if_neg fun hfailed => h (decide_eq_true hfailed), List.length_nil]

lemma Paced.concat {interval : PyFloat} {laps : List Lap} {lap : Lap} (h : Paced interval laps)
    (hlap : Settled interval laps lap) : Paced interval (laps ++ [lap]) := by
  intro earlier lap' later hsplit
  rcases history_split hsplit with ⟨rfl, rfl⟩ | ⟨later', hlaps⟩
  · exact hlap
  · exact h earlier lap' later' hlaps

lemma Paced.of_append {interval : PyFloat} {laps more : List Lap} (h : Paced interval (laps ++ more)) :
    Paced interval laps := by
  intro earlier lap later hsplit
  apply h earlier lap (later ++ more)
  rw [hsplit, List.append_assoc, List.cons_append]

namespace InducerLoop

/-- The outcome of the attempt is not in the counters yet.
Source: none: specification
Kind: D -/
def unrecorded (l : InducerLoop) : Nat :=
  match l.place with
  | .dialling | .handshaking | .roundTripping | .closing _ | .tallying _ | .succeeding | .died false => 1
  | _ => 0

/-- The loop's client has a socket.
Source: `src/proxy/client.py` `ProxyClient`
Kind: D -/
def connected (l : InducerLoop) : Bool :=
  match l.place with
  | .handshaking | .roundTripping | .closing _ => true
  | _ => false

/-- Every socket is closed and none is held.
Source: none: specification
Kind: D -/
def Released (l : InducerLoop) : Prop := l.held = none ∧ ∀ isOpen ∈ l.sockets, isOpen = false

/-- The socket opened last is held, and all others are closed.
Source: none: specification
Kind: D -/
def Holding (l : InducerLoop) : Prop :=
  ∃ closed, l.sockets = closed ++ [true] ∧ l.held = some closed.length ∧ ∀ isOpen ∈ closed, isOpen = false

/-- What is known of the current attempt and of the failures in a row, at each place.
Source: `src/proxy/inducer.py` `TrafficInducer._loop`
Kind: D -/
def LapOk (interval : PyFloat) (l : InducerLoop) : Prop :=
  match l.place with
  | .looping | .counting | .pausing =>
      l.current = none ∧ l.past = [] ∧ l.consecutiveFailures = 0 ∨
        ∃ lap, l.current = some lap ∧ Settled interval l.past lap ∧
          l.consecutiveFailures = recentFailures (l.past ++ [lap])
  | .dialling | .handshaking | .roundTripping | .closing _ =>
      l.current = some ⟨none, []⟩ ∧ l.consecutiveFailures = recentFailures l.past
  | .tallying _ => l.current = some ⟨some false, []⟩ ∧ l.consecutiveFailures = recentFailures l.past + 1
  | .backingOff =>
      ∃ duration, l.current = some ⟨some false, [duration]⟩ ∧
        l.consecutiveFailures = recentFailures l.past + 1 ∧
        BACKOFF_AFTER_FAILURES ≤ l.consecutiveFailures ∧
        backoff interval l.consecutiveFailures = some duration
  | .succeeding => l.current = some ⟨some true, []⟩ ∧ l.consecutiveFailures = 0
  | .ended | .died _ => True

/-- What holds of a loop at its place.
Source: `src/proxy/inducer.py` `TrafficInducer._loop`
Kind: D -/
structure Ok (interval : PyFloat) (l : InducerLoop) : Prop where
  paced : Paced interval l.past
  lap : l.LapOk interval
  sockets : if l.connected then l.Holding else l.Released

/-! ## What a step keeps -/

lemma Holding.release {l : InducerLoop} (h : l.Holding) : l.release.Released := by
  obtain ⟨closed, hsockets, hheld, hclosed⟩ := h
  unfold InducerLoop.release
  rw [hheld]
  refine ⟨rfl, fun isOpen hopen => ?_⟩
  change isOpen ∈ l.sockets.set closed.length false at hopen
  rw [hsockets, List.set_append_right _ _ (le_refl _), Nat.sub_self, List.set_cons_zero] at hopen
  rcases List.mem_append.mp hopen with hopen | hopen
  · exact hclosed isOpen hopen
  · exact List.mem_singleton.mp hopen

lemma Released.hold {l : InducerLoop} (h : l.Released) : l.hold.Holding := ⟨l.sockets, rfl, rfl, h.2⟩

/-- Letting go of the socket changes nothing else.
Source: `src/proxy/client.py` `ProxyClient.close`
Kind: L -/
lemma release_frame (l : InducerLoop) :
    l.release.past = l.past ∧ l.release.consecutiveFailures = l.consecutiveFailures := by
  unfold release
  split
  · exact ⟨rfl, rfl⟩
  · exact ⟨rfl, rfl⟩

/-- The end of an attempt: its outcome is counted in the loop, and in the counters later.
Source: `src/proxy/inducer.py` `TrafficInducer._loop`
Kind: L -/
lemma ok_finish {interval : PyFloat} {l : InducerLoop} (hpaced : Paced interval l.past)
    (hfailures : l.consecutiveFailures = recentFailures l.past) (hreleased : l.Released)
    (raised : Option Raised) : (l.finish raised).Ok interval ∧ (l.finish raised).unrecorded = 1 := by
  rcases raised with _ | exc
  · exact ⟨⟨hpaced, ⟨rfl, rfl⟩, hreleased⟩, rfl⟩
  · unfold finish
    simp only
    split
    · exact ⟨⟨hpaced, ⟨rfl, congrArg (· + 1) hfailures⟩, hreleased⟩, rfl⟩
    · exact ⟨⟨hpaced, trivial, hreleased⟩, rfl⟩

/-- The wait of `interval` completes what is behind an attempt.
Source: `src/proxy/inducer.py` `TrafficInducer._loop`
Kind: L -/
lemma ok_pause {interval : PyFloat} {l : InducerLoop} {succeeded : Bool} {waits : List PyFloat}
    (hpaced : Paced interval l.past) (hreleased : l.Released)
    (hcurrent : l.current = some ⟨some succeeded, waits⟩)
    (hfailures : l.consecutiveFailures = if succeeded then 0 else recentFailures l.past + 1)
    (hwaits : waits ++ [interval] = expectedWaits interval l.consecutiveFailures) :
    (l.wait .pausing interval).Ok interval := by
  let lap : Lap := ⟨some succeeded, waits ++ [interval]⟩
  have hrecent : recentFailures (l.past ++ [lap]) = l.consecutiveFailures := by
    rw [recentFailures_concat, hfailures]
    rcases succeeded with _ | _ <;> rfl
  refine ⟨hpaced, ?_, hreleased⟩
  refine Or.inr ⟨lap, ?_, ⟨rfl, ?_⟩, hrecent.symm⟩
  · unfold wait
    rw [hcurrent]
    rfl
  · change lap.waits = expectedWaits interval (recentFailures (l.past ++ [lap]))
    rw [hrecent]
    exact hwaits

/-- **A step outside the lock keeps what is known of the loop**, and counts nothing.
Source: `src/proxy/inducer.py` `TrafficInducer._loop`
Kind: P -/
lemma Ok.move {interval : PyFloat} {stop : Bool} {l l' : InducerLoop} {e : LoopEvent} (h : l.Ok interval)
    (hmove : l.move interval stop e = some l') : l'.Ok interval ∧ l'.unrecorded = l.unrecorded := by
  rcases l with ⟨place, failures, sockets, held, past, current⟩
  obtain ⟨hpaced, hlap, hsockets⟩ := h
  rcases place with _ | _ | _ | _ | _ | raised | _ | _ | _ | _ | _ | _ <;> rcases e with _ | exc <;>
    cases hmove
  case looping.next =>
    rcases stop with _ | _
    · exact ⟨⟨hpaced, hlap, hsockets⟩, rfl⟩
    · exact ⟨⟨hpaced, trivial, hsockets⟩, rfl⟩
  case dialling.next => exact ⟨⟨hpaced, hlap, Released.hold hsockets⟩, rfl⟩
  case dialling.raised => exact ok_finish hpaced hlap.2 hsockets _
  case handshaking.next => exact ⟨⟨hpaced, hlap, hsockets⟩, rfl⟩
  case handshaking.raised => exact ⟨⟨hpaced, hlap, hsockets⟩, rfl⟩
  case roundTripping.next => exact ⟨⟨hpaced, hlap, hsockets⟩, rfl⟩
  case roundTripping.raised => exact ⟨⟨hpaced, hlap, hsockets⟩, rfl⟩
  case closing.next | closing.raised =>
    obtain ⟨hpast, hfailures⟩ := release_frame ⟨.closing raised, failures, sockets, held, past, current⟩
    apply ok_finish _ _ (Holding.release hsockets)
    · rw [hpast]
      exact hpaced
    · rw [hpast, hfailures]
      exact hlap.2
  case backingOff.next =>
    obtain ⟨duration, hcurrent, hfailures, hmany, hduration⟩ := hlap
    refine ⟨ok_pause hpaced hsockets hcurrent hfailures ?_, rfl⟩
    unfold expectedWaits
    rw [if_pos hmany, hduration]
    rfl
  case backingOff.raised => exact ⟨⟨hpaced, trivial, hsockets⟩, rfl⟩
  case pausing.next => exact ⟨⟨hpaced, hlap, hsockets⟩, rfl⟩
  case pausing.raised => exact ⟨⟨hpaced, trivial, hsockets⟩, rfl⟩

/-- **A section keeps what is known of the loop.**
Source: `src/proxy/inducer.py` `TrafficInducer._loop`
Kind: P -/
lemma Ok.after {interval : PyFloat} {l : InducerLoop} {body : List TallyInstr} (h : l.Ok interval)
    (hbody : l.critical = some body) : (l.after interval).Ok interval := by
  rcases l with ⟨place, failures, sockets, held, past, current⟩
  obtain ⟨hpaced, hlap, hsockets⟩ := h
  rcases place with _ | _ | _ | _ | _ | _ | exc | _ | _ | _ | _ | _ <;> try cases hbody
  case counting =>
    rcases hlap with ⟨hcurrent, hpast, hfailures⟩ | ⟨lap, hcurrent, hsettled, hfailures⟩
    · obtain rfl : current = none := hcurrent
      obtain rfl : past = [] := hpast
      exact ⟨hpaced, ⟨rfl, hfailures⟩, hsockets⟩
    · obtain rfl : current = some lap := hcurrent
      exact ⟨hpaced.concat hsettled, ⟨rfl, hfailures⟩, hsockets⟩
  case tallying =>
    obtain ⟨hcurrent, hfailures⟩ := hlap
    unfold InducerLoop.after
    simp only
    split
    · unfold recover
      split
      · next hmany =>
        rcases hduration : backoff interval failures with _ | duration
        · exact ⟨hpaced, trivial, hsockets⟩
        · refine ⟨hpaced, ⟨duration, ?_, hfailures, hmany, hduration⟩, hsockets⟩
          obtain rfl : current = _ := hcurrent
          rfl
      · next hfew =>
        apply ok_pause hpaced hsockets hcurrent hfailures
        unfold expectedWaits
        rw [if_neg hfew]
    · exact ⟨hpaced, trivial, hsockets⟩
  case succeeding =>
    obtain ⟨hcurrent, hfailures⟩ := hlap
    obtain rfl : failures = 0 := hfailures
    exact ok_pause hpaced hsockets hcurrent rfl rfl

end InducerLoop

/-! ## The counters -/

/-- Between sections the attempts are those that succeeded, those that failed, and `pending` more.
Source: none: specification
Kind: D -/
def InducerStats.Balanced (stats : InducerStats) (pending : Nat) : Prop :=
  stats.attempts = stats.successes + stats.errors + pending

/-- Writing one key, seen by the sum of the values.
Source: Python `dict`
Kind: L -/
lemma sum_values_set (d : Dict PyStr Nat) (k : PyStr) (v : Nat) :
    ((d.set k v).map Prod.snd).sum + (d.get k).getD 0 = (d.map Prod.snd).sum + v := by
  induction d with
  | nil => simp [Dict.set, Dict.get]
  | cons entry d ih =>
      obtain ⟨k', v'⟩ := entry
      by_cases hk : k' = k
      · simp only [Dict.set, Dict.get, if_pos hk, List.map_cons, List.sum_cons, Option.getD_some]
        omega
      · simp only [Dict.set, Dict.get, if_neg hk, List.map_cons, List.sum_cons]
        omega

/-- One more failure.
Source: `src/proxy/inducer.py` `TrafficInducer._loop`
Kind: L -/
lemma InducerStats.errors_set (stats : InducerStats) (name : PyStr) :
    (stats.set (stats.get (.errors name) + 1) (.errors name)).errors = stats.errors + 1 := by
  have hsum := sum_values_set stats.errorCounts name (stats.get (.errors name) + 1)
  change ((stats.errorCounts.set name _).map Prod.snd).sum = (stats.errorCounts.map Prod.snd).sum + 1
  unfold InducerStats.get at hsum ⊢
  simp only at hsum ⊢
  omega

/-- **A section keeps the balance**: what it adds to the counters is what is no longer pending.
Source: `src/proxy/inducer.py` `TrafficInducer._loop`
Kind: P -/
lemma balanced_section {interval : PyFloat} {l : InducerLoop} {body : List TallyInstr} {stats : InducerStats}
    (reg : TallyRegisters) (hbody : l.critical = some body) (h : stats.Balanced l.unrecorded) :
    ((inducer interval).run body (stats, reg)).1.Balanced (l.after interval).unrecorded := by
  rcases l with ⟨place, failures, sockets, held, past, current⟩
  have hrecover : ∀ l : InducerLoop, (l.recover interval).unrecorded = 0 := by
    intro l
    unfold InducerLoop.recover
    split
    · split <;> rfl
    · rfl
  rcases place with _ | _ | _ | _ | _ | _ | exc | _ | _ | _ | _ | _ <;> try cases hbody
  case counting => exact congrArg (· + 1) h
  case tallying =>
    unfold InducerLoop.critical at hbody
    unfold InducerLoop.after
    rcases hmessage : exc.message with _ | message <;> simp only [hmessage] at hbody ⊢ <;>
      obtain rfl := Option.some.inj hbody
    · exact h
    · rw [if_pos (Option.isSome_some), hrecover]
      let noted : InducerStats := { stats with lastError := some (exc.name ++ text ": " ++ message) }
      have hattempts : stats.attempts = stats.successes + stats.errors + 1 := h
      have herrors : (noted.set (noted.get (.errors exc.name) + 1) (.errors exc.name)).errors =
          stats.errors + 1 := noted.errors_set exc.name
      change stats.attempts = stats.successes +
        (noted.set (noted.get (.errors exc.name) + 1) (.errors exc.name)).errors + 0
      omega
  case succeeding =>
    have hattempts : stats.attempts = stats.successes + stats.errors + 1 := h
    change stats.attempts = stats.successes + 1 + stats.errors + 0
    omega

/-- What a reader reads is what there is.
Source: `src/proxy/inducer.py` `TrafficInducer.summary`
Kind: L -/
lemma run_readAll (interval : PyFloat) (stats : InducerStats) (reg : TallyRegisters) :
    (inducer interval).run readAll (stats, reg) = (stats, { reg with snapshot := stats }) := rfl

/-! ## The invariant -/

/-- Is the thread a loop?
Source: none: infrastructure
Kind: D -/
def InducerThread.isLoop : InducerThread → Bool
  | .loop _ => true
  | _ => false

/-- The first thread is the loop, all others are readers, and the counters are those of the loop at its place.
Source: `src/proxy/inducer.py` `TrafficInducer`
Kind: D -/
structure RunBy (interval : PyFloat) (a : Atomic Bool InducerThread InducerStats) (l : InducerLoop) :
    Prop where
  threads : ∃ readers, a.threads = .loop l :: readers ∧ ∀ thread ∈ readers, thread.isLoop = false
  ok : l.Ok interval
  balanced : a.shared.Balanced l.unrecorded

/-- **Every step keeps the counters and the loop related**, if a section is one step.
Source: `src/proxy/inducer.py` `TrafficInducer`
Kind: P -/
theorem RunBy.step {interval : PyFloat} {a b : Atomic Bool InducerThread InducerStats} {l : InducerLoop}
    (h : RunBy interval a l) (hstep : (inducer interval).AtomicStep a b) : ∃ l', RunBy interval b l' := by
  obtain ⟨⟨readers, hthreads, hreaders⟩, hok, hbalanced⟩ := h
  cases hstep with
  | setEnv stop => exact ⟨l, ⟨readers, hthreads, hreaders⟩, hok, hbalanced⟩
  | @start thread hstart =>
      have hreading : thread = .reading := of_decide_eq_true hstart
      refine ⟨l, ⟨readers ++ [thread], ?_, ?_⟩, hok, hbalanced⟩
      · change a.threads ++ [thread] = _
        rw [hthreads, List.cons_append]
      · intro other hother
        rcases List.mem_append.mp hother with hother | hother
        · exact hreaders other hother
        · rw [List.mem_singleton.mp hother, hreading]
          rfl
  | @move i thread thread' spawned e hthread hmove =>
      rw [hthreads] at hthread
      rcases i with _ | i
      · obtain rfl := Option.some.inj hthread
        obtain ⟨l', hl', heq⟩ := Option.map_eq_some_iff.mp hmove
        obtain ⟨rfl, rfl⟩ := Prod.mk.inj heq
        obtain ⟨hok', hunrecorded⟩ := hok.move hl'
        refine ⟨l', ⟨readers, ?_, hreaders⟩, hok', ?_⟩
        · change a.threads.set 0 (.loop l') ++ [] = _
          rw [hthreads, List.set_cons_zero, List.append_nil]
        · rw [hunrecorded]
          exact hbalanced
      · -- a reader does nothing outside the lock
        have hreader := hreaders thread (List.mem_of_getElem? hthread)
        rcases thread with _ | _ | _
        · cases hreader
        · cases hmove
        · cases hmove
  | @critical i thread body hthread hbody =>
      rw [hthreads] at hthread
      rcases i with _ | i
      · obtain rfl := Option.some.inj hthread
        refine ⟨l.after interval, ⟨readers, ?_, hreaders⟩, hok.after hbody, ?_⟩
        · change a.threads.set 0 (.loop (l.after interval)) = _
          rw [hthreads, List.set_cons_zero]
        · exact balanced_section (inducer interval).registers hbody hbalanced
      · have hreader := hreaders thread (List.mem_of_getElem? hthread)
        rcases thread with _ | _ | _
        · cases hreader
        · obtain rfl := Option.some.inj hbody
          refine ⟨l, ⟨readers.set i (.returned a.shared), ?_, ?_⟩, hok, hbalanced⟩
          · change a.threads.set (i + 1) (.returned a.shared) = _
            rw [hthreads, List.set_cons_succ]
          · intro other hother
            rcases List.mem_or_eq_of_mem_set hother with hother | rfl
            · exact hreaders other hother
            · rfl
        · cases hbody

/-! ## What is seen of it -/

/-- An inducer and its threads.
Source: `src/proxy/inducer.py` `TrafficInducer`
Kind: D -/
abbrev TrafficInducer := Pool Bool InducerThread InducerStats TallyInstr TallyRegisters

/-- Thread `i` has the lock to read, and this is what it will read.
Source: `src/proxy/inducer.py` `TrafficInducer.summary`
Kind: D -/
def TrafficInducer.Reads (interval : PyFloat) (s : TrafficInducer) (i : Nat) (snapshot : InducerStats) : Prop :=
  ∃ todo reg, s.threads[i]? = some ⟨.reading, .inside todo reg⟩ ∧
    snapshot = ((inducer interval).run todo (s.shared, reg)).2.snapshot

/-- What the inducer's accounts say, of its loop: whenever the lock is free, and all the while someone reads,
the attempts are the successes, the failures, and the one whose outcome is not counted yet; the waits between
two attempts are right; and only an attempt that is connected holds a socket.
Source: `src/proxy/inducer.py` `TrafficInducer`
Kind: D -/
structure TrafficInducer.Accounted (interval : PyFloat) (s : TrafficInducer) (l : InducerLoop) : Prop where
  free : s.lock = none → s.shared.Balanced l.unrecorded
  read : ∀ i snapshot, s.Reads interval i snapshot → snapshot.Balanced l.unrecorded
  paced : Paced interval l.past
  released : l.connected = false → l.Released

/-- Behind a failure the loop waits, and changes nothing else.
Source: `src/proxy/inducer.py` `TrafficInducer._loop`
Kind: L -/
lemma InducerLoop.recover_frame (interval : PyFloat) (l : InducerLoop) :
    (l.recover interval).past = l.past ∧ (l.recover interval).sockets = l.sockets ∧
      (l.recover interval).held = l.held ∧ (l.recover interval).connected = false := by
  unfold recover
  split
  · split <;> exact ⟨rfl, rfl, rfl, rfl⟩
  · exact ⟨rfl, rfl, rfl, rfl⟩

/-- What is known of a loop in its section, from what is known of it behind.
Source: `src/proxy/inducer.py` `TrafficInducer._loop`
Kind: L -/
lemma InducerLoop.Ok.of_after {interval : PyFloat} {l : InducerLoop} {body : List TallyInstr}
    (h : (l.after interval).Ok interval) (hbody : l.critical = some body) :
    Paced interval l.past ∧ l.Released := by
  rcases l with ⟨place, failures, sockets, held, past, current⟩
  obtain ⟨hpaced, -, hsockets⟩ := h
  rcases place with _ | _ | _ | _ | _ | _ | exc | _ | _ | _ | _ | _ <;> try cases hbody
  case counting => exact ⟨hpaced.of_append, hsockets⟩
  case tallying =>
    unfold InducerLoop.after at hpaced hsockets
    simp only at hpaced hsockets
    split at hpaced
    · next hmessage =>
      obtain ⟨hpast, hopened, hheld, hconnected⟩ := InducerLoop.recover_frame interval
        ⟨.tallying exc, failures, sockets, held, past, current⟩
      rw [hpast] at hpaced
      rw [if_pos hmessage, hconnected, if_neg Bool.false_ne_true] at hsockets
      obtain ⟨hnone, hclosed⟩ := hsockets
      rw [hheld] at hnone
      rw [hopened] at hclosed
      exact ⟨hpaced, hnone, hclosed⟩
    · next hmessage =>
      rw [if_neg hmessage] at hsockets
      exact ⟨hpaced, hsockets⟩
  case succeeding => exact ⟨hpaced, hsockets⟩

/-- **What the atomic threads know of the loop is seen of the interleaved ones.**
Source: `src/proxy/inducer.py` `TrafficInducer`
Kind: P -/
lemma RunBy.accounted {interval : PyFloat} {s : TrafficInducer}
    {a : Atomic Bool InducerThread InducerStats} {l' : InducerLoop} (h : RunBy interval a l')
    (hcompletes : (inducer interval).Completes s a) :
    ∃ l phase, s.threads[0]? = some ⟨.loop l, phase⟩ ∧ s.Accounted interval l := by
  obtain ⟨⟨readers, hthreads, hreaders⟩, hok, hbalanced⟩ := h
  have hreleased : l'.connected = false → l'.Released := by
    intro hconnected
    have hsockets := hok.sockets
    rwa [hconnected, if_neg Bool.false_ne_true] at hsockets
  cases hcompletes with
  | @free stop stats threads =>
      obtain rfl : threads = .loop l' :: readers := hthreads
      refine ⟨l', .outside, rfl, fun _ => hbalanced, ?_, hok.paced, hreleased⟩
      rintro i snapshot ⟨todo, reg, hthread, -⟩
      obtain ⟨_, _, heq⟩ := Program.getElem?_map_idle hthread
      cases heq
  | @held stop stats before threads i thread body todo reg hi hbody hrun =>
      rcases threads with _ | ⟨first, rest⟩
      · cases hi
      · rcases i with _ | i
        · -- the loop is in its section
          obtain ⟨hfirst, hrest⟩ := List.cons.inj hthreads
          rcases thread with l | _ | _
          · obtain rfl : l.after interval = l' := InducerThread.loop.inj hfirst
            obtain ⟨hpaced, hclosed⟩ := InducerLoop.Ok.of_after hok hbody
            refine ⟨l, .inside todo reg, rfl, ?_, ?_, hpaced, fun _ => hclosed⟩
            · intro hnone
              cases hnone
            · rintro j snapshot ⟨todo', reg', hthread, -⟩
              obtain ⟨-, heq, -⟩ := Program.getElem?_set_idle_inside hi hthread
              cases heq
          · cases hfirst
          · cases hfirst
        · -- a reader is
          obtain ⟨rfl, hrest⟩ := List.cons.inj hthreads
          refine ⟨l', .outside, rfl, ?_, ?_, hok.paced, hreleased⟩
          · intro hnone
            cases hnone
          · rintro j snapshot ⟨todo', reg', hthread, rfl⟩
            obtain ⟨-, rfl, rfl, rfl⟩ := Program.getElem?_set_idle_inside hi hthread
            obtain rfl := Option.some.inj hbody
            rw [hrun, run_readAll] at hbalanced ⊢
            exact hbalanced

/-- **The inducer's accounts are right in every interleaving** of its loop and any number of readers, whatever
its attempts end with.
Source: `src/proxy/inducer.py` `TrafficInducer`
Kind: P -/
theorem inducer_accounted {interval : PyFloat} {stop : Bool} {before : InducerStats}
    (hbefore : before.Balanced 0) {s : TrafficInducer}
    (h : Relation.ReflTransGen (inducer interval).Step
      ⟨stop, before, none, [⟨.loop .initial, .outside⟩]⟩ s) :
    ∃ l phase, s.threads[0]? = some ⟨.loop l, phase⟩ ∧ s.Accounted interval l := by
  have hreach : Relation.ReflTransGen (inducer interval).Step ⟨stop, before, none,
      [InducerThread.loop .initial].map (Program.idle TallyInstr TallyRegisters)⟩ s := h
  obtain ⟨a, hcompletes, hatomic⟩ := Program.atomic_of_reaches hreach
  have hrunBy : ∃ l, RunBy interval a l := by
    apply Program.invariant_of_atomicReaches (fun a => ∃ l, RunBy interval a l) hatomic
    · refine ⟨.initial, ⟨[], rfl, List.forall_mem_nil _⟩, ⟨?_, Or.inl ⟨rfl, rfl, rfl⟩, rfl, ?_⟩, hbefore⟩
      · intro earlier lap later hsplit
        simp [InducerLoop.initial] at hsplit
      · exact List.forall_mem_nil _
    · rintro a b ⟨l, hl⟩ hstep
      exact hl.step hstep
  obtain ⟨l, hl⟩ := hrunBy
  exact hl.accounted hcompletes

/-- An inducer whose first attempt was refused and whose second is in its handshake, seen by a reader that has
loaded two of the fields.
Source: `src/proxy/inducer.py` `TrafficInducer`
Kind: D -/
def TrafficInducer.refusedOnce : TrafficInducer where
  env := false
  shared := ⟨2, 0, some (text "ConnectionRefusedError: [Errno 111] Connection refused"),
    [(text "ConnectionRefusedError", 1)]⟩
  lock := some 1
  threads := [
    ⟨.loop ⟨.handshaking, 1, [true], some 0, [⟨some false, [DEFAULT_INTERVAL_S]⟩], some ⟨none, []⟩⟩, .outside⟩,
    ⟨.reading, .inside [.copyErrors, .copyLastError] ⟨0, ⟨2, 0, none, []⟩⟩⟩]

/-- The accounts of that inducer.
Source: `src/proxy/inducer.py` `TrafficInducer`
Kind: P -/
theorem inducer_accounted_refusedOnce :
    ∃ l phase, TrafficInducer.refusedOnce.threads[0]? = some ⟨.loop l, phase⟩ ∧
      TrafficInducer.refusedOnce.Accounted DEFAULT_INTERVAL_S l := by
  have hbefore : InducerStats.initial.Balanced 0 := rfl
  have hreach : Relation.ReflTransGen (inducer DEFAULT_INTERVAL_S).Step
      ⟨false, .initial, none, [⟨.loop .initial, .outside⟩]⟩ TrafficInducer.refusedOnce := by
    -- the first attempt is counted, refused, and counted as a failure
    refine .head (.move (i := 0) (a := .next) rfl rfl) ?_
    refine .head (.acquire (i := 0) rfl rfl rfl) ?_
    refine .head (.exec (i := 0) rfl) ?_
    refine .head (.exec (i := 0) rfl) ?_
    refine .head (.release (i := 0) rfl) ?_
    refine .head (.move (i := 0) (a := .raised refused) rfl rfl) ?_
    refine .head (.acquire (i := 0) rfl rfl rfl) ?_
    refine .head (.exec (i := 0) rfl) ?_
    refine .head (.exec (i := 0) rfl) ?_
    refine .head (.exec (i := 0) rfl) ?_
    refine .head (.release (i := 0) rfl) ?_
    -- the second one is counted and dials
    refine .head (.move (i := 0) (a := .next) rfl rfl) ?_
    refine .head (.move (i := 0) (a := .next) rfl rfl) ?_
    refine .head (.acquire (i := 0) rfl rfl rfl) ?_
    refine .head (.exec (i := 0) rfl) ?_
    refine .head (.exec (i := 0) rfl) ?_
    refine .head (.release (i := 0) rfl) ?_
    refine .head (.move (i := 0) (a := .next) rfl rfl) ?_
    -- the counters are read
    refine .head (.start (by rfl : (inducer DEFAULT_INTERVAL_S).start .reading = true)) ?_
    refine .head (.acquire (i := 1) rfl rfl rfl) ?_
    refine .head (.exec (i := 1) rfl) ?_
    refine .head (.exec (i := 1) rfl) ?_
    exact .refl
  exact inducer_accounted hbefore hreach

/-! ## The calls of the client -/

/-- The loop after some steps outside the lock.
Source: `src/proxy/inducer.py` `TrafficInducer._loop`
Kind: D -/
def InducerLoop.moves (interval : PyFloat) (stop : Bool) : InducerLoop → List LoopEvent → Option InducerLoop
  | l, [] => some l
  | l, e :: es => (l.move interval stop e).bind fun l => l.moves interval stop es

lemma InducerLoop.finish_sockets (l : InducerLoop) (raised : Option Raised) :
    (l.finish raised).sockets = l.sockets := by
  unfold finish
  split
  · rfl
  · split <;> rfl

/-- Where an attempt ends depends on what it ended with only.
Source: `src/proxy/inducer.py` `TrafficInducer._loop`
Kind: L -/
lemma InducerLoop.finish_place (l m : InducerLoop) (raised : Option Raised) :
    (l.finish raised).place = (m.finish raised).place := by
  unfold finish
  split
  · rfl
  · split <;> rfl

/-- **A call of `connect` is steps of the loop**: the socket it opened is there, closed if it was, and what it
raised is what the attempt ends with.
Source: `src/proxy/client.py` `ProxyClient.connect`
Kind: P -/
theorem connect_moves (idna : PyStr → Except PyExc Bytes)
    (dial : PyStr × Int → Except ProxyExc (Incoming UInt8 ProxyExc)) (config : ProxyConfig)
    (raised : ProxyExc → Raised) (interval : PyFloat) (stop : Bool) {l : InducerLoop}
    (hplace : l.place = .dialling) :
    let call := ProxyClient.connect idna dial { config }
    ∃ es l', l.moves interval stop es = some l' ∧
      l'.sockets = l.sockets ++ (call.opened.map fun sock => !sock.closed).toList ∧
      (call.outcome = .ok () → l'.place = .roundTripping) ∧
      ∀ e, call.outcome = .error e → l'.place = (l.finish (some (raised e))).place := by
  obtain ⟨place, failures, sockets, held, past, current⟩ := l
  obtain rfl : place = .dialling := hplace
  unfold ProxyClient.connect
  simp only
  split
  · next e _ =>
    refine ⟨[.raised (raised e)], _, rfl, ?_, ?_, ?_⟩
    · rw [InducerLoop.finish_sockets]
      exact (List.append_nil _).symm
    · intro h
      cases h
    · intro e' h
      rw [← Except.error.inj h]
  · split
    · refine ⟨[.next, .next], _, rfl, rfl, fun _ => rfl, ?_⟩
      intro e h
      cases h
    · next e _ =>
      refine ⟨[.next, .raised (raised e), .next], _, rfl, ?_, ?_, ?_⟩
      · rw [InducerLoop.finish_sockets]
        change (sockets ++ [true]).set sockets.length false = sockets ++ [false]
        rw [List.set_append_right _ _ (le_refl _), Nat.sub_self, List.set_cons_zero]
      · intro h
        cases h
      · intro e' h
        rw [← Except.error.inj h]
        exact InducerLoop.finish_place _ _ _

end NetstackSuite.Proxy
