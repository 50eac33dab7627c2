import NetstackSuite.Lib.Mutex
import NetstackSuite.Proxy.Client

/-!
# The traffic inducer

`TrafficInducer` of `src/proxy/inducer.py`: the loop that keeps opening connections through the proxy, and
whoever reads its counters, under one lock. An attempt goes the way of `ProxyClient`: dial, handshake, round
trip, and the socket is closed; each of these may end with any exception, closing too, which has then closed
the socket all the same.

A loop carries what it did: its sockets, and of each attempt the outcome and the waits behind it. The code
keeps neither.
-/

namespace NetstackSuite.Proxy

open NetstackSuite.Python NetstackSuite.Lib

/-! ## The counters and the instructions on them -/

/-- An exception: the name of its type, what `str` makes of it, unless that raises, and whether it is an
`Exception`.
Source: Python `BaseException`
Kind: D -/
structure Raised where
  name : PyStr
  message : Option PyStr
  isException : Bool
  deriving DecidableEq

/-- A connection that was refused.
Source: none: infrastructure
Kind: D -/
def refused : Raised := ⟨text "ConnectionRefusedError", some (text "[Errno 111] Connection refused"), true⟩

/-- What the lock protects.
Source: `src/proxy/inducer.py` `TrafficInducer`
Kind: D -/
structure InducerStats where
  attempts : Nat
  successes : Nat
  lastError : Option PyStr
  errorCounts : Dict PyStr Nat
  deriving DecidableEq

/-- The counters, one for each exception type among them.
Source: `src/proxy/inducer.py` `TrafficInducer`
Kind: D -/
inductive Tally
  | attempts
  | successes
  | errors (name : PyStr)
  deriving DecidableEq

namespace InducerStats

/-- Source: `src/proxy/inducer.py` `TrafficInducer.__init__`. Kind: D -/
def initial : InducerStats := ⟨0, 0, none, []⟩

/-- Source: `src/proxy/inducer.py` `TrafficInducer._loop`. Kind: D -/
def get (stats : InducerStats) : Tally → Nat
  | .attempts => stats.attempts
  | .successes => stats.successes
  | .errors name => (stats.errorCounts.get name).getD 0

/-- Source: `src/proxy/inducer.py` `TrafficInducer._loop`. Kind: D -/
def set (stats : InducerStats) (n : Nat) : Tally → InducerStats
  | .attempts => { stats with attempts := n }
  | .successes => { stats with successes := n }
  | .errors name => { stats with errorCounts := stats.errorCounts.set name n }

/-- The sum of the error counts.
Source: none: specification
Kind: D -/
def errors (stats : InducerStats) : Nat := (stats.errorCounts.map Prod.snd).sum

end InducerStats

/-- What is done to the counters in one step, under the lock.
Source: `src/proxy/inducer.py` `TrafficInducer._lock`
Kind: D -/
inductive TallyInstr
  | load (t : Tally)
  | storeNext (t : Tally)
  | setLastError (message : PyStr)
  | copyAttempts
  | copySuccesses
  | copyErrors
  | copyLastError
  deriving DecidableEq

/-- What a thread holds meanwhile: the value just loaded, and what a reader has read.
Source: `src/proxy/inducer.py` `TrafficInducer.summary`
Kind: D -/
structure TallyRegisters where
  loaded : Nat
  snapshot : InducerStats
  deriving DecidableEq

/-- Source: `src/proxy/inducer.py` `TrafficInducer._lock`. Kind: D -/
def execTally : TallyInstr → InducerStats × TallyRegisters → InducerStats × TallyRegisters
  | .load t, (stats, reg) => (stats, { reg with loaded := stats.get t })
  | .storeNext t, (stats, reg) => (stats.set (reg.loaded + 1) t, reg)
  | .setLastError message, (stats, reg) => ({ stats with lastError := some message }, reg)
  | .copyAttempts, (stats, reg) =>
      (stats, { reg with snapshot := { reg.snapshot with attempts := stats.attempts } })
  | .copySuccesses, (stats, reg) =>
      (stats, { reg with snapshot := { reg.snapshot with successes := stats.successes } })
  | .copyErrors, (stats, reg) =>
      (stats, { reg with snapshot := { reg.snapshot with errorCounts := stats.errorCounts } })
  | .copyLastError, (stats, reg) =>
      (stats, { reg with snapshot := { reg.snapshot with lastError := stats.lastError } })

/-- `counter += 1`.
Source: Python `+=`
Kind: D -/
def countUp (t : Tally) : List TallyInstr := [.load t, .storeNext t]

/-! ## The loop -/

/-- Source: `src/proxy/inducer.py` `DEFAULT_INTERVAL_S`. Kind: D -/
def DEFAULT_INTERVAL_S : PyFloat := .ofDecimal false 25 (-2)

/-- Source: `src/proxy/inducer.py` `_BACKOFF_AFTER_FAILURES`. Kind: D -/
def BACKOFF_AFTER_FAILURES : Nat := 10

/-- Source: `src/proxy/inducer.py` `_MAX_BACKOFF_S`. Kind: D -/
def MAX_BACKOFF_S : PyFloat := .ofDecimal false 5 0

/-- `min(x, y)`.
Source: Python `min`
Kind: D -/
def pyMin (x y : PyFloat) : PyFloat := if y.lt x then y else x

/-- `min(self.interval * consecutive_failures, _MAX_BACKOFF_S)`, unless the factor is too large for a float.
Source: `src/proxy/inducer.py` `TrafficInducer._loop`
Kind: D -/
def backoff (interval : PyFloat) (failures : Nat) : Option PyFloat :=
  (PyFloat.ofInt failures).map fun factor => pyMin (interval.mul factor) MAX_BACKOFF_S

/-- What a step outside the lock comes to.
Source: `src/proxy/inducer.py` `TrafficInducer._loop`
Kind: D -/
inductive LoopEvent
  | next
  | raised (exc : Raised)
  deriving DecidableEq

/-- `closing` knows what the attempt ended with; in `backingOff` and `pausing` the loop waits. A loop that
died was ended by an exception, before or behind the counting of its attempt's outcome.
Source: `src/proxy/inducer.py` `TrafficInducer._loop`
Kind: D -/
inductive LoopPlace
  | looping
  | counting
  | dialling
  | handshaking
  | roundTripping
  | closing (raised : Option Raised)
  | tallying (exc : Raised)
  | backingOff
  | succeeding
  | pausing
  | ended
  | died (counted : Bool)
  deriving DecidableEq

/-- An attempt: whether it succeeded, once that is known, and the waits behind it.
Source: none: infrastructure
Kind: D -/
structure Lap where
  succeeded : Option Bool
  waits : List PyFloat
  deriving DecidableEq

/-- A loop: its place, its failures in a row, the sockets it opened and whether each is still open, the one
its client holds, and its attempts.
Source: `src/proxy/inducer.py` `TrafficInducer._loop`
Kind: D -/
structure InducerLoop where
  place : LoopPlace
  consecutiveFailures : Nat
  sockets : List Bool
  held : Option Nat
  past : List Lap
  current : Option Lap
  deriving DecidableEq

namespace InducerLoop

/-- Source: `src/proxy/inducer.py` `TrafficInducer._loop`. Kind: D -/
def initial : InducerLoop := ⟨.looping, 0, [], none, [], none⟩

/-- The loop at another place.
Source: none: infrastructure
Kind: D -/
def goto (l : InducerLoop) (place : LoopPlace) : InducerLoop := { l with place }

/-- An attempt begins.
Source: `src/proxy/inducer.py` `TrafficInducer._loop`
Kind: D -/
def begin (l : InducerLoop) : InducerLoop :=
  { l with place := .dialling, past := l.past ++ l.current.toList, current := some ⟨none, []⟩ }

/-- `self._sock = socket.create_connection(...)`.
Source: `src/proxy/client.py` `ProxyClient.connect`
Kind: D -/
def hold (l : InducerLoop) : InducerLoop :=
  { l with place := .handshaking, sockets := l.sockets ++ [true], held := some l.sockets.length }

/-- The socket that is held is closed and let go of.
Source: `src/proxy/client.py` `ProxyClient.close`
Kind: D -/
def release (l : InducerLoop) : InducerLoop :=
  match l.held with
  | some k => { l with sockets := l.sockets.set k false, held := none }
  | none => l

/-- The end of an attempt: it succeeded, or ended with an exception, which the loop only survives if it is an
`Exception`.
Source: `src/proxy/inducer.py` `TrafficInducer._loop`
Kind: D -/
def finish (l : InducerLoop) : Option Raised → InducerLoop
  | none => { l with place := .succeeding, consecutiveFailures := 0, current := some ⟨some true, []⟩ }
  | some exc =>
      if exc.isException then
        { l with
          place := .tallying exc
          consecutiveFailures := l.consecutiveFailures + 1
          current := some ⟨some false, []⟩ }
      else l.goto (.died false)

/-- `self._stop.wait(duration)`.
Source: `src/proxy/inducer.py` `TrafficInducer._loop`
Kind: D -/
def wait (l : InducerLoop) (place : LoopPlace) (duration : PyFloat) : InducerLoop :=
  { l with place, current := l.current.map fun lap => { lap with waits := lap.waits ++ [duration] } }

/-- Behind the counting of a failure.
Source: `src/proxy/inducer.py` `TrafficInducer._loop`
Kind: D -/
def recover (interval : PyFloat) (l : InducerLoop) : InducerLoop :=
  if BACKOFF_AFTER_FAILURES ≤ l.consecutiveFailures then
    match backoff interval l.consecutiveFailures with
    | some duration => l.wait .backingOff duration
    | none => l.goto (.died true)
  else l.wait .pausing interval

/-- A step outside the lock. `settimeout` sets the timeout that `create_connection` has just set, and raises
nothing; an exception of `close` takes the place of the attempt's own.
Source: `src/proxy/inducer.py` `TrafficInducer._loop`, `src/proxy/client.py` `ProxyClient.connect`
Kind: D -/
def move (interval : PyFloat) (stop : Bool) (l : InducerLoop) (e : LoopEvent) : Option InducerLoop :=
  match l.place, e with
  | .looping, .next => some (l.goto (if stop then .ended else .counting))
  | .dialling, .next => some l.hold
  | .dialling, .raised exc => some (l.finish (some exc))
  | .handshaking, .next => some (l.goto .roundTripping)
  | .handshaking, .raised exc => some (l.goto (.closing (some exc)))
  | .roundTripping, .next => some (l.goto (.closing none))
  | .roundTripping, .raised exc => some (l.goto (.closing (some exc)))
  | .closing raised, .next => some (l.release.finish raised)
  | .closing _, .raised exc => some (l.release.finish (some exc))
  | .backingOff, .next => some (l.wait .pausing interval)
  | .backingOff, .raised _ => some (l.goto (.died true))
  | .pausing, .next => some (l.goto .looping)
  | .pausing, .raised _ => some (l.goto (.died true))
  | _, _ => none

/-- What the loop does under the lock. An exception without a text raises there, before anything is stored.
Source: `src/proxy/inducer.py` `TrafficInducer._loop`
Kind: D -/
def critical (l : InducerLoop) : Option (List TallyInstr) :=
  match l.place with
  | .counting => some (countUp .attempts)
  | .tallying exc =>
      match exc.message with
      | some message => some (.setLastError (exc.name ++ text ": " ++ message) :: countUp (.errors exc.name))
      | none => some []
  | .succeeding => some (countUp .successes)
  | _ => none

/-- Where the loop goes on behind its section.
Source: `src/proxy/inducer.py` `TrafficInducer._loop`
Kind: D -/
def after (interval : PyFloat) (l : InducerLoop) : InducerLoop :=
  match l.place with
  | .counting => l.begin
  | .tallying exc => if exc.message.isSome then l.recover interval else l.goto (.died false)
  | .succeeding => l.wait .pausing interval
  | _ => l

/-- Has the thread come to its end?
Source: Python `threading.Thread`
Kind: D -/
def finished (l : InducerLoop) : Bool :=
  match l.place with
  | .ended | .died _ => true
  | _ => false

end InducerLoop

/-! ## The threads -/

/-- The loop, and those who read `attempts`, `successes`, `last_error` or `summary()`.
Source: `src/proxy/inducer.py` `TrafficInducer`
Kind: D -/
inductive InducerThread
  | loop (l : InducerLoop)
  | reading
  | returned (snapshot : InducerStats)
  deriving DecidableEq

/-- What a reader does under the lock.
Source: `src/proxy/inducer.py` `TrafficInducer.summary`
Kind: D -/
def readAll : List TallyInstr := [.copySuccesses, .copyAttempts, .copyErrors, .copyLastError]

/-- An inducer whose loop runs already; readers may come at any time. The outside sets the stop event.
Source: `src/proxy/inducer.py` `TrafficInducer`
Kind: D -/
def inducer (interval : PyFloat) :
    Program Bool InducerThread LoopEvent InducerStats TallyInstr TallyRegisters where
  start := fun thread => thread = .reading
  move := fun stop thread e =>
    match thread with
    | .loop l => (l.move interval stop e).map fun l => (.loop l, [])
    | _ => none
  body := fun thread =>
    match thread with
    | .loop l => l.critical
    | .reading => some readAll
    | .returned _ => none
  registers := ⟨0, .initial⟩
  exec := execTally
  after := fun thread reg =>
    match thread with
    | .loop l => .loop (l.after interval)
    | .reading => .returned reg.snapshot
    | .returned snapshot => .returned snapshot

end NetstackSuite.Proxy
