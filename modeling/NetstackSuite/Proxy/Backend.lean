import NetstackSuite.Lib.Mutex
import NetstackSuite.Proxy.Config
import NetstackSuite.Python.JsonDumps

/-!
# The echo backend

`EchoBackend` of `src/proxy/backend.py` as threads under one lock: accept loops, one handler for each
connection, UDP loops, and whoever reads `stats`. Outside the lock a thread does socket calls, whose
outcomes are events; inside it loads and stores the counters one at a time, so that `+=` is no single
step.

What a connection has delivered and what has been sent back on it are recorded in `Conn`; the code keeps
neither.
-/

namespace NetstackSuite.Proxy

open NetstackSuite.Python NetstackSuite.Lib

/-! ## The statistics and the instructions on them -/

/-- Observable proof that the DUT's client side did its job.
Source: `src/proxy/backend.py` `BackendStats`
Kind: D -/
structure BackendStats where
  tcpConnections : Nat
  tcpBytesReceived : Nat
  tcpBytesEchoed : Nat
  udpDatagrams : Nat
  udpBytesReceived : Nat
  peers : List PyStr
  deriving DecidableEq, Repr

/-- Source: `src/proxy/backend.py` `BackendStats`. Kind: D -/
def BackendStats.initial : BackendStats := ⟨0, 0, 0, 0, 0, []⟩

/-- The fields that are counters.
Source: `src/proxy/backend.py` `BackendStats`
Kind: D -/
inductive Counter
  | tcpConnections
  | tcpBytesReceived
  | tcpBytesEchoed
  | udpDatagrams
  | udpBytesReceived
  deriving DecidableEq, Repr

namespace BackendStats

/-- Source: `src/proxy/backend.py` `BackendStats`. Kind: D -/
def get (stats : BackendStats) : Counter → Nat
  | .tcpConnections => stats.tcpConnections
  | .tcpBytesReceived => stats.tcpBytesReceived
  | .tcpBytesEchoed => stats.tcpBytesEchoed
  | .udpDatagrams => stats.udpDatagrams
  | .udpBytesReceived => stats.udpBytesReceived

/-- Source: `src/proxy/backend.py` `BackendStats`. Kind: D -/
def set (stats : BackendStats) (n : Nat) : Counter → BackendStats
  | .tcpConnections => { stats with tcpConnections := n }
  | .tcpBytesReceived => { stats with tcpBytesReceived := n }
  | .tcpBytesEchoed => { stats with tcpBytesEchoed := n }
  | .udpDatagrams => { stats with udpDatagrams := n }
  | .udpBytesReceived => { stats with udpBytesReceived := n }

end BackendStats

/-- What is done to the statistics in one step, under the lock.
Source: `src/proxy/backend.py` `EchoBackend._lock`
Kind: D -/
inductive Instr
  | load (c : Counter)
  | store (c : Counter) (k : Nat)
  | appendPeer (peer : PyStr)
  | copy (c : Counter)
  | copyPeers
  deriving DecidableEq, Repr

/-- What a thread holds meanwhile: the value just loaded, and the record `stats` is building.
Source: `src/proxy/backend.py` `EchoBackend.stats`
Kind: D -/
structure Registers where
  loaded : Nat
  snapshot : BackendStats
  deriving DecidableEq, Repr

/-- Source: `src/proxy/backend.py` `EchoBackend._lock`. Kind: D -/
def execInstr : Instr → BackendStats × Registers → BackendStats × Registers
  | .load c, (stats, reg) => (stats, { reg with loaded := stats.get c })
  | .store c k, (stats, reg) => (stats.set (reg.loaded + k) c, reg)
  | .appendPeer peer, (stats, reg) => ({ stats with peers := stats.peers ++ [peer] }, reg)
  | .copy c, (stats, reg) => (stats, { reg with snapshot := reg.snapshot.set (stats.get c) c })
  | .copyPeers, (stats, reg) =>
      (stats, { reg with snapshot := { reg.snapshot with peers := stats.peers } })

/-- `counter += k`.
Source: Python `+=`
Kind: D -/
def increment (c : Counter) (k : Nat) : List Instr := [.load c, .store c k]

/-! ## The threads -/

/-- What the threads read without the lock: the stop event, and whether the sockets are there.
Source: `src/proxy/backend.py` `EchoBackend`
Kind: D -/
structure BackendFlags where
  stop : Bool
  tcpSocket : Bool
  udpSocket : Bool
  deriving DecidableEq, Repr

/-- The outcome of a step outside the lock. `next` is a step with one outcome, `raised` an exception of
the event callback or of the start of a thread.
Source: `src/proxy/backend.py` `EchoBackend`
Kind: D -/
inductive BackendEvent
  | next
  | timeout
  | osError
  | raised
  | accepted (host : PyStr) (port : Nat)
  | data (chunk : Bytes)
  | sent (n : Nat)
  deriving DecidableEq, Repr

/-- Source: `src/proxy/backend.py` `EchoBackend._accept_loop`. Kind: D -/
inductive AcceptPlace
  | looping
  | fetching
  | accepting
  | counting (peer : PyStr)
  | spawning
  | ended
  deriving DecidableEq, Repr

/-- A connection: all that has been received on it, and all that has been sent back.
Source: none: infrastructure
Kind: D -/
structure Conn where
  received : Bytes
  echoed : Bytes
  deriving DecidableEq, Repr

/-- How a handler ended.
Source: `src/proxy/backend.py` `EchoBackend._handle_tcp`
Kind: D -/
inductive Ending
  | stopped
  | recvFailed
  | echoFailed (data : Bytes)
  | shutDown
  | shutdownFailed
  deriving DecidableEq, Repr

/-- In `sending data rest`, `rest` of the chunk is not sent yet.
Source: `src/proxy/backend.py` `EchoBackend._handle_tcp`
Kind: D -/
inductive HandlerPlace
  | looping
  | receiving
  | addingReceived (data : Bytes)
  | sending (data rest : Bytes)
  | addingEchoed (data : Bytes)
  | halfClosed
  | ended (how : Ending)
  deriving DecidableEq, Repr

/-- Source: `src/proxy/backend.py` `EchoBackend._udp_loop`. Kind: D -/
inductive UdpPlace
  | looping
  | fetching
  | receiving
  | counting (length : Nat)
  | echoing
  | ended
  deriving DecidableEq, Repr

/-- Source: `src/proxy/backend.py` `EchoBackend.stats`. Kind: D -/
inductive StatsPlace
  | reading
  | returned (snapshot : BackendStats)
  deriving DecidableEq, Repr

/-- Where a thread is.
Source: `src/proxy/backend.py` `EchoBackend`
Kind: D -/
inductive Place
  | accept (place : AcceptPlace)
  | handler (conn : Conn) (place : HandlerPlace)
  | udp (place : UdpPlace)
  | stats (place : StatsPlace)
  deriving DecidableEq, Repr

/-! ## Steps outside the lock -/

/-- `f"{peer[0]}:{peer[1]}"`.
Source: `src/proxy/backend.py` `EchoBackend._accept_loop`
Kind: D -/
def peerText (host : PyStr) (port : Nat) : PyStr := host ++ text ":" ++ decimal port

/-- A step of an accept loop, with the handler it starts.
Source: `src/proxy/backend.py` `EchoBackend._accept_loop`
Kind: D -/
def acceptMove (flags : BackendFlags) : AcceptPlace → BackendEvent → Option (AcceptPlace × List Place)
  | .looping, .next => some (if flags.stop then .ended else .fetching, [])
  | .fetching, .next => some (if flags.tcpSocket then .accepting else .ended, [])
  | .accepting, .timeout => some (.looping, [])
  | .accepting, .osError => some (.ended, [])
  | .accepting, .accepted host port => some (.counting (peerText host port), [])
  | .spawning, .next => some (.looping, [.handler ⟨[], []⟩ .looping])
  | .spawning, .raised => some (.ended, [])
  | _, _ => none

/-- A step of the handler of a connection.
Source: `src/proxy/backend.py` `EchoBackend._handle_tcp`
Kind: D -/
def handlerMove (flags : BackendFlags) (conn : Conn) :
    HandlerPlace → BackendEvent → Option (Conn × HandlerPlace)
  | .looping, .next => some (conn, if flags.stop then .ended .stopped else .receiving)
  | .receiving, .timeout => some (conn, .looping)
  | .receiving, .osError => some (conn, .ended .recvFailed)
  | .receiving, .data chunk =>
      if RECV_CHUNK < chunk.length then none
      -- an empty read is the peer's half-close
      else if chunk = [] then some (conn, .halfClosed)
      else some ({ conn with received := conn.received ++ chunk }, .addingReceived chunk)
  -- `sendall` sends the chunk piece by piece, and may fail after any of them
  | .sending data rest, .sent n =>
      if 0 < n ∧ n ≤ rest.length then
        some ({ conn with echoed := conn.echoed ++ rest.take n },
          if rest.drop n = [] then .addingEchoed data else .sending data (rest.drop n))
      else none
  | .sending data _, .timeout => some (conn, .ended (.echoFailed data))
  | .sending data _, .osError => some (conn, .ended (.echoFailed data))
  | .halfClosed, .next => some (conn, .ended .shutDown)
  | .halfClosed, .osError => some (conn, .ended .shutdownFailed)
  | _, _ => none

/-- A step of a UDP loop.
Source: `src/proxy/backend.py` `EchoBackend._udp_loop`
Kind: D -/
def udpMove (flags : BackendFlags) : UdpPlace → BackendEvent → Option UdpPlace
  | .looping, .next => some (if flags.stop then .ended else .fetching)
  | .fetching, .next => some (if flags.udpSocket then .receiving else .ended)
  | .receiving, .timeout => some .looping
  | .receiving, .osError => some .ended
  | .receiving, .data chunk =>
      if RECV_CHUNK < chunk.length then none else some (.counting chunk.length)
  | .echoing, .next => some .looping
  | .echoing, .osError => some .ended
  | _, _ => none

/-- Source: `src/proxy/backend.py` `EchoBackend`. Kind: D -/
def backendMove (flags : BackendFlags) : Place → BackendEvent → Option (Place × List Place)
  | .accept place, e => (acceptMove flags place e).map fun r => (.accept r.1, r.2)
  | .handler conn place, e => (handlerMove flags conn place e).map fun r => (.handler r.1 r.2, [])
  | .udp place, e => (udpMove flags place e).map fun r => (.udp r, [])
  | .stats _, _ => none

/-! ## Sections -/

/-- What a thread does under the lock.
Source: `src/proxy/backend.py` `EchoBackend._lock`
Kind: D -/
def backendSection : Place → Option (List Instr)
  | .accept (.counting peer) => some (increment .tcpConnections 1 ++ [.appendPeer peer])
  | .handler _ (.addingReceived data) => some (increment .tcpBytesReceived data.length)
  | .handler _ (.addingEchoed data) => some (increment .tcpBytesEchoed data.length)
  | .udp (.counting length) =>
      some (increment .udpDatagrams 1 ++ increment .udpBytesReceived length)
  | .stats .reading =>
      some [.copy .tcpConnections, .copy .tcpBytesReceived, .copy .tcpBytesEchoed,
        .copy .udpDatagrams, .copy .udpBytesReceived, .copyPeers]
  | _ => none

/-- Where a thread goes on behind its section.
Source: `src/proxy/backend.py` `EchoBackend`
Kind: D -/
def backendAfter : Place → Registers → Place
  | .accept (.counting _), _ => .accept .spawning
  | .handler conn (.addingReceived data), _ => .handler conn (.sending data data)
  | .handler conn (.addingEchoed _), _ => .handler conn .looping
  | .udp (.counting _), _ => .udp .echoing
  | .stats .reading, reg => .stats (.returned reg.snapshot)
  | place, _ => place

/-- Loops are started by `start`, and anyone may read `stats`; a handler is started by its accept loop.
Source: `src/proxy/backend.py` `EchoBackend.start`
Kind: D -/
def backendStart : Place → Bool
  | .accept .looping => true
  | .udp .looping => true
  | .stats .reading => true
  | _ => false

/-- Source: `src/proxy/backend.py` `EchoBackend`. Kind: D -/
def backend : Program BackendFlags Place BackendEvent BackendStats Instr Registers where
  start := backendStart
  move := backendMove
  body := backendSection
  registers := ⟨0, .initial⟩
  exec := execInstr
  after := backendAfter

/-- A backend and its threads.
Source: `src/proxy/backend.py` `EchoBackend`
Kind: D -/
abbrev EchoBackend := Pool BackendFlags Place BackendStats Instr Registers

/-- A new backend.
Source: `src/proxy/backend.py` `EchoBackend.__init__`
Kind: D -/
def EchoBackend.initial : EchoBackend := ⟨⟨false, false, false⟩, .initial, none, []⟩

/-- The backends of all runs.
Source: `src/proxy/backend.py` `EchoBackend`
Kind: D -/
def EchoBackend.Reachable (s : EchoBackend) : Prop :=
  Relation.ReflTransGen backend.Step EchoBackend.initial s

end NetstackSuite.Proxy
