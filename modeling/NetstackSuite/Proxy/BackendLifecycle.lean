import NetstackSuite.Lib.Loop
import NetstackSuite.Proxy.Backend

/-!
# Starting and stopping the echo backend

`EchoBackend.start` and `EchoBackend.stop` of `src/proxy/backend.py`: the sockets a backend opens and holds,
the port it reports and the threads it lists. `start` rolls back what it did if a call raises an `OSError`;
`start_allOrNothing_iff` says that this is every failure but one of Python's own, which comes before the
operating system is asked: a host or a port that makes no address.

The operating system is an oracle: which calls fail, whether the host name is resolved, and which port is
reported. The event callback of `start` and `stop`, and the start of a thread, raise nothing here.
-/

namespace NetstackSuite.Proxy

open NetstackSuite.Python NetstackSuite.Lib

/-! ## Socket calls -/

/-- The socket calls of `start`, in order.
Source: `src/proxy/backend.py` `EchoBackend.start`
Kind: D -/
inductive SocketCall
  | tcpSocket
  | tcpReuseAddr
  | tcpBind
  | tcpGetsockname
  | tcpListen
  | tcpSettimeout
  | udpSocket
  | udpReuseAddr
  | udpBind
  | udpSettimeout
  deriving DecidableEq, Repr

/-- What the operating system answers in one call of `start`.
Source: Python `socket`
Kind: D -/
structure Os where
  fails : SocketCall → Bool
  resolves : SocketCall → Bool
  sockname : Fin 65536

/-- Does the integer fit a C `int`?
Source: Python `PyArg_ParseTuple`
Kind: D -/
def fitsInt (i : Int) : Bool := -2 ^ 31 ≤ i && i < 2 ^ 31

/-- The conversion of a host name: one that is not ASCII is encoded, and none may contain a null character.
Source: Python `socket.bind`
Kind: D -/
def convertsHost (idna : PyStr → Except PyExc Bytes) (host : PyStr) : Bool :=
  if host.all (· < 0x80) then !host.contains 0
  else
    match idna host with
    | .ok name => !name.contains 0
    | .error _ => false

/-- The conversion of `(host, port)`.
Source: Python `socket.bind`
Kind: D -/
def convertAddress (idna : PyStr → Except PyExc Bytes) (host : PyStr) (port : Int) : Except PyExc Unit :=
  if convertsHost idna host then
    if fitsInt port then .ok () else .error .overflowError
  else .error .typeError

lemma convertAddress_eq_ok_iff {idna : PyStr → Except PyExc Bytes} {host : PyStr} {port : Int} :
    convertAddress idna host port = .ok () ↔ convertsHost idna host = true ∧ fitsInt port = true := by
  unfold convertAddress
  rcases convertsHost idna host with _ | _ <;> rcases fitsInt port with _ | _ <;> simp

lemma ne_osError_of_convertAddress {idna : PyStr → Except PyExc Bytes} {host : PyStr} {port : Int}
    {e : PyExc} (h : convertAddress idna host port = .error e) : e ≠ osError := by
  unfold convertAddress at h
  unfold osError
  rcases hhost : convertsHost idna host with _ | _ <;> rcases hport : fitsInt port with _ | _ <;>
    simp [hhost, hport] at h <;> simp [← h]

/-- A port of the range.
Source: Python `socket.bind`
Kind: D -/
def isPort (port : Int) : Bool := 0 ≤ port && port ≤ 0xFFFF

namespace Os

variable (os : Os)

/-- Why a call fails, if it does.
Source: Python `socket`
Kind: D -/
def failure (call : SocketCall) : Option PyExc := if os.fails call then some osError else none

/-- Why `bind` fails, if it does: the name is resolved before the port is looked at.
Source: Python `socket.bind`
Kind: D -/
def bindFailure (idna : PyStr → Except PyExc Bytes) (call : SocketCall) (host : PyStr) (port : Int) :
    Option PyExc :=
  match convertAddress idna host port with
  | .error e => some e
  | .ok () =>
      if ¬ os.resolves call then some osError
      else if ¬ isPort port then some .overflowError
      else os.failure call

/-- The host and the port make no address: they cannot be converted, or the host is resolved and the port is
out of range.
Source: Python `socket.bind`
Kind: D -/
def BadAddress (idna : PyStr → Except PyExc Bytes) (call : SocketCall) (host : PyStr) (port : Int) : Prop :=
  (∃ e, convertAddress idna host port = .error e) ∨ os.resolves call = true ∧ isPort port = false

variable {os}

/-- The operating system raises nothing but an `OSError`.
Source: Python `socket`
Kind: L -/
lemma eq_osError_of_failure {call : SocketCall} {e : PyExc} (h : os.failure call = some e) :
    e = osError := by
  unfold failure at h
  split at h
  · exact (Option.some.inj h).symm
  · cases h

lemma failure_eq_none_iff {call : SocketCall} : os.failure call = none ↔ os.fails call = false := by
  unfold failure
  rcases os.fails call with _ | _ <;> simp

/-- **What else `bind` raises is about the address.**
Source: Python `socket.bind`
Kind: L -/
lemma badAddress_iff {idna : PyStr → Except PyExc Bytes} {call : SocketCall} {host : PyStr} {port : Int} :
    os.BadAddress idna call host port ↔ ∃ e, os.bindFailure idna call host port = some e ∧ e ≠ osError := by
  unfold BadAddress bindFailure
  rcases hconvert : convertAddress idna host port with e | ⟨⟩
  · exact iff_of_true (Or.inl ⟨e, rfl⟩) ⟨e, rfl, ne_osError_of_convertAddress hconvert⟩
  · rcases hresolves : os.resolves call with _ | _
    · simp
    · rcases hport : isPort port with _ | _
      · refine iff_of_true (Or.inr ⟨rfl, rfl⟩) ⟨.overflowError, ?_, by decide⟩
        simp
      · refine iff_of_false (by simp) ?_
        rintro ⟨e, h, he⟩
        have hfailure : os.failure call = some e := by simpa using h
        exact he (eq_osError_of_failure hfailure)

end Os

/-! ## The backend -/

/-- A socket that was opened.
Source: Python `socket.socket`
Kind: D -/
structure ServerSocket where
  isOpen : Bool
  listening : Bool
  deriving DecidableEq, Repr

/-- A backend. Sockets and threads are known by their positions among all that it ever opened and started;
`threads` is its own list of them.
Source: `src/proxy/backend.py` `EchoBackend`
Kind: D -/
structure BackendServer where
  host : PyStr
  port : Int
  enableUdp : Bool
  stop : Bool := false
  tcpSocket : Option Nat := none
  udpSocket : Option Nat := none
  boundPort : Option Nat := none
  threads : List Nat := []
  opened : List ServerSocket := []
  started : List Place := []

namespace BackendServer

/-- Source: `src/proxy/backend.py` `EchoBackend.bound_port`. Kind: D -/
def reportedPort (s : BackendServer) : Int :=
  match s.boundPort with
  | some port => port
  | none => s.port

/-- `self._tcp_socket = socket.socket(...)`.
Source: `src/proxy/backend.py` `EchoBackend.start`
Kind: D -/
def holdTcp (s : BackendServer) : BackendServer :=
  { s with tcpSocket := some s.opened.length, opened := s.opened ++ [⟨true, false⟩] }

/-- `self._udp_socket = socket.socket(...)`.
Source: `src/proxy/backend.py` `EchoBackend.start`
Kind: D -/
def holdUdp (s : BackendServer) : BackendServer :=
  { s with udpSocket := some s.opened.length, opened := s.opened ++ [⟨true, false⟩] }

/-- Applies a change to a socket that is held.
Source: none: infrastructure
Kind: D -/
def modifySocket (held : Option Nat) (f : ServerSocket → ServerSocket) (opened : List ServerSocket) :
    List ServerSocket :=
  match held with
  | some k => opened.modify k f
  | none => opened

/-- Source: Python `socket.close`. Kind: D -/
def close (sock : ServerSocket) : ServerSocket := { sock with isOpen := false }

/-- `self._tcp_socket.listen(64)`.
Source: `src/proxy/backend.py` `EchoBackend.start`
Kind: D -/
def listen (s : BackendServer) : BackendServer :=
  { s with opened := modifySocket s.tcpSocket (fun sock => { sock with listening := true }) s.opened }

variable (idna : PyStr → Except PyExc Bytes) (os : Os)

/-- The TCP socket, up to its timeout.
Source: `src/proxy/backend.py` `EchoBackend.start`
Kind: D -/
def openTcp (s : BackendServer) : Outcome BackendServer PyExc :=
  andThen (s, os.failure .tcpSocket) fun s =>
  andThen (s.holdTcp, os.failure .tcpReuseAddr) fun s =>
  andThen (s, os.bindFailure idna .tcpBind s.host s.port) fun s =>
  andThen (s, os.failure .tcpGetsockname) fun s =>
  andThen ({ s with boundPort := some os.sockname }, os.failure .tcpListen) fun s =>
  (s.listen, os.failure .tcpSettimeout)

/-- The UDP socket, on the port of the TCP socket.
Source: `src/proxy/backend.py` `EchoBackend.start`
Kind: D -/
def openUdp (s : BackendServer) : Outcome BackendServer PyExc :=
  andThen (s, os.failure .udpSocket) fun s =>
  andThen (s.holdUdp, os.failure .udpReuseAddr) fun s =>
  andThen (s, os.bindFailure idna .udpBind s.host s.reportedPort) fun s =>
  (s, os.failure .udpSettimeout)

/-- The body of the `try`.
Source: `src/proxy/backend.py` `EchoBackend.start`
Kind: D -/
def openSockets (s : BackendServer) : Outcome BackendServer PyExc :=
  andThen (s.openTcp idna os) fun s => if s.enableUdp then s.openUdp idna os else (s, none)

/-- Starts a thread and lists it.
Source: `src/proxy/backend.py` `EchoBackend._spawn`
Kind: D -/
def spawn (s : BackendServer) (place : Place) : BackendServer :=
  { s with threads := s.threads ++ [s.started.length], started := s.started ++ [place] }

/-- Starts the loops.
Source: `src/proxy/backend.py` `EchoBackend.start`
Kind: D -/
def serve (s : BackendServer) : BackendServer :=
  let s := s.spawn (.accept .looping)
  if s.enableUdp then s.spawn (.udp .looping) else s

/-- `stop` up to the joins. A socket whose `close` raises is closed all the same.
Source: `src/proxy/backend.py` `EchoBackend.stop`
Kind: D -/
def beginStop (s : BackendServer) : BackendServer :=
  { s with
    stop := true
    opened := modifySocket s.udpSocket close (modifySocket s.tcpSocket close s.opened)
    tcpSocket := none
    udpSocket := none }

/-- `stop` behind the joins, each of which gives up after two seconds.
Source: `src/proxy/backend.py` `EchoBackend.stop`
Kind: D -/
def endStop (s : BackendServer) : BackendServer := { s with threads := [] }

/-- The handler of an `OSError`.
Source: `src/proxy/backend.py` `EchoBackend.start`
Kind: D -/
def rollBack (s : BackendServer) : BackendServer := { s.beginStop.endStop with boundPort := none }

/-- `self._stop.clear()`.
Source: `src/proxy/backend.py` `EchoBackend.start`
Kind: D -/
def clearStop (s : BackendServer) : BackendServer := { s with stop := false }

/-- Bind and serve.
Source: `src/proxy/backend.py` `EchoBackend.start`
Kind: D -/
def start (s : BackendServer) : Outcome BackendServer PyExc :=
  match s.clearStop.openSockets idna os with
  | (s, none) => (s.serve, none)
  | (s, some e) => if e = osError then (s.rollBack, some e) else (s, some e)

/-! ## What `start` leaves behind -/

/-- The state once the TCP socket is held.
Source: none: infrastructure
Kind: D -/
def withTcp (s : BackendServer) (port : Option Nat) (listening : Bool) : BackendServer :=
  { s with
    tcpSocket := some s.opened.length
    opened := s.opened ++ [⟨true, listening⟩]
    boundPort := port }

lemma modifySocket_append (opened : List ServerSocket) (sock : ServerSocket) (more : List ServerSocket)
    (f : ServerSocket → ServerSocket) :
    modifySocket (some opened.length) f (opened ++ sock :: more) = opened ++ f sock :: more := by
  rw [modifySocket, List.modify_eq_take_drop]
  simp

lemma listen_withTcp (s : BackendServer) (port : Option Nat) :
    (s.withTcp port false).listen = s.withTcp port true := by
  unfold listen withTcp
  simp only [modifySocket_append]

/-- Opening the TCP socket leaves the state as it was, or with the socket held.
Source: `src/proxy/backend.py` `EchoBackend.start`
Kind: L -/
lemma openTcp_fst (s : BackendServer) :
    (s.openTcp idna os).1 = s ∧ (s.openTcp idna os).2 = os.failure .tcpSocket ∨
      ∃ port listening, (s.openTcp idna os).1 = s.withTcp port listening := by
  unfold openTcp
  rcases hsocket : os.failure .tcpSocket with _ | e
  · right
    rw [andThen_none]
    let Held := fun t : BackendServer => ∃ port, t = s.withTcp port false
    have hbefore : ∀ {t : BackendServer} {o : Option PyExc}
        {k : BackendServer → Outcome BackendServer PyExc}, Held t →
        (∀ t, Held t → ∃ port listening, (k t).1 = s.withTcp port listening) →
        ∃ port listening, (andThen (t, o) k).1 = s.withTcp port listening := by
      rintro t (_ | e) k ⟨port, ht⟩ hk
      · exact hk t ⟨port, ht⟩
      · exact ⟨port, false, ht⟩
    apply hbefore ⟨s.boundPort, rfl⟩
    intro t ht
    apply hbefore ht
    intro t ht
    apply hbefore ht
    rintro t ⟨port, rfl⟩
    apply hbefore ⟨some os.sockname, rfl⟩
    rintro t ⟨port, rfl⟩
    exact ⟨port, true, listen_withTcp s port⟩
  · exact Or.inl ⟨rfl, rfl⟩

/-- Behind a success, it listens.
Source: `src/proxy/backend.py` `EchoBackend.start`
Kind: L -/
lemma openTcp_of_ok {s : BackendServer} (h : (s.openTcp idna os).2 = none) :
    (s.openTcp idna os).1 = s.withTcp (some os.sockname) true ∧
      convertAddress idna s.host s.port = .ok () ∧ isPort s.port = true := by
  unfold openTcp at h ⊢
  simp only [andThen_snd_eq_none] at h
  obtain ⟨hsocket, hreuse, hbind, hname, hlisten, htimeout⟩ := h
  have haddress : convertAddress idna s.host s.port = .ok () ∧ isPort s.port = true := by
    change os.bindFailure idna .tcpBind s.host s.port = none at hbind
    unfold Os.bindFailure at hbind
    split at hbind
    · cases hbind
    · next hconvert =>
      refine ⟨hconvert, ?_⟩
      by_contra hport
      rw [if_pos hport] at hbind
      split at hbind <;> cases hbind
  change os.bindFailure idna .tcpBind s.holdTcp.host s.holdTcp.port = none at hbind
  rw [hsocket, hreuse, andThen_none, andThen_none, hbind, hname, hlisten, andThen_none, andThen_none,
    andThen_none]
  exact ⟨listen_withTcp s _, haddress⟩

/-- What makes `start` raise something that is no `OSError`: it comes to `bind`, and the host and the port
make no address.
Source: `src/proxy/backend.py` `EchoBackend.start`
Kind: D -/
structure Refused (s : BackendServer) : Prop where
  socket : os.fails .tcpSocket = false
  reuseAddr : os.fails .tcpReuseAddr = false
  address : os.BadAddress idna .tcpBind s.host s.port

lemma openTcp_refused_iff (s : BackendServer) :
    (∃ e, (s.openTcp idna os).2 = some e ∧ e ≠ osError) ↔ s.Refused idna os := by
  unfold openTcp
  simp only [andThen_snd_eq_some]
  constructor
  · rintro ⟨e, h, he⟩
    have hother : ∀ call, os.failure call ≠ some e := fun call hcall => he (Os.eq_osError_of_failure hcall)
    rcases h with h | ⟨hsocket, h | ⟨hreuse, h | ⟨-, h | ⟨-, h | ⟨-, h⟩⟩⟩⟩⟩
    · exact absurd h (hother _)
    · exact absurd h (hother _)
    · exact ⟨Os.failure_eq_none_iff.mp hsocket, Os.failure_eq_none_iff.mp hreuse,
        Os.badAddress_iff.mpr ⟨e, h, he⟩⟩
    · exact absurd h (hother _)
    · exact absurd h (hother _)
    · exact absurd h (hother _)
  · rintro ⟨hsocket, hreuse, haddress⟩
    obtain ⟨e, h, he⟩ := Os.badAddress_iff.mp haddress
    refine ⟨e, ?_, he⟩
    exact Or.inr ⟨Os.failure_eq_none_iff.mpr hsocket, Or.inr ⟨Os.failure_eq_none_iff.mpr hreuse, Or.inl h⟩⟩

/-- Opening the UDP socket leaves the state as it was, or with the socket held.
Source: `src/proxy/backend.py` `EchoBackend.start`
Kind: L -/
lemma openUdp_fst (s : BackendServer) :
    (s.openUdp idna os).1 = s ∨ (s.openUdp idna os).1 = s.holdUdp := by
  unfold openUdp
  rcases os.failure .udpSocket with _ | e
  · right
    rw [andThen_none]
    apply andThen_invariant (· = s.holdUdp) rfl
    rintro t rfl
    apply andThen_invariant (· = s.holdUdp) rfl
    rintro t rfl
    rfl
  · left
    rfl

/-- On a port that was bound, the UDP socket fails with an `OSError` if at all.
Source: `src/proxy/backend.py` `EchoBackend.start`
Kind: L -/
lemma openUdp_snd {s : BackendServer} (hconvert : convertAddress idna s.host s.port = .ok ())
    (hport : s.boundPort = some os.sockname.val) {e : PyExc} (h : (s.openUdp idna os).2 = some e) :
    e = osError := by
  have hrange : (os.sockname.val : Int) < 65536 := Int.ofNat_lt.mpr os.sockname.isLt
  have hreported : s.holdUdp.reportedPort = os.sockname.val := by
    unfold reportedPort
    rw [show s.holdUdp.boundPort = some os.sockname.val from hport]
  unfold openUdp at h
  simp only [andThen_snd_eq_some] at h
  rcases h with h | ⟨-, h | ⟨-, h | ⟨-, h⟩⟩⟩
  · exact Os.eq_osError_of_failure h
  · exact Os.eq_osError_of_failure h
  · by_contra he
    have hbad := Os.badAddress_iff.mpr ⟨e, h, he⟩
    change os.BadAddress idna .udpBind s.host s.holdUdp.reportedPort at hbad
    rw [hreported] at hbad
    rcases hbad with ⟨e', hrefused⟩ | ⟨-, hout⟩
    · have hfits : fitsInt (os.sockname.val : Int) = true := by
        unfold fitsInt
        simp
        omega
      rw [convertAddress_eq_ok_iff.mpr ⟨(convertAddress_eq_ok_iff.mp hconvert).1, hfits⟩] at hrefused
      cases hrefused
    · unfold isPort at hout
      simp at hout
      omega
  · exact Os.eq_osError_of_failure h

/-- The states in which the sockets are opened.
Source: `src/proxy/backend.py` `EchoBackend.start`
Kind: L -/
lemma openSockets_fst (s : BackendServer) :
    (s.openSockets idna os).1 = s ∧ (s.openSockets idna os).2 = os.failure .tcpSocket ∨
      (∃ port listening, (s.openSockets idna os).1 = s.withTcp port listening) ∨
      (s.openSockets idna os).1 = (s.withTcp (some os.sockname) true).holdUdp := by
  have hshape := openTcp_fst idna os s
  unfold openSockets
  rcases htcp : s.openTcp idna os with ⟨t, _ | e⟩
  · have hok : (s.openTcp idna os).2 = none := by rw [htcp]
    obtain ⟨ht, -⟩ := openTcp_of_ok idna os hok
    rw [htcp] at ht
    simp only at ht
    subst ht
    rw [andThen_none]
    split
    · rcases openUdp_fst idna os (s.withTcp (some os.sockname) true) with hudp | hudp
      · exact Or.inr (Or.inl ⟨_, _, hudp⟩)
      · exact Or.inr (Or.inr hudp)
    · exact Or.inr (Or.inl ⟨_, _, rfl⟩)
  · rw [htcp] at hshape
    rcases hshape with hshape | hshape
    · exact Or.inl hshape
    · exact Or.inr (Or.inl hshape)

/-- Behind a success, the TCP socket listens on an address.
Source: `src/proxy/backend.py` `EchoBackend.start`
Kind: L -/
lemma openSockets_of_ok {s : BackendServer} (h : (s.openSockets idna os).2 = none) :
    ((s.openSockets idna os).1 = s.withTcp (some os.sockname) true ∨
      (s.openSockets idna os).1 = (s.withTcp (some os.sockname) true).holdUdp) ∧
      convertAddress idna s.host s.port = .ok () ∧ isPort s.port = true := by
  unfold openSockets at h ⊢
  rw [andThen_snd_eq_none] at h
  obtain ⟨hshape, haddress⟩ := openTcp_of_ok idna os h.1
  refine ⟨?_, haddress⟩
  rcases htcp : s.openTcp idna os with ⟨t, o⟩
  rw [htcp] at h hshape
  obtain ⟨rfl : o = none, -⟩ := h
  rw [andThen_none, show t = _ from hshape]
  split
  · exact openUdp_fst idna os _
  · exact Or.inl rfl

/-- **What the body of the `try` raises is an `OSError`, except where Python refuses the address.**
Source: `src/proxy/backend.py` `EchoBackend.start`
Kind: P -/
lemma openSockets_refused_iff (s : BackendServer) :
    (∃ e, (s.openSockets idna os).2 = some e ∧ e ≠ osError) ↔ s.Refused idna os := by
  rw [← openTcp_refused_iff]
  unfold openSockets
  simp only [andThen_snd_eq_some]
  constructor
  · rintro ⟨e, h | ⟨hok, hudp⟩, he⟩
    · exact ⟨e, h, he⟩
    · obtain ⟨hshape, hconvert, -⟩ := openTcp_of_ok idna os hok
      rw [hshape] at hudp
      split at hudp
      · exact absurd (openUdp_snd idna os (s := s.withTcp (some os.sockname) true) hconvert rfl hudp) he
      · cases hudp
  · rintro ⟨e, h, he⟩
    exact ⟨e, Or.inl h, he⟩

/-! ## All or nothing -/

/-- Nothing is left of a start: no socket is held, every socket it opened is closed, no thread is listed, and
the port reported is the configured one.
Source: none: specification
Kind: D -/
structure Released (before after : BackendServer) : Prop where
  tcpSocket : after.tcpSocket = none
  udpSocket : after.udpSocket = none
  closed : ∀ (k : Nat) sock, before.opened.length ≤ k → after.opened[k]? = some sock → sock.isOpen = false
  threads : after.threads = []
  boundPort : after.reportedPort = before.port

/-- The sockets from some position on are closed.
Source: none: infrastructure
Kind: D -/
def ClosedFrom (n : Nat) (opened : List ServerSocket) : Prop :=
  ∀ (k : Nat) sock, n ≤ k → opened[k]? = some sock → sock.isOpen = false

lemma closedFrom_append {opened more : List ServerSocket} (h : ∀ sock ∈ more, sock.isOpen = false) :
    ClosedFrom opened.length (opened ++ more) := by
  intro k sock hk hsock
  rw [List.getElem?_append_right hk] at hsock
  exact h sock (List.mem_of_getElem? hsock)

lemma ClosedFrom.modifySocket {n : Nat} {opened : List ServerSocket} (h : ClosedFrom n opened)
    (held : Option Nat) : ClosedFrom n (modifySocket held close opened) := by
  intro k sock hk hsock
  rcases held with _ | j
  · exact h k sock hk hsock
  · unfold BackendServer.modifySocket at hsock
    simp only at hsock
    rw [List.getElem?_modify] at hsock
    obtain ⟨sock', hsock', rfl⟩ := Option.map_eq_some_iff.mp hsock
    split
    · rfl
    · exact h k sock' hk hsock'

/-- The rollback closes whatever was opened.
Source: `src/proxy/backend.py` `EchoBackend.start`
Kind: L -/
lemma closedFrom_rollBack (s : BackendServer) :
    ClosedFrom s.opened.length (s.openSockets idna os).1.rollBack.opened := by
  rcases openSockets_fst idna os s with ⟨hs, -⟩ | ⟨port, listening, hs⟩ | hs <;> rw [hs]
  · have hnone : ClosedFrom s.opened.length (s.opened ++ []) := closedFrom_append (List.forall_mem_nil _)
    rw [List.append_nil] at hnone
    exact (hnone.modifySocket s.tcpSocket).modifySocket s.udpSocket
  · apply ClosedFrom.modifySocket
    show ClosedFrom s.opened.length
      (modifySocket (some s.opened.length) close (s.opened ++ [⟨true, listening⟩]))
    rw [modifySocket_append]
    apply closedFrom_append
    intro sock hsock
    rw [List.mem_singleton.mp hsock]
    rfl
  · let tcp : ServerSocket := ⟨true, true⟩
    let udp : ServerSocket := ⟨true, false⟩
    show ClosedFrom s.opened.length (modifySocket (some (s.opened ++ [tcp]).length) close
      (modifySocket (some s.opened.length) close (s.opened ++ [tcp] ++ [udp])))
    have hlength : (s.opened ++ [tcp]).length = (s.opened ++ [close tcp]).length := by simp
    have hsplit : s.opened ++ [close tcp, udp] = s.opened ++ [close tcp] ++ [udp] := by simp
    rw [List.append_assoc, List.singleton_append, modifySocket_append, hlength, hsplit, modifySocket_append,
      List.append_assoc]
    apply closedFrom_append
    intro sock hsock
    rcases List.mem_cons.mp hsock with rfl | hsock
    · rfl
    · rw [List.mem_singleton.mp hsock]
      rfl

/-- **The rollback releases whatever was opened.**
Source: `src/proxy/backend.py` `EchoBackend.start`
Kind: P -/
lemma released_rollBack (s : BackendServer) : s.Released (s.openSockets idna os).1.rollBack := by
  have hport : (s.openSockets idna os).1.port = s.port := by
    rcases openSockets_fst idna os s with ⟨hs, -⟩ | ⟨port, listening, hs⟩ | hs <;> rw [hs] <;> rfl
  exact ⟨rfl, rfl, closedFrom_rollBack idna os s, rfl, hport⟩

/-- **When `start` is all or nothing.** Whatever the state of the backend and whatever the operating system
answers: if `start` raises, it leaves nothing behind, exactly unless it comes to `bind` with a host and a
port that make no address.
Source: `src/proxy/backend.py` `EchoBackend.start`
Kind: P -/
theorem start_allOrNothing_iff (s : BackendServer) :
    ((s.start idna os).2 ≠ none → s.Released (s.start idna os).1) ↔ ¬ s.Refused idna os := by
  have hrefused := openSockets_refused_iff idna os s.clearStop
  have hreleased := released_rollBack idna os s.clearStop
  have hshape := openSockets_fst idna os s.clearStop
  have hsame : s.clearStop.Refused idna os ↔ s.Refused idna os :=
    ⟨fun h => ⟨h.socket, h.reuseAddr, h.address⟩, fun h => ⟨h.socket, h.reuseAddr, h.address⟩⟩
  rw [← hsame, ← hrefused]
  unfold start
  rcases hopen : s.clearStop.openSockets idna os with ⟨t, _ | e⟩
  · simp
  · rw [hopen] at hreleased hshape
    simp only
    by_cases he : e = osError
    · rw [if_pos he]
      refine iff_of_true (fun _ => ?_) ?_
      · exact ⟨hreleased.tcpSocket, hreleased.udpSocket, hreleased.closed, hreleased.threads,
          hreleased.boundPort⟩
      · rintro ⟨e', h, hne⟩
        exact hne ((Option.some.inj h).symm.trans he)
    · rw [if_neg he]
      refine iff_of_false ?_ (not_not.mpr ⟨e, rfl, he⟩)
      intro h
      have hnone := (h (Option.some_ne_none e)).tcpSocket
      rcases hshape with ⟨-, hfailure⟩ | ⟨port, listening, rfl⟩ | rfl
      · exact he (Os.eq_osError_of_failure hfailure.symm)
      · cases hnone
      · cases hnone

end BackendServer

/-- A port that is out of range.
Source: none: infrastructure
Kind: D -/
def outOfRange : BackendServer := { host := text "127.0.0.1", port := 70000, enableUdp := true }

/-- An operating system in which every call succeeds.
Source: none: infrastructure
Kind: D -/
def willing : Os where
  fails := fun _ => false
  resolves := fun _ => true
  sockname := ⟨9099, by decide⟩

/-- **A port out of range leaves the TCP socket open and held.**
Source: `src/proxy/backend.py` `EchoBackend.start`
Kind: P -/
theorem out_of_range_not_released :
    (outOfRange.start (fun _ => .error .valueError) willing).2 = some .overflowError ∧
      ¬ outOfRange.Released (outOfRange.start (fun _ => .error .valueError) willing).1 := by
  constructor
  · decide +kernel
  · intro h
    have hheld : (outOfRange.start (fun _ => .error .valueError) willing).1.tcpSocket = some 0 := by
      decide +kernel
    rw [h.tcpSocket] at hheld
    cases hheld

end NetstackSuite.Proxy
