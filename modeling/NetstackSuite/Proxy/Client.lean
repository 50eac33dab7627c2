import NetstackSuite.Proxy.Handshakes

/-!
# The proxy client

`src/proxy/client.py`: the lifecycle of the client's socket, and the relay operations that use it.
`dial` stands for the network: what arrives from whoever answers at an address, or the error of
`socket.create_connection`.
-/

namespace NetstackSuite.Proxy

open NetstackSuite.Lib NetstackSuite.Python

/-- A connected socket: what still arrives on it, and whether it has been closed.
Source: Python `socket.socket`
Kind: D -/
structure Sock where
  incoming : Incoming UInt8 ProxyExc
  closed : Bool := false

/-- A client: its configuration, what the DUT reported, and its socket.
Source: `src/proxy/client.py` `ProxyClient`
Kind: D -/
structure ProxyClient where
  config : ProxyConfig
  details : Option Details := none
  sock : Option Sock := none

/-- What a stream that ends inside an exact read raises.
Source: `src/proxy/client.py` `ProxyClient._recv_exact`
Kind: D -/
def shortRead (received count : Nat) : ProxyExc :=
  .peerClosedEarly (text "connection closed after " ++ decimal received ++ text " of " ++
    decimal count ++ text " expected bytes")

/-- A finished call of `connect`.
Source: `src/proxy/client.py` `ProxyClient.connect`
Kind: D -/
structure Connect where
  outcome : Except ProxyExc Unit
  client : ProxyClient
  /-- The socket it opened, as it left it. -/
  opened : Option Sock
  /-- What passed over that socket. -/
  events : List (Event UInt8) := []

namespace ProxyClient

/-- The client without its socket, and the socket, closed.
Source: `src/proxy/client.py` `ProxyClient.close`
Kind: D -/
def close (client : ProxyClient) : ProxyClient × Option Sock :=
  ({ client with sock := none }, client.sock.map fun sock => { sock with closed := true })

variable (idna : PyStr → Except PyExc Bytes)

/-- Connect to the dial target and establish the tunnel; a failure closes the socket.
Source: `src/proxy/client.py` `ProxyClient.connect`
Kind: D -/
def connect (dial : PyStr × Int → Except ProxyExc (Incoming UInt8 ProxyExc)) (client : ProxyClient) :
    Connect :=
  match dial client.config.dialTarget with
  | .error e => { outcome := .error e, client, opened := none }
  | .ok incoming =>
    let run := ((forConfig client.config).establish idna client.config.origin).run
      (recvExact shortRead) incoming
    let sock : Sock := { incoming := run.reader }
    match run.outcome with
    | .ok details =>
      { outcome := .ok (), client := { client with details, sock := some sock }, opened := some sock,
        events := run.events }
    | .error e =>
      let closing := close { client with details := e.details, sock := some sock }
      { outcome := .error e, client := closing.1, opened := closing.2, events := run.events }

end ProxyClient

/-! ## Relay operations -/

/-- A call on a connected client.
Source: `src/proxy/client.py` `ProxyClient.recv_exact`, `ProxyClient.roundtrip`
Kind: D -/
inductive Relay where
  | recvExact (count : Nat)
  | roundtrip (payload : Bytes)

/-- What it sends and reads.
Source: `src/proxy/client.py` `ProxyClient.recv_exact`, `ProxyClient.roundtrip`
Kind: D -/
def Relay.exchange : Relay → Exchange Bytes
  | recvExact count => Dialogue.ask count
  | roundtrip payload => do
    Dialogue.tell payload
    Dialogue.ask payload.length

/-- Source: `src/proxy/client.py` `ProxyClient.socket`. Kind: D -/
def notConnected : ProxyExc := .python (.other "RuntimeError")

/-- What each of a sequence of calls returns or raises, and sends.
Source: `src/proxy/client.py` `ProxyClient`
Kind: D -/
def ProxyClient.relay (client : ProxyClient) (calls : List Relay) :
    List (Except ProxyExc Bytes × List (Event UInt8)) :=
  match client.sock with
  | none => calls.map fun _ => (.error notConnected, [])
  | some sock => (Dialogue.runAll (recvExact shortRead) (calls.map Relay.exchange) sock.incoming).1

/-! ## Reading to the end of the stream -/

/-- What `recv` raises when nothing has arrived within the timeout.
Source: Python `socket.timeout`
Kind: D -/
def socketTimeout : ProxyExc := .python (.other "TimeoutError")

/-- A read timeout is the opposite verdict of an end of stream.
Source: `src/proxy/client.py` `ProxyClient.read_until_eof`
Kind: D -/
def noEof (timeout : PyFloat) (received : Nat) : ProxyExc :=
  .protocolViolation (text "no EOF within " ++ timeout.repr ++ text "s after " ++ decimal received ++
    text " byte(s) — the DUT did not propagate the peer's close (RFC 9293 §3.6)")

/-- The loop, after the bytes of `buffer`. The events are the answers of `recv`; a timeout is a finite
float.
Source: `src/proxy/client.py` `ProxyClient.read_until_eof`
Kind: D -/
def readUntilEofFrom (timeout : PyFloat) (limit : Int) (buffer : Bytes)
    (incoming : Incoming UInt8 ProxyExc) : Run UInt8 ProxyExc (Incoming UInt8 ProxyExc) Bytes :=
  if (buffer.length : Int) < limit then
    match recv incoming RECV_CHUNK with
    | (.error e, incoming) =>
      ⟨.error (if e = socketTimeout then noEof timeout buffer.length else e), incoming, []⟩
    | (.ok chunk, incoming) =>
      if chunk = [] then ⟨.ok buffer, incoming, [.received chunk]⟩
      else (readUntilEofFrom timeout limit (buffer ++ chunk) incoming).after (.received chunk)
  else ⟨.ok buffer, incoming, []⟩
termination_by (limit - buffer.length).toNat
decreasing_by
  have hchunk := List.length_pos_iff.mpr ‹¬ chunk = []›
  rw [List.length_append]
  omega

/-- Read until the peer closes.
Source: `src/proxy/client.py` `ProxyClient.read_until_eof`
Kind: D -/
def readUntilEof (timeout : PyFloat) (limit : Int := 2 ^ 20) :
    Incoming UInt8 ProxyExc → Run UInt8 ProxyExc (Incoming UInt8 ProxyExc) Bytes :=
  readUntilEofFrom timeout limit []

end NetstackSuite.Proxy
