import NetstackSuite.Python.Codec
import NetstackSuite.Python.Dict

/-!
# What a proxy reports, and how a tunnel fails

The records of `src/proxy/tunnel.py` and `src/proxy/handshakes.py` that say what a proxy under test
answered, and the exceptions that `ProxyClient.connect` can end with (`src/errors.py`).
-/

namespace NetstackSuite.Proxy

open NetstackSuite.Python

/-! ## Answers -/

/-- A parsed response to CONNECT.
Source: `src/proxy/tunnel.py` `HttpConnectResponse`
Kind: D -/
structure HttpConnectResponse where
  status : Int
  reason : PyStr
  headers : Dict PyStr PyStr
  deriving DecidableEq

/-- Any 2xx response establishes the tunnel.
Source: `src/proxy/tunnel.py` `HttpConnectResponse.tunnel_established`
Kind: D -/
def HttpConnectResponse.tunnelEstablished (response : HttpConnectResponse) : Bool :=
  200 ≤ response.status && response.status < 300

/-- A SOCKS5 reply.
Source: `src/proxy/tunnel.py` `Socks5Reply`
Kind: D -/
structure Socks5Reply where
  replyCode : UInt8
  boundHost : PyStr
  boundPort : Nat
  deriving DecidableEq

namespace Socks5Reply

/-- RFC 1928, field REP.
Source: `src/proxy/tunnel.py` `SOCKS5_REPLY_MESSAGES`
Kind: D -/
def SOCKS5_REPLY_MESSAGES : Dict UInt8 PyStr :=
  [(0x00, text "succeeded"),
   (0x01, text "general SOCKS server failure"),
   (0x02, text "connection not allowed by ruleset"),
   (0x03, text "network unreachable"),
   (0x04, text "host unreachable"),
   (0x05, text "connection refused"),
   (0x06, text "TTL expired"),
   (0x07, text "command not supported"),
   (0x08, text "address type not supported")]

/-- Source: `src/proxy/tunnel.py` `Socks5Reply.succeeded`. Kind: D -/
def succeeded (reply : Socks5Reply) : Bool := reply.replyCode = 0x00

/-- Source: `src/proxy/tunnel.py` `Socks5Reply.message`. Kind: D -/
def message (reply : Socks5Reply) : PyStr :=
  (SOCKS5_REPLY_MESSAGES.get reply.replyCode).getD
    (text "unassigned reply code 0x" ++ hex02 reply.replyCode)

end Socks5Reply

/-- What the DUT reported across the whole SOCKS5 exchange.
Source: `src/proxy/handshakes.py` `Socks5Result`
Kind: D -/
structure Socks5Result where
  method : UInt8
  reply : Socks5Reply
  deriving DecidableEq

/-- Where a SOCKS5 exchange failed before there was a reply.
Source: `src/proxy/handshakes.py` `Socks5AuthFailure.stage`
Kind: D -/
inductive Stage where
  | methodSelection
  | userpass
  deriving DecidableEq, Repr

/-- Source: `src/proxy/handshakes.py` `Socks5AuthFailure.stage`. Kind: D -/
def Stage.value : Stage → PyStr
  | .methodSelection => text "method-selection"
  | .userpass => text "userpass"

/-- What the DUT reported before the exchange got as far as a reply.
Source: `src/proxy/handshakes.py` `Socks5AuthFailure`
Kind: D -/
structure Socks5AuthFailure where
  method : UInt8
  stage : Stage
  deriving DecidableEq

/-- What a client can hold as its `details`.
Source: `src/proxy/client.py` `ProxyClient.details`
Kind: D -/
inductive Details where
  | http (response : HttpConnectResponse)
  | socks5 (result : Socks5Result)
  | authFailure (failure : Socks5AuthFailure)
  deriving DecidableEq

/-! ## Failures -/

/-- An exception raised while a tunnel is set up or used.
Source: `src/errors.py`
Kind: D -/
inductive ProxyExc where
  | proxyTunnelError (message : PyStr) (details : Option Details)
  | protocolViolation (message : PyStr)
  | peerClosedEarly (message : PyStr)
  | configurationError (message : PyStr)
  /-- An exception of Python's own. -/
  | python (e : PyExc)
  deriving DecidableEq

namespace ProxyExc

/-- `getattr(exc, "details", None)`.
Source: `src/proxy/client.py` `ProxyClient.connect`
Kind: D -/
def details : ProxyExc → Option Details
  | proxyTunnelError _ details => details
  | _ => none

/-- `isinstance(exc, ProtocolViolation)`: `PeerClosedEarly` is a subclass of it.
Source: `src/errors.py` `PeerClosedEarly`
Kind: D -/
def isProtocolViolation : ProxyExc → Bool
  | protocolViolation _ | peerClosedEarly _ => true
  | _ => false

end ProxyExc

/-- A computation of Python's own, among those that can also fail otherwise.
Source: none: infrastructure
Kind: D -/
def ofPython {α : Type} : Except PyExc α → Except ProxyExc α := Except.mapError .python

@[simp] lemma ofPython_ok {α : Type} (a : α) : ofPython (.ok a : Except PyExc α) = .ok a := rfl

@[simp] lemma ofPython_error {α : Type} (e : PyExc) :
    ofPython (.error e : Except PyExc α) = .error (.python e) := rfl

lemma ofPython_eq_ok {α : Type} {x : Except PyExc α} {a : α} : ofPython x = .ok a ↔ x = .ok a := by
  rcases x with e | b
  · simp
  · simp

end NetstackSuite.Proxy
