import NetstackSuite.Proxy.Config
import NetstackSuite.Proxy.Tunnel

/-!
# Tunnel-establishment strategies

`src/proxy/handshakes.py`: one handshake for each proxy mode, as a dialogue with the proxy that ends
with what the DUT reported.
-/

namespace NetstackSuite.Proxy

open NetstackSuite.Lib NetstackSuite.Python

/-- The handshakes.
Source: `src/proxy/handshakes.py` `TransparentHandshake`, `HttpConnectHandshake`, `Socks5Handshake`
Kind: D -/
inductive Handshake where
  | transparent
  | httpConnect
  | socks5 (username password : Option PyStr)
  deriving DecidableEq

/-- The handshake that the mode of a run requires.
Source: `src/proxy/handshakes.py` `for_config`
Kind: D -/
def forConfig (config : ProxyConfig) : Handshake :=
  match config.mode with
  | .transparent => .transparent
  | .httpConnect => .httpConnect
  | .socks5 => .socks5 config.username config.password

/-! ## HTTP CONNECT -/

/-- What a refusal means.
Source: `src/proxy/handshakes.py` `_CONNECT_HINTS`
Kind: D -/
def CONNECT_HINTS : Dict Int PyStr :=
  [(403, text "the proxy's ruleset forbids this origin"),
   (405, text "the DUT does not implement the CONNECT method (RFC 9110 §9.3.6)"),
   (407, text "the proxy requires authentication (RFC 9110 §11.7); no HTTP proxy credentials are " ++
      text "configured"),
   (502, text "the proxy could not reach the origin — is the backend instance running?"),
   (504, text "the proxy timed out reaching the origin")]

/-- The message of a refusal.
Source: `src/proxy/handshakes.py` `HttpConnectHandshake.establish`
Kind: D -/
def connectRefusal (host : PyStr) (port : Int) (response : HttpConnectResponse) :
    Except PyExc PyStr := do
  let authority ← formatAuthority host port
  let status ← intRepr response.status
  let message := strip (text "CONNECT " ++ authority ++ text " was refused: " ++ status ++ text " " ++
    response.reason)
  return match orNone (CONNECT_HINTS.get response.status) with
    | some hint => message ++ text " — " ++ hint
    | none => message
where
  orNone (hint : Option PyStr) : Option PyStr := hint.filter fun s => s ≠ []

/-- Source: `src/proxy/handshakes.py` `HttpConnectHandshake.establish`. Kind: D -/
def establishHttpConnect (host : PyStr) (port : Int) : Exchange HttpConnectResponse := do
  let request ← Dialogue.lift (ofPython (buildHttpConnectRequest host port))
  Dialogue.tell request
  let head ← readHttpResponseHead
  let response ← Dialogue.lift (parseHttpConnectResponse head)
  if ¬ response.tunnelEstablished then do
    let message ← Dialogue.lift (ofPython (connectRefusal host port response))
    .fail (.proxyTunnelError message (some (.http response)))
  else return response

/-! ## SOCKS5 -/

/-- The methods a client offers: username and password as soon as there is a username.
Source: `src/proxy/handshakes.py` `Socks5Handshake._negotiate`
Kind: D -/
def offeredMethods (username : Option PyStr) : Bytes :=
  AUTH_NONE :: if username.isSome then [AUTH_USERNAME_PASSWORD] else []

/-- The authentication of RFC 1929, which the DUT has selected.
Source: `src/proxy/handshakes.py` `Socks5Handshake._negotiate`
Kind: D -/
def authenticate (username password : Option PyStr) : Exchange Unit :=
  match username, password with
  | some username, some password => do
    let auth ← Dialogue.lift (buildSocks5UserpassAuth username password)
    Dialogue.tell auth
    let result ← Dialogue.ask 2
    let accepted ← Dialogue.lift (parseSocks5UserpassResult result)
    if ¬ accepted then
      .fail (.proxyTunnelError (text "SOCKS5 username/password authentication failed (RFC 1929)")
        (some (.authFailure ⟨AUTH_USERNAME_PASSWORD, .userpass⟩)))
    else return ()
  | _, _ =>
    .fail (.proxyTunnelError
      (text "SOCKS5 proxy selected username/password auth but no credentials were configured")
      (some (.authFailure ⟨AUTH_USERNAME_PASSWORD, .methodSelection⟩)))

/-- Greeting and method selection, and authentication when the DUT selects it.
Source: `src/proxy/handshakes.py` `Socks5Handshake._negotiate`
Kind: D -/
def negotiate (username password : Option PyStr) : Exchange UInt8 := do
  let greeting ← Dialogue.lift (buildSocks5Greeting ((offeredMethods username).map fun m => m.toNat))
  Dialogue.tell greeting
  let selection ← Dialogue.ask 2
  let method ← Dialogue.lift (parseSocks5MethodSelection selection)
  if method = AUTH_NO_ACCEPTABLE then
    .fail (.proxyTunnelError
      (text "SOCKS5 proxy rejected every offered authentication method (0xFF)")
      (some (.authFailure ⟨method, .methodSelection⟩)))
  else if method = AUTH_USERNAME_PASSWORD then do
    authenticate username password
    return method
  else if method ≠ AUTH_NONE then
    .fail (.proxyTunnelError (text "SOCKS5 proxy selected unsupported method 0x" ++ hex02 method)
      (some (.authFailure ⟨method, .methodSelection⟩)))
  else return method

/-- The message of a failed CONNECT.
Source: `src/proxy/handshakes.py` `Socks5Handshake.establish`
Kind: D -/
def socks5Refusal (host : PyStr) (port : Int) (reply : Socks5Reply) : Except PyExc PyStr := do
  let digits ← intRepr port
  return text "SOCKS5 CONNECT to " ++ host ++ text ":" ++ digits ++ text " failed: 0x" ++
    hex02 reply.replyCode ++ text " (" ++ reply.message ++ text ")"

variable (idna : PyStr → Except PyExc Bytes)

/-- The request and its reply, once a method is settled.
Source: `src/proxy/handshakes.py` `Socks5Handshake.establish`
Kind: D -/
def requestConnect (host : PyStr) (port : Int) (method : UInt8) : Exchange Socks5Result := do
  let request ← Dialogue.lift (buildSocks5Request idna host port)
  Dialogue.tell request
  let reply ← readSocks5Reply
  if ¬ reply.succeeded then do
    let message ← Dialogue.lift (ofPython (socks5Refusal host port reply))
    .fail (.proxyTunnelError message (some (.socks5 ⟨method, reply⟩)))
  else return ⟨method, reply⟩

/-- Source: `src/proxy/handshakes.py` `Socks5Handshake.establish`. Kind: D -/
def establishSocks5 (username password : Option PyStr) (host : PyStr) (port : Int) :
    Exchange Socks5Result := do
  let method ← negotiate username password
  requestConnect idna host port method

/-! ## Any mode -/

/-- Establish a tunnel to the origin over a connection to the proxy.
Source: `src/proxy/handshakes.py` `TunnelHandshake.establish`
Kind: D -/
def Handshake.establish (handshake : Handshake) (origin : PyStr × Int) :
    Exchange (Option Details) :=
  match handshake with
  | .transparent => return none
  | .httpConnect => do
    let response ← establishHttpConnect origin.1 origin.2
    return some (.http response)
  | .socks5 username password => do
    let result ← establishSocks5 idna username password origin.1 origin.2
    return some (.socks5 result)

end NetstackSuite.Proxy
