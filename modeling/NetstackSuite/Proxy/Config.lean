import NetstackSuite.Config.DutConfig

/-!
# Proxy topology

`src/proxy/config.py`: how the client instance reaches the origin through a proxy under test. A
`ProxyConfig` of an explicit mode always has a front address to dial, because its constructor refuses
one without.
-/

namespace NetstackSuite.Proxy

open NetstackSuite.Config NetstackSuite.Python

/-- Source: `src/proxy/config.py` `DEFAULT_BACKEND_PORT`. Kind: D -/
def DEFAULT_BACKEND_PORT : Int := 9099

/-- Socket read size of both instances.
Source: `src/proxy/config.py` `RECV_CHUNK`
Kind: D -/
def RECV_CHUNK : Nat := 65536

/-- How the client instance reaches the origin through the DUT.
Source: `src/proxy/config.py` `ProxyMode`
Kind: D -/
inductive ProxyMode where
  | transparent
  | httpConnect
  | socks5
  deriving DecidableEq, Repr

namespace ProxyMode

/-- Source: `src/proxy/config.py` `ProxyMode`. Kind: D -/
def value : ProxyMode → PyStr
  | .transparent => text "transparent"
  | .httpConnect => text "http-connect"
  | .socks5 => text "socks5"

/-- The members in declaration order.
Source: `src/proxy/config.py` `ProxyMode`
Kind: D -/
def all : List ProxyMode := [.transparent, .httpConnect, .socks5]

/-- Whether the mode negotiates with the proxy before the tunnel carries origin bytes.
Source: `src/proxy/config.py` `ProxyMode.is_explicit`
Kind: D -/
def isExplicit (mode : ProxyMode) : Bool := mode ≠ .transparent

end ProxyMode

/-- Whether a host and a port are both truthy.
Source: `src/proxy/config.py` `ProxyConfig.__post_init__`
Kind: D -/
def HasFront (host : Option PyStr) (port : Option Int) : Prop :=
  (orNone host).isSome = true ∧ ∃ p, port = some p ∧ p ≠ 0

/-- Addresses for a proxy test run.
Source: `src/proxy/config.py` `ProxyConfig`
Kind: D -/
structure ProxyConfig where
  mode : ProxyMode
  backendHost : PyStr
  backendPort : Int
  proxyHost : Option PyStr := none
  proxyPort : Option Int := none
  timeout : PyFloat := .ofDecimal false 5 0
  /-- SOCKS5 credentials; unset offers "no authentication" only. -/
  username : Option PyStr := none
  password : Option PyStr := none
  /-- What `__post_init__` checks. -/
  hasFront : mode.isExplicit = true → HasFront proxyHost proxyPort

namespace ProxyConfig

variable (config : ProxyConfig)

/-- Where the client instance opens its TCP connection; an explicit mode without a front does not
exist.
Source: `src/proxy/config.py` `ProxyConfig.dial_target`
Kind: D -/
def dialTarget : PyStr × Int :=
  match config.mode.isExplicit, config.proxyHost, config.proxyPort with
  | true, some host, some port => (host, port)
  | _, _, _ => (config.backendHost, config.backendPort)

/-- The origin the tunnel must ultimately reach.
Source: `src/proxy/config.py` `ProxyConfig.origin`
Kind: D -/
def origin : PyStr × Int := (config.backendHost, config.backendPort)

end ProxyConfig

end NetstackSuite.Proxy
