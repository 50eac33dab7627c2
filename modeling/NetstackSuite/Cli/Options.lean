import NetstackSuite.Proxy.Config
import NetstackSuite.Python.ArgParse
import NetstackSuite.Runner.Args

/-!
# Options declared once

`src/cli/options.py`: the run configuration that `netstack-cli run` and the pytest child share, as one
table both register. Help texts are left out.
-/

namespace NetstackSuite.Cli

open NetstackSuite.Config NetstackSuite.Proxy NetstackSuite.Python NetstackSuite.Runner

/-- One option in the terms both surfaces need; `choices` and `type` are one field here, since they
exclude each other.
Source: `src/cli/options.py` `SharedOption`
Kind: D -/
structure SharedOption where
  name : PyStr
  type : ArgType := .text
  default : Option ArgValue := none
  deriving DecidableEq

/-- Source: `src/config.py` `Role`. Kind: D -/
def ROLE_CHOICES : List PyStr := [Role.client.value, Role.server.value]

/-- Source: `src/packet_engine/payloads.py` `PayloadMode`. Kind: D -/
def PAYLOAD_MODES : List PyStr := PayloadMode.all.map PayloadMode.value

/-- Source: `src/proxy/config.py` `ProxyMode`. Kind: D -/
def PROXY_MODES : List PyStr := ProxyMode.all.map ProxyMode.value

/-- Source: `src/config.py` `ProxyLeg`. Kind: D -/
def PROXY_LEGS : List PyStr := [ProxyLeg.front.value, ProxyLeg.back.value]

/-- The shared options as both front ends build them.
Source: `src/cli/options.py` `shared_options`; `conftest.py`, `src/cli/main.py` `SHARED_OPTIONS`
Kind: D -/
@[simp] def SHARED_OPTIONS : List SharedOption :=
  [{ name := text "--role", type := .choice ROLE_CHOICES, default := some (.text (text "client")) },
    { name := text "--dut-mac" },
    { name := text "--dut-port", type := .int },
    { name := text "--dut-source-port", type := .int },
    { name := text "--payload-mode", type := .choice PAYLOAD_MODES,
      default := some (.text (text "random")) },
    { name := text "--payload-size", type := .int, default := some (.int 64) },
    { name := text "--proxy-mode", type := .choice PROXY_MODES },
    { name := text "--proxy-leg", type := .choice PROXY_LEGS },
    { name := text "--proxy-host" },
    { name := text "--proxy-port", type := .int },
    { name := text "--backend-host" },
    { name := text "--backend-port", type := .int, default := some (.int DEFAULT_BACKEND_PORT) }]

/-- The target profiles a run can assert against.
Source: `src/target_profiles/registry.py` `list_profiles`
Kind: D -/
def listProfiles : List PyStr := [text "linux", text "windows"]

end NetstackSuite.Cli
