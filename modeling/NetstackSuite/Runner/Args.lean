import NetstackSuite.Cli.Results
import NetstackSuite.Config.DutConfig
import NetstackSuite.Python.Int

/-!
# The subprocess command line

`build_pytest_args` of `src/runner.py`: how a `RunRequest` becomes the argument list of the pytest
process. Every setting travels as one token `--flag=value` (`formatFlag`), except pytest's own `-k`
and `-m`, which take their value as the next token.
-/

namespace NetstackSuite.Runner

open NetstackSuite.Config NetstackSuite.Cli NetstackSuite.Python

/-- The four payload modes.
Source: `src/packet_engine/payloads.py` `PayloadMode`
Kind: D -/
inductive PayloadMode where
  | zeros
  | ones
  | random
  | custom
  deriving DecidableEq, Repr

/-- Source: `src/packet_engine/payloads.py` `PayloadMode`. Kind: D -/
def PayloadMode.value : PayloadMode → PyStr
  | .zeros => text "zeros"
  | .ones => text "ones"
  | .random => text "random"
  | .custom => text "custom"

/-- The members in declaration order.
Source: `src/packet_engine/payloads.py` `PayloadMode`
Kind: D -/
def PayloadMode.all : List PayloadMode := [.zeros, .ones, .random, .custom]

/-- `PayloadMode(value)`.
Source: `src/packet_engine/payloads.py` `PayloadMode`
Kind: D -/
def PayloadMode.ofValue (value : PyStr) : Except PyExc PayloadMode :=
  match PayloadMode.all.find? fun mode => mode.value == value with
  | some mode => .ok mode
  | none => .error .valueError

/-- What a front end asks for.
Source: `src/runner.py` `RunRequest`
Kind: D -/
structure RunRequest where
  config : DutConfig
  module : Option PyStr := none
  submodule : Option PyStr := none
  /-- A `-k` expression. -/
  testName : Option PyStr := none
  /-- Explicit pytest targets; they take precedence over module and submodule. -/
  targets : List PyStr := []
  /-- Extra `-m` terms. -/
  markers : List PyStr := []
  payloadMode : PayloadMode := .random
  payloadSize : Int := 64
  confirmVulnTests : Bool := false
  debug : Bool := false
  proxyMode : Option PyStr := none
  proxyHost : Option PyStr := none
  proxyPort : Option Int := none
  backendHost : Option PyStr := none
  backendPort : Option Int := none

namespace RunRequest

variable (request : RunRequest)

/-- Source: `src/runner.py` `RunRequest.role`. Kind: D -/
def role : Role := request.config.role

/-- The leg as the subprocess flag spells it.
Source: `src/runner.py` `RunRequest.proxy_leg`
Kind: D -/
def proxyLeg : Option PyStr := request.config.proxyLeg.map ProxyLeg.value

end RunRequest

/-! ## Flags and their values -/

/-- A value of a flag table.
Source: `src/runner.py` `_optional_flags`
Kind: D -/
inductive FlagValue where
  | str (s : PyStr)
  | int (i : Int)
  deriving DecidableEq

/-- `f"\x7bvalue\x7d"`.
Source: `src/runner.py` `build_pytest_args`
Kind: D -/
def FlagValue.format : FlagValue → Except PyExc PyStr
  | .str s => .ok s
  | .int i => intRepr i

/-- `f"\x7bvalue\x7d"` of a text that may be unset.
Source: `src/runner.py` `build_pytest_args`
Kind: D -/
def formatOptional : Option PyStr → PyStr
  | some s => s
  | none => text "None"

/-- `f"\x7bflag\x7d=\x7bvalue\x7d"`.
Source: `src/runner.py` `build_pytest_args`
Kind: D -/
def flagToken (flag value : PyStr) : PyStr := flag ++ text "=" ++ value

/-- One pair of a flag table.
Source: `src/runner.py` `build_pytest_args`
Kind: D -/
def formatFlag (pair : PyStr × FlagValue) : Except PyExc PyStr := do
  return flagToken pair.1 (← pair.2.format)

/-- The pairs whose value is set.
Source: `src/runner.py` `build_pytest_args`
Kind: D -/
def setFlags (flags : List (PyStr × Option FlagValue)) : List (PyStr × FlagValue) :=
  flags.filterMap fun (flag, value) => value.map (flag, ·)

/-- Source: `src/runner.py` `_optional_flags`. Kind: D -/
def optionalFlags (request : RunRequest) : List (PyStr × Option FlagValue) :=
  [(text "--dut-mac", (orNone request.config.targetMac).map .str),
    (text "--dut-port", request.config.targetPort.map .int),
    (text "--dut-source-port", request.config.sourcePort.map .int),
    (text "--proxy-mode", (orNone request.proxyMode).map .str),
    (text "--proxy-leg", (orNone request.proxyLeg).map .str)]

/-- The proxy's front and backend addresses.
Source: `src/runner.py` `_topology_flags`
Kind: D -/
def topologyFlags (request : RunRequest) : List (PyStr × Option FlagValue) :=
  [(text "--proxy-host", (orNone request.proxyHost).map .str),
    (text "--proxy-port", request.proxyPort.map .int),
    (text "--backend-host", (orNone request.backendHost).map .str),
    (text "--backend-port", request.backendPort.map .int)]

/-- The proxy addresses are sent whenever a mode or a leg is set.
Source: `src/runner.py` `build_pytest_args`
Kind: D -/
def sentTopology (request : RunRequest) : List (PyStr × Option FlagValue) :=
  if (orNone request.proxyMode).isSome ∨ (orNone request.proxyLeg).isSome then topologyFlags request
  else []

/-- The positional targets: those given, or the module's path.
Source: `src/runner.py` `_test_targets`
Kind: D -/
def testTargets (request : RunRequest) : List PyStr :=
  if request.targets ≠ [] then request.targets
  else
    [join (text "/") ([some (text "tests"), request.module, request.submodule].filterMap orNone)]

/-! ## The argument list -/

/-- How this program was started.
Source: Python `sys.executable`, `src/paths.py` `is_frozen`
Kind: D -/
structure Install where
  executable : PyStr
  frozen : Bool

/-- Source: `src/paths.py` `PYTEST_SENTINEL`. Kind: D -/
def PYTEST_SENTINEL : PyStr := text "--__run_pytest__"

/-- How to invoke pytest.
Source: `src/runner.py` `_launcher`
Kind: D -/
def launcher (install : Install) : List PyStr :=
  if install.frozen then
    [install.executable, PYTEST_SENTINEL, text "-p", text "pytest_reportlog.plugin"]
  else [install.executable, text "-m", text "pytest"]

/-- The expression of `-m`.
Source: `src/runner.py` `build_pytest_args`
Kind: D -/
def markerExpression (request : RunRequest) : PyStr := join (text " and ") request.markers

/-- `-k` and `-m`, each with its value as a token of its own.
Source: `src/runner.py` `build_pytest_args`
Kind: D -/
def selectionArgs (request : RunRequest) : List PyStr :=
  (match orNone request.testName with
    | some name => [text "-k", name]
    | none => []) ++
  if request.markers ≠ [] then [text "-m", markerExpression request] else []

/-- The settings every run has; `size` is the payload size as text.
Source: `src/runner.py` `build_pytest_args`
Kind: D -/
def fixedArgs (request : RunRequest) (artifacts : RunArtifacts) (size : PyStr) : List PyStr :=
  [flagToken (text "--report-log") artifacts.reportLog,
    flagToken (text "--target-stack") (formatOptional request.config.targetStack),
    flagToken (text "--role") request.role.value,
    flagToken (text "--dut-ip") (formatOptional request.config.targetIp),
    flagToken (text "--dut-iface") (formatOptional request.config.interface),
    flagToken (text "--payload-mode") request.payloadMode.value,
    flagToken (text "--payload-size") size,
    flagToken (text "--live-events-log") artifacts.packetEvents,
    flagToken (text "--capture-pcap") artifacts.capture,
    text "-v"]

/-- The subprocess argument list.
Source: `src/runner.py` `build_pytest_args`
Kind: D -/
def buildPytestArgs (install : Install) (request : RunRequest) (runDir : PyStr) :
    Except PyExc (List PyStr) := do
  let artifacts : RunArtifacts := { root := runDir }
  let size ← intRepr request.payloadSize
  let optional ← (setFlags (optionalFlags request)).mapM formatFlag
  let topology ← (setFlags (sentTopology request)).mapM formatFlag
  return launcher install ++ testTargets request ++ fixedArgs request artifacts size ++
    optional ++ selectionArgs request ++
    (if request.confirmVulnTests then [text "--confirm-vuln-tests"] else []) ++
    request.config.allowedTargets.map (flagToken (text "--allowed-targets")) ++
    (if request.debug then [flagToken (text "--debug-log") artifacts.debugLog] else []) ++
    topology

end NetstackSuite.Runner
