import NetstackSuite.Cli.Options

/-!
# The pytest child

`conftest.py`: the options the child registers, and the fixtures that rebuild the run configuration
from them. Nothing else reaches the child: `dutConfig` sees the parent's configuration only through
the command line that `buildPytestArgs` wrote.
-/

namespace NetstackSuite.Runner

open NetstackSuite.Cli NetstackSuite.Config NetstackSuite.Proxy NetstackSuite.Python

/-! ## Options -/

/-- The options that only pytest has, or spells differently.
Source: `conftest.py` `pytest_addoption`
Kind: D -/
@[simp] def PYTEST_ONLY_OPTIONS : List SharedOption :=
  [{ name := text "--target-stack", type := .choice listProfiles },
    { name := text "--dut-ip" },
    { name := text "--dut-iface" },
    { name := text "--payload-text" },
    { name := text "--payload-hex" },
    { name := text "--payload-file" },
    { name := text "--live-events-log" },
    { name := text "--capture-pcap" },
    { name := text "--debug-log" },
    { name := text "--allowed-targets" },
    { name := text "--confirm-vuln-tests", type := .present }]

/-- Source: `conftest.py` `pytest_addoption`. Kind: D -/
@[simp] def CONFTEST_OPTIONS : List SharedOption := SHARED_OPTIONS ++ PYTEST_ONLY_OPTIONS

/-- Source: `src/cli/options.py` `register_pytest_options`. Kind: D -/
@[simp] def CONFTEST_SPECS : List OptionSpec :=
  CONFTEST_OPTIONS.map fun opt => { flag := opt.name, type := opt.type }

/-- The options pytest and its report-log plugin register by themselves: those the runner uses take
the value they are given as text, `-v` takes none, and no flag contains an equals sign.
Source: pytest `--help`, pytest-reportlog
Kind: D -/
structure PytestOptions where
  specs : List OptionSpec
  takesText : ∀ flag ∈ [text "-k", text "-m", text "-p", text "--report-log"],
    lookup specs flag = some { flag := flag, type := .text }
  verbose : lookup specs (text "-v") = some { flag := text "-v", type := .present }
  noEquals : ∀ spec ∈ specs, EQUALS ∉ spec.flag

/-- Every option of the child.
Source: `conftest.py` `pytest_addoption`
Kind: D -/
def PytestOptions.all (pytest : PytestOptions) : List OptionSpec := CONFTEST_SPECS ++ pytest.specs

/-- `pytestconfig.getoption(name)`.
Source: pytest `Config.getoption`
Kind: D -/
def getoption (ns : Namespace) (name : PyStr) : Option ArgValue :=
  match (valuesOf ns name).getLast? with
  | some value => some value
  | none => (CONFTEST_OPTIONS.find? fun opt => opt.name == name).bind SharedOption.default

/-- A text option.
Source: pytest `Config.getoption`
Kind: D -/
def getText (ns : Namespace) (name : PyStr) : Option PyStr :=
  (getoption ns name).bind ArgValue.asText

/-- An integer option.
Source: pytest `Config.getoption`
Kind: D -/
def getInt (ns : Namespace) (name : PyStr) : Option Int :=
  (getoption ns name).bind ArgValue.asInt

/-- A text option given at most once, without a default.
Source: pytest `Config.getoption`
Kind: L -/
lemma getText_of_valuesOf {ns : Namespace} {name : PyStr} {value : Option PyStr}
    (h : valuesOf ns name = (value.map ArgValue.text).toList)
    (hdefault : (CONFTEST_OPTIONS.find? fun opt => opt.name == name).bind SharedOption.default = none) :
    getText ns name = value := by
  unfold getText getoption
  rw [h, hdefault]
  rcases value with _ | s <;> rfl

/-- An integer option given at most once, without a default.
Source: pytest `Config.getoption`
Kind: L -/
lemma getInt_of_valuesOf {ns : Namespace} {name : PyStr} {value : Option Int}
    (h : valuesOf ns name = (value.map ArgValue.int).toList)
    (hdefault : (CONFTEST_OPTIONS.find? fun opt => opt.name == name).bind SharedOption.default = none) :
    getInt ns name = value := by
  unfold getInt getoption
  rw [h, hdefault]
  rcases value with _ | i <;> rfl

/-- An option with `action="append"`.
Source: Python `argparse` `_AppendAction`
Kind: D -/
def getList (ns : Namespace) (name : PyStr) : List PyStr :=
  (valuesOf ns name).filterMap ArgValue.asText

/-! ## Fixtures -/

/-- `pytest.fail`.
Source: pytest `fail.Exception`
Kind: D -/
def failed : PyExc := .other "Failed"

/-- Source: `conftest.py` `selected_proxy_leg`. Kind: D -/
def selectedProxyLeg (ns : Namespace) : Except PyExc (Option ProxyLeg) :=
  match orNone (getText ns (text "--proxy-leg")) with
  | some value => (ProxyLeg.ofValue value).map some
  | none => .ok none

/-- The role this run plays.
Source: `conftest.py` `effective_role`
Kind: D -/
def effectiveRole (ns : Namespace) : Except PyExc Role := do
  let leg ← selectedProxyLeg ns
  match getText ns (text "--role") with
  | some value => return resolveRole leg (← Role.ofValue value)
  | none => .error .valueError

/-- The configuration the child builds, before it checks that nothing is missing; `random` is what
`random_ephemeral_port` would return.
Source: `conftest.py` `dut_config`
Kind: D -/
def rebuildConfig (ns : Namespace) (random : EphemeralPort) : Except PyExc DutConfig := do
  let leg ← selectedProxyLeg ns
  let (targetIp, targetPort) := resolveLegTarget leg (getText ns (text "--dut-ip"))
    (getInt ns (text "--dut-port")) (getText ns (text "--proxy-host"))
    (getInt ns (text "--proxy-port"))
  let role ← effectiveRole ns
  return {
    interface := getText ns (text "--dut-iface")
    targetIp := targetIp
    targetStack := getText ns (text "--target-stack")
    targetMac := getText ns (text "--dut-mac")
    targetPort := some (targetPort.getD random.port)
    sourcePort := getInt ns (text "--dut-source-port")
    allowedTargets := getList ns (text "--allowed-targets")
    role := role
    proxyLeg := leg }

/-- The session's configuration.
Source: `conftest.py` `dut_config`
Kind: D -/
def dutConfig (ns : Namespace) (random : EphemeralPort) : Except PyExc DutConfig := do
  let config ← rebuildConfig ns random
  if config.missingRequired ≠ [] then throw failed
  return config

/-- Source: `conftest.py` `confirm_vuln_tests`. Kind: D -/
def confirmVulnTests (ns : Namespace) : Bool :=
  (getoption ns (text "--confirm-vuln-tests")).isSome

/-- The autouse fixture every test passes before its body.
Source: `conftest.py` `enforce_vuln_authorization`
Kind: D -/
def enforceVulnAuthorization (vulnMarked : Bool) (ns : Namespace) (random : EphemeralPort) :
    Except PyExc Unit := do
  if vulnMarked then
    let config ← dutConfig ns random
    enforceVulnTestAuthorization config (confirmVulnTests ns)

/-! ## The child process -/

/-- What reaches pytest: `python -m pytest` hands over everything after the module, the frozen program
everything after the sentinel.
Source: Python `-m`, `src/gui/app.py` `main`
Kind: D -/
def pytestArgv (install : Install) (args : List PyStr) : List PyStr :=
  args.drop (if install.frozen then 2 else 3)

/-- The options the child sees, where `files` are the files that an argument can name.
Source: `conftest.py` `pytest_addoption`
Kind: D -/
def childOptions (files : ArgFiles) (pytest : PytestOptions) (install : Install) (args : List PyStr) :
    Except PyExc Namespace :=
  parseArgs files pytest.all (pytestArgv install args)

end NetstackSuite.Runner
