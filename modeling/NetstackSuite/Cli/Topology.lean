import NetstackSuite.Cli.Options
import NetstackSuite.Runner.Forwarding

/-!
# `netstack-cli run`, up to the request

`src/cli/main.py`: what click makes of the options, `_validate_cidrs`, `_resolve_topology`, and the
configuration and the request that `run` builds from them. The lines it echoes are left out.
-/

namespace NetstackSuite.Cli

open NetstackSuite.Config NetstackSuite.Proxy NetstackSuite.Python NetstackSuite.Runner

/-! ## The options of the command -/

/-- Source: click `BadParameter`. Kind: D -/
def badParameter : PyExc := .other "BadParameter"

/-- Source: click `UsageError`. Kind: D -/
def clickUsageError : PyExc := .other "click.UsageError"

/-- The modules of the catalog.
Source: `src/cli/main.py` `TEST_MODULES`
Kind: D -/
def TEST_MODULES : List PyStr := [text "icmp", text "ip", text "proxy", text "tcp", text "udp"]

/-- The submodules of the catalog.
Source: `src/cli/main.py` `TEST_SUBMODULES`
Kind: D -/
def TEST_SUBMODULES : List PyStr := [text "congestion", text "state_machine", text "syn"]

/-- What the operator typed, as text; the shared options by their flag.
Source: `src/cli/main.py` `run`
Kind: D -/
structure RunOptions where
  shared : PyStr → Option PyStr
  module : Option PyStr
  submodule : Option PyStr
  testName : Option PyStr
  markers : List PyStr
  iface : PyStr
  dutIp : PyStr
  targetStack : PyStr
  allowedTargets : List PyStr
  confirmVulnTests : Bool
  debug : Bool
  skipPreflight : Bool

/-- `click.Choice`.
Source: click `Choice.convert`
Kind: D -/
def clickChoice (choices : List PyStr) (value : PyStr) : Except PyExc PyStr :=
  if value ∈ choices then .ok value else .error badParameter

/-- A shared option as click hands it to the command: its default, or what was typed, converted.
Source: `src/cli/options.py` `click_options`
Kind: D -/
def sharedOption (options : RunOptions) (name : PyStr) : Except PyExc (Option ArgValue) :=
  match SHARED_OPTIONS.find? fun opt => opt.name == name with
  | none => .ok none
  | some opt =>
    match options.shared name with
    | none => .ok opt.default
    | some s =>
      match opt.type.read s with
      | .ok value => .ok (some value)
      | .error _ => .error badParameter

/-- Source: `src/cli/options.py` `click_options`. Kind: D -/
def clickText (options : RunOptions) (name : PyStr) : Except PyExc (Option PyStr) :=
  (sharedOption options name).map fun value => value.bind ArgValue.asText

/-- Source: `src/cli/options.py` `click_options`. Kind: D -/
def clickInt (options : RunOptions) (name : PyStr) : Except PyExc (Option Int) :=
  (sharedOption options name).map fun value => value.bind ArgValue.asInt

/-- Rejects a malformed CIDR at parse time.
Source: `src/cli/main.py` `_validate_cidrs`
Kind: D -/
def validateCidrs (value : List PyStr) : Except PyExc (List PyStr) := do
  for cidr in value do
    match ipNetwork cidr with
    | .ok _ => pure ()
    | .error _ => throw badParameter
  return value

/-- The parameters of the command, converted.
Source: `src/cli/main.py` `run`
Kind: D -/
structure RunParams where
  module : Option PyStr
  submodule : Option PyStr
  testName : Option PyStr
  markers : List PyStr
  iface : PyStr
  dutIp : PyStr
  dutMac : Option PyStr
  dutPort : Option Int
  dutSourcePort : Option Int
  targetStack : PyStr
  role : PyStr
  payloadMode : PyStr
  payloadSize : Int
  allowedTargets : List PyStr
  confirmVulnTests : Bool
  debug : Bool
  proxyMode : Option PyStr
  proxyLeg : Option PyStr
  proxyHost : Option PyStr
  proxyPort : Option Int
  backendHost : Option PyStr
  backendPort : Option Int
  skipPreflight : Bool

/-- What click makes of the command line; role, payload mode and payload size have defaults.
Source: `src/cli/main.py` `run` (its decorators)
Kind: D -/
def clickParams (options : RunOptions) : Except PyExc RunParams := do
  let module ← options.module.mapM (clickChoice TEST_MODULES)
  let submodule ← options.submodule.mapM (clickChoice TEST_SUBMODULES)
  let targetStack ← clickChoice listProfiles options.targetStack
  let role ← clickText options (text "--role")
  let dutMac ← clickText options (text "--dut-mac")
  let dutPort ← clickInt options (text "--dut-port")
  let dutSourcePort ← clickInt options (text "--dut-source-port")
  let payloadMode ← clickText options (text "--payload-mode")
  let payloadSize ← clickInt options (text "--payload-size")
  let proxyMode ← clickText options (text "--proxy-mode")
  let proxyLeg ← clickText options (text "--proxy-leg")
  let proxyHost ← clickText options (text "--proxy-host")
  let proxyPort ← clickInt options (text "--proxy-port")
  let backendHost ← clickText options (text "--backend-host")
  let backendPort ← clickInt options (text "--backend-port")
  let allowedTargets ← validateCidrs options.allowedTargets
  return {
    module, submodule, targetStack, dutMac, dutPort, dutSourcePort, proxyMode, proxyLeg, proxyHost,
    proxyPort, backendHost, backendPort, allowedTargets
    testName := options.testName
    markers := options.markers
    iface := options.iface
    dutIp := options.dutIp
    role := role.getD []
    payloadMode := payloadMode.getD []
    payloadSize := payloadSize.getD 0
    confirmVulnTests := options.confirmVulnTests
    debug := options.debug
    skipPreflight := options.skipPreflight }

/-! ## The topology -/

/-- What `_resolve_topology` decided.
Source: `src/cli/main.py` `_resolve_topology`
Kind: D -/
structure Topology where
  leg : Option ProxyLeg
  role : Role
  dutIp : Option PyStr
  dutPort : Int

/-- `ProxyLeg(value) if value else None`.
Source: `src/cli/main.py` `_resolve_topology`
Kind: D -/
def legOfValue (value : Option PyStr) : Except PyExc (Option ProxyLeg) :=
  match orNone value with
  | some value => (ProxyLeg.ofValue value).map some
  | none => .ok none

/-- Leg, role, retargeting, and the leg's requirements.
Source: `src/cli/main.py` `_resolve_topology`
Kind: D -/
def resolveTopology (proxyLeg : Option PyStr) (configuredRole dutIp : PyStr) (dutPort : Option Int)
    (proxyMode proxyHost : Option PyStr) (proxyPort : Option Int) (backendHost : Option PyStr)
    (random : EphemeralPort) : Except PyExc Topology := do
  let leg ← legOfValue proxyLeg
  let role := resolveRole leg (← Role.ofValue configuredRole)
  let (dutIp, dutPort) := resolveLegTarget leg (some dutIp) dutPort proxyHost proxyPort
  match backLegRequirementError leg proxyMode backendHost with
  | some _ => .error clickUsageError
  | none => return { leg := leg, role := role, dutIp := dutIp, dutPort := dutPort.getD random.port }

/-! ## The request -/

/-- Source: Python `SystemExit`. Kind: D -/
def systemExit : PyExc := .other "SystemExit"

section Run

-- `run_preflight(config).ok`.
variable (preflight : DutConfig → Bool)

/-- The configuration of the run.
Source: `src/cli/main.py` `run`
Kind: D -/
def runConfig (params : RunParams) (topology : Topology) : DutConfig where
  interface := some params.iface
  targetIp := topology.dutIp
  targetStack := some params.targetStack
  targetMac := params.dutMac
  targetPort := some topology.dutPort
  sourcePort := params.dutSourcePort
  allowedTargets := params.allowedTargets
  role := topology.role
  proxyLeg := topology.leg

/-- What the command hands to the runner; `random` is what `random_ephemeral_port` would return.
Source: `src/cli/main.py` `run`
Kind: D -/
def run (params : RunParams) (random : EphemeralPort) : Except PyExc RunRequest := do
  let topology ← resolveTopology params.proxyLeg params.role params.dutIp params.dutPort
    params.proxyMode params.proxyHost params.proxyPort params.backendHost random
  let config := runConfig params topology
  if ¬ params.skipPreflight ∧ ¬ preflight config then .error systemExit
  else
    let payloadMode ← PayloadMode.ofValue params.payloadMode
    return {
      config := config
      module := params.module
      submodule := params.submodule
      testName := params.testName
      markers := params.markers
      payloadMode := payloadMode
      payloadSize := params.payloadSize
      confirmVulnTests := params.confirmVulnTests
      debug := params.debug
      proxyMode := params.proxyMode
      proxyHost := params.proxyHost
      proxyPort := params.proxyPort
      backendHost := params.backendHost
      backendPort := params.backendPort }

/-- From the command line to the request.
Source: `src/cli/main.py` `run`
Kind: D -/
def runRequest (options : RunOptions) (random : EphemeralPort) : Except PyExc RunRequest := do
  let params ← clickParams options
  run preflight params random

end Run

/-! ## What the runner can rely on -/

/-- The defaults of the shared options are small numbers.
Source: `src/cli/options.py` `shared_options`
Kind: L -/
lemma default_lt {opt : SharedOption} (h : opt ∈ SHARED_OPTIONS) {i : Int}
    (hdefault : opt.default = some (.int i)) : i.natAbs < 100000 := by
  simp only [SHARED_OPTIONS, List.mem_cons, List.not_mem_nil, or_false] at h
  rcases h with rfl | rfl | rfl | rfl | rfl | rfl | rfl | rfl | rfl | rfl | rfl | rfl <;>
    simp only [DEFAULT_BACKEND_PORT, Option.some.injEq, ArgValue.int.injEq, reduceCtorEq] at hdefault <;>
    omega

/-- A number that click read can be printed.
Source: click `INT`
Kind: L -/
lemma printable_of_clickInt {options : RunOptions} {name : PyStr} {value : Option Int}
    (h : clickInt options name = .ok value) : Printable value := by
  intro i hi
  obtain ⟨value', hvalue, rfl⟩ := map_eq_ok.mp h
  obtain ⟨arg, rfl, harg⟩ := Option.bind_eq_some_iff.mp hi
  have hint : arg = .int i := by
    rcases arg with s | j | _ <;> simp_all [ArgValue.asInt]
  subst hint
  unfold sharedOption at hvalue
  split at hvalue
  · cases hvalue
  next opt hopt =>
    split at hvalue
    · exact intRepr_of_lt (default_lt (List.mem_of_find?_eq_some hopt) (Except.ok.inj hvalue))
    next s _ =>
      split at hvalue
      next hread =>
        obtain rfl := Option.some.inj (Except.ok.inj hvalue)
        exact intRepr_of_pyInt (ArgType.pyInt_of_read hread)
      · cases hvalue

/-- A text option with choices has one of them, or its default.
Source: click `Choice`
Kind: L -/
lemma mem_of_clickText {options : RunOptions} {name s : PyStr} {opt : SharedOption}
    {choices : List PyStr} (hopt : (SHARED_OPTIONS.find? fun opt => opt.name == name) = some opt)
    (htype : opt.type = .choice choices) (h : clickText options name = .ok (some s)) :
    s ∈ choices ∨ opt.default = some (.text s) := by
  obtain ⟨value, hvalue, hs⟩ := map_eq_ok.mp h
  obtain ⟨arg, rfl, harg⟩ := Option.bind_eq_some_iff.mp hs
  have htext : arg = .text s := by
    rcases arg with t | j | _ <;> simp_all [ArgValue.asText]
  subst htext
  unfold sharedOption at hvalue
  rw [hopt] at hvalue
  simp only at hvalue
  split at hvalue
  · exact Or.inr (Except.ok.inj hvalue)
  · split at hvalue
    next hread =>
      obtain rfl := Option.some.inj (Except.ok.inj hvalue)
      rw [htype] at hread
      simp only [ArgType.read] at hread
      split at hread
      next t hmem =>
        left
        have hsame := Except.ok.inj hread
        simp only [ArgValue.text.injEq] at hsame
        rw [← hsame]
        exact hmem
      · simp at hread
    · cases hvalue

/-- A text option without choices is what was typed.
Source: `src/cli/options.py` `click_options`
Kind: L -/
lemma clickText_of_text {options : RunOptions} {name : PyStr} {opt : SharedOption}
    (hopt : (SHARED_OPTIONS.find? fun opt => opt.name == name) = some opt)
    (htype : opt.type = .text) (hdefault : opt.default = none) :
    clickText options name = .ok (options.shared name) := by
  unfold clickText sharedOption
  rw [hopt]
  simp only [htype, hdefault]
  rcases options.shared name with _ | s <;> rfl

/-- The validated allow-list is the one given.
Source: `src/cli/main.py` `_validate_cidrs`
Kind: L -/
lemma validateCidrs_eq {value validated : List PyStr} (h : validateCidrs value = .ok validated) :
    validated = value := by
  unfold validateCidrs at h
  obtain ⟨_, -, hreturn⟩ := bind_eq_ok.mp h
  exact (Except.ok.inj hreturn).symm

/-- What the operator's command line says about the parameters.
Source: none: specification
Kind: D -/
structure ParamsOf (options : RunOptions) (params : RunParams) : Prop where
  iface : params.iface = options.iface
  dutIp : params.dutIp = options.dutIp
  targetStack : params.targetStack ∈ listProfiles
  proxyHost : params.proxyHost = options.shared (text "--proxy-host")
  proxyMode : ∀ mode, params.proxyMode = some mode → mode ∈ PROXY_MODES
  allowedTargets : params.allowedTargets = options.allowedTargets
  confirmVulnTests : params.confirmVulnTests = options.confirmVulnTests
  payloadSize : Printable (some params.payloadSize)
  dutPort : Printable params.dutPort
  dutSourcePort : Printable params.dutSourcePort
  proxyPort : Printable params.proxyPort
  backendPort : Printable params.backendPort

/-- **What click accepts is well formed.**
Source: `src/cli/main.py` `run` (its decorators)
Kind: P -/
theorem clickParams_spec {options : RunOptions} {params : RunParams}
    (h : clickParams options = .ok params) : ParamsOf options params := by
  unfold clickParams at h
  obtain ⟨module, -, h⟩ := bind_eq_ok.mp h
  obtain ⟨submodule, -, h⟩ := bind_eq_ok.mp h
  obtain ⟨targetStack, hstack, h⟩ := bind_eq_ok.mp h
  obtain ⟨role, -, h⟩ := bind_eq_ok.mp h
  obtain ⟨dutMac, -, h⟩ := bind_eq_ok.mp h
  obtain ⟨dutPort, hdutPort, h⟩ := bind_eq_ok.mp h
  obtain ⟨sourcePort, hsourcePort, h⟩ := bind_eq_ok.mp h
  obtain ⟨payloadMode, -, h⟩ := bind_eq_ok.mp h
  obtain ⟨payloadSize, hsize, h⟩ := bind_eq_ok.mp h
  obtain ⟨proxyMode, hmode, h⟩ := bind_eq_ok.mp h
  obtain ⟨proxyLeg, -, h⟩ := bind_eq_ok.mp h
  obtain ⟨proxyHost, hhost, h⟩ := bind_eq_ok.mp h
  obtain ⟨proxyPort, hproxyPort, h⟩ := bind_eq_ok.mp h
  obtain ⟨backendHost, -, h⟩ := bind_eq_ok.mp h
  obtain ⟨backendPort, hbackendPort, h⟩ := bind_eq_ok.mp h
  obtain ⟨allowed, hallowed, h⟩ := bind_eq_ok.mp h
  obtain rfl := Except.ok.inj h
  constructor
  · rfl
  · rfl
  · unfold clickChoice at hstack
    split at hstack
    next hmem =>
      obtain rfl := Except.ok.inj hstack
      exact hmem
    · cases hstack
  · have htyped : clickText options (text "--proxy-host") = .ok (options.shared (text "--proxy-host")) :=
      clickText_of_text (by simp; rfl) rfl rfl
    exact Except.ok.inj (hhost.symm.trans htyped)
  · intro mode hset
    have hset : proxyMode = some mode := hset
    rw [hset] at hmode
    rcases mem_of_clickText (by simp; rfl) rfl hmode with hmem | hdefault
    · exact hmem
    · cases hdefault
  · exact validateCidrs_eq hallowed
  · rfl
  · intro i hi
    obtain rfl := Option.some.inj hi
    rcases payloadSize with _ | size
    · exact @intRepr_of_lt 0 (by decide)
    · exact printable_of_clickInt hsize size rfl
  · exact printable_of_clickInt hdutPort
  · exact printable_of_clickInt hsourcePort
  · exact printable_of_clickInt hproxyPort
  · exact printable_of_clickInt hbackendPort

/-- What `_resolve_topology` settles.
Source: `src/cli/main.py` `_resolve_topology`
Kind: L -/
lemma resolveTopology_spec {proxyLeg : Option PyStr} {configuredRole dutIp : PyStr}
    {dutPort : Option Int} {proxyMode proxyHost : Option PyStr} {proxyPort : Option Int}
    {backendHost : Option PyStr} {random : EphemeralPort} {topology : Topology}
    (h : resolveTopology proxyLeg configuredRole dutIp dutPort proxyMode proxyHost proxyPort
      backendHost random = .ok topology) :
    (∃ configured, topology.role = resolveRole topology.leg configured) ∧
      topology.dutIp = resolvedIp topology.leg (some dutIp) proxyHost ∧
      (topology.dutPort ∈ dutPort ∨ topology.dutPort ∈ proxyPort ∨
        topology.dutPort = random.port) := by
  unfold resolveTopology at h
  obtain ⟨leg, -, h⟩ := bind_eq_ok.mp h
  obtain ⟨configured, -, h⟩ := bind_eq_ok.mp h
  simp only at h
  split at h
  · cases h
  · obtain rfl := Except.ok.inj h
    refine ⟨⟨configured, rfl⟩, resolveLegTarget_fst .., ?_⟩
    simp only
    rcases hport : (resolveLegTarget leg (some dutIp) dutPort proxyHost proxyPort).2 with _ | port
    · exact Or.inr (Or.inr rfl)
    · rcases resolveLegTarget_snd leg (some dutIp) dutPort proxyHost proxyPort with heq | heq
      · exact Or.inl (heq.symm.trans hport)
      · exact Or.inr (Or.inl (heq.symm.trans hport))

/-- **The command's requests can be forwarded**, and keep what the operator gave.
Source: `src/cli/main.py` `run`
Kind: P -/
theorem runRequest_forwardable {preflight : DutConfig → Bool} {options : RunOptions}
    {random : EphemeralPort} {request : RunRequest}
    (h : runRequest preflight options random = .ok request) :
    Forwardable request ∧ request.confirmVulnTests = options.confirmVulnTests ∧
      request.config.allowedTargets = options.allowedTargets ∧
      request.config.targetIp = resolvedIp request.config.proxyLeg (some options.dutIp)
        (options.shared (text "--proxy-host")) := by
  obtain ⟨params, hclick, h⟩ := bind_eq_ok.mp h
  have hparams := clickParams_spec hclick
  obtain ⟨topology, htopology, h⟩ := bind_eq_ok.mp h
  obtain ⟨⟨configured, hrole⟩, hip, hport⟩ := resolveTopology_spec htopology
  simp only at h
  split at h
  · cases h
  obtain ⟨payloadMode, -, h⟩ := bind_eq_ok.mp h
  obtain rfl := Except.ok.inj h
  obtain ⟨hset, hagain⟩ := resolvedIp_spec topology.leg params.dutIp params.proxyHost
  refine ⟨?_, hparams.confirmVulnTests, hparams.allowedTargets, ?_⟩
  · constructor
    · exact ⟨_, rfl⟩
    · obtain ⟨ip, hip'⟩ := hset
      exact ⟨ip, hip.trans hip'⟩
    · exact ⟨_, hparams.targetStack, rfl⟩
    · exact ⟨_, rfl⟩
    · exact hparams.payloadSize
    · intro i hi
      obtain rfl := Option.some.inj hi
      rcases hport with hport | hport | hport
      · exact hparams.dutPort _ hport
      · exact hparams.proxyPort _ hport
      · rw [hport]
        exact intRepr_of_ephemeral random
    · exact hparams.dutSourcePort
    · exact hparams.proxyPort
    · exact hparams.backendPort
    · intro mode hmode
      exact hparams.proxyMode mode (eq_of_orNone hmode)
    · exact under_testTargets fun target htarget => absurd htarget List.not_mem_nil
    · show resolveRole topology.leg topology.role = topology.role
      rw [hrole, resolveRole_idem]
    · intro hleg
      show orElse params.proxyHost topology.dutIp = topology.dutIp
      rw [hip]
      exact hagain hleg
  · show topology.dutIp = _
    rw [hip, hparams.dutIp, hparams.proxyHost]
    rfl

end NetstackSuite.Cli
