import NetstackSuite.Cli.Options
import NetstackSuite.Runner.Forwarding

/-!
# The GUI form, up to the request

`src/gui/main_window.py`: how `_on_run_clicked` turns the state of the widgets into the configuration
and the request that it starts. The lines of the log panel are left out.
-/

namespace NetstackSuite.Gui

open NetstackSuite.Cli NetstackSuite.Config NetstackSuite.Proxy NetstackSuite.Python
  NetstackSuite.Runner

/-- The state of the widgets when the button is clicked. A combo box has one of its items; a spin box
has a value of its range; the tree's targets are paths of the test tree.
Source: `src/gui/main_window.py` `MainWindow._build_config_group`, `MainWindow._build_proxy_group`
Kind: D -/
structure DutForm where
  iface : PyStr
  targetIp : PyStr
  targetMac : PyStr
  srcPort : Fin 65536
  dstPort : Fin 65536
  targetStack : PyStr
  targetStack_mem : targetStack ∈ listProfiles
  role : Role
  allowedTargets : PyStr
  confirmVuln : Bool
  debug : Bool
  proxyMode : Option ProxyMode
  proxyFront : PyStr
  proxyBackend : PyStr
  proxyLeg : Option ProxyLeg
  checkedTargets : List PyStr
  checkedTargets_tests : ∀ target ∈ checkedTargets, text "tests" <+: target

/-! ## `host:port` -/

/-- The host and the digits of the port of a non-empty field: `[host]:port`, or what is around the last
colon.
Source: `src/gui/main_window.py` `_split_host_port`
Kind: D -/
def splitField (value : PyStr) : PyStr × PyStr :=
  if value.head? = some (0x5B : CodePoint) then
    let (host, rest) := (partition 0x5D value).getD (value, [])
    (host.dropWhile (· = (0x5B : CodePoint)), rest.dropWhile (· = COLON))
  else
    match rpartition COLON value with
    | some (c :: host, port) => (c :: host, port)
    -- no host before the colon, or no colon at all: the whole field is the host
    | _ => (value, [])

/-- A `host:port` field; an empty one is unset, and so is a port that is not there. A port that is no
number raises.
Source: `src/gui/main_window.py` `_split_host_port`
Kind: D -/
def splitHostPort (field : PyStr) : Except PyExc (Option PyStr × Option Int) :=
  let value := strip field
  if value = [] then .ok (none, none)
  else
    let (host, port) := splitField value
    if port = [] then .ok (orNone (some host), none)
    else
      match pyInt port with
      | .ok port => .ok (orNone (some host), some port)
      | .error _ => .error configurationError

/-! ## The configuration -/

/-- The value that a spin box shows as "auto" or "random".
Source: `src/gui/main_window.py` `MainWindow._build_config_group`
Kind: D -/
def SPECIAL_VALUE : Fin 65536 := 0

/-- `value() or None`.
Source: `src/gui/main_window.py` `MainWindow._current_dut_config`
Kind: D -/
def spinValue (value : Fin 65536) : Option Int :=
  if value = SPECIAL_VALUE then none else some value.val

/-- The port field, or the random port of the session, chosen when it is first needed; the second
component is the session's port from now on.
Source: `src/gui/main_window.py` `MainWindow._resolved_dst_port`
Kind: D -/
def resolvedDstPort (form : DutForm) (session : Option EphemeralPort) (random : EphemeralPort) :
    Int × Option EphemeralPort :=
  match spinValue form.dstPort, session with
  | some port, _ => (port, session)
  | none, some chosen => (chosen.port, session)
  | none, none => (random.port, some random)

/-- The entries of the allow-list field.
Source: `src/gui/main_window.py` `MainWindow._current_dut_config`
Kind: D -/
def listedTargets (form : DutForm) : List PyStr :=
  ((form.allowedTargets.splitOn 0x2C).map strip).filter (· ≠ [])

/-- The configuration the form describes, and the session's random port afterwards.
Source: `src/gui/main_window.py` `MainWindow._current_dut_config`
Kind: D -/
def currentDutConfig (form : DutForm) (session : Option EphemeralPort) (random : EphemeralPort) :
    Except PyExc (DutConfig × Option EphemeralPort) := do
  let role := resolveRole form.proxyLeg form.role
  let (frontHost, frontPort) ← splitHostPort form.proxyFront
  let (targetIp, targetPort) := resolveLegTarget form.proxyLeg (some form.targetIp)
    (spinValue form.dstPort) frontHost frontPort
  let (port, session) :=
    match targetPort with
    | some port => (port, session)
    | none => resolvedDstPort form session random
  return ({
    interface := some form.iface
    targetIp := targetIp
    targetStack := some form.targetStack
    targetMac := orNone (some form.targetMac)
    targetPort := some port
    sourcePort := spinValue form.srcPort
    allowedTargets := listedTargets form
    role := role
    proxyLeg := form.proxyLeg }, session)

/-! ## The request -/

/-- Source: `src/gui/main_window.py` `MainWindow._build_run_request`. Kind: D -/
def buildRunRequest (form : DutForm) (config : DutConfig) : Except PyExc RunRequest := do
  let (proxyHost, proxyPort) ← splitHostPort form.proxyFront
  let (backendHost, backendPort) ← splitHostPort form.proxyBackend
  return {
    config := config
    targets := form.checkedTargets
    confirmVulnTests := form.confirmVuln
    debug := form.debug
    proxyMode := form.proxyMode.map ProxyMode.value
    proxyHost := proxyHost
    proxyPort := proxyPort
    backendHost := backendHost
    backendPort := backendPort }

/-- Whether the leg's requirements are met.
Source: `src/gui/main_window.py` `MainWindow._report_and_validate_topology`
Kind: D -/
def validateTopology (form : DutForm) (config : DutConfig) : Except PyExc Bool := do
  let (backendHost, _) ← splitHostPort form.proxyBackend
  return (backLegRequirementError config.proxyLeg (form.proxyMode.map ProxyMode.value) backendHost
    (text "a Proxy mode") (text "a Proxy backend address")).isNone

section Click

-- `run_preflight(config).ok`.
variable (preflight : DutConfig → Bool)

/-- The request a click on the button starts, if it starts one, and the session's random port
afterwards. A malformed field is reported in the log and starts nothing.
Source: `src/gui/main_window.py` `MainWindow._on_run_clicked`
Kind: D -/
def onRunClicked (form : DutForm) (session : Option EphemeralPort) (random : EphemeralPort) :
    Option RunRequest × Option EphemeralPort :=
  match currentDutConfig form session random with
  | .error _ => (none, session)
  | .ok (config, session) =>
    match validateTopology form config with
    | .ok true =>
      if preflight config then
        match buildRunRequest form config with
        | .ok request => (some request, session)
        | .error _ => (none, session)
      else (none, session)
    | _ => (none, session)

end Click

/-! ## What the runner can rely on -/

/-- A spin box's value can be printed.
Source: `src/gui/main_window.py` `MainWindow._build_config_group`
Kind: L -/
lemma printable_spinValue (value : Fin 65536) : Printable (spinValue value) := by
  intro i hi
  unfold spinValue at hi
  split at hi
  · cases hi
  · obtain rfl := Option.some.inj hi
    have hlt := value.isLt
    exact intRepr_of_lt (by omega)

/-- The port of the session can be printed.
Source: `src/gui/main_window.py` `MainWindow._resolved_dst_port`
Kind: L -/
lemma intRepr_resolvedDstPort (form : DutForm) (session : Option EphemeralPort)
    (random : EphemeralPort) : ∃ t, intRepr (resolvedDstPort form session random).1 = .ok t := by
  unfold resolvedDstPort
  rcases hport : spinValue form.dstPort with _ | port
  · rcases session with _ | chosen
    · exact intRepr_of_ephemeral random
    · exact intRepr_of_ephemeral chosen
  · exact printable_spinValue form.dstPort port hport

/-- A port read from a field can be printed.
Source: `src/gui/main_window.py` `_split_host_port`
Kind: L -/
lemma printable_splitHostPort {field : PyStr} {host : Option PyStr} {port : Option Int}
    (h : splitHostPort field = .ok (host, port)) : Printable port := by
  intro i hi
  unfold splitHostPort at h
  simp only at h
  split at h
  · obtain ⟨-, rfl⟩ := Prod.mk.inj (Except.ok.inj h)
    cases hi
  · split at h
    · obtain ⟨-, rfl⟩ := Prod.mk.inj (Except.ok.inj h)
      cases hi
    · split at h
      next hport =>
        obtain ⟨-, rfl⟩ := Prod.mk.inj (Except.ok.inj h)
        obtain rfl := Option.some.inj hi
        exact intRepr_of_pyInt hport
      · cases h

/-- Only a click that passes every check starts a request.
Source: `src/gui/main_window.py` `MainWindow._on_run_clicked`
Kind: L -/
lemma onRunClicked_some {preflight : DutConfig → Bool} {form : DutForm}
    {session : Option EphemeralPort} {random : EphemeralPort} {request : RunRequest}
    (h : (onRunClicked preflight form session random).1 = some request) :
    ∃ config session', currentDutConfig form session random = .ok (config, session') ∧
      buildRunRequest form config = .ok request := by
  unfold onRunClicked at h
  split at h
  · cases h
  next config session' hconfig =>
    refine ⟨config, session', hconfig, ?_⟩
    split at h
    · split at h
      · split at h
        next request' hrequest =>
          obtain rfl := Option.some.inj h
          exact hrequest
        · cases h
      · cases h
    · cases h

/-- **The GUI's requests can be forwarded**, and keep what the operator entered.
Source: `src/gui/main_window.py` `MainWindow._on_run_clicked`
Kind: P -/
theorem onRunClicked_forwardable {preflight : DutConfig → Bool} {form : DutForm}
    {session : Option EphemeralPort} {random : EphemeralPort} {request : RunRequest}
    (h : (onRunClicked preflight form session random).1 = some request) :
    Forwardable request ∧ request.confirmVulnTests = form.confirmVuln ∧
      request.config.allowedTargets = listedTargets form ∧
      ∃ front, splitHostPort form.proxyFront = .ok front ∧
        request.config.targetIp =
          resolvedIp request.config.proxyLeg (some form.targetIp) front.1 := by
  obtain ⟨config, session', hconfig, hrequest⟩ := onRunClicked_some h
  obtain ⟨⟨frontHost, frontPort⟩, hfront, hconfig⟩ := bind_eq_ok.mp hconfig
  obtain ⟨⟨proxyHost, proxyPort⟩, hproxy, hrequest⟩ := bind_eq_ok.mp hrequest
  obtain ⟨⟨backendHost, backendPort⟩, hbackend, hrequest⟩ := bind_eq_ok.mp hrequest
  obtain ⟨rfl, rfl⟩ := Prod.mk.inj (Except.ok.inj (hfront.symm.trans hproxy))
  obtain ⟨hconfig, -⟩ := Prod.mk.inj (Except.ok.inj hconfig)
  obtain rfl := Except.ok.inj hrequest
  subst hconfig
  have hip := resolveLegTarget_fst form.proxyLeg (some form.targetIp) (spinValue form.dstPort)
    frontHost frontPort
  have hport := resolveLegTarget_snd form.proxyLeg (some form.targetIp) (spinValue form.dstPort)
    frontHost frontPort
  obtain ⟨hset, hagain⟩ := resolvedIp_spec form.proxyLeg form.targetIp frontHost
  refine ⟨?_, rfl, rfl, _, hfront, hip⟩
  constructor
  · exact ⟨_, rfl⟩
  · obtain ⟨ip, hip'⟩ := hset
    exact ⟨ip, hip.trans hip'⟩
  · exact ⟨_, form.targetStack_mem, rfl⟩
  · exact ⟨_, rfl⟩
  · intro i hi
    obtain rfl := Option.some.inj hi
    exact @intRepr_of_lt 64 (by decide)
  · intro i hi
    obtain rfl := Option.some.inj hi
    show ∃ t, intRepr (match (resolveLegTarget form.proxyLeg (some form.targetIp)
      (spinValue form.dstPort) frontHost frontPort).2 with
      | some port => (port, session)
      | none => resolvedDstPort form session random).1 = .ok t
    rcases hset : (resolveLegTarget form.proxyLeg (some form.targetIp) (spinValue form.dstPort)
      frontHost frontPort).2 with _ | port
    · exact intRepr_resolvedDstPort form session random
    · rcases hport with heq | heq
      · exact printable_spinValue form.dstPort port (heq.symm.trans hset)
      · exact printable_splitHostPort hfront port (heq.symm.trans hset)
  · exact printable_spinValue form.srcPort
  · exact printable_splitHostPort hfront
  · exact printable_splitHostPort hbackend
  · intro mode hmode
    obtain ⟨choice, -, rfl⟩ := Option.map_eq_some_iff.mp (eq_of_orNone hmode)
    unfold PROXY_MODES ProxyMode.all
    rcases choice with _ | _ | _ <;> simp
  · exact under_testTargets form.checkedTargets_tests
  · exact resolveRole_idem form.proxyLeg form.role
  · intro hleg
    show orElse frontHost (resolveLegTarget _ _ _ _ _).1 = (resolveLegTarget _ _ _ _ _).1
    rw [hip]
    exact hagain hleg

end NetstackSuite.Gui
