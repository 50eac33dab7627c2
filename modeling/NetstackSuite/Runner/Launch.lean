import NetstackSuite.Cli.Topology
import NetstackSuite.Gui.DutForm
import NetstackSuite.Runner.ArgumentFiles

/-!
# From the operator to the child

Both front ends put together with the child process they start. `Operator` is what the operator did:
a command line, or a click on a filled-in form.

* `config_fidelity_iff` — the child rebuilds the parent's configuration, whatever the files on the disk hold.
* `vuln_body_runs_iff` — a `vuln` test body runs only against an address that the operator authorized
  and confirmed, whatever the files hold.

Both are so exactly if no value of the selection names a file of arguments, or the child refuses the line
whatever it holds (`SelectionGiven`). A click never names one, and a command line can (`unconfirmed_body_runs`).
-/

namespace NetstackSuite.Runner

open NetstackSuite.Cli NetstackSuite.Config NetstackSuite.Gui NetstackSuite.Python

/-- What the operator did, and what the preflight check found.
Source: `src/cli/main.py` `run`, `src/gui/main_window.py` `MainWindow._on_run_clicked`
Kind: D -/
inductive Operator where
  | cli (preflight : DutConfig → Bool) (options : RunOptions)
  /-- The session's random port is the one chosen by an earlier click, if there was one. -/
  | gui (preflight : DutConfig → Bool) (form : DutForm) (session : Option EphemeralPort)

namespace Operator

/-- The request the front end makes of it, if it makes one.
Source: `src/cli/main.py` `run`, `src/gui/main_window.py` `MainWindow._on_run_clicked`
Kind: D -/
def request (random : EphemeralPort) : Operator → Option RunRequest
  | cli preflight options =>
    match runRequest preflight options random with
    | .ok request => some request
    | .error _ => none
  | gui preflight form session => (onRunClicked preflight form session random).1

/-- Whether the operator confirmed `vuln` tests.
Source: `src/cli/main.py` `run`, `src/gui/main_window.py` `MainWindow._build_run_request`
Kind: D -/
def confirmed : Operator → Bool
  | cli _ options => options.confirmVulnTests
  | gui _ form _ => form.confirmVuln

/-- The CIDR ranges the operator listed.
Source: `src/cli/main.py` `run`, `src/gui/main_window.py` `MainWindow._current_dut_config`
Kind: D -/
def allowList : Operator → List PyStr
  | cli _ options => options.allowedTargets
  | gui _ form _ => listedTargets form

/-- The device's address as the operator gave it.
Source: `src/cli/main.py` `run`, `src/gui/main_window.py` `MainWindow._current_dut_config`
Kind: D -/
def dutIp : Operator → PyStr
  | cli _ options => options.dutIp
  | gui _ form _ => form.targetIp

/-- The front host as the operator gave it.
Source: `src/cli/main.py` `run`, `src/gui/main_window.py` `MainWindow._current_dut_config`
Kind: D -/
def frontHost : Operator → Option PyStr
  | cli _ options => options.shared (text "--proxy-host")
  | gui _ form _ =>
    match splitHostPort form.proxyFront with
    | .ok (host, _) => host
    | .error _ => none

/-- **Whatever the operator did, the request can be forwarded**, and it keeps the confirmation, the
allow-list and the resolved address.
Source: `src/cli/main.py` `run`, `src/gui/main_window.py` `MainWindow._on_run_clicked`
Kind: P -/
theorem request_forwardable {operator : Operator} {random : EphemeralPort} {request : RunRequest}
    (h : operator.request random = some request) :
    Forwardable request ∧ request.confirmVulnTests = operator.confirmed ∧
      request.config.allowedTargets = operator.allowList ∧
      request.config.targetIp =
        resolvedIp request.config.proxyLeg (some operator.dutIp) operator.frontHost := by
  cases operator with
  | cli preflight options =>
      have hrun : runRequest preflight options random = .ok request := by
        simp only [Operator.request] at h
        split at h
        next made hmade =>
          obtain rfl := Option.some.inj h
          exact hmade
        · cases h
      exact runRequest_forwardable hrun
  | gui preflight form session =>
      obtain ⟨hforward, hconfirm, hallowed, ⟨host, port⟩, hfront, hip⟩ := onRunClicked_forwardable h
      refine ⟨hforward, hconfirm, hallowed, ?_⟩
      simp only [frontHost, hfront]
      exact hip

end Operator

/-- A click gives no expression that could look like an option.
Source: `src/gui/main_window.py` `MainWindow._build_run_request`
Kind: L -/
lemma selectionReadable_of_gui {preflight : DutConfig → Bool} {form : DutForm}
    {session : Option EphemeralPort} {random : EphemeralPort} {request : RunRequest}
    (h : (Operator.gui preflight form session).request random = some request)
    (pytest : PytestOptions) : SelectionReadable pytest request := by
  obtain ⟨config, _, _, hrequest⟩ := onRunClicked_some h
  obtain ⟨_, _, hrequest⟩ := bind_eq_ok.mp hrequest
  obtain ⟨_, _, hrequest⟩ := bind_eq_ok.mp hrequest
  obtain rfl := Except.ok.inj hrequest
  refine ⟨?_, fun hmarkers => absurd rfl hmarkers⟩
  intro name hname
  cases hname

/-- A click selects by no expression at all, so none names a file.
Source: `src/gui/main_window.py` `MainWindow._build_run_request`
Kind: L -/
lemma selectionGiven_of_gui {preflight : DutConfig → Bool} {form : DutForm}
    {session : Option EphemeralPort} {random : EphemeralPort} {request : RunRequest}
    (h : (Operator.gui preflight form session).request random = some request)
    (pytest : PytestOptions) : SelectionGiven pytest request := by
  obtain ⟨config, _, _, hrequest⟩ := onRunClicked_some h
  obtain ⟨_, _, hrequest⟩ := bind_eq_ok.mp hrequest
  obtain ⟨_, _, hrequest⟩ := bind_eq_ok.mp hrequest
  obtain rfl := Except.ok.inj hrequest
  exact Or.inr (List.forall_mem_nil _)

/-- What the child's gate decides about, whatever the operator did, if the selection names no file.
Source: `conftest.py` `enforce_vuln_authorization`
Kind: L -/
lemma child_gate {operator : Operator} {random childRandom : EphemeralPort} {request : RunRequest}
    (h : operator.request random = some request) {pytest : PytestOptions}
    (hgiven : SelectionGiven pytest request) {install : Install}
    {runDir : PyStr} {args : List PyStr} (hargs : buildPytestArgs install request runDir = .ok args)
    {files : ArgFiles} {ns : Namespace} (hns : childOptions files pytest install args = .ok ns)
    {config : DutConfig} (hconfig : dutConfig ns childRandom = .ok config) :
    config.targetIp = resolvedIp config.proxyLeg (some operator.dutIp) operator.frontHost ∧
      (enforceVulnAuthorization true ns childRandom = .ok () ↔
        operator.confirmed = true ∧ Authorized config.targetIp operator.allowList) := by
  obtain ⟨hforward, hconfirmed, hallowed, hip⟩ := Operator.request_forwardable h
  obtain ⟨args', hargs', hchild⟩ := childOptions_buildPytestArgs hforward pytest install runDir
  obtain rfl : args' = args := Except.ok.inj (hargs'.symm.trans hargs)
  obtain ⟨hreads, hrefuses⟩ := hchild files
  have hselection : SelectionReadable pytest request := by
    by_contra hnot
    obtain ⟨e, herror⟩ := hrefuses hnot
    rw [herror] at hns
    cases hns
  have hplain : Plain (selectionArgs request) := hgiven.resolve_left (not_not_intro hselection)
  obtain rfl : _ = ns := Except.ok.inj ((hreads hplain hselection).symm.trans hns)
  have hseen := seenByChild install request { root := runDir }
  obtain ⟨rebuilt, hrebuilt, hsame⟩ := rebuildConfig_sameTarget hforward hseen childRandom
  obtain rfl : rebuilt = config := by
    unfold dutConfig at hconfig
    obtain ⟨_, hrebuilt', hconfig⟩ := bind_eq_ok.mp hconfig
    obtain rfl := Except.ok.inj (hrebuilt'.symm.trans hrebuilt)
    split at hconfig
    · cases hconfig
    · exact Except.ok.inj hconfig
  have hgate : enforceVulnAuthorization true
      (childEntries install request { root := runDir }) childRandom =
      enforceVulnTestAuthorization rebuilt
        (confirmVulnTests (childEntries install request { root := runDir })) := by
    unfold enforceVulnAuthorization
    simp only [hconfig, if_true, bind, Except.bind]
  refine ⟨?_, ?_⟩
  · rw [hsame.targetIp, hsame.proxyLeg, hip]
  · rw [hgate, enforceVulnTestAuthorization_iff, hseen.confirmVulnTests, hconfirmed,
      hsame.allowedTargets, hallowed]

lemma linux_mem : text "linux" ∈ listProfiles := List.mem_cons_self

lemma under_tests : ∀ target ∈ [text "tests/ip"], text "tests" <+: target := by
  decide +kernel

/-- A run for the witnesses: a click that probes the front of a proxy on port 0 of the host given in
the proxy's field, with one authorized range.
Source: none: test data
Kind: D -/
def frontClick : Operator :=
  .gui (fun _ => true)
    { iface := text "eth0"
      targetIp := text "10.0.0.5"
      targetMac := []
      srcPort := SPECIAL_VALUE
      dstPort := SPECIAL_VALUE
      targetStack := text "linux"
      targetStack_mem := linux_mem
      role := .server
      allowedTargets := text "fe80::/10, 10.0.0.0/24,"
      confirmVuln := true
      debug := false
      proxyMode := none
      proxyFront := text "10.0.0.9:0"
      proxyBackend := []
      proxyLeg := some .front
      checkedTargets := [text "tests/ip"]
      checkedTargets_tests := under_tests }
    none

/-- The random port of the witnesses.
Source: none: test data
Kind: D -/
def somePort : EphemeralPort := { port := 50000, low := by decide, high := by decide }

/-- The options the witnesses' child has from pytest.
Source: none: test data
Kind: D -/
def someSpecs : List OptionSpec :=
  [{ flag := text "-k", type := .text }, { flag := text "-m", type := .text },
    { flag := text "-p", type := .text }, { flag := text "-v", type := .present },
    { flag := text "--report-log", type := .text }]

lemma someSpecs_takesText : ∀ flag ∈ [text "-k", text "-m", text "-p", text "--report-log"],
    lookup someSpecs flag = some { flag := flag, type := .text } := by
  simp [lookup, someSpecs]

lemma someSpecs_verbose :
    lookup someSpecs (text "-v") = some { flag := text "-v", type := .present } := by
  simp [lookup, someSpecs]

lemma someSpecs_noEquals : ∀ spec ∈ someSpecs, EQUALS ∉ spec.flag := by
  have hall : someSpecs.all (fun spec => !spec.flag.contains EQUALS) = true := by
    decide +kernel
  intro spec hspec
  simpa using List.all_eq_true.mp hall spec hspec

/-- Source: none: test data. Kind: D -/
def somePytest : PytestOptions where
  specs := someSpecs
  takesText := someSpecs_takesText
  verbose := someSpecs_verbose
  noEquals := someSpecs_noEquals

/-- No file at all.
Source: none: test data
Kind: D -/
def noFiles : ArgFiles where
  lines _ := .error osError
  nesting := 1000

/-- **Parent and child agree on the target**, whatever the operator did and whatever the files hold, exactly if
no value of the selection names a file of arguments, or the line is refused anyway: exactly if the value of
`-k` or `-m` looks like an option, which a click never makes.
Source: `src/runner.py` `build_pytest_args`, `conftest.py` `dut_config`
Kind: P -/
theorem config_fidelity_iff (operator : Operator) (random childRandom : EphemeralPort)
    (request : RunRequest) (h : operator.request random = some request) (pytest : PytestOptions)
    (install : Install) (runDir : PyStr) :
    ∃ args, buildPytestArgs install request runDir = .ok args ∧
      ((∀ files, RebuildsParent files pytest install request args childRandom) ↔
        SelectionGiven pytest request) ∧
      (SelectionGiven pytest request → ∀ files,
        (SelectionReadable pytest request → ∃ ns, childOptions files pytest install args = .ok ns) ∧
        (¬ SelectionReadable pytest request → (∃ preflight options, operator = .cli preflight options) ∧
          ∃ e, childOptions files pytest install args = .error e)) := by
  obtain ⟨hforward, -⟩ := Operator.request_forwardable h
  obtain ⟨args, hargs, hchild⟩ := child_sameTarget hforward pytest install runDir childRandom
  refine ⟨args, hargs, ⟨?_, fun hgiven files => (hchild hgiven files).1⟩, ?_⟩
  · intro hall
    by_contra hnot
    obtain ⟨args', files, ns, config, hargs', hns, hconfig, -, -, hother, -⟩ :=
      taken_over hforward hnot install runDir childRandom request.config.targetIp
    obtain rfl : args' = args := Except.ok.inj (hargs'.symm.trans hargs)
    obtain ⟨config', hconfig', hsame, -⟩ := hall files ns hns
    obtain rfl := Except.ok.inj (hconfig'.symm.trans hconfig)
    exact hother hsame.targetIp
  · intro hgiven files
    obtain ⟨-, hread, hrefused⟩ := hchild hgiven files
    refine ⟨hread, fun hselection => ⟨?_, hrefused hselection⟩⟩
    cases operator with
    | cli preflight options => exact ⟨preflight, options, rfl⟩
    | gui preflight form session => exact absurd (selectionReadable_of_gui h pytest) hselection

/-- `config_fidelity_iff` at a click on a front leg.
Source: `src/runner.py` `build_pytest_args`, `conftest.py` `dut_config`
Kind: P -/
theorem config_fidelity_frontClick :
    ∃ request args ns config, frontClick.request somePort = some request ∧
      buildPytestArgs { executable := text "python", frozen := false } request (text "run") =
        .ok args ∧
      childOptions noFiles somePytest { executable := text "python", frozen := false } args = .ok ns ∧
      dutConfig ns somePort = .ok config ∧ config.targetIp = some (text "10.0.0.9") ∧
      config.targetPort = some 0 := by
  obtain ⟨request, hrequest, hconfig⟩ : ∃ request, frontClick.request somePort = some request ∧
      request.config.missingRequired = [] ∧ request.config.targetIp = some (text "10.0.0.9") ∧
      request.config.targetPort = some 0 :=
    ⟨_, rfl, by decide +kernel, by decide +kernel, by decide +kernel⟩
  obtain ⟨hmissing, hip, hport⟩ := hconfig
  obtain ⟨args, hargs, hfaithful, hread⟩ := config_fidelity_iff frontClick somePort somePort request hrequest
    somePytest { executable := text "python", frozen := false } (text "run")
  have hgiven := selectionGiven_of_gui hrequest somePytest
  obtain ⟨ns, hns⟩ := (hread hgiven noFiles).1 (selectionReadable_of_gui hrequest somePytest)
  obtain ⟨config, -, hsame, hdut⟩ := hfaithful.mpr hgiven noFiles ns hns
  rw [if_pos hmissing] at hdut
  exact ⟨request, args, ns, config, hrequest, hargs, hns, hdut, hsame.targetIp.trans hip,
    hsame.targetPort.trans hport⟩

/-! ## The command line that names a file -/

/-- A run of the tests that `@args` selects, with one authorized range and no confirmation.
Source: none: test data
Kind: D -/
def fileRun : Operator :=
  .cli (fun _ => true)
    { shared := fun _ => none
      module := none
      submodule := none
      testName := some (text "@args")
      markers := []
      iface := text "eth0"
      dutIp := text "192.0.2.1"
      targetStack := text "linux"
      allowedTargets := [text "192.0.2.0/24"]
      confirmVulnTests := false
      debug := false
      skipPreflight := false }

/-- A disk on which every file holds these lines.
Source: none: test data
Kind: D -/
def filesOf (lines : List PyStr) : ArgFiles where
  lines _ := .ok lines
  nesting := 1000

/-- The addresses that parent and child test, and whether the child's gate lets a `vuln` test pass.
Source: none: test data
Kind: D -/
def outcomeOf (operator : Operator) (files : ArgFiles) : Option (Option PyStr × Option PyStr × Bool) :=
  (operator.request somePort).bind fun request =>
    (buildPytestArgs { executable := text "python", frozen := false } request (text "run")).toOption.bind
      fun args => (childOptions files somePytest { executable := text "python", frozen := false }
        args).toOption.bind fun ns => (rebuildConfig ns somePort).toOption.map fun config =>
          (request.config.targetIp, config.targetIp, (enforceVulnAuthorization true ns somePort).isOk)

/-- A file that sets another device: the child tests that one.
Source: `src/runner.py` `build_pytest_args`, `conftest.py` `dut_config`
Kind: P -/
theorem other_device_rebuilt :
    outcomeOf fileRun (filesOf [text "syn", text "--dut-ip=198.51.100.7"]) =
      some (some (text "192.0.2.1"), some (text "198.51.100.7"), false) := by
  decide +kernel

/-! ## The gate -/

/-- The body of a `vuln` test runs in the child: the child accepts its command line, and the gate does
not raise.
Source: `conftest.py` `enforce_vuln_authorization`
Kind: D -/
def VulnBodyRuns (files : ArgFiles) (pytest : PytestOptions) (install : Install) (args : List PyStr)
    (random : EphemeralPort) : Prop :=
  ∃ ns, childOptions files pytest install args = .ok ns ∧
    enforceVulnAuthorization true ns random = .ok ()

/-- A `vuln` test body runs exactly if the operator confirmed and the address that the child builds its packets
for, which is the operator's, retargeted to the front if the run probes one, lies in a range the operator
listed, with nothing malformed before it. In every other case the gate raises.
Source: `conftest.py` `enforce_vuln_authorization`, `src/utils/safety.py` `enforce_vuln_test_authorization`
Kind: D -/
structure GateSound (operator : Operator) (files : ArgFiles) (pytest : PytestOptions) (install : Install)
    (args : List PyStr) (random : EphemeralPort) : Prop where
  runs_iff : VulnBodyRuns files pytest install args random ↔
    ∃ ns config, childOptions files pytest install args = .ok ns ∧ dutConfig ns random = .ok config ∧
      config.targetIp = resolvedIp config.proxyLeg (some operator.dutIp) operator.frontHost ∧
      operator.confirmed = true ∧ Authorized config.targetIp operator.allowList
  raises : ∀ ns config, childOptions files pytest install args = .ok ns → dutConfig ns random = .ok config →
    ¬ (operator.confirmed = true ∧ Authorized config.targetIp operator.allowList) →
      ∃ e, enforceVulnAuthorization true ns random = .error e

/-- What passes the gate has a configuration.
Source: `conftest.py` `enforce_vuln_authorization`
Kind: L -/
lemma exists_dutConfig {ns : Namespace} {random : EphemeralPort}
    (h : enforceVulnAuthorization true ns random = .ok ()) : ∃ config, dutConfig ns random = .ok config := by
  obtain ⟨config, hconfig, -⟩ := bind_eq_ok.mp h
  exact ⟨config, hconfig⟩

/-- **A selection that names no file leaves the gate sound.**
Source: `conftest.py` `enforce_vuln_authorization`
Kind: L -/
lemma gateSound_of_given {operator : Operator} {random childRandom : EphemeralPort} {request : RunRequest}
    (h : operator.request random = some request) {pytest : PytestOptions}
    (hgiven : SelectionGiven pytest request) {install : Install} {runDir : PyStr} {args : List PyStr}
    (hargs : buildPytestArgs install request runDir = .ok args) (files : ArgFiles) :
    GateSound operator files pytest install args childRandom := by
  constructor
  · constructor
    · rintro ⟨ns, hns, hgate⟩
      obtain ⟨config, hconfig⟩ := exists_dutConfig hgate
      obtain ⟨hip, hiff⟩ := child_gate h hgiven hargs hns hconfig
      obtain ⟨hconfirmed, hauthorized⟩ := hiff.mp hgate
      exact ⟨ns, config, hns, hconfig, hip, hconfirmed, hauthorized⟩
    · rintro ⟨ns, config, hns, hconfig, -, hconfirmed, hauthorized⟩
      obtain ⟨-, hiff⟩ := child_gate h hgiven hargs hns hconfig
      exact ⟨ns, hns, hiff.mpr ⟨hconfirmed, hauthorized⟩⟩
  · intro ns config hns hconfig hnot
    obtain ⟨-, hiff⟩ := child_gate h hgiven hargs hns hconfig
    rcases hgate : enforceVulnAuthorization true ns childRandom with e | _
    · exact ⟨e, rfl⟩
    · exact absurd (hiff.mp hgate) hnot

/-- **A `vuln` test body runs only against an authorized and confirmed target**, whatever the operator did and
whatever the files hold, exactly if no value of the selection names a file of arguments, or the line is refused
anyway.
Source: `conftest.py` `enforce_vuln_authorization`, `src/utils/safety.py`
`enforce_vuln_test_authorization`
Kind: P -/
theorem vuln_body_runs_iff (operator : Operator) (random childRandom : EphemeralPort)
    (request : RunRequest) (h : operator.request random = some request) (pytest : PytestOptions)
    (install : Install) (runDir : PyStr) :
    ∃ args, buildPytestArgs install request runDir = .ok args ∧
      ((∀ files, GateSound operator files pytest install args childRandom) ↔
        SelectionGiven pytest request) := by
  obtain ⟨hforward, -⟩ := Operator.request_forwardable h
  obtain ⟨args, hargs, -⟩ := childOptions_buildPytestArgs hforward pytest install runDir
  refine ⟨args, hargs, ?_, fun hgiven files => gateSound_of_given h hgiven hargs files⟩
  intro hsound
  by_contra hnot
  -- behind a proxy the child's address is the operator's, and the file gives another one
  obtain ⟨args', files, ns, config, hargs', hns, -, hconfig, hleg, hother, hgate⟩ :=
    taken_over hforward hnot install runDir childRandom (some operator.dutIp)
  obtain rfl : args' = args := Except.ok.inj (hargs'.symm.trans hargs)
  obtain ⟨ns', config', hns', hconfig', hip, -⟩ := (hsound files).runs_iff.mp ⟨ns, hns, hgate⟩
  obtain rfl : ns' = ns := Except.ok.inj (hns'.symm.trans hns)
  obtain rfl : config' = config := Except.ok.inj (hconfig'.symm.trans hconfig)
  rw [hleg] at hip
  exact hother hip

/-- `vuln_body_runs_iff` at the click of `frontClick`: the front lies in the second listed range.
Source: `conftest.py` `enforce_vuln_authorization`
Kind: P -/
theorem vuln_body_runs_frontClick :
    ∃ request args, frontClick.request somePort = some request ∧
      buildPytestArgs { executable := text "python", frozen := false } request (text "run") =
        .ok args ∧
      VulnBodyRuns noFiles somePytest { executable := text "python", frozen := false } args somePort := by
  obtain ⟨request, hrequest, hmissing, hip⟩ : ∃ request, frontClick.request somePort = some request ∧
      request.config.missingRequired = [] ∧ request.config.targetIp = some (text "10.0.0.9") :=
    ⟨_, rfl, by decide +kernel, by decide +kernel⟩
  obtain ⟨hforward, -⟩ := Operator.request_forwardable hrequest
  obtain ⟨args, hargs, hiff⟩ := vuln_body_runs_iff frontClick somePort somePort request hrequest
    somePytest { executable := text "python", frozen := false } (text "run")
  have hgiven := selectionGiven_of_gui hrequest somePytest
  have hsound := hiff.mpr hgiven noFiles
  obtain ⟨args', hargs', hchild⟩ := child_sameTarget hforward somePytest
    { executable := text "python", frozen := false } (text "run") somePort
  obtain rfl : args' = args := Except.ok.inj (hargs'.symm.trans hargs)
  obtain ⟨hrebuilds, hread, -⟩ := hchild hgiven noFiles
  obtain ⟨ns, hns⟩ := hread (selectionReadable_of_gui hrequest somePytest)
  obtain ⟨config, -, hsame, hdut⟩ := hrebuilds ns hns
  rw [if_pos hmissing] at hdut
  have hauthorized : Authorized config.targetIp frontClick.allowList := by
    have hlist : frontClick.allowList = [text "fe80::/10", text "10.0.0.0/24"] := by
      decide +kernel
    rw [hsame.targetIp, hip, hlist]
    have hrange : DutConfig.targetInAllowedRange
        { interface := none, targetIp := some (text "10.0.0.9"), targetStack := none,
          allowedTargets := [text "fe80::/10", text "10.0.0.0/24"] } = .ok true := by
      decide +kernel
    exact (targetInAllowedRange_iff _).mp hrange
  refine ⟨request, args', hrequest, hargs, hsound.runs_iff.mpr ⟨ns, config, hns, hdut, ?_, by decide, hauthorized⟩⟩
  exact (child_gate hrequest hgiven hargs hns hdut).1

/-- A file that confirms: `vuln` tests run against the listed device, which the operator never confirmed.
Source: `src/runner.py` `build_pytest_args`, `conftest.py` `enforce_vuln_authorization`
Kind: P -/
theorem unconfirmed_body_runs :
    fileRun.confirmed = false ∧
      outcomeOf fileRun (filesOf [text "syn", text "--confirm-vuln-tests"]) =
        some (some (text "192.0.2.1"), some (text "192.0.2.1"), true) := by
  decide +kernel

end NetstackSuite.Runner
