import NetstackSuite.Runner.Conftest

/-!
# From the parent's request to the child's options

The command line of `buildPytestArgs`, read by the child. `childEntries` lists what every piece of the
line leaves in the child's namespace; `childOptions_buildPytestArgs` is the whole line: it is refused if the
value of `-k` or `-m` looks like an option itself, and otherwise, if nothing in it names a file of arguments,
the child sees `childEntries`. The lemmas after it read the single options off.
-/

namespace NetstackSuite.Runner

open NetstackSuite.Cli NetstackSuite.Config NetstackSuite.Proxy NetstackSuite.Python

/-! ## Single tokens -/

/-- The value of a flag table, as the child reads it.
Source: `conftest.py` `pytest_addoption`
Kind: D -/
def FlagValue.arg : FlagValue → ArgValue
  | .str s => .text s
  | .int i => .int i

/-- Every option of the child has a long flag.
Source: `conftest.py` `pytest_addoption`
Kind: L -/
lemma isLongFlag_of_mem {spec : OptionSpec} (h : spec ∈ CONFTEST_SPECS) : IsLongFlag spec.flag := by
  have hall : CONFTEST_SPECS.all (fun spec => decide (IsLongFlag spec.flag)) = true := by
    decide +kernel
  exact of_decide_eq_true (List.all_eq_true.mp hall spec h)

/-- An option found under a flag has that flag.
Source: Python `argparse`
Kind: L -/
lemma flag_of_lookup {specs : List OptionSpec} {flag : PyStr} {spec : OptionSpec}
    (h : lookup specs flag = some spec) : spec ∈ specs ∧ spec.flag = flag := by
  refine ⟨List.mem_of_find?_eq_some h, ?_⟩
  have hfound := List.find?_some h
  exact beq_iff_eq.mp hfound

section Pytest

variable (pytest : PytestOptions)

/-- The child's own options come first.
Source: `conftest.py` `pytest_addoption`
Kind: L -/
lemma lookup_all {flag : PyStr} {spec : OptionSpec} (h : lookup CONFTEST_SPECS flag = some spec) :
    lookup pytest.all flag = some spec := by
  unfold lookup PytestOptions.all
  rw [List.find?_append]
  unfold lookup at h
  rw [h, Option.some_or]

/-- No flag of the child contains an equals sign.
Source: `conftest.py` `pytest_addoption`
Kind: L -/
lemma noEquals_all : ∀ spec ∈ pytest.all, EQUALS ∉ spec.flag := by
  intro spec hspec
  rcases List.mem_append.mp hspec with hours | htheirs
  · exact (isLongFlag_of_mem hours).2
  · exact pytest.noEquals spec htheirs

/-- A flag of pytest's own that the child does not redefine.
Source: pytest `--help`
Kind: L -/
lemma lookup_pytest {flag : PyStr} {spec : OptionSpec} (hours : lookup CONFTEST_SPECS flag = none)
    (h : lookup pytest.specs flag = some spec) : lookup pytest.all flag = some spec := by
  unfold lookup PytestOptions.all
  rw [List.find?_append]
  unfold lookup at hours h
  rw [hours, Option.none_or, h]

/-- `--flag=value` for an option of the child.
Source: `conftest.py` `pytest_addoption`
Kind: L -/
lemma reads_flagToken {flag value : PyStr} {spec : OptionSpec} {v : ArgValue}
    (hspec : lookup CONFTEST_SPECS flag = some spec) (hread : spec.type.read value = .ok v) :
    Reads pytest.all [flagToken flag value] [(flag, v)] := by
  obtain ⟨hmem, hflag⟩ := flag_of_lookup hspec
  have hlong := isLongFlag_of_mem hmem
  rw [hflag] at hlong
  have htoken := Reads.flagValue (lookup_all pytest hspec) hlong (noEquals_all pytest) hread
  rw [hflag] at htoken
  unfold flagToken
  rw [List.append_assoc]
  exact htoken

/-- A token of an option of the child names no file.
Source: `conftest.py` `pytest_addoption`
Kind: L -/
lemma plain_flagToken {flag : PyStr} {spec : OptionSpec} (hspec : lookup CONFTEST_SPECS flag = some spec)
    (value : PyStr) : Plain [flagToken flag value] := by
  obtain ⟨hmem, hflag⟩ := flag_of_lookup hspec
  have hdashes := (isLongFlag_of_mem hmem).1
  rw [hflag] at hdashes
  apply Plain.of_dash
  intro arg harg
  obtain rfl := List.mem_singleton.mp harg
  rcases flag with _ | ⟨c, flag⟩
  · cases hdashes
  · exact congrArg some (List.cons.inj hdashes).1

/-- A text option of the child.
Source: `conftest.py` `pytest_addoption`
Kind: L -/
lemma reads_text {flag value : PyStr}
    (hspec : lookup CONFTEST_SPECS flag = some { flag := flag, type := .text }) :
    Reads pytest.all [flagToken flag value] [(flag, .text value)] :=
  reads_flagToken pytest hspec rfl

/-- An option of the child with a fixed set of values.
Source: `conftest.py` `pytest_addoption`
Kind: L -/
lemma reads_choice {flag value : PyStr} {choices : List PyStr}
    (hspec : lookup CONFTEST_SPECS flag = some { flag := flag, type := .choice choices })
    (hvalue : value ∈ choices) : Reads pytest.all [flagToken flag value] [(flag, .text value)] := by
  apply reads_flagToken pytest hspec
  unfold ArgType.read
  exact if_pos hvalue

/-- An integer option of the child, printed and read back.
Source: `conftest.py` `pytest_addoption`
Kind: L -/
lemma reads_int {flag value : PyStr} {i : Int}
    (hspec : lookup CONFTEST_SPECS flag = some { flag := flag, type := .int })
    (hvalue : intRepr i = .ok value) : Reads pytest.all [flagToken flag value] [(flag, .int i)] := by
  apply reads_flagToken pytest hspec
  simp only [ArgType.read, pyInt_intRepr hvalue]

/-! ## Flag tables -/

/-- The child reads the flag's value back.
Source: none: specification
Kind: D -/
def Fits (pair : PyStr × FlagValue) : Prop :=
  ∃ spec value, lookup CONFTEST_SPECS pair.1 = some spec ∧ pair.2.format = .ok value ∧
    spec.type.read value = .ok pair.2.arg

lemma fits_text {flag : PyStr} (value : PyStr)
    (hspec : lookup CONFTEST_SPECS flag = some { flag := flag, type := .text }) :
    Fits (flag, .str value) :=
  ⟨_, value, hspec, rfl, rfl⟩

lemma fits_choice {flag value : PyStr} {choices : List PyStr}
    (hspec : lookup CONFTEST_SPECS flag = some { flag := flag, type := .choice choices })
    (hvalue : value ∈ choices) : Fits (flag, .str value) :=
  ⟨_, value, hspec, rfl, if_pos hvalue⟩

lemma fits_int {flag : PyStr} {i : Int}
    (hspec : lookup CONFTEST_SPECS flag = some { flag := flag, type := .int })
    (hprint : ∃ t, intRepr i = .ok t) : Fits (flag, .int i) := by
  obtain ⟨t, ht⟩ := hprint
  refine ⟨_, t, hspec, ht, ?_⟩
  simp only [ArgType.read, pyInt_intRepr ht, FlagValue.arg]

/-- What a flag table leaves in the namespace.
Source: `src/runner.py` `build_pytest_args`
Kind: D -/
def settings (flags : List (PyStr × Option FlagValue)) : Namespace :=
  (setFlags flags).map fun pair => (pair.1, pair.2.arg)

/-- **A flag table whose values fit is printed, and read back whole.**
Source: `src/runner.py` `build_pytest_args`
Kind: P -/
theorem reads_setFlags (flags : List (PyStr × Option FlagValue))
    (hfits : ∀ pair ∈ flags, ∀ value, pair.2 = some value → Fits (pair.1, value)) :
    ∃ tokens, (setFlags flags).mapM formatFlag = .ok tokens ∧
      Reads pytest.all tokens (settings flags) ∧ Plain tokens := by
  induction flags with
  | nil => exact ⟨[], rfl, Reads.nil, List.forall_mem_nil _⟩
  | cons pair flags ih =>
      obtain ⟨flag, value⟩ := pair
      obtain ⟨tokens, htokens, hreads, hplain⟩ := ih fun p hp => hfits p (List.mem_cons_of_mem _ hp)
      rcases value with _ | value
      · exact ⟨tokens, htokens, hreads, hplain⟩
      · obtain ⟨spec, s, hspec, hformat, hread⟩ := hfits _ List.mem_cons_self value rfl
        refine ⟨flagToken flag s :: tokens, ?_, ?_, ?_⟩
        · have hcons : setFlags ((flag, some value) :: flags) = (flag, value) :: setFlags flags := rfl
          rw [hcons, List.mapM_cons, formatFlag, hformat]
          simp only [bind, Except.bind, pure, Except.pure, htokens]
        · exact (reads_flagToken pytest hspec hread).append hreads
        · exact (plain_flagToken hspec s).append hplain

/-! ## The whole line -/

/-- A random port can be printed.
Source: `src/config.py` `EPHEMERAL_PORT_RANGE`
Kind: L -/
lemma intRepr_of_ephemeral (random : EphemeralPort) : ∃ t, intRepr random.port = .ok t := by
  have hlow := random.low
  have hhigh := random.high
  simp only [EPHEMERAL_PORT_RANGE] at hlow hhigh
  exact intRepr_of_lt (by omega)

/-- What a front end promises of its request: the required fields are set, the ports can be printed,
choices are among those offered, the targets are paths, and the addressing is already resolved.
Source: none: specification
Kind: D -/
structure Forwardable (request : RunRequest) : Prop where
  interface : ∃ s, request.config.interface = some s
  targetIp : ∃ s, request.config.targetIp = some s
  targetStack : ∃ s ∈ listProfiles, request.config.targetStack = some s
  targetPort : ∃ p, request.config.targetPort = some p
  payloadSize : Printable (some request.payloadSize)
  dutPort : Printable request.config.targetPort
  sourcePort : Printable request.config.sourcePort
  proxyPort : Printable request.proxyPort
  backendPort : Printable request.backendPort
  proxyMode : ∀ mode, orNone request.proxyMode = some mode → mode ∈ PROXY_MODES
  targets : ∀ target ∈ testTargets request, text "tests" <+: target
  resolvedRole : resolveRole request.config.proxyLeg request.config.role = request.config.role
  resolvedTarget : request.config.proxyLeg = some .front →
    orElse request.proxyHost request.config.targetIp = request.config.targetIp

/-- The targets are paths under `tests`.
Source: `src/runner.py` `_test_targets`
Kind: L -/
lemma under_testTargets {request : RunRequest} (h : ∀ target ∈ request.targets, text "tests" <+: target) :
    ∀ target ∈ testTargets request, text "tests" <+: target := by
  intro target htarget
  unfold testTargets at htarget
  split at htarget
  · exact h target htarget
  · obtain rfl := List.mem_singleton.mp htarget
    have htests : orNone (some (text "tests")) = some (text "tests") := rfl
    rw [List.filterMap_cons, htests]
    unfold join
    rcases [request.module, request.submodule].filterMap orNone with _ | ⟨part, parts⟩
    · exact ⟨[], by simp [List.intercalate]⟩
    · rw [List.intercalate_cons_cons]
      exact ⟨_, (List.append_assoc _ _ _).symm⟩

/-- A path under `tests` neither looks like an option nor names a file of arguments.
Source: `src/runner.py` `_test_targets`
Kind: L -/
lemma head_of_tests {target : PyStr} (h : text "tests" <+: target) :
    target.head? ≠ some DASH ∧ target.head? ≠ some AT := by
  obtain ⟨rest, rfl⟩ := h
  have hfirst : (text "tests").head? = some (chr 't'.toNat) := rfl
  rw [List.head?_append, hfirst, Option.some_or]
  decide

/-- The values of `-k` and `-m` do not look like options.
Source: Python `argparse`
Kind: D -/
def SelectionReadable (request : RunRequest) : Prop :=
  (∀ name, orNone request.testName = some name → classify pytest.all name = .positional) ∧
    (request.markers ≠ [] → classify pytest.all (markerExpression request) = .positional)

/-- The values of `-k` and `-m` name no file of arguments, or the line is refused in any case, for one of them
that looks like an option.
Source: Python `argparse`
Kind: D -/
def SelectionGiven (request : RunRequest) : Prop :=
  ¬ SelectionReadable pytest request ∨ Plain (selectionArgs request)

/-- What the launcher leaves in the namespace.
Source: `src/runner.py` `_launcher`
Kind: D -/
def launcherEntries (install : Install) : Namespace :=
  if install.frozen then [(text "-p", .text (text "pytest_reportlog.plugin"))] else []

/-- What the settings every run has leave in the namespace.
Source: `src/runner.py` `build_pytest_args`
Kind: D -/
def fixedEntries (request : RunRequest) (artifacts : RunArtifacts) : Namespace :=
  [(text "--report-log", .text artifacts.reportLog),
    (text "--target-stack", .text (formatOptional request.config.targetStack)),
    (text "--role", .text request.role.value),
    (text "--dut-ip", .text (formatOptional request.config.targetIp)),
    (text "--dut-iface", .text (formatOptional request.config.interface)),
    (text "--payload-mode", .text request.payloadMode.value),
    (text "--payload-size", .int request.payloadSize),
    (text "--live-events-log", .text artifacts.packetEvents),
    (text "--capture-pcap", .text artifacts.capture),
    (text "-v", .present)]

/-- What `-k` and `-m` leave in the namespace.
Source: `src/runner.py` `build_pytest_args`
Kind: D -/
def selectionEntries (request : RunRequest) : Namespace :=
  (match orNone request.testName with
    | some name => [(text "-k", .text name)]
    | none => []) ++
  if request.markers ≠ [] then [(text "-m", .text (markerExpression request))] else []

/-- What the line in front of the selection leaves in the namespace.
Source: `src/runner.py` `build_pytest_args`
Kind: D -/
def frontEntries (install : Install) (request : RunRequest) (artifacts : RunArtifacts) : Namespace :=
  launcherEntries install ++ (testTargets request).map positional ++ fixedEntries request artifacts ++
    settings (optionalFlags request)

/-- What the line behind the selection leaves in the namespace.
Source: `src/runner.py` `build_pytest_args`
Kind: D -/
def backEntries (request : RunRequest) (artifacts : RunArtifacts) : Namespace :=
  (if request.confirmVulnTests then [(text "--confirm-vuln-tests", .present)] else []) ++
    request.config.allowedTargets.map (fun cidr => (text "--allowed-targets", .text cidr)) ++
    (if request.debug then [(text "--debug-log", .text artifacts.debugLog)] else []) ++
    settings (sentTopology request)

/-- What the whole line leaves in the namespace.
Source: `src/runner.py` `build_pytest_args`
Kind: D -/
def childEntries (install : Install) (request : RunRequest) (artifacts : RunArtifacts) : Namespace :=
  frontEntries install request artifacts ++ selectionEntries request ++ backEntries request artifacts

variable {pytest} {request : RunRequest}

/-- A one-letter option of pytest's own.
Source: pytest `--help`
Kind: L -/
lemma classify_pytest {flag : PyStr} {type : ArgType} (hours : lookup CONFTEST_SPECS flag = none)
    (htheirs : lookup pytest.specs flag = some { flag := flag, type := type })
    (hdash : flag.head? = some DASH) (hlong : flag ≠ [DASH] ∧ flag ≠ [DASH, DASH]) :
    classify pytest.all flag = .option { flag := flag, type := type } none :=
  classify_flag (lookup_pytest pytest hours htheirs) hdash hlong

lemma classify_k : classify pytest.all (text "-k") = .option { flag := text "-k", type := .text } none :=
  classify_pytest (by simp [lookup]) (pytest.takesText _ (by simp)) (by decide) (by decide)

lemma classify_m : classify pytest.all (text "-m") = .option { flag := text "-m", type := .text } none :=
  classify_pytest (by simp [lookup]) (pytest.takesText _ (by simp)) (by decide) (by decide)

lemma classify_p : classify pytest.all (text "-p") = .option { flag := text "-p", type := .text } none :=
  classify_pytest (by simp [lookup]) (pytest.takesText _ (by simp)) (by decide) (by decide)

lemma classify_v :
    classify pytest.all (text "-v") = .option { flag := text "-v", type := .present } none :=
  classify_pytest (by simp [lookup]) pytest.verbose (by decide) (by decide)

/-- The confirmation is read.
Source: `conftest.py` `pytest_addoption`
Kind: L -/
lemma reads_confirm :
    Reads pytest.all [text "--confirm-vuln-tests"] [(text "--confirm-vuln-tests", .present)] := by
  have hlookup : lookup pytest.all (text "--confirm-vuln-tests") =
      some { flag := text "--confirm-vuln-tests", type := .present } :=
    lookup_all pytest (by simp [lookup])
  exact Reads.of_present (classify_flag hlookup (by decide) (by decide)) rfl

/-- The settings every run has are read back.
Source: `src/runner.py` `build_pytest_args`
Kind: L -/
lemma reads_fixed (h : Forwardable request) (artifacts : RunArtifacts) {size : PyStr}
    (hsize : intRepr request.payloadSize = .ok size) :
    Reads pytest.all (fixedArgs request artifacts size) (fixedEntries request artifacts) := by
  have hlog : Reads pytest.all [flagToken (text "--report-log") artifacts.reportLog]
      [(text "--report-log", .text artifacts.reportLog)] := by
    have hlookup : lookup pytest.all (text "--report-log") =
        some { flag := text "--report-log", type := .text } :=
      lookup_pytest pytest (by simp [lookup]) (pytest.takesText _ (by simp))
    have hlong : IsLongFlag (text "--report-log") := by
      decide +kernel
    have hread : ArgType.text.read artifacts.reportLog = .ok (.text artifacts.reportLog) := rfl
    have htoken := Reads.flagValue hlookup hlong (noEquals_all pytest) hread
    unfold flagToken
    rw [List.append_assoc]
    exact htoken
  have hstack : formatOptional request.config.targetStack ∈ listProfiles := by
    obtain ⟨s, hs, hstack⟩ := h.targetStack
    rw [hstack]
    exact hs
  have hrole : request.role.value ∈ ROLE_CHOICES := by
    unfold ROLE_CHOICES
    rcases request.role with _ | _ <;> simp
  have hmode : request.payloadMode.value ∈ PAYLOAD_MODES := by
    unfold PAYLOAD_MODES PayloadMode.all
    rcases request.payloadMode with _ | _ | _ | _ <;> simp
  refine hlog.append (?_ : Reads _ (_ :: _) (_ :: _))
  refine (reads_choice pytest (by simp [lookup]) hstack).append (?_ : Reads _ (_ :: _) (_ :: _))
  refine (reads_choice pytest (by simp [lookup]) hrole).append (?_ : Reads _ (_ :: _) (_ :: _))
  refine (reads_text pytest (by simp [lookup])).append (?_ : Reads _ (_ :: _) (_ :: _))
  refine (reads_text pytest (by simp [lookup])).append (?_ : Reads _ (_ :: _) (_ :: _))
  refine (reads_choice pytest (by simp [lookup]) hmode).append (?_ : Reads _ (_ :: _) (_ :: _))
  refine (reads_int pytest (by simp [lookup]) hsize).append (?_ : Reads _ (_ :: _) (_ :: _))
  refine (reads_text pytest (by simp [lookup])).append (?_ : Reads _ (_ :: _) (_ :: _))
  apply (reads_text pytest (by simp [lookup])).append
  exact Reads.of_present classify_v rfl

/-- The launcher's own options.
Source: `src/runner.py` `_launcher`
Kind: L -/
lemma reads_launcher (install : Install) :
    ∃ args, (∀ rest, pytestArgv install (launcher install ++ rest) = args ++ rest) ∧
      Reads pytest.all args (launcherEntries install) ∧ Plain args := by
  unfold pytestArgv launcher launcherEntries
  rcases install.frozen with _ | _
  · exact ⟨[], fun rest => rfl, Reads.nil, List.forall_mem_nil _⟩
  · refine ⟨[text "-p", text "pytest_reportlog.plugin"], fun rest => rfl, ?_, by decide +kernel⟩
    have hplugin : classify pytest.all (text "pytest_reportlog.plugin") = .positional :=
      classify_positional (by decide +kernel)
    exact Reads.of_two classify_p (by decide) hplugin rfl

/-- A leg's text is truthy, and one of the choices.
Source: `src/runner.py` `RunRequest.proxy_leg`
Kind: L -/
lemma orNone_proxyLeg (request : RunRequest) :
    orNone request.proxyLeg = request.config.proxyLeg.map ProxyLeg.value := by
  unfold RunRequest.proxyLeg
  rcases request.config.proxyLeg with _ | _ | _ <;> rfl

lemma mem_proxyLegs {leg : PyStr} (h : orNone request.proxyLeg = some leg) : leg ∈ PROXY_LEGS := by
  rw [orNone_proxyLeg] at h
  obtain ⟨side, -, rfl⟩ := Option.map_eq_some_iff.mp h
  unfold PROXY_LEGS
  rcases side with _ | _ <;> simp

/-- The options that are sent when they are set.
Source: `src/runner.py` `_optional_flags`
Kind: L -/
lemma fits_optionalFlags (h : Forwardable request) :
    ∀ pair ∈ optionalFlags request, ∀ value, pair.2 = some value → Fits (pair.1, value) := by
  intro pair hpair value hvalue
  simp only [optionalFlags, List.mem_cons, List.not_mem_nil, or_false] at hpair
  rcases hpair with rfl | rfl | rfl | rfl | rfl
  · obtain ⟨mac, -, rfl⟩ := Option.map_eq_some_iff.mp hvalue
    have hspec : lookup CONFTEST_SPECS (text "--dut-mac") =
        some { flag := text "--dut-mac", type := .text } := by
      simp [lookup]
    exact fits_text mac hspec
  · obtain ⟨port, hport, rfl⟩ := Option.map_eq_some_iff.mp hvalue
    have hspec : lookup CONFTEST_SPECS (text "--dut-port") =
        some { flag := text "--dut-port", type := .int } := by
      simp [lookup]
    exact fits_int hspec (h.dutPort port hport)
  · obtain ⟨port, hport, rfl⟩ := Option.map_eq_some_iff.mp hvalue
    have hspec : lookup CONFTEST_SPECS (text "--dut-source-port") =
        some { flag := text "--dut-source-port", type := .int } := by
      simp [lookup]
    exact fits_int hspec (h.sourcePort port hport)
  · obtain ⟨mode, hmode, rfl⟩ := Option.map_eq_some_iff.mp hvalue
    have hspec : lookup CONFTEST_SPECS (text "--proxy-mode") =
        some { flag := text "--proxy-mode", type := .choice PROXY_MODES } := by
      simp [lookup]
    exact fits_choice hspec (h.proxyMode mode hmode)
  · obtain ⟨leg, hleg, rfl⟩ := Option.map_eq_some_iff.mp hvalue
    have hspec : lookup CONFTEST_SPECS (text "--proxy-leg") =
        some { flag := text "--proxy-leg", type := .choice PROXY_LEGS } := by
      simp [lookup]
    exact fits_choice hspec (mem_proxyLegs hleg)

/-- The proxy addresses.
Source: `src/runner.py` `_topology_flags`
Kind: L -/
lemma fits_sentTopology (h : Forwardable request) :
    ∀ pair ∈ sentTopology request, ∀ value, pair.2 = some value → Fits (pair.1, value) := by
  intro pair hpair value hvalue
  have hmem : pair ∈ topologyFlags request := by
    unfold sentTopology at hpair
    split at hpair
    · exact hpair
    · contradiction
  simp only [topologyFlags, List.mem_cons, List.not_mem_nil, or_false] at hmem
  rcases hmem with rfl | rfl | rfl | rfl
  · obtain ⟨host, -, rfl⟩ := Option.map_eq_some_iff.mp hvalue
    have hspec : lookup CONFTEST_SPECS (text "--proxy-host") =
        some { flag := text "--proxy-host", type := .text } := by
      simp [lookup]
    exact fits_text host hspec
  · obtain ⟨port, hport, rfl⟩ := Option.map_eq_some_iff.mp hvalue
    have hspec : lookup CONFTEST_SPECS (text "--proxy-port") =
        some { flag := text "--proxy-port", type := .int } := by
      simp [lookup]
    exact fits_int hspec (h.proxyPort port hport)
  · obtain ⟨host, -, rfl⟩ := Option.map_eq_some_iff.mp hvalue
    have hspec : lookup CONFTEST_SPECS (text "--backend-host") =
        some { flag := text "--backend-host", type := .text } := by
      simp [lookup]
    exact fits_text host hspec
  · obtain ⟨port, hport, rfl⟩ := Option.map_eq_some_iff.mp hvalue
    have hspec : lookup CONFTEST_SPECS (text "--backend-port") =
        some { flag := text "--backend-port", type := .int } := by
      simp [lookup]
    exact fits_int hspec (h.backendPort port hport)

/-- The selection, if both values can be read as values.
Source: `src/runner.py` `build_pytest_args`
Kind: L -/
lemma reads_selection (h : SelectionReadable pytest request) :
    Reads pytest.all (selectionArgs request) (selectionEntries request) := by
  obtain ⟨hname, hmarkers⟩ := h
  unfold selectionArgs selectionEntries
  refine Reads.append ?_ ?_
  · rcases htest : orNone request.testName with _ | name
    · exact Reads.nil
    · exact Reads.of_two classify_k (by decide) (hname name htest) rfl
  · by_cases hm : request.markers = []
    · simp only [hm, ne_eq, not_true_eq_false, if_false]
      exact Reads.nil
    · simp only [ne_eq, hm, not_false_eq_true, if_true]
      exact Reads.of_two classify_m (by decide) (hmarkers hm) rfl

/-- The selection, if one of the values looks like an option: that value is refused, and names no file.
Source: `src/runner.py` `build_pytest_args`
Kind: L -/
lemma refuses_selection (h : ¬ SelectionReadable pytest request) :
    ∃ before flag value after, selectionArgs request = before ++ [flag, value] ++ after ∧
      Plain [flag, value] ∧ (∃ spec, classify pytest.all flag = .option spec none) ∧
      Refuses pytest.all [flag, value] := by
  have hplain (flag value : PyStr) (hflag : flag.head? = some DASH)
      (hvalue : classify pytest.all value ≠ .positional) : Plain [flag, value] := by
    apply Plain.of_dash
    simp only [List.forall_mem_cons]
    refine ⟨hflag, ?_, List.forall_mem_nil _⟩
    by_contra hne
    exact hvalue (classify_positional hne)
  unfold SelectionReadable at h
  unfold selectionArgs
  by_cases hname : ∀ name, orNone request.testName = some name →
      classify pytest.all name = .positional
  · obtain ⟨hm, hmarkers⟩ : request.markers ≠ [] ∧
        classify pytest.all (markerExpression request) ≠ .positional := by
      by_contra hnone
      push Not at hnone
      exact h ⟨hname, hnone⟩
    rw [if_pos hm]
    refine ⟨_, text "-m", markerExpression request, [], (List.append_nil _).symm, ?_, ⟨_, classify_m⟩, ?_⟩
    · exact hplain _ _ rfl hmarkers
    · exact Refuses.of_two classify_m (by decide) hmarkers
  · push Not at hname
    obtain ⟨name, htest, hvalue⟩ := hname
    simp only [htest]
    refine ⟨[], text "-k", name, _, rfl, ?_, ⟨_, classify_k⟩, ?_⟩
    · exact hplain _ _ rfl hvalue
    · exact Refuses.of_two classify_k (by decide) hvalue

/-- The settings every run has name no file.
Source: `src/runner.py` `build_pytest_args`
Kind: L -/
lemma plain_fixed (request : RunRequest) (artifacts : RunArtifacts) (size : PyStr) :
    Plain (fixedArgs request artifacts size) := by
  apply Plain.of_dash
  intro arg harg
  simp only [fixedArgs, List.mem_cons, List.not_mem_nil, or_false] at harg
  rcases harg with rfl | rfl | rfl | rfl | rfl | rfl | rfl | rfl | rfl | rfl <;> rfl

/-- A stretch of the line that the child reads back, whatever the files hold.
Source: none: infrastructure
Kind: D -/
structure Sent (pytest : PytestOptions) (args : List PyStr) (entries : Namespace) : Prop where
  reads : Reads pytest.all args entries
  plain : Plain args

lemma Sent.nil : Sent pytest [] [] := ⟨Reads.nil, List.forall_mem_nil _⟩

lemma Sent.append {args args' : List PyStr} {entries entries' : Namespace} (h : Sent pytest args entries)
    (h' : Sent pytest args' entries') : Sent pytest (args ++ args') (entries ++ entries') :=
  ⟨h.reads.append h'.reads, h.plain.append h'.plain⟩

/-- What the run starts with.
Source: `src/runner.py` `_test_targets`
Kind: L -/
lemma sent_targets (h : Forwardable request) :
    Sent pytest (testTargets request) ((testTargets request).map positional) := by
  refine ⟨?_, fun target htarget => (head_of_tests (h.targets target htarget)).2⟩
  rw [← List.map_id (testTargets request), List.map_map]
  apply Reads.map id positional (testTargets request)
  intro target htarget
  exact Reads.of_positional (head_of_tests (h.targets target htarget)).1

lemma sent_confirm (confirmed : Bool) :
    Sent pytest (if confirmed then [text "--confirm-vuln-tests"] else [])
      (if confirmed then [(text "--confirm-vuln-tests", .present)] else []) := by
  rcases confirmed with _ | _
  · exact Sent.nil
  · exact ⟨reads_confirm, by decide +kernel⟩

/-- Every authorized range.
Source: `src/runner.py` `build_pytest_args`
Kind: L -/
lemma sent_allowed (cidrs : List PyStr) :
    Sent pytest (cidrs.map (flagToken (text "--allowed-targets")))
      (cidrs.map fun cidr => (text "--allowed-targets", .text cidr)) := by
  refine ⟨Reads.map _ _ _ fun cidr _ => reads_text pytest (by simp [lookup]), ?_⟩
  apply Plain.of_dash
  intro arg harg
  obtain ⟨cidr, -, rfl⟩ := List.mem_map.mp harg
  rfl

lemma sent_debug (debug : Bool) (log : PyStr) :
    Sent pytest (if debug then [flagToken (text "--debug-log") log] else [])
      (if debug then [(text "--debug-log", .text log)] else []) := by
  have hspec : lookup CONFTEST_SPECS (text "--debug-log") = some { flag := text "--debug-log", type := .text } := by
    simp [lookup]
  rcases debug with _ | _
  · exact Sent.nil
  · exact ⟨reads_text pytest hspec, plain_flagToken hspec _⟩

/-- The whole line can always be built; around the selection the child reads every setting back, whatever the
files hold.
Source: `src/runner.py` `build_pytest_args`
Kind: L -/
lemma exists_line (h : Forwardable request) (pytest : PytestOptions) (install : Install) (runDir : PyStr) :
    ∃ args front back, buildPytestArgs install request runDir = .ok args ∧
      pytestArgv install args = front ++ selectionArgs request ++ back ∧
      Sent pytest front (frontEntries install request { root := runDir }) ∧
      Sent pytest back (backEntries request { root := runDir }) := by
  obtain ⟨size, hsize⟩ := h.payloadSize request.payloadSize rfl
  obtain ⟨optional, hoptional, hsentOptional⟩ := reads_setFlags pytest (optionalFlags request) (fits_optionalFlags h)
  obtain ⟨topology, htopology, hsentTopology⟩ := reads_setFlags pytest (sentTopology request) (fits_sentTopology h)
  obtain ⟨start, hstart, hsentStart⟩ := @reads_launcher pytest install
  have hbuilt : buildPytestArgs install request runDir = .ok
      (launcher install ++ testTargets request ++ fixedArgs request { root := runDir } size ++
        optional ++ selectionArgs request ++
        (if request.confirmVulnTests then [text "--confirm-vuln-tests"] else []) ++
        request.config.allowedTargets.map (flagToken (text "--allowed-targets")) ++
        (if request.debug then
          [flagToken (text "--debug-log") (RunArtifacts.debugLog { root := runDir })] else []) ++
        topology) := by
    unfold buildPytestArgs
    simp only [hsize, hoptional, htopology, bind, Except.bind, pure, Except.pure]
  refine ⟨_, start ++ testTargets request ++ fixedArgs request { root := runDir } size ++ optional,
    (if request.confirmVulnTests then [text "--confirm-vuln-tests"] else []) ++
      request.config.allowedTargets.map (flagToken (text "--allowed-targets")) ++
      (if request.debug then [flagToken (text "--debug-log") (RunArtifacts.debugLog { root := runDir })]
        else []) ++ topology, hbuilt, ?_, ?_, ?_⟩
  · simp only [List.append_assoc, hstart]
  · have hfixed : Sent pytest (fixedArgs request { root := runDir } size)
        (fixedEntries request { root := runDir }) := ⟨reads_fixed h _ hsize, plain_fixed request _ size⟩
    exact ((Sent.append ⟨hsentStart.1, hsentStart.2⟩ (sent_targets h)).append hfixed).append
      ⟨hsentOptional.1, hsentOptional.2⟩
  · exact (((sent_confirm _).append (sent_allowed _)).append (sent_debug _ _)).append
      ⟨hsentTopology.1, hsentTopology.2⟩

/-- **What the child makes of the whole command line**: the line can always be built; if the value of `-k` or
`-m` looks like an option, the child refuses it, whatever the files hold; and otherwise, if the selection
names no file of arguments, it reads back every setting.
Source: `src/runner.py` `build_pytest_args`, `conftest.py` `pytest_addoption`
Kind: P -/
theorem childOptions_buildPytestArgs (h : Forwardable request) (pytest : PytestOptions)
    (install : Install) (runDir : PyStr) :
    ∃ args, buildPytestArgs install request runDir = .ok args ∧ ∀ files,
      (Plain (selectionArgs request) → SelectionReadable pytest request →
        childOptions files pytest install args = .ok (childEntries install request { root := runDir })) ∧
      (¬ SelectionReadable pytest request → ∃ e, childOptions files pytest install args = .error e) := by
  obtain ⟨args, front, back, hargs, hsplit, hfront, hback⟩ := exists_line h pytest install runDir
  refine ⟨args, hargs, fun files => ⟨?_, ?_⟩⟩
  · intro hplain hselection
    unfold childOptions parseArgs
    have hline := (hfront.append ⟨reads_selection hselection, hplain⟩).append hback
    rw [hsplit, readArgsFromFiles_plain files hline.plain]
    exact hline.reads.parseTokens_eq
  · intro hselection
    obtain ⟨before, flag, value, after, hsel, hplain, ⟨spec, hflag⟩, hrefuses⟩ := refuses_selection hselection
    have hcut : front ++ selectionArgs request ++ back = (front ++ before) ++ ([flag, value] ++ (after ++ back)) := by
      rw [hsel]
      simp only [List.append_assoc]
    unfold childOptions parseArgs
    rw [hsplit, hcut, readArgsFromFiles_append, readArgsFromFiles_append files [flag, value],
      readArgsFromFiles_plain files hplain]
    rcases readArgsFromFiles files (front ++ before) with e | read
    · exact ⟨e, rfl⟩
    · rcases readArgsFromFiles files (after ++ back) with e | rest
      · exact ⟨e, rfl⟩
      · exact Refuses.behind hflag hrefuses rest read

end Pytest

/-! ## Reading the child's options off -/

section Options

variable (install : Install) (request : RunRequest) (artifacts : RunArtifacts)

/-- The values of a flag table.
Source: `src/runner.py` `build_pytest_args`
Kind: L -/
lemma valuesOf_settings_cons (flag' : PyStr) (value : Option FlagValue)
    (flags : List (PyStr × Option FlagValue)) (flag : PyStr) :
    valuesOf (settings ((flag', value) :: flags)) flag =
      (if flag' = flag then (value.map FlagValue.arg).toList else []) ++
        valuesOf (settings flags) flag := by
  rcases value with _ | value
  · have hskip : settings ((flag', none) :: flags) = settings flags := rfl
    rw [hskip]
    simp
  · have hcons : settings ((flag', some value) :: flags) = (flag', value.arg) :: settings flags := rfl
    rw [hcons, valuesOf_cons]
    split <;> simp

@[simp] lemma settings_nil : settings [] = [] := rfl

/-- Where the run starts and what it selects: flags the child's own options do not use.
Source: `src/runner.py` `build_pytest_args`
Kind: D -/
def SELECTION_FLAGS : List PyStr := [FILE_OR_DIR, text "-p", text "-k", text "-m"]

/-- The launcher, the targets and the selection set none of the child's own options.
Source: `src/runner.py` `build_pytest_args`
Kind: L -/
lemma valuesOf_selection {flag : PyStr} (h : flag ∉ SELECTION_FLAGS) :
    valuesOf (launcherEntries install) flag = [] ∧
      valuesOf ((testTargets request).map positional) flag = [] ∧
      valuesOf (selectionEntries request) flag = [] := by
  simp only [SELECTION_FLAGS, List.mem_cons, List.not_mem_nil, or_false, not_or] at h
  obtain ⟨htarget, hp, hk, hm⟩ := h
  refine ⟨valuesOf_eq_nil ?_, valuesOf_eq_nil ?_, valuesOf_eq_nil ?_⟩
  · intro entry hentry
    unfold launcherEntries at hentry
    split at hentry
    · obtain rfl := List.mem_singleton.mp hentry
      exact Ne.symm hp
    · contradiction
  · intro entry hentry
    obtain ⟨target, -, rfl⟩ := List.mem_map.mp hentry
    exact Ne.symm htarget
  · intro entry hentry
    rcases List.mem_append.mp hentry with hname | hmarkers
    · split at hname
      · obtain rfl := List.mem_singleton.mp hname
        exact Ne.symm hk
      · contradiction
    · split at hmarkers
      · obtain rfl := List.mem_singleton.mp hmarkers
        exact Ne.symm hm
      · contradiction

/-- The values of a flag given once for every entry of a list.
Source: Python `argparse` `_AppendAction`
Kind: L -/
lemma valuesOf_map (flag' : PyStr) (values : List PyStr) (flag : PyStr) :
    valuesOf (values.map fun value => (flag', ArgValue.text value)) flag =
      if flag' = flag then values.map ArgValue.text else [] := by
  induction values with
  | nil => simp
  | cons value values ih =>
      rw [List.map_cons, valuesOf_cons, ih]
      split <;> simp

/-- **The values any of the child's own options is given.**
Source: `src/runner.py` `build_pytest_args`
Kind: P -/
theorem valuesOf_childEntries {flag : PyStr} (h : flag ∉ SELECTION_FLAGS) :
    valuesOf (childEntries install request artifacts) flag =
      valuesOf (fixedEntries request artifacts) flag ++
        valuesOf (settings (optionalFlags request)) flag ++
        (if request.confirmVulnTests = true ∧ text "--confirm-vuln-tests" = flag then [.present]
          else []) ++
        (if text "--allowed-targets" = flag then request.config.allowedTargets.map ArgValue.text
          else []) ++
        (if request.debug = true ∧ text "--debug-log" = flag then [.text artifacts.debugLog]
          else []) ++
        (if (orNone request.proxyMode).isSome ∨ (orNone request.proxyLeg).isSome then
          valuesOf (settings (topologyFlags request)) flag
        else []) := by
  obtain ⟨hlauncher, htargets, hselection⟩ := valuesOf_selection install request h
  have htopology : valuesOf (settings (sentTopology request)) flag =
      if (orNone request.proxyMode).isSome ∨ (orNone request.proxyLeg).isSome then
        valuesOf (settings (topologyFlags request)) flag
      else [] := by
    unfold sentTopology
    split <;> rfl
  unfold childEntries frontEntries backEntries
  simp only [valuesOf_append, hlauncher, htargets, hselection, htopology, valuesOf_map,
    List.nil_append, List.append_nil]
  rcases request.confirmVulnTests with _ | _ <;> rcases request.debug with _ | _ <;>
    simp [valuesOf_cons]

@[simp] lemma arg_comp_str : FlagValue.arg ∘ FlagValue.str = ArgValue.text := rfl

@[simp] lemma arg_comp_int : FlagValue.arg ∘ FlagValue.int = ArgValue.int := rfl

/-- What the child sees of a request.
Source: none: specification
Kind: D -/
structure SeenByChild (ns : Namespace) : Prop where
  dutIp : getText ns (text "--dut-ip") = some (formatOptional request.config.targetIp)
  dutIface : getText ns (text "--dut-iface") = some (formatOptional request.config.interface)
  targetStack : getText ns (text "--target-stack") = some (formatOptional request.config.targetStack)
  role : getText ns (text "--role") = some request.config.role.value
  dutMac : getText ns (text "--dut-mac") = orNone request.config.targetMac
  dutPort : getInt ns (text "--dut-port") = request.config.targetPort
  dutSourcePort : getInt ns (text "--dut-source-port") = request.config.sourcePort
  proxyLeg : getText ns (text "--proxy-leg") = orNone request.proxyLeg
  /-- The front host is sent whenever a leg is set. -/
  proxyHost : (orNone request.proxyLeg).isSome →
    getText ns (text "--proxy-host") = orNone request.proxyHost
  allowedTargets : getList ns (text "--allowed-targets") = request.config.allowedTargets
  confirmVulnTests : confirmVulnTests ns = request.confirmVulnTests

/-- **The child sees the request.**
Source: `src/runner.py` `build_pytest_args`, `conftest.py` `pytest_addoption`
Kind: P -/
theorem seenByChild : SeenByChild request (childEntries install request artifacts) := by
  have hvalues := @valuesOf_childEntries install request artifacts
  constructor
  case dutIp | dutIface | targetStack | dutMac | proxyLeg =>
    apply getText_of_valuesOf
    · rw [hvalues (by simp [SELECTION_FLAGS, FILE_OR_DIR])]
      simp [fixedEntries, optionalFlags, topologyFlags, valuesOf_cons, valuesOf_settings_cons]
    · simp
  case dutPort | dutSourcePort =>
    apply getInt_of_valuesOf
    · rw [hvalues (by simp [SELECTION_FLAGS, FILE_OR_DIR])]
      simp [fixedEntries, optionalFlags, topologyFlags, valuesOf_cons, valuesOf_settings_cons]
    · simp
  case role =>
    unfold getText getoption
    rw [hvalues (by simp [SELECTION_FLAGS, FILE_OR_DIR])]
    simp [fixedEntries, optionalFlags, topologyFlags, valuesOf_cons, valuesOf_settings_cons,
      ArgValue.asText, RunRequest.role]
  case proxyHost =>
    intro hleg
    apply getText_of_valuesOf
    · rw [hvalues (by simp [SELECTION_FLAGS, FILE_OR_DIR])]
      simp [fixedEntries, optionalFlags, topologyFlags, valuesOf_cons, valuesOf_settings_cons, hleg]
    · simp
  case allowedTargets =>
    unfold getList
    rw [hvalues (by simp [SELECTION_FLAGS, FILE_OR_DIR])]
    simp [fixedEntries, optionalFlags, topologyFlags, valuesOf_cons, valuesOf_settings_cons,
      List.filterMap_map, Function.comp_def, ArgValue.asText]
  case confirmVulnTests =>
    unfold confirmVulnTests getoption
    rw [hvalues (by simp [SELECTION_FLAGS, FILE_OR_DIR])]
    simp [fixedEntries, optionalFlags, topologyFlags, valuesOf_cons, valuesOf_settings_cons]
    rcases request.confirmVulnTests with _ | _ <;> simp

end Options

end NetstackSuite.Runner
