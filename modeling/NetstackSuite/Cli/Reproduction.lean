import NetstackSuite.Cli.Results
import NetstackSuite.Cli.Topology
import NetstackSuite.Python.Shlex
import NetstackSuite.Reporting.ReportData

/-!
# Running the tests again

The reports end with a command to reproduce the run. `reproduced` is what the command line interface makes of it:
the words of the command, click's reading of them as options of `run`, and the topology these resolve to. The
command says `--role client` and nothing of a proxy leg, whatever the run was; `reproduces_iff` says when it
leads back to the run's position.
-/

namespace NetstackSuite.Cli

open NetstackSuite.Config NetstackSuite.Python NetstackSuite.Reporting NetstackSuite.Runner

/-! ## Click's parser -/

/-- The options of `run` that take a value, besides the shared ones.
Source: `src/cli/main.py` `run` (its decorators)
Kind: D -/
def RUN_VALUE_OPTIONS : List PyStr :=
  [text "--module", text "--submodule", text "--test", text "--marker", text "--iface", text "--dut-ip",
    text "--target-stack", text "--allowed-target", text "--report"]

/-- The options of `run` that take none.
Source: `src/cli/main.py` `run` (its decorators)
Kind: D -/
def RUN_FLAGS : List PyStr := [text "--confirm-vuln-tests", text "--debug", text "--skip-preflight"]

/-- Does an option of `run` take a value?
Source: `src/cli/main.py` `run` (its decorators)
Kind: D -/
def takesValue (flag : PyStr) : Bool :=
  RUN_VALUE_OPTIONS.contains flag || (SHARED_OPTIONS.map SharedOption.name).contains flag

/-- The options given, in order, with their values; a flag's is empty. The next word is an option's value whatever
it looks like. A word that is no option is one argument too many, and `--help` ends the program.
Source: click `OptionParser._process_args_for_options`, `OptionParser._match_long_opt`
Kind: D -/
def processArgs : List PyStr → Except PyExc (List (PyStr × PyStr))
  | [] => .ok []
  | arg :: rest =>
      if arg = [DASH, DASH] ∧ rest = [] then .ok []
      else
        match partition EQUALS arg with
        | some (flag, value) =>
            if takesValue flag then (processArgs rest).map ((flag, value) :: ·) else .error clickUsageError
        | none =>
            if takesValue arg then
              match rest with
              | [] => .error clickUsageError
              | value :: rest => (processArgs rest).map ((arg, value) :: ·)
            else if RUN_FLAGS.contains arg then (processArgs rest).map ((arg, []) :: ·)
            else .error clickUsageError

/-- What an option was given last.
Source: click `Option.process`
Kind: D -/
def lastGiven (given : List (PyStr × PyStr)) (flag : PyStr) : Option PyStr :=
  ((given.filter fun entry => entry.1 == flag).map Prod.snd).getLast?

/-- A required option.
Source: click `MissingParameter`
Kind: D -/
def requiredOption (given : List (PyStr × PyStr)) (flag : PyStr) : Except PyExc PyStr :=
  match lastGiven given flag with
  | some value => .ok value
  | none => .error clickUsageError

/-- What `--report` accepts.
Source: `src/reporting/formats.py` `CLI_CHOICES`
Kind: D -/
def CLI_CHOICES : List PyStr := FORMATS.map ReportFormat.key ++ [NO_REPORT]

/-- The options of `run`; the report's format is checked, but it is none of the run's.
Source: `src/cli/main.py` `run` (its decorators)
Kind: D -/
def runOptions (given : List (PyStr × PyStr)) : Except PyExc RunOptions := do
  let iface ← requiredOption given (text "--iface")
  let dutIp ← requiredOption given (text "--dut-ip")
  let targetStack ← requiredOption given (text "--target-stack")
  let _ ← (lastGiven given (text "--report")).mapM (clickChoice CLI_CHOICES)
  let all (flag : PyStr) := (given.filter fun entry => entry.1 == flag).map Prod.snd
  return {
    iface, dutIp, targetStack
    shared := lastGiven given
    module := lastGiven given (text "--module")
    submodule := lastGiven given (text "--submodule")
    testName := lastGiven given (text "--test")
    markers := all (text "--marker")
    allowedTargets := all (text "--allowed-target")
    confirmVulnTests := !(all (text "--confirm-vuln-tests")).isEmpty
    debug := !(all (text "--debug")).isEmpty
    skipPreflight := !(all (text "--skip-preflight")).isEmpty }

/-! ## The reproduction -/

/-- The header of a new run, less its date, its id and the host's platform. An address or a stack that is unset
prints as `None`.
Source: `src/runner.py` `new_run_result`
Kind: D -/
def newRunHeader (request : RunRequest) (header : TestRunResult) : TestRunResult where
  runId := header.runId
  startedAt := header.startedAt
  finishedAt := none
  targetIp := request.config.targetIp.getD (text "None")
  targetStack := request.config.targetStack.getD (text "None")
  hostPlatform := header.hostPlatform
  payloadMode := request.payloadMode.value
  role := request.role.value
  proxyLeg := request.proxyLeg

/-- The words behind `netstack-cli run`, with the interface filled in.
Source: `src/reporting/report_data.py` `reproduction_command`
Kind: D -/
def reproductionArgs (result : TestRunResult) (iface : PyStr) : Except PyExc (List PyStr) := do
  let words ← shlexSplit (reproductionCommand result)
  return (words.drop 2).replace (text "<iface>") iface

/-- The configuration that `run` makes of the options given.
Source: `src/cli/main.py` `run`
Kind: D -/
def givenConfig (given : List (PyStr × PyStr)) (random : EphemeralPort) : Except PyExc DutConfig := do
  let options ← runOptions given
  let params ← clickParams options
  let topology ← resolveTopology params.proxyLeg params.role params.dutIp params.dutPort
    params.proxyMode params.proxyHost params.proxyPort params.backendHost random
  return runConfig params topology

/-- The configuration that the reproduction command runs with.
Source: `src/cli/main.py` `run`
Kind: D -/
def reproduced (result : TestRunResult) (iface : PyStr) (random : EphemeralPort) : Except PyExc DutConfig := do
  let args ← reproductionArgs result iface
  let given ← processArgs args
  givenConfig given random

/-- The reproduction takes the run's position.
Source: none: specification
Kind: D -/
def Reproduces (request : RunRequest) (result : TestRunResult) (iface : PyStr) (random : EphemeralPort) : Prop :=
  ∃ config, reproduced result iface random = .ok config ∧ config.targetIp = request.config.targetIp ∧
    config.targetStack = request.config.targetStack ∧ config.role = request.config.role ∧
    config.proxyLeg = request.config.proxyLeg

/-! ## What the parser reads -/

/-- Source: none: infrastructure. Kind: L -/
lemma ending_mono {value : PyStr} {rest args : List PyStr} (hrest : rest ⊆ args)
    (h : value = [] ∨ ∃ arg ∈ rest, value <:+ arg) : value = [] ∨ ∃ arg ∈ args, value <:+ arg := by
  rcases h with hempty | ⟨arg, harg, hsuffix⟩
  · exact Or.inl hempty
  · exact Or.inr ⟨arg, hrest harg, hsuffix⟩

/-- Every value is what followed its option, or the end of a word.
Source: click `OptionParser._process_args_for_options`
Kind: L -/
lemma suffix_of_mem_processArgs {args : List PyStr} {given : List (PyStr × PyStr)}
    (h : processArgs args = .ok given) : ∀ entry ∈ given, entry.2 = [] ∨ ∃ arg ∈ args, entry.2 <:+ arg := by
  fun_induction processArgs args generalizing given with
  | case1 =>
      obtain rfl := Except.ok.inj h
      exact fun entry hentry => absurd hentry List.not_mem_nil
  | case2 arg rest hend =>
      obtain rfl := Except.ok.inj h
      exact fun entry hentry => absurd hentry List.not_mem_nil
  | case3 arg rest hend flag value hpartition htakes ih =>
      obtain ⟨later, hlater, rfl⟩ := map_eq_ok.mp h
      obtain ⟨rfl, -⟩ := partition_eq_some hpartition
      intro entry hentry
      rcases List.mem_cons.mp hentry with rfl | hentry
      · exact Or.inr ⟨_, List.mem_cons_self, (List.suffix_cons _ _).trans (List.suffix_append _ _)⟩
      · exact ending_mono (List.subset_cons_self _ _) (ih hlater entry hentry)
  | case4 => cases h
  | case5 => cases h
  | case6 arg hpartition htakes value rest hend ih =>
      obtain ⟨later, hlater, rfl⟩ := map_eq_ok.mp h
      intro entry hentry
      rcases List.mem_cons.mp hentry with rfl | hentry
      · exact Or.inr ⟨value, by simp, List.suffix_refl value⟩
      · apply ending_mono _ (ih hlater entry hentry)
        exact List.Subset.trans (List.subset_cons_self _ _) (List.subset_cons_self _ _)
  | case7 arg rest hend hpartition htakes hflag ih =>
      obtain ⟨later, hlater, rfl⟩ := map_eq_ok.mp h
      intro entry hentry
      rcases List.mem_cons.mp hentry with rfl | hentry
      · exact Or.inl rfl
      · exact ending_mono (List.subset_cons_self _ _) (ih hlater entry hentry)
  | case8 => cases h

/-- Source: click `Option.process`. Kind: L -/
lemma mem_of_lastGiven {given : List (PyStr × PyStr)} {flag value : PyStr}
    (h : lastGiven given flag = some value) : (flag, value) ∈ given := by
  have hmem := List.mem_of_getLast? h
  obtain ⟨⟨flag', value'⟩, hentry, rfl⟩ := List.mem_map.mp hmem
  obtain ⟨hentry, hflag⟩ := List.mem_filter.mp hentry
  rwa [← eq_of_beq hflag]

/-- An option and its value.
Source: click `OptionParser._match_long_opt`
Kind: L -/
lemma processArgs_value {flag : PyStr} (hpartition : partition EQUALS flag = none)
    (htakes : takesValue flag = true) (value : PyStr) (rest : List PyStr) :
    processArgs (flag :: value :: rest) = (processArgs rest).map ((flag, value) :: ·) := by
  rw [processArgs, if_neg (by simp), hpartition]
  simp only [htakes, if_true]

/-! ## What the command says -/

/-- The text behind the address.
Source: `src/reporting/report_data.py` `reproduction_command`
Kind: D -/
def behindAddress (stack : PyStr) : PyStr := text " --target-stack " ++ stack ++ text " --role client"

/-- The words of the command up to the address do not depend on the run.
Source: `src/reporting/report_data.py` `reproduction_command`
Kind: L -/
lemma reproductionArgs_eq (result : TestRunResult) (iface : PyStr) :
    reproductionArgs result iface =
      (shlexSplit (result.targetIp ++ behindAddress result.targetStack)).map fun words =>
        text "--iface" :: iface :: text "--dut-ip" :: words := by
  have hcommand : reproductionCommand result =
      text "netstack-cli" ++ 0x20 :: (text "run" ++ 0x20 :: (text "--iface" ++ 0x20 :: (text "<iface>" ++ 0x20 ::
        (text "--dut-ip" ++ 0x20 :: (result.targetIp ++ behindAddress result.targetStack))))) := by
    have hhead : text "netstack-cli run " ++ text "--iface <iface> --dut-ip " =
        text "netstack-cli" ++ 0x20 :: (text "run" ++ 0x20 :: (text "--iface" ++ 0x20 :: (text "<iface>" ++ 0x20 ::
          (text "--dut-ip" ++ [0x20])))) := by
      decide
    have htail : text " " ++ text "--target-stack " = text " --target-stack " := by decide
    rw [reproductionCommand, behindAddress, hhead, ← htail]
    simp only [List.append_assoc, List.cons_append, List.nil_append]
  have hiface : (text "<iface>" == text "--iface") = false := by decide
  rw [reproductionArgs, hcommand, shlexSplit_cons (by decide), shlexSplit_cons (by decide),
    shlexSplit_cons (by decide), shlexSplit_cons (by decide), shlexSplit_cons (by decide)]
  rcases shlexSplit (result.targetIp ++ behindAddress result.targetStack) with e | words
  · rfl
  · show Except.ok (List.replace (text "--iface" :: text "<iface>" :: text "--dut-ip" :: words)
      (text "<iface>") iface) = _
    rw [List.replace_cons, hiface]
    simp only [List.replace_cons_self]
    rfl

/-- The words behind the address.
Source: `src/reporting/report_data.py` `reproduction_command`
Kind: L -/
lemma shlexSplit_behindAddress {stack : PyStr} (hstack : stack ∈ listProfiles) :
    shlexSplit (behindAddress stack) = .ok [text "--target-stack", stack, text "--role", text "client"] := by
  revert stack
  decide

/-- The words behind `netstack-cli run`, for a plain address.
Source: `src/reporting/report_data.py` `reproduction_command`
Kind: L -/
lemma reproductionArgs_plain {result : TestRunResult} (hplain : PlainWord result.targetIp)
    (hstack : result.targetStack ∈ listProfiles) (iface : PyStr) :
    reproductionArgs result iface =
      .ok [text "--iface", iface, text "--dut-ip", result.targetIp, text "--target-stack", result.targetStack,
        text "--role", text "client"] := by
  have hblank : behindAddress result.targetStack = 0x20 :: (behindAddress result.targetStack).tail := by
    revert hstack
    generalize result.targetStack = stack
    revert stack
    decide
  have hwords := shlexSplit_behindAddress hstack
  rw [hblank, shlexSplit_blank] at hwords
  rw [reproductionArgs_eq, hblank, shlexSplit_cons hplain, hwords]
  rfl

/-- The options that the command gives, for a plain address.
Source: `src/reporting/report_data.py` `reproduction_command`
Kind: D -/
def givenOptions (iface ip stack : PyStr) : List (PyStr × PyStr) :=
  [(text "--iface", iface), (text "--dut-ip", ip), (text "--target-stack", stack), (text "--role", text "client")]

lemma processArgs_plain (iface ip stack : PyStr) :
    processArgs [text "--iface", iface, text "--dut-ip", ip, text "--target-stack", stack, text "--role",
        text "client"] = .ok (givenOptions iface ip stack) := by
  rw [processArgs_value (by decide) (by decide), processArgs_value (by decide)
    (by decide), processArgs_value (by decide) (by decide),
    processArgs_value (by decide) (by decide), processArgs]
  rfl

/-- Where the command leads for a plain address: to a client, and to no proxy leg.
Source: `src/cli/main.py` `run`
Kind: L -/
lemma givenConfig_givenOptions (iface ip : PyStr) {stack : PyStr} (hstack : stack ∈ listProfiles)
    (random : EphemeralPort) :
    ∃ config, givenConfig (givenOptions iface ip stack) random = .ok config ∧ config.targetIp = some ip ∧
      config.targetStack = some stack ∧ config.role = .client ∧ config.proxyLeg = none := by
  simp only [listProfiles, List.mem_cons, List.not_mem_nil, or_false] at hstack
  rcases hstack with rfl | rfl
  · exact ⟨_, rfl, rfl, rfl, rfl, rfl⟩
  · exact ⟨_, rfl, rfl, rfl, rfl, rfl⟩

lemma reproduced_plain {result : TestRunResult} (hplain : PlainWord result.targetIp)
    (hstack : result.targetStack ∈ listProfiles) (iface : PyStr) (random : EphemeralPort) :
    ∃ config, reproduced result iface random = .ok config ∧ config.targetIp = some result.targetIp ∧
      config.targetStack = some result.targetStack ∧ config.role = .client ∧ config.proxyLeg = none := by
  obtain ⟨config, hconfig, hposition⟩ := givenConfig_givenOptions iface result.targetIp hstack random
  refine ⟨config, ?_, hposition⟩
  rw [reproduced, reproductionArgs_plain hplain hstack]
  simp only [bind, Except.bind, processArgs_plain, hconfig]

/-- Source: click `MissingParameter`. Kind: L -/
lemma mem_of_requiredOption {given : List (PyStr × PyStr)} {flag value : PyStr}
    (h : requiredOption given flag = .ok value) : (flag, value) ∈ given := by
  unfold requiredOption at h
  split at h
  next hgiven =>
    rw [← Except.ok.inj h]
    exact mem_of_lastGiven hgiven
  · cases h

/-- The options of `run` are those given.
Source: `src/cli/main.py` `run` (its decorators)
Kind: L -/
lemma runOptions_spec {given : List (PyStr × PyStr)} {options : RunOptions} (h : runOptions given = .ok options) :
    (text "--dut-ip", options.dutIp) ∈ given ∧ options.shared = lastGiven given := by
  unfold runOptions at h
  obtain ⟨iface, -, h⟩ := bind_eq_ok.mp h
  obtain ⟨dutIp, hdutIp, h⟩ := bind_eq_ok.mp h
  obtain ⟨targetStack, -, h⟩ := bind_eq_ok.mp h
  obtain ⟨report, -, h⟩ := bind_eq_ok.mp h
  obtain rfl := Except.ok.inj h
  exact ⟨mem_of_requiredOption hdutIp, rfl⟩

/-- A resolved address is the target's or the proxy's.
Source: `src/config.py` `resolve_leg_target`
Kind: L -/
lemma resolvedIp_eq (leg : Option ProxyLeg) (targetIp : PyStr) (proxyHost : Option PyStr) :
    resolvedIp leg (some targetIp) proxyHost = some targetIp ∨
      ∃ host, proxyHost = some host ∧ resolvedIp leg (some targetIp) proxyHost = some host := by
  unfold resolvedIp orElse
  by_cases hleg : leg = some .front
  · rw [if_pos hleg]
    rcases hhost : orNone proxyHost with _ | host
    · exact Or.inl rfl
    · exact Or.inr ⟨host, eq_of_orNone hhost, rfl⟩
  · rw [if_neg hleg]
    exact Or.inl rfl

/-- The address and the stack of a configuration were given.
Source: `src/cli/main.py` `run`
Kind: L -/
lemma givenConfig_spec {given : List (PyStr × PyStr)} {random : EphemeralPort} {config : DutConfig}
    (h : givenConfig given random = .ok config) :
    (∃ stack ∈ listProfiles, config.targetStack = some stack) ∧
      ∃ ip, config.targetIp = some ip ∧ ((text "--dut-ip", ip) ∈ given ∨ (text "--proxy-host", ip) ∈ given) := by
  obtain ⟨options, hoptions, h⟩ := bind_eq_ok.mp h
  obtain ⟨params, hclick, h⟩ := bind_eq_ok.mp h
  obtain ⟨topology, htopology, h⟩ := bind_eq_ok.mp h
  obtain rfl := Except.ok.inj h
  have hparams := clickParams_spec hclick
  obtain ⟨hdutIp, hshared⟩ := runOptions_spec hoptions
  obtain ⟨-, hip, -⟩ := resolveTopology_spec htopology
  refine ⟨⟨params.targetStack, hparams.targetStack, rfl⟩, ?_⟩
  rcases resolvedIp_eq topology.leg params.dutIp params.proxyHost with heq | ⟨host, hhost, heq⟩
  · exact ⟨params.dutIp, hip.trans heq, Or.inl (hparams.dutIp ▸ hdutIp)⟩
  · rw [hparams.proxyHost, hshared] at hhost
    exact ⟨host, hip.trans heq, Or.inr (mem_of_lastGiven hhost)⟩

/-- Without an address the option takes the next one for it, whose value is then one argument too many.
Source: `src/reporting/report_data.py` `reproduction_command`
Kind: L -/
lemma processArgs_empty {stack : PyStr} (hstack : stack ∈ listProfiles) :
    processArgs [text "--dut-ip", text "--target-stack", stack, text "--role", text "client"] =
      .error clickUsageError := by
  revert stack
  decide

/-- A text that is not plain is no value that the command gives: what protected it on the command line is gone.
Source: `src/reporting/report_data.py` `reproduction_command`
Kind: L -/
lemma not_given_of_not_plain {ip stack : PyStr} (hstack : stack ∈ listProfiles)
    (hplain : ip.all isPlainChar = false) {words : List PyStr}
    (hwords : shlexSplit (ip ++ behindAddress stack) = .ok words) {given : List (PyStr × PyStr)}
    (hgiven : processArgs (text "--dut-ip" :: words) = .ok given) (flag : PyStr) : (flag, ip) ∉ given := by
  intro hmem
  have hfree : marks (behindAddress stack) = 0 := by
    clear hwords
    revert stack
    decide
  have hnot {arg : PyStr} (hsuffix : ip <:+ arg) : arg.all isPlainChar = false := by
    rw [List.all_eq_false] at hplain ⊢
    obtain ⟨c, hc, hspecial⟩ := hplain
    exact ⟨c, hsuffix.subset hc, hspecial⟩
  rcases suffix_of_mem_processArgs hgiven _ hmem with hempty | ⟨arg, harg, hsuffix⟩
  · have hempty : ip = [] := hempty
    rw [hempty] at hplain
    cases hplain
  rcases List.mem_cons.mp harg with rfl | harg
  · exact absurd (hnot hsuffix) (by decide)
  · have hless := marks_lt_of_mem hwords harg (hnot hsuffix)
    have hmore : marks ip ≤ marks arg := hsuffix.sublist.countP_le
    rw [marks_append, hfree] at hless
    omega

/-- An address that leads back to itself is a plain word.
Source: `src/reporting/report_data.py` `reproduction_command`
Kind: L -/
lemma plainWord_of_reproduced {result : TestRunResult} (hstack : result.targetStack ∈ listProfiles)
    {iface : PyStr} {random : EphemeralPort} {config : DutConfig}
    (h : reproduced result iface random = .ok config) (hip : config.targetIp = some result.targetIp) :
    PlainWord result.targetIp := by
  obtain ⟨args, hargs, h⟩ := bind_eq_ok.mp h
  obtain ⟨given, hgiven, h⟩ := bind_eq_ok.mp h
  rw [reproductionArgs_eq] at hargs
  obtain ⟨words, hwords, rfl⟩ := map_eq_ok.mp hargs
  rw [processArgs_value (by decide) (by decide)] at hgiven
  obtain ⟨later, hlater, rfl⟩ := map_eq_ok.mp hgiven
  constructor
  · intro hempty
    rw [hempty, List.nil_append, shlexSplit_behindAddress hstack] at hwords
    obtain rfl := Except.ok.inj hwords
    rw [processArgs_empty hstack] at hlater
    cases hlater
  · by_contra hplain
    have hnone := not_given_of_not_plain hstack (Bool.eq_false_iff.mpr hplain) hwords hlater
    have hiface (flag : PyStr) (hne : flag ≠ text "--iface")
        (hmem : (flag, result.targetIp) ∈ (text "--iface", iface) :: later) : False := by
      rcases List.mem_cons.mp hmem with heq | hmem
      · exact hne (congrArg Prod.fst heq)
      · exact hnone flag hmem
    obtain ⟨-, ip, hsome, hvalue⟩ := givenConfig_spec h
    obtain rfl : ip = result.targetIp := Option.some.inj (hsome.symm.trans hip)
    rcases hvalue with hmem | hmem
    · exact hiface _ (by decide) hmem
    · exact hiface _ (by decide) hmem

/-! ## The run's position -/

/-- The run was a client's, against a known stack and no proxy leg, at an address that is one plain word.
Source: none: specification
Kind: D -/
structure PlainEndpoint (config : DutConfig) : Prop where
  role : config.role = .client
  leg : config.proxyLeg = none
  ip : ∃ ip, config.targetIp = some ip ∧ PlainWord ip
  stack : ∃ stack ∈ listProfiles, config.targetStack = some stack

/-- **When the reproduction command reproduces the run's position.**
Source: `src/reporting/report_data.py` `reproduction_command`
Kind: P -/
theorem reproduces_iff (request : RunRequest) (header : TestRunResult) (iface : PyStr) (random : EphemeralPort) :
    Reproduces request (newRunHeader request header) iface random ↔ PlainEndpoint request.config := by
  constructor
  · rintro ⟨config, hreproduced, hip, hstack, hrole, hleg⟩
    obtain ⟨args, -, hconfig⟩ := bind_eq_ok.mp hreproduced
    obtain ⟨given, -, hconfig⟩ := bind_eq_ok.mp hconfig
    obtain ⟨⟨stack, hprofile, hstack'⟩, ip, hip', -⟩ := givenConfig_spec hconfig
    have hrequestIp : request.config.targetIp = some ip := hip.symm.trans hip'
    have hrequestStack : request.config.targetStack = some stack := hstack.symm.trans hstack'
    have hheaderIp : (newRunHeader request header).targetIp = ip := by simp [newRunHeader, hrequestIp]
    have hheaderStack : (newRunHeader request header).targetStack = stack := by simp [newRunHeader, hrequestStack]
    have hprofile' : (newRunHeader request header).targetStack ∈ listProfiles := hheaderStack.symm ▸ hprofile
    have hplain := plainWord_of_reproduced hprofile' hreproduced (hheaderIp.symm ▸ hip')
    -- of a plain address the command makes a client's configuration without a leg
    obtain ⟨config', hreproduced', -, -, hrole', hleg'⟩ := reproduced_plain hplain hprofile' iface random
    obtain rfl : config' = config := Except.ok.inj (hreproduced'.symm.trans hreproduced)
    exact ⟨hrole.symm.trans hrole', hleg.symm.trans hleg', ⟨ip, hrequestIp, hheaderIp ▸ hplain⟩,
      stack, hprofile, hrequestStack⟩
  · rintro ⟨hrole, hleg, ⟨ip, hip, hplain⟩, stack, hprofile, hstack⟩
    have hheaderIp : (newRunHeader request header).targetIp = ip := by simp [newRunHeader, hip]
    have hheaderStack : (newRunHeader request header).targetStack = stack := by simp [newRunHeader, hstack]
    obtain ⟨config, hconfig, hip', hstack', hrole', hleg'⟩ :=
      reproduced_plain (hheaderIp.symm ▸ hplain) (hheaderStack.symm ▸ hprofile) iface random
    refine ⟨config, hconfig, ?_, ?_, hrole'.trans hrole.symm, hleg'.trans hleg.symm⟩
    · rw [hip', hheaderIp, hip]
    · rw [hstack', hheaderStack, hstack]

/-- A run in server role.
Source: none: example
Kind: D -/
def serverRequest : RunRequest where
  config := {
    interface := some (text "eth0")
    targetIp := some (text "10.0.0.5")
    targetStack := some (text "linux")
    role := .server }

/-- **The command of a server-role run does not reproduce it.**
Source: `src/reporting/report_data.py` `reproduction_command`
Kind: P -/
theorem server_run_not_reproduced :
    ¬ ∀ (request : RunRequest) (header : TestRunResult) (iface : PyStr) (random : EphemeralPort),
      Reproduces request (newRunHeader request header) iface random := by
  intro h
  obtain ⟨config, hreproduced, -, -, hserver, -⟩ :=
    h serverRequest plainHeader (text "eth0") ⟨50000, by decide, by decide⟩
  obtain ⟨config', hreproduced', -, -, hclient, -⟩ :=
    @reproduced_plain (newRunHeader serverRequest plainHeader) (by decide) (by decide)
      (text "eth0") ⟨50000, by decide, by decide⟩
  obtain rfl : config' = config := Except.ok.inj (hreproduced'.symm.trans hreproduced)
  rw [hclient] at hserver
  cases hserver

end NetstackSuite.Cli
