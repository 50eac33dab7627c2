import NetstackSuite.Runner.Fidelity

/-!
# A file of arguments takes a run over

The values of `-k` and `-m` are tokens of their own, and pytest reads a token `@name` as the lines of the file
`name`. Such a file can say more than what to select: `takeover` confirms `vuln` tests, sets another device and
authorizes it, and the parent sets none of that behind the selection (`childOptions_takeover`). The gate of
the child lets `vuln` tests pass then, whatever the operator gave (`taken_over`).
-/

namespace NetstackSuite.Runner

open NetstackSuite.Cli NetstackSuite.Config NetstackSuite.Proxy NetstackSuite.Python

/-! ## The file -/

variable (ip : PyStr)

/-- The options that the file sets.
Source: none: specification
Kind: D -/
def takeoverFlags : List (PyStr × PyStr) :=
  [(text "--dut-ip", ip), (text "--dut-iface", text "eth0"), (text "--target-stack", text "linux"),
    (text "--role", text "client"), (text "--proxy-leg", text "back"),
    (text "--allowed-targets", text "127.0.0.0/8")]

/-- The lines of the file: a selection of the `vuln` tests, and options.
Source: none: specification
Kind: D -/
def takeover : List PyStr :=
  [text "vuln", text "--confirm-vuln-tests"] ++ (takeoverFlags ip).map fun pair => flagToken pair.1 pair.2

/-- Every name is that of this file.
Source: none: specification
Kind: D -/
def takeoverFiles : ArgFiles where
  lines _ := .ok (takeover ip)
  nesting := 1

/-- An argument, or the file that it names.
Source: Python `ArgumentParser._read_args_from_files`
Kind: D -/
def takenArg (arg : PyStr) : List PyStr := if arg.head? = some AT then takeover ip else [arg]

/-- What a flag and its value leave in the namespace, the file's options included if the value names it.
Source: `conftest.py` `pytest_addoption`
Kind: D -/
def takenEntries (flag value : PyStr) : Namespace :=
  if value.head? = some AT then
    (flag, .text (text "vuln")) :: (text "--confirm-vuln-tests", .present) ::
      (takeoverFlags ip).map fun pair => (pair.1, .text pair.2)
  else [(flag, .text value)]

/-- What the selection leaves in the namespace.
Source: `src/runner.py` `build_pytest_args`
Kind: D -/
def takenSelection (request : RunRequest) : Namespace :=
  (orNone request.testName).toList.flatMap (takenEntries ip (text "-k")) ++
    if request.markers ≠ [] then takenEntries ip (text "-m") (markerExpression request) else []

variable {ip} {pytest : PytestOptions} {request : RunRequest}

lemma plain_takeover (ip : PyStr) : Plain (takeover ip) := by
  intro arg harg
  simp only [takeover, takeoverFlags, List.map_cons, List.map_nil, List.cons_append, List.nil_append,
    List.mem_cons, List.not_mem_nil, or_false] at harg
  rcases harg with rfl | rfl | rfl | rfl | rfl | rfl | rfl | rfl
  · decide +kernel
  all_goals exact (by decide : some DASH ≠ some AT)

/-- Every argument that names a file gives way to this one.
Source: Python `ArgumentParser._read_args_from_files`
Kind: L -/
lemma readArgsFromFiles_takeover (ip : PyStr) (args : List PyStr) :
    readArgsFromFiles (takeoverFiles ip) args = .ok (args.flatMap (takenArg ip)) := by
  have hone (arg : PyStr) :
      readArg (takeoverFiles ip).lines (takeoverFiles ip).nesting arg = .ok (takenArg ip arg) := by
    unfold takenArg
    by_cases hat : arg.head? = some AT
    · rw [if_pos hat]
      change (if arg.head? = some AT then ((takeover ip).mapM (readArg _ 0)).map List.flatten else _) = _
      rw [if_pos hat]
      exact readArgsFromFiles_plain ⟨(takeoverFiles ip).lines, 0⟩ (plain_takeover ip)
    · rw [if_neg hat, readArg_plain _ hat]
  induction args with
  | nil => rfl
  | cons arg args ih =>
      rw [readArgsFromFiles_cons, hone, ih]
      rfl

/-- Arguments that name no file stay.
Source: Python `ArgumentParser._read_args_from_files`
Kind: L -/
lemma flatMap_takenArg {args : List PyStr} (h : Plain args) : args.flatMap (takenArg ip) = args :=
  Except.ok.inj ((readArgsFromFiles_takeover ip args).symm.trans (readArgsFromFiles_plain _ h))

/-! ## The line with the file in it -/

/-- A flag and its value are read, be the value the file's name or not.
Source: Python `ArgumentParser._parse_known_args`
Kind: L -/
lemma reads_takenArg (ip : PyStr) {flag value : PyStr}
    (hflag : classify pytest.all flag = .option { flag := flag, type := .text } none)
    (hvalue : classify pytest.all value = .positional) :
    Reads pytest.all (flag :: takenArg ip value) (takenEntries ip flag value) := by
  unfold takenArg takenEntries
  split
  · have hname : Reads pytest.all [flag, text "vuln"] [(flag, .text (text "vuln"))] :=
      Reads.of_two hflag (by simp) (classify_positional (by decide +kernel)) rfl
    have hstack : text "linux" ∈ listProfiles := List.mem_cons_self
    have hrole : text "client" ∈ ROLE_CHOICES := by decide +kernel
    have hleg : text "back" ∈ PROXY_LEGS := by decide +kernel
    have hflags : Reads pytest.all ((takeoverFlags ip).map fun pair => flagToken pair.1 pair.2)
        ((takeoverFlags ip).map fun pair => (pair.1, .text pair.2)) := by
      apply Reads.map
      intro pair hpair
      simp only [takeoverFlags, List.mem_cons, List.not_mem_nil, or_false] at hpair
      rcases hpair with rfl | rfl | rfl | rfl | rfl | rfl
      · exact reads_text pytest (by simp [lookup])
      · exact reads_text pytest (by simp [lookup])
      · exact reads_choice pytest (by simp [lookup]) hstack
      · exact reads_choice pytest (by simp [lookup]) hrole
      · exact reads_choice pytest (by simp [lookup]) hleg
      · exact reads_text pytest (by simp [lookup])
    exact hname.append (reads_confirm.append hflags)
  · exact Reads.of_two hflag (by simp) hvalue rfl

/-- **A selection that names a file brings its options in**: they stand behind the parent's own settings.
Source: `src/runner.py` `build_pytest_args`
Kind: P -/
theorem childOptions_takeover (h : Forwardable request) (hselection : SelectionReadable pytest request)
    (install : Install) (runDir : PyStr) :
    ∃ args, buildPytestArgs install request runDir = .ok args ∧ ∀ ip,
      childOptions (takeoverFiles ip) pytest install args =
        .ok (frontEntries install request { root := runDir } ++ takenSelection ip request ++
          backEntries request { root := runDir }) := by
  obtain ⟨args, front, back, hargs, hsplit, hfront, hback⟩ := exists_line h pytest install runDir
  refine ⟨args, hargs, fun ip => ?_⟩
  have htaken : Reads pytest.all ((selectionArgs request).flatMap (takenArg ip)) (takenSelection ip request) := by
    have hk : takenArg ip (text "-k") = [text "-k"] := if_neg (by decide +kernel)
    have hm : takenArg ip (text "-m") = [text "-m"] := if_neg (by decide +kernel)
    unfold selectionArgs takenSelection
    rw [List.flatMap_append]
    apply Reads.append
    · rcases htest : orNone request.testName with _ | name
      · exact Reads.nil
      · simpa [hk] using reads_takenArg ip classify_k (hselection.1 name htest)
    · split
      · next hmarkers => simpa [hm] using reads_takenArg ip classify_m (hselection.2 hmarkers)
      · exact Reads.nil
  unfold childOptions parseArgs
  rw [hsplit, readArgsFromFiles_takeover, List.flatMap_append, List.flatMap_append,
    flatMap_takenArg hfront.plain, flatMap_takenArg hback.plain]
  exact ((hfront.reads.append htaken).append hback.reads).parseTokens_eq

/-! ## What the child makes of it -/

/-- A value that names the file brings each of its options in, and any other value none.
Source: Python `argparse` `Namespace`
Kind: L -/
lemma valuesOf_takenEntries {flag : PyStr} (hflag : flag = text "-k" ∨ flag = text "-m") (value : PyStr)
    {option : PyStr} {v : ArgValue}
    (h : (option, v) ∈ (text "--confirm-vuln-tests", ArgValue.present) ::
      (takeoverFlags ip).map fun pair => (pair.1, ArgValue.text pair.2)) :
    valuesOf (takenEntries ip flag value) option = if value.head? = some AT then [v] else [] := by
  simp only [takeoverFlags, List.map_cons, List.map_nil, List.mem_cons, List.not_mem_nil, or_false,
    Prod.mk.injEq] at h
  unfold takenEntries
  split <;> rcases hflag with rfl | rfl <;>
    rcases h with ⟨rfl, rfl⟩ | ⟨rfl, rfl⟩ | ⟨rfl, rfl⟩ | ⟨rfl, rfl⟩ | ⟨rfl, rfl⟩ | ⟨rfl, rfl⟩ | ⟨rfl, rfl⟩ <;>
      simp [takeoverFlags, valuesOf_cons]

/-- A selection that names a file gives each option of the file, and only as the file has it.
Source: Python `argparse` `Namespace`
Kind: L -/
lemma valuesOf_takenSelection (ip : PyStr) (hnot : ¬ Plain (selectionArgs request)) {option : PyStr} {v : ArgValue}
    (h : (option, v) ∈ (text "--confirm-vuln-tests", ArgValue.present) ::
      (takeoverFlags ip).map fun pair => (pair.1, ArgValue.text pair.2)) :
    v ∈ valuesOf (takenSelection ip request) option ∧
      ∀ w ∈ valuesOf (takenSelection ip request) option, w = v := by
  have hk (name : PyStr) := valuesOf_takenEntries (Or.inl rfl) name h
  have hm := valuesOf_takenEntries (Or.inr rfl) (markerExpression request) h
  have hname : (∃ name, orNone request.testName = some name ∧ name.head? = some AT) ∨
      (request.markers ≠ [] ∧ (markerExpression request).head? = some AT) := by
    have hplainK : Plain [text "-k"] := by decide +kernel
    have hplainM : Plain [text "-m"] := by decide +kernel
    by_contra hnone
    push Not at hnone
    obtain ⟨hnames, hmarkers⟩ := hnone
    apply hnot
    unfold selectionArgs
    apply Plain.append
    · rcases htest : orNone request.testName with _ | name
      · exact List.forall_mem_nil _
      · exact hplainK.append (List.forall_mem_singleton.mpr (hnames name htest))
    · split
      · next hgiven => exact hplainM.append (List.forall_mem_singleton.mpr (hmarkers hgiven))
      · exact List.forall_mem_nil _
  unfold takenSelection
  rw [valuesOf_append]
  constructor
  · rw [List.mem_append]
    rcases hname with ⟨name, htest, hat⟩ | ⟨hgiven, hat⟩
    · left
      simp [htest, hk, hat]
    · right
      simp [hgiven, hm, hat]
  · rw [List.forall_mem_append]
    constructor
    · rcases orNone request.testName with _ | name
      · exact List.forall_mem_nil _
      · simp only [Option.toList_some, List.flatMap_singleton, hk]
        split <;> simp
    · split
      · rw [hm]
        split <;> simp
      · exact List.forall_mem_nil _

/-- The parent's part of the line authorizes nothing in front of the selection.
Source: `src/runner.py` `build_pytest_args`
Kind: L -/
lemma valuesOf_frontEntries (install : Install) (request : RunRequest) (artifacts : RunArtifacts) :
    valuesOf (frontEntries install request artifacts) (text "--allowed-targets") = [] := by
  obtain ⟨hlauncher, htargets, -⟩ := valuesOf_selection install request
    (show text "--allowed-targets" ∉ SELECTION_FLAGS by simp [SELECTION_FLAGS, FILE_OR_DIR])
  unfold frontEntries
  simp only [valuesOf_append, hlauncher, htargets, List.nil_append]
  simp [fixedEntries, optionalFlags, valuesOf_cons, valuesOf_settings_cons]

/-- The parent's part of the line sets no device behind the selection.
Source: `src/runner.py` `build_pytest_args`
Kind: L -/
lemma valuesOf_backEntries (request : RunRequest) (artifacts : RunArtifacts) {pair : PyStr × PyStr}
    (h : pair ∈ takeoverFlags ip) (hdevice : pair.1 ≠ text "--allowed-targets") :
    valuesOf (backEntries request artifacts) pair.1 = [] := by
  have hconfirm : text "--confirm-vuln-tests" ≠ pair.1 ∧ text "--debug-log" ≠ pair.1 := by
    simp only [takeoverFlags, List.mem_cons, List.not_mem_nil, or_false] at h
    rcases h with rfl | rfl | rfl | rfl | rfl | rfl <;> simp
  have htopology : valuesOf (settings (sentTopology request)) pair.1 = [] := by
    simp only [takeoverFlags, List.mem_cons, List.not_mem_nil, or_false] at h
    unfold sentTopology
    split
    · rcases h with rfl | rfl | rfl | rfl | rfl | rfl <;>
        simp [topologyFlags, valuesOf_settings_cons]
    · rfl
  unfold backEntries
  simp only [valuesOf_append, valuesOf_map, if_neg hdevice.symm, htopology, List.append_nil]
  rcases request.confirmVulnTests with _ | _ <;> rcases request.debug with _ | _ <;>
    simp [valuesOf_cons, hconfirm.1, hconfirm.2]

section Taken

variable {front back : Namespace}

/-- What is given last stands.
Source: Python `argparse` `Namespace`
Kind: L -/
lemma getText_takenSelection (hnot : ¬ Plain (selectionArgs request)) {option value : PyStr}
    (h : (option, value) ∈ takeoverFlags ip) (hback : valuesOf back option = []) :
    getText (front ++ takenSelection ip request ++ back) option = some value := by
  have hmem : (option, ArgValue.text value) ∈ (takeoverFlags ip).map fun pair => (pair.1, ArgValue.text pair.2) :=
    List.mem_map_of_mem h
  obtain ⟨hgiven, honly⟩ := valuesOf_takenSelection ip hnot (List.mem_cons_of_mem _ hmem)
  have hlast : (valuesOf front option ++ valuesOf (takenSelection ip request) option).getLast? =
      some (.text value) := by
    obtain ⟨v, hv⟩ := Option.ne_none_iff_exists'.mp (mt List.getLast?_eq_none_iff.mp (List.ne_nil_of_mem hgiven))
    rw [List.getLast?_append, hv, Option.some_or, honly v (List.mem_of_getLast? hv)]
  unfold getText getoption
  rw [valuesOf_append, valuesOf_append, hback, List.append_nil, hlast]
  rfl

/-- The configuration of the file.
Source: `conftest.py` `dut_config`
Kind: L -/
lemma rebuildConfig_takeover (ip : PyStr) (hnot : ¬ Plain (selectionArgs request)) (random : EphemeralPort)
    (hfront : valuesOf front (text "--allowed-targets") = [])
    (hback : ∀ pair ∈ takeoverFlags ip, pair.1 ≠ text "--allowed-targets" → valuesOf back pair.1 = []) :
    ∃ config more, rebuildConfig (front ++ takenSelection ip request ++ back) random = .ok config ∧
      config.interface = some (text "eth0") ∧ config.targetIp = some ip ∧
      config.targetStack = some (text "linux") ∧ config.proxyLeg = some .back ∧
      config.allowedTargets = text "127.0.0.0/8" :: more := by
  have hget (option value : PyStr) (h : (option, value) ∈ takeoverFlags ip)
      (hdevice : option ≠ text "--allowed-targets") :
      getText (front ++ takenSelection ip request ++ back) option = some value :=
    getText_takenSelection hnot h (hback _ h hdevice)
  have hleg : selectedProxyLeg (front ++ takenSelection ip request ++ back) = .ok (some .back) := by
    unfold selectedProxyLeg
    rw [hget (text "--proxy-leg") (text "back") (by simp [takeoverFlags]) (by simp)]
    rfl
  have hrole : effectiveRole (front ++ takenSelection ip request ++ back) =
      .ok (resolveRole (some .back) .client) := by
    unfold effectiveRole
    rw [hleg, hget (text "--role") (text "client") (by simp [takeoverFlags]) (by simp)]
    rfl
  obtain ⟨more, hlist⟩ : ∃ more, getList (front ++ takenSelection ip request ++ back) (text "--allowed-targets") =
      text "127.0.0.0/8" :: more := by
    obtain ⟨hgiven, honly⟩ := valuesOf_takenSelection ip hnot
      (show (text "--allowed-targets", ArgValue.text (text "127.0.0.0/8")) ∈ _ by simp [takeoverFlags])
    obtain ⟨v, vs, hvalues⟩ := List.exists_cons_of_ne_nil (List.ne_nil_of_mem hgiven)
    obtain rfl := honly v (by rw [hvalues]; exact List.mem_cons_self)
    unfold getList
    rw [valuesOf_append, valuesOf_append, hfront, hvalues]
    exact ⟨_, rfl⟩
  unfold rebuildConfig
  rw [hleg, hrole, hget (text "--dut-ip") ip (by simp [takeoverFlags]) (by simp),
    hget (text "--dut-iface") (text "eth0") (by simp [takeoverFlags]) (by simp),
    hget (text "--target-stack") (text "linux") (by simp [takeoverFlags]) (by simp), hlist]
  exact ⟨_, more, rfl, rfl, rfl, rfl, rfl, rfl⟩

/-- The file confirms.
Source: `conftest.py` `confirm_vuln_tests`
Kind: L -/
lemma confirmVulnTests_takeover (ip : PyStr) (hnot : ¬ Plain (selectionArgs request)) :
    confirmVulnTests (front ++ takenSelection ip request ++ back) = true := by
  obtain ⟨hgiven, -⟩ := valuesOf_takenSelection ip hnot List.mem_cons_self
  have hmem : ArgValue.present ∈ valuesOf (front ++ takenSelection ip request ++ back)
      (text "--confirm-vuln-tests") := by
    rw [valuesOf_append, valuesOf_append, List.mem_append, List.mem_append]
    exact Or.inl (Or.inr hgiven)
  unfold confirmVulnTests getoption
  rcases hlast : (valuesOf (front ++ takenSelection ip request ++ back)
    (text "--confirm-vuln-tests")).getLast? with _ | value
  · rw [List.getLast?_eq_none_iff] at hlast
    rw [hlast] at hmem
    exact absurd hmem List.not_mem_nil
  · rfl

end Taken

/-- What a list authorizes, it authorizes with more behind it.
Source: none: infrastructure
Kind: L -/
lemma authorized_append {ip : Option PyStr} {allowed : List PyStr} (h : Authorized ip allowed)
    (more : List PyStr) : Authorized ip (allowed ++ more) := by
  obtain ⟨ip, addr, before, cidr, after, network, hip, haddr, rfl, hbefore, hnetwork, hshares⟩ := h
  exact ⟨ip, addr, before, cidr, after ++ more, network, hip, haddr, by simp, hbefore, hnetwork, hshares⟩

/-- A loopback address other than a given one.
Source: none: infrastructure
Kind: L -/
lemma exists_loopback (other : Option PyStr) :
    ∃ ip, some ip ≠ other ∧ ip ≠ [] ∧ Authorized (some ip) [text "127.0.0.0/8"] := by
  have hrange (ip : PyStr) (h : DutConfig.targetInAllowedRange
      { interface := none, targetIp := some ip, targetStack := none, allowedTargets := [text "127.0.0.0/8"] } =
        .ok true) : Authorized (some ip) [text "127.0.0.0/8"] := (targetInAllowedRange_iff _).mp h
  by_cases hother : other = some (text "127.0.0.1")
  · refine ⟨text "127.0.0.2", ?_, by decide +kernel, hrange _ (by decide +kernel)⟩
    rw [hother]
    decide +kernel
  · exact ⟨text "127.0.0.1", fun h => hother h.symm, by decide +kernel, hrange _ (by decide +kernel)⟩

/-- **A file of arguments takes the run over**: if a value of the selection names one, and the line is not
refused in any case, there is a file with which the child tests a device of the file's choice, behind the
proxy, and lets `vuln` tests pass.
Source: `src/runner.py` `build_pytest_args`, `conftest.py` `enforce_vuln_authorization`
Kind: P -/
theorem taken_over (h : Forwardable request) (hnot : ¬ SelectionGiven pytest request) (install : Install)
    (runDir : PyStr) (random : EphemeralPort) (other : Option PyStr) :
    ∃ args files ns config, buildPytestArgs install request runDir = .ok args ∧
      childOptions files pytest install args = .ok ns ∧ rebuildConfig ns random = .ok config ∧
      dutConfig ns random = .ok config ∧ config.proxyLeg = some .back ∧ config.targetIp ≠ other ∧
      enforceVulnAuthorization true ns random = .ok () := by
  obtain ⟨hselection, hfile⟩ := not_or.mp hnot
  obtain ⟨args, hargs, htaken⟩ := childOptions_takeover h (not_not.mp hselection) install runDir
  obtain ⟨ip, hother, hne, hauthorized⟩ := exists_loopback other
  obtain ⟨config, more, hconfig, hinterface, htarget, hstack, hleg, hlist⟩ :=
    rebuildConfig_takeover ip hfile random (valuesOf_frontEntries install request { root := runDir })
      fun pair hpair hdevice => valuesOf_backEntries request { root := runDir } hpair hdevice
  have hmissing : config.missingRequired = [] := by
    unfold DutConfig.missingRequired
    have hip : orNone (some ip) = some ip := by
      obtain ⟨c, cs, rfl⟩ := List.exists_cons_of_ne_nil hne
      rfl
    have heth : orNone (some (text "eth0")) = some (text "eth0") := rfl
    have hlinux : orNone (some (text "linux")) = some (text "linux") := rfl
    rw [hinterface, htarget, hstack]
    simp [hip, heth, hlinux]
  have hdut : dutConfig (frontEntries install request { root := runDir } ++ takenSelection ip request ++
      backEntries request { root := runDir }) random = .ok config := by
    unfold dutConfig
    rw [hconfig]
    simp only [bind, Except.bind, pure, Except.pure, hmissing, ne_eq, not_true_eq_false, if_false]
  refine ⟨args, takeoverFiles ip, _, config, hargs, htaken ip, hconfig, hdut, hleg, ?_, ?_⟩
  · rw [htarget]
    exact hother
  · unfold enforceVulnAuthorization
    simp only [hdut, if_true, bind, Except.bind]
    rw [enforceVulnTestAuthorization_iff, htarget, hlist]
    exact ⟨confirmVulnTests_takeover ip hfile, authorized_append hauthorized more⟩

end NetstackSuite.Runner
