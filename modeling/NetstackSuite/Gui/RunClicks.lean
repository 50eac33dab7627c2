import NetstackSuite.Gui.MainWindow

/-!
# Clicks on Run

A click on Run starts a run or says in the last line of the log that it does not, whatever the form, the host and the
network are like (`click_reported`); it starts what `onRunClicked` of the form says. The exception is a host on which
the privilege check raises: `_on_run_clicked` catches only `ConfigurationError`, so an `UnsupportedHostError`, or what
`getcap` fails with, leaves the slot.
-/

namespace NetstackSuite.Gui

open NetstackSuite.Cli NetstackSuite.Config NetstackSuite.Lib NetstackSuite.PacketEngine NetstackSuite.Proxy
  NetstackSuite.Python NetstackSuite.Reporting NetstackSuite.Runner

/-! ## Slots that write to the log -/

namespace Reported

variable {α β : Type}

/-- Source: none: infrastructure. Kind: L -/
@[simp] lemma ok_bind (lines : List PyStr) (a : α) (f : α → Reported β) :
    ((⟨lines, .ok a⟩ : Reported α) >>= f) = ⟨lines ++ (f a).lines, (f a).outcome⟩ := rfl

/-- Source: none: infrastructure. Kind: L -/
@[simp] lemma error_bind (lines : List PyStr) (e : Raised) (f : α → Reported β) :
    ((⟨lines, .error e⟩ : Reported α) >>= f) = ⟨lines, .error e⟩ := rfl

/-- Source: none: infrastructure. Kind: L -/
@[simp] lemma pure_eq (a : α) : (pure a : Reported α) = ⟨[], .ok a⟩ := rfl

end Reported

/-- Source: none: infrastructure. Kind: L -/
@[simp] lemma raising_ok {α : Type} (message : PyStr) (a : α) : raising message (.ok a) = ⟨[], .ok a⟩ := rfl

/-- Source: none: infrastructure. Kind: L -/
@[simp] lemma raising_error {α : Type} (message : PyStr) (e : PyExc) :
    (raising message (.error e) : Reported α) = ⟨[], .error ⟨e, message⟩⟩ := rfl

/-- The log ends with the notice that no run is started.
Source: `src/gui/main_window.py` `MainWindow._on_run_clicked`
Kind: D -/
def Refuses (lines : List PyStr) : Prop :=
  ∃ front line, lines = front ++ [line] ∧ text "ot starting the run." <:+ line

/-- A run is announced.
Source: `src/gui/main_window.py` `MainWindow._on_run_clicked`
Kind: D -/
def Announces (lines : List PyStr) : Prop := ∃ line ∈ lines, text "Starting run (role=" <+: line

/-- Source: none: infrastructure. Kind: L -/
lemma Refuses.behind {lines : List PyStr} (h : Refuses lines) (before : List PyStr) : Refuses (before ++ lines) := by
  obtain ⟨front, line, rfl, hline⟩ := h
  exact ⟨before ++ front, line, (List.append_assoc ..).symm, hline⟩

lemma Announces.behind {lines : List PyStr} (h : Announces lines) (before : List PyStr) :
    Announces (before ++ lines) := by
  obtain ⟨line, hmem, hline⟩ := h
  exact ⟨line, List.mem_append_right _ hmem, hline⟩

lemma refuses_concat (lines : List PyStr) {reason : PyStr} :
    Refuses (lines ++ [reason ++ text " Not starting the run."]) := by
  refine ⟨lines, _, rfl, ?_⟩
  exact (show text "ot starting the run." <:+ text " Not starting the run." by decide +kernel).trans
    (List.suffix_append _ _)

/-! ## The parts of the slot -/

variable {repr : PyStr → PyStr} {form : DutForm} {config : DutConfig}
  {session session' : Option EphemeralPort} {random : EphemeralPort}

/-- Only an address field raises.
Source: `src/gui/main_window.py` `_split_host_port`
Kind: L -/
lemma splitHostPort_error {field : PyStr} {e : PyExc} (h : splitHostPort field = .error e) :
    e = configurationError := by
  unfold splitHostPort at h
  simp only at h
  split at h
  · cases h
  · split at h
    · cases h
    · split at h
      · cases h
      · exact (Except.error.inj h).symm

/-- Source: `src/gui/main_window.py` `MainWindow._current_dut_config`. Kind: L -/
lemma currentDutConfig_error {e : PyExc} (h : currentDutConfig form session random = .error e) :
    e = configurationError := by
  rcases bind_eq_error.mp h with hfront | ⟨front, -, hnone⟩
  · exact splitHostPort_error hfront
  · cases hnone

/-- The port of the configuration can be printed.
Source: `src/gui/main_window.py` `MainWindow._current_dut_config`
Kind: L -/
lemma printable_targetPort (h : currentDutConfig form session random = .ok (config, session')) :
    ∃ port, formatReturncode config.targetPort = .ok port := by
  obtain ⟨⟨frontHost, frontPort⟩, hfront, hconfig⟩ := bind_eq_ok.mp h
  rcases htarget : resolveLegTarget form.proxyLeg (some form.targetIp) (spinValue form.dstPort)
    frontHost frontPort with ⟨ip, _ | port⟩
  · simp only [htarget] at hconfig
    obtain ⟨rfl, -⟩ := Prod.mk.inj (Except.ok.inj hconfig)
    exact intRepr_resolvedDstPort form session random
  · simp only [htarget] at hconfig
    obtain ⟨rfl, -⟩ := Prod.mk.inj (Except.ok.inj hconfig)
    have hport : (ip, some port).2 = spinValue form.dstPort ∨ (ip, some port).2 = frontPort :=
      htarget ▸ resolveLegTarget_snd form.proxyLeg (some form.targetIp) (spinValue form.dstPort) frontHost frontPort
    rcases hport with heq | heq
    · exact printable_spinValue form.dstPort port heq.symm
    · exact printable_splitHostPort hfront port heq.symm

/-- Source: `src/gui/main_window.py` `MainWindow._report_and_validate_topology`. Kind: L -/
lemma reportLeg_spec {port : PyStr} (hport : formatReturncode config.targetPort = .ok port) :
    ∃ lines, reportLeg config = ⟨lines, .ok ()⟩ := by
  unfold reportLeg
  rw [hport]
  rcases config.proxyLeg with _ | leg <;> exact ⟨_, rfl⟩

/-- Source: `src/gui/main_window.py` `MainWindow._report_and_validate_topology`. Kind: L -/
lemma reportRandomPort_spec {port : PyStr} (hport : formatReturncode config.targetPort = .ok port) :
    ∃ lines, reportRandomPort form config = ⟨lines, .ok ()⟩ := by
  unfold reportRandomPort
  rw [hport]
  split <;> exact ⟨_, rfl⟩

/-- The report on the topology decides what `validateTopology` says, and says so if the run may not proceed.
Source: `src/gui/main_window.py` `MainWindow._report_and_validate_topology`
Kind: L -/
lemma reportAndValidateTopology_spec (h : currentDutConfig form session random = .ok (config, session')) :
    (∃ lines proceed, reportAndValidateTopology repr form config = ⟨lines, .ok proceed⟩ ∧
        validateTopology form config = .ok proceed ∧ (proceed = false → Refuses lines)) ∨
      ∃ lines message, reportAndValidateTopology repr form config = ⟨lines, .error ⟨configurationError, message⟩⟩ ∧
        validateTopology form config = .error configurationError := by
  obtain ⟨port, hport⟩ := printable_targetPort h
  obtain ⟨legLines, hleg⟩ := reportLeg_spec hport
  obtain ⟨portLines, hrandom⟩ := @reportRandomPort_spec form config port hport
  unfold reportAndValidateTopology validateTopology
  rw [hleg, hrandom]
  rcases hbackend : splitHostPort form.proxyBackend with e | ⟨backendHost, backendPort⟩
  · obtain rfl := splitHostPort_error hbackend
    exact .inr ⟨legLines ++ [], formMessage repr form, rfl, rfl⟩
  · rcases hblocked : backLegRequirementError config.proxyLeg (form.proxyMode.map ProxyMode.value) backendHost
      (text "a Proxy mode") (text "a Proxy backend address") with _ | blocked
    · refine .inl ⟨legLines ++ portLines, true, ?_, ?_, by simp⟩
      · simp [hblocked]
      · show Except.ok (backLegRequirementError _ _ _ _ _).isNone = _
        rw [hblocked]
        rfl
    · refine .inl ⟨legLines ++ [blocked ++ text " Not starting the run."], false, ?_, ?_, fun _ => refuses_concat _⟩
      · simp [hblocked, appendLine]
      · show Except.ok (backLegRequirementError _ _ _ _ _).isNone = _
        rw [hblocked]
        rfl

/-- The preflight's report returns what the preflight says, and says so if the run may not proceed.
Source: `src/gui/main_window.py` `MainWindow._preflight_and_report`
Kind: L -/
lemma preflightAndReport_ok {host : Host} {probe : Probe} {pre : PreflightResult}
    (h : runPreflight repr config host probe = .ok pre) :
    ∃ lines, preflightAndReport repr host probe config = ⟨lines, .ok pre.ok⟩ ∧ (pre.ok = false → Refuses lines) := by
  unfold preflightAndReport
  rw [h]
  rcases hok : pre.ok
  · refine ⟨text "Preflight connectivity check…" :: (pre.renderLines.map fun line => text "  " ++ line) ++
      [text "Preflight failed — not starting the run."], ?_, fun _ => ⟨_, _, rfl, by decide +kernel⟩⟩
    simp [hok, appendLine, appendLines]
  · refine ⟨text "Preflight connectivity check…" :: (pre.renderLines.map fun line => text "  " ++ line), ?_, by simp⟩
    simp [hok, appendLine, appendLines]

/-- Source: `src/gui/main_window.py` `MainWindow._preflight_and_report`. Kind: L -/
lemma preflightAndReport_error {host : Host} {probe : Probe} {e : PyExc}
    (h : runPreflight repr config host probe = .error e) :
    ∃ lines, preflightAndReport repr host probe config = ⟨lines, .error ⟨e, []⟩⟩ := by
  unfold preflightAndReport
  rw [h]
  exact ⟨_, rfl⟩

/-- Behind the checks a request can be built, and announced.
Source: `src/gui/main_window.py` `MainWindow._build_run_request`
Kind: L -/
lemma exists_request (h : currentDutConfig form session random = .ok (config, session'))
    (hvalid : validateTopology form config = .ok true) : ∃ request, buildRunRequest form config = .ok request := by
  obtain ⟨front, hfront, -⟩ := bind_eq_ok.mp h
  obtain ⟨backend, hbackend, -⟩ := bind_eq_ok.mp hvalid
  unfold buildRunRequest
  rw [hfront, hbackend]
  exact ⟨_, rfl⟩

/-- Source: `src/gui/main_window.py` `MainWindow._on_run_clicked`. Kind: L -/
lemma portOrDash_ok {port : Option Int} (h : Printable port) : ∃ shownPort, portOrDash port = .ok shownPort := by
  unfold portOrDash
  rcases port with _ | i
  · exact ⟨_, rfl⟩
  · dsimp only
    split
    · exact ⟨_, rfl⟩
    · exact h i rfl

/-- Source: `src/gui/main_window.py` `MainWindow._on_run_clicked`. Kind: L -/
lemma announceRun_spec {request : RunRequest} (hbuilt : buildRunRequest form config = .ok request) :
    ∃ lines, announceRun config request = ⟨lines, .ok ()⟩ ∧ Announces lines := by
  obtain ⟨⟨proxyHost, proxyPort⟩, hfront, hrequest⟩ := bind_eq_ok.mp hbuilt
  obtain ⟨⟨backendHost, backendPort⟩, hbackend, hrequest⟩ := bind_eq_ok.mp hrequest
  obtain rfl := Except.ok.inj hrequest
  obtain ⟨shownFront, hshownFront⟩ := portOrDash_ok (printable_splitHostPort hfront)
  obtain ⟨shownBackend, hshownBackend⟩ := portOrDash_ok (printable_splitHostPort hbackend)
  have hannounces : ∀ line rest, Announces ((text "Starting run (role=" ++ line) :: rest) := fun line rest =>
    ⟨_, List.mem_cons_self, List.prefix_append _ _⟩
  unfold announceRun
  simp only [hshownFront, hshownBackend]
  split
  · exact ⟨_, rfl, by simpa [appendLine, List.append_assoc] using hannounces _ _⟩
  · exact ⟨_, rfl, by simpa [appendLine, List.append_assoc] using hannounces _ _⟩

/-! ## The slot -/

section

variable (repr : PyStr → PyStr) (click : RunClick) (sessionPort : Option EphemeralPort)

/-- The preflight returns, and lets the run proceed.
Source: `src/packet_engine/preflight.py` `run_preflight`
Kind: D -/
def preflightPasses (config : DutConfig) : Bool :=
  (runPreflight repr config click.host click.probe).toOption.any PreflightResult.ok

/-- The slot comes to the privilege check, which raises on this host.
Source: `src/utils/permissions.py` `is_elevated`
Kind: D -/
def MeetsPrivilegeError (e : PyExc) : Prop :=
  ∃ config sessionPort', currentDutConfig click.form sessionPort click.random = .ok (config, sessionPort') ∧
    validateTopology click.form config = .ok true ∧ config.missingRequired false = [] ∧
    click.host.privilegeError = some e

/-- The process may open a raw socket, and the ARP request went out.
Source: `src/packet_engine/preflight.py` `run_preflight`
Kind: D -/
def Ready : Prop := click.host.isElevated = .ok true ∧ click.probe.isSent = true

/-- What a click comes to.
Source: `src/gui/main_window.py` `MainWindow._on_run_clicked`
Kind: D -/
inductive ClickOutcome : Reported (Option RunRequest) → Prop
  | started {lines : List PyStr} {request : RunRequest} (announced : Announces lines)
      (built : (onRunClicked (preflightPasses repr click) click.form sessionPort click.random).1 = some request)
      (ready : Ready click) (checked : ∀ e, ¬ MeetsPrivilegeError click sessionPort e) :
      ClickOutcome ⟨lines, .ok (some request)⟩
  | refused {lines : List PyStr} (refused : Refuses lines)
      (unbuilt : (onRunClicked (preflightPasses repr click) click.form sessionPort click.random).1 = none)
      (checked : ∀ e, ¬ MeetsPrivilegeError click sessionPort e) : ClickOutcome ⟨lines, .ok none⟩
  | escaped {lines : List PyStr} {e : PyExc} (raised : MeetsPrivilegeError click sessionPort e) :
      ClickOutcome ⟨lines, .error ⟨e, []⟩⟩

end

variable {click : RunClick} {sessionPort : Option EphemeralPort}

/-- A `ConfigurationError` is the last line of the log.
Source: `src/errors.py` `NetstackError.render`
Kind: L -/
lemma orNotStarted_configurationError {α : Type} (lines : List PyStr) (message : PyStr) :
    ∃ lines', (⟨lines, .error ⟨configurationError, message⟩⟩ : Reported (Option α)).orNotStarted =
      ⟨lines', .ok none⟩ ∧ Refuses lines' := by
  refine ⟨lines ++ [text "Error: [ConfigurationError] " ++ message ++ text " Not starting the run."], ?_,
    refuses_concat lines⟩
  simp [Reported.orNotStarted]

/-- Source: `src/packet_engine/preflight.py` `run_preflight`. Kind: L -/
lemma preflightPasses_of_ok {config : DutConfig} {pre : PreflightResult}
    (h : runPreflight repr config click.host click.probe = .ok pre) : preflightPasses repr click config = pre.ok := by
  unfold preflightPasses
  rw [h]
  rfl

/-- Where a check in front of the preflight fails, the host is not looked at.
Source: `src/gui/main_window.py` `MainWindow._on_run_clicked`
Kind: L -/
lemma not_meetsPrivilegeError {config : DutConfig} {sessionPort' : Option EphemeralPort}
    (hconfig : currentDutConfig click.form sessionPort click.random = .ok (config, sessionPort'))
    (hcheck : validateTopology click.form config = .ok true → config.missingRequired false = [] →
      click.host.privilegeError = none) (e : PyExc) : ¬ MeetsPrivilegeError click sessionPort e := by
  rintro ⟨config', sessionPort'', hok, hvalid, hmissing, hraised⟩
  obtain ⟨rfl, -⟩ := Prod.mk.inj (Except.ok.inj (hok.symm.trans hconfig))
  rw [hcheck hvalid hmissing] at hraised
  cases hraised

/-- What the guarded part comes to.
Source: `src/gui/main_window.py` `MainWindow._on_run_clicked`
Kind: L -/
lemma prepareRun_cases (repr : PyStr → PyStr) (click : RunClick) (sessionPort : Option EphemeralPort) :
    (∃ lines config request, (prepareRun repr click sessionPort).orNotStarted = ⟨lines, .ok (some (config, request))⟩ ∧
        buildRunRequest click.form config = .ok request ∧
        (onRunClicked (preflightPasses repr click) click.form sessionPort click.random).1 = some request ∧
        Ready click ∧ ∀ e, ¬ MeetsPrivilegeError click sessionPort e) ∨
      (∃ lines, (prepareRun repr click sessionPort).orNotStarted = ⟨lines, .ok none⟩ ∧ Refuses lines ∧
        (onRunClicked (preflightPasses repr click) click.form sessionPort click.random).1 = none ∧
        ∀ e, ¬ MeetsPrivilegeError click sessionPort e) ∨
      ∃ lines e, (prepareRun repr click sessionPort).orNotStarted = ⟨lines, .error ⟨e, []⟩⟩ ∧
        MeetsPrivilegeError click sessionPort e := by
  rcases hconfig : currentDutConfig click.form sessionPort click.random with e | ⟨config, sessionPort'⟩
  · obtain rfl := currentDutConfig_error hconfig
    obtain ⟨lines, hlines, hrefuses⟩ := @orNotStarted_configurationError (DutConfig × RunRequest) []
      (formMessage repr click.form)
    refine .inr (.inl ⟨lines, ?_, hrefuses, by simp [onRunClicked, hconfig], ?_⟩)
    · rw [prepareRun, hconfig]
      exact hlines
    · rintro e ⟨config, sessionPort', hok, -⟩
      rw [hconfig] at hok
      cases hok
  rcases @reportAndValidateTopology_spec repr _ _ _ _ _ hconfig with
    ⟨lines, proceed, htopology, hvalid, hrefuses⟩ | ⟨lines, message, htopology, hvalid⟩
  · rcases proceed with _ | _
    · refine .inr (.inl ⟨lines, ?_, hrefuses rfl, by simp [onRunClicked, hconfig, hvalid], ?_⟩)
      · simp [prepareRun, hconfig, htopology, Reported.orNotStarted]
      · exact not_meetsPrivilegeError hconfig fun htrue => absurd (hvalid.symm.trans htrue) (by simp)
    · rcases hpre : runPreflight repr config click.host click.probe with e | pre
      · obtain ⟨hmissing, hraised⟩ := runPreflight_error_iff.mp hpre
        obtain ⟨more, hreport⟩ := preflightAndReport_error hpre
        refine .inr (.inr ⟨lines ++ more, e, ?_, config, sessionPort', hconfig, hvalid, hmissing, hraised⟩)
        simp [prepareRun, hconfig, htopology, hreport, Reported.orNotStarted, (Host.privilegeError_ne hraised).2]
      · obtain ⟨more, hreport, hmore⟩ := preflightAndReport_ok hpre
        have hchecked : ∀ e, ¬ MeetsPrivilegeError click sessionPort e := by
          refine not_meetsPrivilegeError hconfig fun _ hmissing => Option.eq_none_iff_forall_ne_some.mpr ?_
          intro e hraised
          rw [runPreflight_error_iff.mpr ⟨hmissing, hraised⟩] at hpre
          cases hpre
        rcases hok : pre.ok
        · rw [hok] at hreport
          refine .inr (.inl ⟨lines ++ more, ?_, (hmore hok).behind lines, ?_, hchecked⟩)
          · simp [prepareRun, hconfig, htopology, hreport, Reported.orNotStarted]
          · simp [onRunClicked, hconfig, hvalid, preflightPasses_of_ok hpre, hok]
        · obtain ⟨request, hrequest⟩ := exists_request hconfig hvalid
          have hready : Ready click := ((runPreflight_ok hpre).1.mp hok).2
          rw [hok] at hreport
          refine .inl ⟨lines ++ (more ++ warnRoleMismatches config click.tree), config, request, ?_, hrequest, ?_,
            hready, hchecked⟩
          · simp [prepareRun, hconfig, htopology, hreport, hrequest, appendLines, Reported.orNotStarted]
          · simp [onRunClicked, hconfig, hvalid, preflightPasses_of_ok hpre, hok, hrequest]
  · obtain ⟨more, hmore, hrefuses⟩ := @orNotStarted_configurationError (DutConfig × RunRequest) lines message
    refine .inr (.inl ⟨more, ?_, hrefuses, by simp [onRunClicked, hconfig, hvalid], ?_⟩)
    · simpa [prepareRun, hconfig, htopology] using hmore
    · exact not_meetsPrivilegeError hconfig fun htrue => absurd (hvalid.symm.trans htrue) (by simp)

/-- Source: `src/gui/main_window.py` `MainWindow._on_run_clicked`. Kind: L -/
lemma clickedRun_outcome (repr : PyStr → PyStr) (click : RunClick) (sessionPort : Option EphemeralPort) :
    ClickOutcome repr click sessionPort (clickedRun repr click sessionPort) := by
  unfold clickedRun
  rcases prepareRun_cases repr click sessionPort with
    ⟨lines, config, request, hprepared, hrequest, hbuilt, hready, hchecked⟩ |
      ⟨lines, hprepared, hrefuses, hunbuilt, hchecked⟩ | ⟨lines, e, hprepared, hraised⟩
  · obtain ⟨more, hannounce, hannounces⟩ := announceRun_spec hrequest
    rw [hprepared]
    simp only [Reported.ok_bind, hannounce, Reported.pure_eq, List.append_nil]
    exact .started (hannounces.behind lines) hbuilt hready hchecked
  · rw [hprepared]
    simp only [Reported.ok_bind, Reported.pure_eq, List.append_nil]
    exact .refused hrefuses hunbuilt hchecked
  · rw [hprepared]
    exact .escaped hraised

end NetstackSuite.Gui
