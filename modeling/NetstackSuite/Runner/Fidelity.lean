import NetstackSuite.Runner.Forwarding

/-!
# The child rebuilds the parent's configuration

`SameTarget` says that two configurations send the same traffic to the same place. Whatever request is
`Forwardable`, the child that reads its command line rebuilds a configuration with the same target
(`child_sameTarget`), unless the selection names a file of arguments. The front ends' requests are shown to
be forwardable in their own modules.
-/

namespace NetstackSuite.Runner

open NetstackSuite.Cli NetstackSuite.Config NetstackSuite.Proxy NetstackSuite.Python

/-- The child's configuration addresses the same device in the same way; the parent's empty MAC
address is none.
Source: none: specification
Kind: D -/
structure SameTarget (parent child : DutConfig) : Prop where
  interface : child.interface = parent.interface
  targetIp : child.targetIp = parent.targetIp
  targetStack : child.targetStack = parent.targetStack
  targetMac : child.targetMac = orNone parent.targetMac
  targetPort : child.targetPort = parent.targetPort
  sourcePort : child.sourcePort = parent.sourcePort
  role : child.role = parent.role
  proxyLeg : child.proxyLeg = parent.proxyLeg
  allowedTargets : child.allowedTargets = parent.allowedTargets

/-- The same fields are missing.
Source: `src/config.py` `DUTConfig.missing_required`
Kind: L -/
lemma SameTarget.missingRequired {parent child : DutConfig} (h : SameTarget parent child)
    (asFlags : Bool) : child.missingRequired asFlags = parent.missingRequired asFlags := by
  unfold DutConfig.missingRequired
  rw [h.targetIp, h.interface, h.targetStack]

/-- The leg that the child reads.
Source: `conftest.py` `selected_proxy_leg`
Kind: L -/
lemma selectedProxyLeg_eq {request : RunRequest} {ns : Namespace} (h : SeenByChild request ns) :
    selectedProxyLeg ns = .ok request.config.proxyLeg := by
  unfold selectedProxyLeg
  rw [h.proxyLeg, orNone_orNone, orNone_proxyLeg]
  rcases request.config.proxyLeg with _ | leg
  · rfl
  · simp only [Option.map_some, ProxyLeg.ofValue_value]
    rfl

/-- The role that the child plays.
Source: `conftest.py` `effective_role`
Kind: L -/
lemma effectiveRole_eq {request : RunRequest} {ns : Namespace} (h : SeenByChild request ns)
    (hresolved : resolveRole request.config.proxyLeg request.config.role = request.config.role) :
    effectiveRole ns = .ok request.config.role := by
  unfold effectiveRole
  simp only [selectedProxyLeg_eq h, h.role, Role.ofValue_value, bind, Except.bind, pure, Except.pure]
  rw [hresolved]

/-- The second retargeting changes nothing.
Source: `src/config.py` `resolve_leg_target`
Kind: L -/
lemma resolveLegTarget_eq {request : RunRequest} (h : Forwardable request) {proxyHost : Option PyStr}
    (hhost : (orNone request.proxyLeg).isSome → proxyHost = orNone request.proxyHost)
    (proxyPort : Option Int) :
    resolveLegTarget request.config.proxyLeg request.config.targetIp request.config.targetPort
      proxyHost proxyPort = (request.config.targetIp, request.config.targetPort) := by
  obtain ⟨port, hport⟩ := h.targetPort
  unfold resolveLegTarget
  by_cases hleg : request.config.proxyLeg = some .front
  · have hset : (orNone request.proxyLeg).isSome := by
      rw [orNone_proxyLeg, hleg]
      rfl
    rw [hhost hset, orElse_orNone, h.resolvedTarget hleg, hport]
    simp [hleg]
  · rw [if_pos hleg]

/-- **The child rebuilds the parent's configuration** from the options it sees.
Source: `conftest.py` `dut_config`
Kind: P -/
theorem rebuildConfig_sameTarget {request : RunRequest} {ns : Namespace} (h : Forwardable request)
    (hseen : SeenByChild request ns) (random : EphemeralPort) :
    ∃ config, rebuildConfig ns random = .ok config ∧ SameTarget request.config config := by
  obtain ⟨interface, hinterface⟩ := h.interface
  obtain ⟨targetIp, htargetIp⟩ := h.targetIp
  obtain ⟨targetStack, -, htargetStack⟩ := h.targetStack
  obtain ⟨port, hport⟩ := h.targetPort
  have htarget := resolveLegTarget_eq h hseen.proxyHost (getInt ns (text "--proxy-port"))
  have hip : getText ns (text "--dut-ip") = request.config.targetIp := by
    rw [hseen.dutIp, htargetIp]
    rfl
  unfold rebuildConfig
  simp only [selectedProxyLeg_eq hseen, effectiveRole_eq hseen h.resolvedRole, hip, hseen.dutPort,
    htarget, bind, Except.bind, pure, Except.pure]
  refine ⟨_, rfl, ?_⟩
  constructor
  · rw [hseen.dutIface, hinterface]
    rfl
  · rfl
  · rw [hseen.targetStack, htargetStack]
    rfl
  · exact hseen.dutMac
  · rw [hport]
    rfl
  · exact hseen.dutSourcePort
  · rfl
  · rfl
  · exact hseen.allowedTargets

/-- Whatever options the child sees, it rebuilds a configuration with the parent's target, and its session
starts exactly if the parent's configuration has no required field missing.
Source: `conftest.py` `dut_config`
Kind: D -/
def RebuildsParent (files : ArgFiles) (pytest : PytestOptions) (install : Install) (request : RunRequest)
    (args : List PyStr) (random : EphemeralPort) : Prop :=
  ∀ ns, childOptions files pytest install args = .ok ns →
    ∃ config, rebuildConfig ns random = .ok config ∧ SameTarget request.config config ∧
      dutConfig ns random = if request.config.missingRequired = [] then .ok config else .error failed

/-- **Parent and child agree on the target.** The command line of a forwardable request can be built. If its
selection names no file of arguments, the child refuses it exactly if the value of `-k` or `-m` looks like
an option, and what it rebuilds otherwise has the parent's target.
Source: `src/runner.py` `build_pytest_args`, `conftest.py` `dut_config`
Kind: P -/
theorem child_sameTarget {request : RunRequest} (h : Forwardable request) (pytest : PytestOptions)
    (install : Install) (runDir : PyStr) (random : EphemeralPort) :
    ∃ args, buildPytestArgs install request runDir = .ok args ∧
      (SelectionGiven pytest request → ∀ files,
        RebuildsParent files pytest install request args random ∧
          (SelectionReadable pytest request → ∃ ns, childOptions files pytest install args = .ok ns) ∧
          (¬ SelectionReadable pytest request →
            ∃ e, childOptions files pytest install args = .error e)) := by
  obtain ⟨args, hargs, hchild⟩ := childOptions_buildPytestArgs h pytest install runDir
  refine ⟨args, hargs, fun hgiven files => ?_⟩
  obtain ⟨hreads, hrefuses⟩ := hchild files
  by_cases hselection : SelectionReadable pytest request
  · have hplain : Plain (selectionArgs request) := hgiven.resolve_left (not_not_intro hselection)
    have hentries := hreads hplain hselection
    refine ⟨?_, fun _ => ⟨_, hentries⟩, fun hnot => absurd hselection hnot⟩
    intro ns hns
    obtain rfl := Except.ok.inj (hentries.symm.trans hns)
    obtain ⟨config, hconfig, hsame⟩ :=
      rebuildConfig_sameTarget h (seenByChild install request { root := runDir }) random
    refine ⟨config, hconfig, hsame, ?_⟩
    unfold dutConfig
    rw [hconfig, ← hsame.missingRequired true]
    simp only [bind, Except.bind, pure, Except.pure, throw, throwThe, MonadExceptOf.throw, ne_eq,
      ite_not]
  · obtain ⟨e, herror⟩ := hrefuses hselection
    refine ⟨?_, fun hread => absurd hread hselection, fun _ => ⟨e, herror⟩⟩
    intro ns hns
    rw [herror] at hns
    cases hns

end NetstackSuite.Runner
