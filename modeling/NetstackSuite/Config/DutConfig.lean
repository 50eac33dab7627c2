import NetstackSuite.Lib.First
import NetstackSuite.Python.Float
import NetstackSuite.Python.IpAddress

/-!
# The run configuration

`src/config.py`: where a run sends its traffic, how a proxy leg changes that, and how far the
operator has authorized it; and the gate of `src/utils/safety.py` that `vuln`-marked tests pass.

The two results are that resolving a leg twice is resolving it once (`resolveLegTarget_idem`,
`resolveRole_idem`), which is what lets two processes apply the same rule one after the other, and
what the gate lets through (`enforceVulnTestAuthorization_iff`).
-/

namespace NetstackSuite.Config

open NetstackSuite.Lib NetstackSuite.Python

/-! ## Deliberate failures -/

/-- Source: `src/errors.py` `ConfigurationError`. Kind: D -/
def configurationError : PyExc := .other "ConfigurationError"

/-- Source: `src/errors.py` `UnauthorizedTargetError`. Kind: D -/
def unauthorizedTargetError : PyExc := .other "UnauthorizedTargetError"

/-! ## Ports -/

/-- The IANA dynamic range, inclusive.
Source: `src/config.py` `EPHEMERAL_PORT_RANGE`
Kind: D -/
def EPHEMERAL_PORT_RANGE : Int × Int := (49152, 65535)

/-- A port of the dynamic range.
Source: `src/config.py` `random_ephemeral_port`
Kind: D -/
structure EphemeralPort where
  port : Int
  low : EPHEMERAL_PORT_RANGE.1 ≤ port
  high : port ≤ EPHEMERAL_PORT_RANGE.2

/-! ## Roles and proxy legs -/

/-- Which side of a conversation the suite plays.
Source: `src/config.py` `Role`
Kind: D -/
inductive Role where
  | client
  | server
  deriving DecidableEq, Repr

/-- Source: `src/config.py` `Role`. Kind: D -/
def Role.value : Role → PyStr
  | .client => text "client"
  | .server => text "server"

/-- `Role(value)`.
Source: `src/config.py` `Role`
Kind: D -/
def Role.ofValue (value : PyStr) : Except PyExc Role :=
  if value = Role.client.value then .ok .client
  else if value = Role.server.value then .ok .server
  else .error .valueError

@[simp] lemma Role.ofValue_value (role : Role) : Role.ofValue role.value = .ok role := by
  cases role <;> decide +kernel

/-- Which leg of a proxy under test the endpoint suites point at.
Source: `src/config.py` `ProxyLeg`
Kind: D -/
inductive ProxyLeg where
  | front
  | back
  deriving DecidableEq, Repr

/-- Source: `src/config.py` `ProxyLeg`. Kind: D -/
def ProxyLeg.value : ProxyLeg → PyStr
  | .front => text "front"
  | .back => text "back"

/-- `ProxyLeg(value)`.
Source: `src/config.py` `ProxyLeg`
Kind: D -/
def ProxyLeg.ofValue (value : PyStr) : Except PyExc ProxyLeg :=
  if value = ProxyLeg.front.value then .ok .front
  else if value = ProxyLeg.back.value then .ok .back
  else .error .valueError

@[simp] lemma ProxyLeg.ofValue_value (leg : ProxyLeg) : ProxyLeg.ofValue leg.value = .ok leg := by
  cases leg <;> decide +kernel

/-- Source: `src/config.py` `ProxyLeg.implied_role`. Kind: D -/
def ProxyLeg.impliedRole : ProxyLeg → Role
  | .front => .client
  | .back => .server

/-- `value or None`: an empty text is an unset one.
Source: Python `or`
Kind: D -/
def orNone (value : Option PyStr) : Option PyStr :=
  match value with
  | some (c :: cs) => some (c :: cs)
  | _ => none

lemma eq_of_orNone {value : Option PyStr} {s : PyStr} (h : orNone value = some s) :
    value = some s := by
  rcases value with _ | _ | ⟨c, cs⟩
  · exact h
  · cases h
  · exact h

/-- `value or other`.
Source: Python `or`
Kind: D -/
def orElse (value other : Option PyStr) : Option PyStr :=
  match orNone value with
  | some s => some s
  | none => other

/-- The role the run plays: a leg determines it.
Source: `src/config.py` `resolve_role`
Kind: D -/
def resolveRole (leg : Option ProxyLeg) (configured : Role) : Role :=
  match leg with
  | some leg => leg.impliedRole
  | none => configured

/-- Where a leg-targeted run sends traffic: a front leg retargets to the proxy's front address and,
unless a port was given, to the front port.
Source: `src/config.py` `resolve_leg_target`
Kind: D -/
def resolveLegTarget (leg : Option ProxyLeg) (targetIp : Option PyStr) (targetPort : Option Int)
    (proxyHost : Option PyStr) (proxyPort : Option Int) : Option PyStr × Option Int :=
  if leg ≠ some .front then (targetIp, targetPort)
  else
    (orElse proxyHost targetIp,
      match targetPort with
      | some port => some port
      | none => proxyPort)

/-- Why a back-leg run cannot start, or nothing when it can.
Source: `src/config.py` `back_leg_requirement_error`
Kind: D -/
def backLegRequirementError (leg : Option ProxyLeg) (proxyMode backendHost : Option PyStr)
    (modeLabel : PyStr := text "--proxy-mode") (hostLabel : PyStr := text "--backend-host") :
    Option PyStr :=
  if leg ≠ some .back ∨ ((orNone proxyMode).isSome ∧ (orNone backendHost).isSome) then none
  else some (text "A back proxy leg needs " ++ modeLabel ++ text " and " ++ hostLabel ++
    text ": a proxy's back leg is idle unless traffic is driven through its front, so the run " ++
    text "has to induce it. See docs/proxy_testing.md.")

/-- **Resolving the role again changes nothing.**
Source: `src/config.py` `resolve_role`
Kind: P -/
theorem resolveRole_idem (leg : Option ProxyLeg) (configured : Role) :
    resolveRole leg (resolveRole leg configured) = resolveRole leg configured := by
  rcases leg with _ | leg <;> rfl

/-- `value or (value or other)` is `value or other`.
Source: Python `or`
Kind: L -/
lemma orElse_orElse (value other : Option PyStr) :
    orElse value (orElse value other) = orElse value other := by
  unfold orElse
  rcases orNone value with _ | s <;> rfl

/-- Unset and empty are the same to `or`.
Source: Python `or`
Kind: L -/
lemma orNone_orNone (value : Option PyStr) : orNone (orNone value) = orNone value := by
  rcases value with _ | _ | ⟨c, cs⟩ <;> rfl

lemma orElse_orNone (value other : Option PyStr) : orElse (orNone value) other = orElse value other := by
  unfold orElse
  rw [orNone_orNone]

/-- **Resolving the target again changes nothing**, once the port is settled; an unset front host may
meanwhile have become an absent one.
Source: `src/config.py` `resolve_leg_target`
Kind: P -/
theorem resolveLegTarget_idem (leg : Option ProxyLeg) (targetIp : Option PyStr)
    (targetPort : Option Int) (proxyHost : Option PyStr) (proxyPort proxyPort' : Option Int)
    (port : Int) :
    resolveLegTarget leg (resolveLegTarget leg targetIp targetPort proxyHost proxyPort).1 (some port)
        (orNone proxyHost) proxyPort' =
      ((resolveLegTarget leg targetIp targetPort proxyHost proxyPort).1, some port) := by
  unfold resolveLegTarget
  by_cases hleg : leg = some .front
  · simp only [hleg, ne_eq, not_true_eq_false, if_false]
    rw [orElse_orNone, orElse_orElse]
  · simp only [ne_eq, hleg, not_false_eq_true, if_true]

/-- The address a run sends its packets to does not depend on the ports.
Source: `src/config.py` `resolve_leg_target`
Kind: D -/
def resolvedIp (leg : Option ProxyLeg) (targetIp proxyHost : Option PyStr) : Option PyStr :=
  if leg = some .front then orElse proxyHost targetIp else targetIp

lemma resolveLegTarget_fst (leg : Option ProxyLeg) (targetIp : Option PyStr) (targetPort : Option Int)
    (proxyHost : Option PyStr) (proxyPort : Option Int) :
    (resolveLegTarget leg targetIp targetPort proxyHost proxyPort).1 =
      resolvedIp leg targetIp proxyHost := by
  unfold resolveLegTarget resolvedIp
  by_cases hleg : leg = some .front
  · rw [if_neg (not_not.mpr hleg), if_pos hleg]
  · rw [if_pos hleg, if_neg hleg]

/-- A resolved address is there, and resolving it again changes nothing.
Source: `src/config.py` `resolve_leg_target`
Kind: L -/
lemma resolvedIp_spec (leg : Option ProxyLeg) (targetIp : PyStr) (proxyHost : Option PyStr) :
    (∃ ip, resolvedIp leg (some targetIp) proxyHost = some ip) ∧
      (leg = some .front → orElse proxyHost (resolvedIp leg (some targetIp) proxyHost) =
        resolvedIp leg (some targetIp) proxyHost) := by
  unfold resolvedIp
  by_cases hleg : leg = some .front
  · simp only [if_pos hleg]
    refine ⟨?_, fun _ => orElse_orElse proxyHost (some targetIp)⟩
    unfold orElse
    rcases orNone proxyHost with _ | host
    · exact ⟨targetIp, rfl⟩
    · exact ⟨host, rfl⟩
  · simp only [if_neg hleg]
    exact ⟨⟨targetIp, rfl⟩, fun hfront => absurd hfront hleg⟩

/-- A resolved port is the one given or the front's.
Source: `src/config.py` `resolve_leg_target`
Kind: L -/
lemma resolveLegTarget_snd (leg : Option ProxyLeg) (targetIp : Option PyStr) (targetPort : Option Int)
    (proxyHost : Option PyStr) (proxyPort : Option Int) :
    (resolveLegTarget leg targetIp targetPort proxyHost proxyPort).2 = targetPort ∨
      (resolveLegTarget leg targetIp targetPort proxyHost proxyPort).2 = proxyPort := by
  unfold resolveLegTarget
  by_cases hleg : leg = some .front
  · rw [if_neg (not_not.mpr hleg)]
    rcases targetPort with _ | port
    · exact Or.inr rfl
    · exact Or.inl rfl
  · rw [if_pos hleg]
    exact Or.inl rfl

/-! ## The configuration record -/

/-- Everything required to address the device under test. The first three fields are required: a run
with one of them unset or empty does not start (`missingRequired`).
Source: `src/config.py` `DUTConfig`
Kind: D -/
structure DutConfig where
  interface : Option PyStr
  targetIp : Option PyStr
  targetStack : Option PyStr
  targetMac : Option PyStr := none
  targetPort : Option Int := none
  sourcePort : Option Int := none
  timeout : PyFloat := .ofDecimal false 2 0
  role : Role := .client
  proxyLeg : Option ProxyLeg := none
  /-- The CIDR ranges the run may send attack traffic to. -/
  allowedTargets : List PyStr := []
  deriving DecidableEq

namespace DutConfig

variable (config : DutConfig)

/-- The required fields that are unset, by the flag that sets them or by their label.
Source: `src/config.py` `DUTConfig.missing_required`, `REQUIRED_FIELDS`
Kind: D -/
def missingRequired (asFlags : Bool := true) : List PyStr :=
  [(config.targetIp, text "--dut-ip", text "Target IP"),
    (config.interface, text "--dut-iface", text "Interface"),
    (config.targetStack, text "--target-stack", text "Target stack")].filterMap
    fun (value, flag, label) =>
      if (orNone value).isNone then some (if asFlags then flag else label) else none

/-- Whether an address lies in an allow-list entry; an entry that is no CIDR range raises.
Source: `src/config.py` `DUTConfig.target_in_allowed_range`
Kind: D -/
def inCidr (addr : IpAddress) (cidr : PyStr) : Except PyExc Bool :=
  match ipNetwork cidr with
  | .ok network => .ok (network.contains addr)
  | .error _ => .error configurationError

/-- Whether the target lies in an authorized range. A target or a range that does not parse raises;
the entries after the first match are not looked at.
Source: `src/config.py` `DUTConfig.target_in_allowed_range`
Kind: D -/
def targetInAllowedRange : Except PyExc Bool :=
  if config.allowedTargets = [] then .ok false
  else
    match config.targetIp.map ipAddress with
    | some (.ok addr) => config.allowedTargets.anyM (inCidr addr)
    | _ => .error configurationError

end DutConfig

/-! ## The vuln-test gate -/

/-- Raises unless the target is authorized and the run was confirmed.
Source: `src/utils/safety.py` `enforce_vuln_test_authorization`
Kind: D -/
def enforceVulnTestAuthorization (config : DutConfig) (confirmed : Bool) : Except PyExc Unit := do
  if ¬ (← config.targetInAllowedRange) then throw unauthorizedTargetError
  if ¬ confirmed then throw unauthorizedTargetError

/-- The two versions of an address in a block: the same number of bits, and the block's prefix.
Source: none: specification
Kind: D -/
def SharesPrefix : IpAddress → IpNetwork → Prop
  | .v4 ip, .v4 network => ∀ i < network.prefixlen, ip.getMsbD i = network.address.getMsbD i
  | .v6 ip _, .v6 network => ∀ i < network.prefixlen, ip.getMsbD i = network.address.getMsbD i
  | _, _ => False

/-- The address is authorized by the allow-list: it lies in one of its ranges, and no entry before
that one is malformed.
Source: none: specification
Kind: D -/
def Authorized (targetIp : Option PyStr) (allowedTargets : List PyStr) : Prop :=
  ∃ ip addr before cidr after network, targetIp = some ip ∧ ipAddress ip = .ok addr ∧
    allowedTargets = before ++ cidr :: after ∧ (∀ c ∈ before, ∃ n, ipNetwork c = .ok n) ∧
    ipNetwork cidr = .ok network ∧ SharesPrefix addr network

/-- What `addr in network` decides.
Source: Python `ipaddress` `_BaseNetwork.__contains__`
Kind: L -/
lemma contains_iff_sharesPrefix (addr : IpAddress) (network : IpNetwork) :
    network.contains addr = true ↔ SharesPrefix addr network := by
  cases addr <;> cases network <;>
    simp only [IpNetwork.contains, SharesPrefix, AddressBlock.contains_iff, Bool.false_eq_true]

/-- A range of the allow-list holds the address.
Source: `src/config.py` `DUTConfig.target_in_allowed_range`
Kind: L -/
lemma inCidr_eq_true_iff (addr : IpAddress) (cidr : PyStr) :
    DutConfig.inCidr addr cidr = .ok true ↔
      ∃ network, ipNetwork cidr = .ok network ∧ SharesPrefix addr network := by
  unfold DutConfig.inCidr
  rcases ipNetwork cidr with e | network
  · simp
  · simp [contains_iff_sharesPrefix]

/-- A range of the allow-list is well formed and does not hold the address.
Source: `src/config.py` `DUTConfig.target_in_allowed_range`
Kind: L -/
lemma inCidr_eq_false_iff (addr : IpAddress) (cidr : PyStr) :
    DutConfig.inCidr addr cidr = .ok false ↔
      ∃ network, ipNetwork cidr = .ok network ∧ ¬ SharesPrefix addr network := by
  unfold DutConfig.inCidr
  rcases ipNetwork cidr with e | network
  · simp
  · simp [← contains_iff_sharesPrefix]

/-- A search through the allow-list ends with a match exactly if a range holds the address and no
entry before it is malformed.
Source: `src/config.py` `DUTConfig.target_in_allowed_range`
Kind: L -/
lemma anyM_inCidr_iff (addr : IpAddress) (cidrs : List PyStr) :
    cidrs.anyM (DutConfig.inCidr addr) = .ok true ↔
      ∃ before cidr after network, cidrs = before ++ cidr :: after ∧
        (∀ c ∈ before, ∃ n, ipNetwork c = .ok n) ∧ ipNetwork cidr = .ok network ∧
        SharesPrefix addr network := by
  constructor
  · intro h
    obtain ⟨before, cidr, after, hcidrs, hbefore, hcidr⟩ := (anyM_eq_iff _ _ (by simp)).mp h
    obtain ⟨network, hnetwork, hshares⟩ := (inCidr_eq_true_iff addr cidr).mp hcidr
    refine ⟨before, cidr, after, network, hcidrs, ?_, hnetwork, hshares⟩
    intro c hc
    obtain ⟨n, hn, -⟩ := (inCidr_eq_false_iff addr c).mp (hbefore c hc)
    exact ⟨n, hn⟩
  · rintro ⟨before, cidr, after, network, rfl, hbefore, hnetwork, hshares⟩
    -- an entry before the given one may hold the address too: then the search ends there
    induction before with
    | nil =>
        rw [List.nil_append, anyM_cons, (inCidr_eq_true_iff addr cidr).mpr ⟨network, hnetwork, hshares⟩]
    | cons c before ih =>
        obtain ⟨n, hn⟩ := hbefore c (by simp)
        have hrest := ih fun d hd => hbefore d (List.mem_cons_of_mem _ hd)
        rw [List.cons_append, anyM_cons]
        by_cases hc : SharesPrefix addr n
        · rw [(inCidr_eq_true_iff addr c).mpr ⟨n, hn, hc⟩]
        · rw [(inCidr_eq_false_iff addr c).mpr ⟨n, hn, hc⟩]
          exact hrest

/-- The target is in an allowed range exactly if it is authorized.
Source: `src/config.py` `DUTConfig.target_in_allowed_range`
Kind: L -/
lemma targetInAllowedRange_iff (config : DutConfig) :
    config.targetInAllowedRange = .ok true ↔ Authorized config.targetIp config.allowedTargets := by
  unfold DutConfig.targetInAllowedRange Authorized
  rcases hip : config.targetIp with _ | ip
  · split <;> simp
  · rcases haddr : ipAddress ip with e | addr
    · split <;> simp [haddr]
    · split
      · next hnil => simp [hnil]
      · simp only [Option.map_some, haddr, anyM_inCidr_iff, Option.some.injEq,
          Except.ok.injEq, ↓existsAndEq, true_and]

/-- **What the gate lets through**: a confirmed run whose target is authorized, and nothing else.
Source: `src/utils/safety.py` `enforce_vuln_test_authorization`
Kind: P -/
theorem enforceVulnTestAuthorization_iff (config : DutConfig) (confirmed : Bool) :
    enforceVulnTestAuthorization config confirmed = .ok () ↔
      confirmed = true ∧ Authorized config.targetIp config.allowedTargets := by
  rw [← targetInAllowedRange_iff]
  unfold enforceVulnTestAuthorization
  rcases config.targetInAllowedRange with e | (_ | _) <;> rcases confirmed with _ | _ <;>
    simp [bind, Except.bind, pure, Except.pure, throw, throwThe, MonadExceptOf.throw]

end NetstackSuite.Config
