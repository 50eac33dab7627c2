import Mathlib.Data.List.Infix
import NetstackSuite.Config.DutConfig

/-!
# Before a run

`run_preflight` of `src/packet_engine/preflight.py` with the privilege check of `src/utils/permissions.py`: what
stops a run, what is only a warning, and what raises. On a host that is neither Windows nor Linux the privilege
check raises `UnsupportedHostError`; on Linux it lets through what running `getcap` raises, apart from a missing
program and a timeout. Nothing in the preflight catches either (`runPreflight_error_iff`).

The quotation marks that `!r` puts around a string come in as `repr`.
-/

namespace NetstackSuite.PacketEngine

open NetstackSuite.Config NetstackSuite.Python

/-- Source: `src/errors.py` `UnsupportedHostError`. Kind: D -/
def unsupportedHostError : PyExc := .other "UnsupportedHostError"

/-- Source: `src/errors.py` `InsufficientPrivilegesError`. Kind: D -/
def insufficientPrivilegesError : PyExc := .other "InsufficientPrivilegesError"

/-! ## Privileges -/

/-- What comes of running `getcap` on the interpreter.
Source: `src/utils/permissions.py` `_has_linux_capabilities`
Kind: D -/
inductive Getcap where
  | printed (stdout : PyStr)
  | notFound
  | timedOut
  /-- It is there, but cannot be started: a `PermissionError` or another `OSError`. -/
  | notStarted
  /-- What it printed is no text of the locale's encoding. -/
  | undecodable
  deriving DecidableEq, Repr

/-- What the host says of the process: `platform.system()`, the answer of `IsUserAnAdmin` if it gave one, the user
id, what comes of `getcap`, and where the interpreter is.
Source: `src/utils/permissions.py` `is_elevated`
Kind: D -/
structure Host where
  system : PyStr
  isUserAnAdmin : Option Bool := none
  euid : Nat := 0
  getcap : Getcap := .notFound
  interpreter : PyStr := text "/usr/bin/python3"

namespace Host

variable (repr : PyStr → PyStr) (host : Host)

/-- Source: `src/packet_engine/platform_backend.py` `SUPPORTED_HOSTS`. Kind: D -/
def isSupported : Bool := [text "Windows", text "Linux"].contains host.system

/-- Source: `src/packet_engine/platform_backend.py` `unsupported_host_message`. Kind: D -/
def unsupportedHostMessage : PyStr :=
  text "Unsupported host platform: " ++ repr host.system ++ text ". This suite supports running on " ++
    join (text " and ") [text "Windows", text "Linux"] ++ text " hosts."

/-- Only `FileNotFoundError` and `TimeoutExpired` are caught; what cannot be decoded is a `ValueError`.
Source: `src/utils/permissions.py` `_has_linux_capabilities`
Kind: D -/
def hasLinuxCapabilities : Except PyExc Bool :=
  match host.getcap with
  | .printed stdout => .ok (text "cap_net_raw" <:+: stdout ∧ text "cap_net_admin" <:+: stdout)
  | .notFound | .timedOut => .ok false
  | .notStarted => .error osError
  | .undecodable => .error .valueError

/-- Source: `src/utils/permissions.py` `is_elevated`. Kind: D -/
def isElevated : Except PyExc Bool :=
  if host.system = text "Windows" then .ok (host.isUserAnAdmin.getD false)
  else if host.system = text "Linux" then if host.euid = 0 then .ok true else host.hasLinuxCapabilities
  else .error unsupportedHostError

/-- What the privilege check raises, if it does: the host is neither Windows nor Linux, or `getcap` fails in a way
that is not caught, which only a Linux process without root comes to.
Source: `src/utils/permissions.py` `is_elevated`
Kind: D -/
def privilegeError : Option PyExc :=
  if host.isSupported = false then some unsupportedHostError
  else if host.system = text "Linux" ∧ host.euid ≠ 0 then
    match host.getcap with
    | .notStarted => some osError
    | .undecodable => some .valueError
    | _ => none
  else none

/-- Source: `src/utils/permissions.py` `remediation_message`. Kind: D -/
def remediationMessage : PyStr :=
  if host.system = text "Windows" then
    text "Raw Ethernet access requires Administrator privileges, or Npcap " ++
      text "installed with 'Restrict Npcap driver's access to Administrators " ++
      text "only' UNCHECKED during setup. Re-run as Administrator, or " ++
      text "reinstall Npcap with that option disabled."
  else if host.system = text "Linux" then
    text "Raw Ethernet access requires root, or (recommended — running " ++
      text "the GUI as root is discouraged) grant capabilities once to the " ++
      text "interpreter:\n  sudo setcap cap_net_raw,cap_net_admin+eip " ++ host.interpreter
  else host.unsupportedHostMessage repr

/-- Source: `src/utils/permissions.py` `require_elevation`. Kind: D -/
def requireElevation : Except PyExc Unit := do
  if ← host.isElevated then return () else throw insufficientPrivilegesError

end Host

/-! ## The preflight -/

/-- What `srp1` makes of the ARP request: an answer, none in time, an `OSError`, or any other exception.
Source: `src/packet_engine/preflight.py` `run_preflight`
Kind: D -/
inductive Probe where
  | answered (mac : PyStr)
  | silent
  | osError (reason : PyStr)
  | failed (cls reason : PyStr)
  deriving DecidableEq, Repr

/-- Source: `src/packet_engine/preflight.py` `PreflightResult`. Kind: D -/
structure PreflightResult where
  ok : Bool
  errors : List PyStr := []
  warnings : List PyStr := []
  info : List PyStr := []
  dutMac : Option PyStr := none
  deriving DecidableEq

/-- Source: `src/packet_engine/preflight.py` `PreflightResult.render_lines`. Kind: D -/
def PreflightResult.renderLines (pre : PreflightResult) : List PyStr :=
  (pre.info.map fun m => text "[ok]   " ++ m) ++ (pre.warnings.map fun m => text "[warn] " ++ m) ++
    pre.errors.map fun m => text "[FAIL] " ++ m

/-- An unset text prints as `None`.
Source: Python `format`
Kind: D -/
def shown (value : Option PyStr) : PyStr := value.getD (text "None")

/-- The preflight with the default timeout of 1.5 seconds.
Source: `src/packet_engine/preflight.py` `run_preflight`
Kind: D -/
def runPreflight (repr : PyStr → PyStr) (config : DutConfig) (host : Host) (probe : Probe) :
    Except PyExc PreflightResult :=
  let missing := config.missingRequired false
  if missing ≠ [] then
    .ok { ok := false, errors := [text "Missing required configuration: " ++ join (text ", ") missing ++ text "."] }
  else
    match host.requireElevation with
    | .error e =>
        if e = insufficientPrivilegesError then
          .ok {
            ok := false
            errors := [text "Insufficient privileges to open a raw socket.", host.remediationMessage repr] }
        else .error e
    | .ok () =>
        let info := [text "Privileges OK. Interface: " ++ shown config.interface ++ text ", target stack: " ++
          shown config.targetStack ++ text "."]
        match probe with
        | .osError reason =>
            .ok {
              ok := false
              errors := [text "Could not send on interface " ++ repr (shown config.interface) ++ text ": " ++ reason,
                text "Check the interface name and that Npcap (Windows) / capabilities (Linux) are set up."]
              info }
        | .failed cls reason =>
            .ok {
              ok := false
              errors := [text "Preflight probe failed unexpectedly: " ++ cls ++ text ": " ++ reason,
                text "This is not a configuration problem — the details were written to the log."]
              info }
        | .silent =>
            .ok {
              ok := true
              info
              warnings := [text "No ARP reply from " ++ shown config.targetIp ++ text " on " ++
                  shown config.interface ++ text " within 1.5s.",
                text "The DUT may not implement ARP, or may be unreachable at layer 2. " ++
                  text "Proceeding — tests that expect a reply may time out."] }
        | .answered mac =>
            .ok {
              ok := true
              info := info ++ [text "DUT " ++ shown config.targetIp ++ text " responded to ARP (MAC " ++ mac ++
                text "). Layer-2 reachability confirmed."]
              dutMac := some mac }

/-! ## What comes of it -/

/-- The request went out.
Source: `src/packet_engine/preflight.py` `run_preflight`
Kind: D -/
def Probe.isSent : Probe → Bool
  | answered _ | silent => true
  | osError _ | failed _ _ => false

/-- When the privilege check raises, and what.
Source: `src/utils/permissions.py` `is_elevated`
Kind: L -/
lemma Host.isElevated_error_iff {host : Host} {e : PyExc} :
    host.isElevated = .error e ↔ host.privilegeError = some e := by
  unfold isElevated privilegeError isSupported hasLinuxCapabilities
  by_cases hwindows : host.system = text "Windows"
  · have hlinux : text "Windows" ≠ text "Linux" := by decide
    simp [hwindows, hlinux]
  · by_cases hlinux : host.system = text "Linux"
    · by_cases hroot : host.euid = 0
      · simp [hlinux, hroot]
      · rcases host.getcap with stdout | _ | _ | _ | _ <;> simp [hlinux, hroot]
    · simp [hwindows, hlinux]

/-- None of it is what the preflight catches.
Source: `src/packet_engine/preflight.py` `run_preflight`
Kind: L -/
lemma Host.privilegeError_ne {host : Host} {e : PyExc} (h : host.privilegeError = some e) :
    e ≠ insufficientPrivilegesError ∧ e ≠ configurationError := by
  unfold privilegeError at h
  split at h
  · obtain rfl := Option.some.inj h
    decide
  · split at h
    · split at h
      · obtain rfl := Option.some.inj h
        decide
      · obtain rfl := Option.some.inj h
        decide
      · cases h
    · cases h

/-- Source: `src/utils/permissions.py` `require_elevation`. Kind: L -/
lemma Host.requireElevation_cases (host : Host) :
    (host.isElevated = .ok true ∧ host.requireElevation = .ok ()) ∨
      (host.isElevated = .ok false ∧ host.requireElevation = .error insufficientPrivilegesError) ∨
      ∃ e, host.privilegeError = some e ∧ host.requireElevation = .error e := by
  unfold requireElevation
  rcases helevated : host.isElevated with e | _ | _
  · exact Or.inr (Or.inr ⟨e, isElevated_error_iff.mp helevated, rfl⟩)
  · exact Or.inr (Or.inl ⟨rfl, rfl⟩)
  · exact Or.inl ⟨rfl, rfl⟩

variable {repr : PyStr → PyStr} {config : DutConfig} {host : Host} {probe : Probe}

/-- Where the privilege check can be made, the preflight returns.
Source: `src/packet_engine/preflight.py` `run_preflight`
Kind: L -/
lemma runPreflight_error_iff {e : PyExc} :
    runPreflight repr config host probe = .error e ↔
      config.missingRequired false = [] ∧ host.privilegeError = some e := by
  unfold runPreflight
  by_cases hmissing : config.missingRequired false = []
  · have hnone {elevated : Bool} (h : host.isElevated = .ok elevated) : host.privilegeError ≠ some e :=
      fun herror => absurd (h.symm.trans (Host.isElevated_error_iff.mpr herror)) (by simp)
    rcases host.requireElevation_cases with ⟨helevated, h⟩ | ⟨helevated, h⟩ | ⟨raised, hraised, h⟩
    · cases probe <;> simp [hmissing, h, hnone helevated]
    · simp [hmissing, h, hnone helevated]
    · simp [hmissing, h, hraised, (Host.privilegeError_ne hraised).1]
  · simp [hmissing]

/-- **A preflight that returns lets the run proceed exactly if nothing is missing, the process is privileged and
the request went out**; and exactly then it names no error.
Source: `src/packet_engine/preflight.py` `run_preflight`
Kind: P -/
theorem runPreflight_ok {pre : PreflightResult} (h : runPreflight repr config host probe = .ok pre) :
    (pre.ok = true ↔ config.missingRequired false = [] ∧ host.isElevated = .ok true ∧ probe.isSent = true) ∧
      (pre.ok = true ↔ pre.errors = []) := by
  unfold runPreflight at h
  by_cases hmissing : config.missingRequired false = []
  · rcases host.requireElevation_cases with ⟨helevated, hcheck⟩ | ⟨helevated, hcheck⟩ | ⟨e, hraised, hcheck⟩
    · simp only [hmissing, ne_eq, not_true_eq_false, if_false, hcheck] at h
      cases probe with
      | answered mac =>
          obtain rfl := Except.ok.inj h
          simp [hmissing, helevated, Probe.isSent]
      | silent =>
          obtain rfl := Except.ok.inj h
          simp [hmissing, helevated, Probe.isSent]
      | osError reason =>
          obtain rfl := Except.ok.inj h
          simp [Probe.isSent]
      | failed cls reason =>
          obtain rfl := Except.ok.inj h
          simp [Probe.isSent]
    · simp only [hmissing, ne_eq, not_true_eq_false, if_false, hcheck, if_true] at h
      obtain rfl := Except.ok.inj h
      simp [helevated]
    · simp [hmissing, hcheck, (Host.privilegeError_ne hraised).1] at h
  · simp only [ne_eq, hmissing, not_false_eq_true, if_true] at h
    obtain rfl := Except.ok.inj h
    simp [hmissing]

end NetstackSuite.PacketEngine
