import NetstackSuite.Config.DutConfig
import NetstackSuite.Gui.TestTargets

/-!
# The warning about roles

Which tests apply to a role and a topology is decided twice: by the window, over the catalog's roles, when it
warns of checked tests that will be skipped; and by `src/collection_policy.py` in the child, over the tests'
markers. The policy never asks for the role of a `proxy` or an `internal` test, the window always does.
`announced_iff` says when the two agree.
-/

namespace NetstackSuite.Gui

open NetstackSuite.Config NetstackSuite.Lib NetstackSuite.Python NetstackSuite.Reporting

/-! ## The collection policy -/

/-- Source: `src/collection_policy.py` `PROXY_SKIP_REASON`. Kind: D -/
def PROXY_SKIP_REASON : PyStr :=
  text "proxy: needs --proxy-mode and a backend instance " ++
    text "(`netstack-cli proxy-serve`); see docs/proxy_testing.md"

/-- The roles a test declares, sorted; one that declares none is for clients. `marks` are the names for which
`get_closest_marker` finds something.
Source: `src/collection_policy.py` `applicable_roles`
Kind: D -/
def applicableRoles (marks : PyStr → Bool) : List PyStr :=
  match [Role.client.value, Role.server.value].filter marks with
  | [] => [Role.client.value]
  | declared => declared

/-- `f"{names}"`, of a list of plain names.
Source: Python `list.__repr__`
Kind: D -/
def listRepr (names : List PyStr) : PyStr :=
  text "[" ++ join (text ", ") (names.map fun name => text "'" ++ name ++ text "'") ++ text "]"

/-- The reason given to a test of the other role.
Source: `src/collection_policy.py` `skip_reason`
Kind: D -/
def roleSkipReason (applicable : List PyStr) (role : PyStr) : PyStr :=
  text "role: applies to " ++ listRepr applicable ++ text ", running as " ++ role

/-- The one reason to skip a test, or none.
Source: `src/collection_policy.py` `skip_reason`
Kind: D -/
def skipReason (marks : PyStr → Bool) (role : PyStr) (proxyMode : Option PyStr) : Option PyStr :=
  if marks (text "internal") then none
  else if marks (text "proxy") then
    match orNone proxyMode with
    | some _ => none
    | none => some PROXY_SKIP_REASON
  else
    let applicable := applicableRoles marks
    if role ∈ applicable then none else some (roleSkipReason applicable role)

/-- The test is skipped because of its role.
Source: none: specification
Kind: D -/
def skippedForRole (marks : PyStr → Bool) (role : PyStr) (proxyMode : Option PyStr) : Bool :=
  skipReason marks role proxyMode = some (roleSkipReason (applicableRoles marks) role)

/-! ## The window -/

/-- An item, with what `spec_of` finds on it.
Source: `src/gui/test_tree_widget.py` `TestTreeWidget.spec_of`
Kind: D -/
structure SpecItem extends Item where
  spec : Option MarkedSpec

mutual

/-- The specs of the checked items at and under an item.
Source: `src/gui/test_tree_widget.py` `TestTreeWidget.checked_specs`, `walk`
Kind: D -/
def walkSpecs : Rose SpecItem → List MarkedSpec
  | .node item children =>
      (if item.checkState = .checked then item.spec.toList else []) ++ walkSpecsChildren children

/-- The specs of the checked items under the children of an item.
Source: `src/gui/test_tree_widget.py` `TestTreeWidget.checked_specs`, `walk`
Kind: D -/
def walkSpecsChildren : List (Rose SpecItem) → List MarkedSpec
  | [] => []
  | item :: rest => walkSpecs item ++ walkSpecsChildren rest

end

/-- Source: `src/gui/test_tree_widget.py` `TestTreeWidget.checked_specs`. Kind: D -/
def checkedSpecs (tree : List (Rose SpecItem)) : List MarkedSpec := walkSpecsChildren tree

/-- The specs that the window warns of.
Source: `src/gui/main_window.py` `MainWindow._warn_role_mismatches`
Kind: D -/
def announced (config : DutConfig) (tree : List (Rose SpecItem)) : List MarkedSpec :=
  (checkedSpecs tree).filter fun spec => config.role ∉ spec.roles

/-- The lines appended to the log.
Source: `src/gui/main_window.py` `MainWindow._warn_role_mismatches`
Kind: D -/
def warnRoleMismatches (config : DutConfig) (tree : List (Rose SpecItem)) : List PyStr :=
  (announced config tree).map fun spec =>
    text "Note: '" ++ spec.test ++ text "' applies to role(s) [" ++ spec.roleLabels ++ text "] but the Role is " ++
      text "'" ++ config.role.value ++ text "' — it will be SKIPPED. Change the Role selector to run it."

/-! ## Agreement -/

/-- The spec carries the roles and the markers of a test.
Source: none: specification
Kind: D -/
structure Describes (spec : MarkedSpec) (marks : PyStr → Bool) : Prop where
  roles : ∀ role, role ∈ spec.roles ↔ role.value ∈ applicableRoles marks
  markers : ∀ name, name ≠ Role.client.value → name ≠ Role.server.value →
    (name ∈ spec.markers ↔ marks name = true)

/-- The policy asks for no role.
Source: `src/collection_policy.py` `skip_reason`
Kind: D -/
def NotRoleFiltered (spec : MarkedSpec) : Prop :=
  text "internal" ∈ spec.markers ∨ text "proxy" ∈ spec.markers

/-- The two reasons to skip a test begin differently.
Source: `src/collection_policy.py` `PROXY_SKIP_REASON`, `skip_reason`
Kind: L -/
lemma proxySkipReason_ne (applicable : List PyStr) (role : PyStr) :
    PROXY_SKIP_REASON ≠ roleSkipReason applicable role := by
  intro h
  have hproxy : PROXY_SKIP_REASON.head? = some 0x70 := by decide +kernel
  have hrole : (text "role: applies to ").head? = some 0x72 := by decide +kernel
  rw [h, roleSkipReason, List.append_assoc, List.append_assoc, List.head?_append, hrole,
    Option.some_or] at hproxy
  exact absurd hproxy (by decide)

/-- Which tests the policy skips because of their role.
Source: `src/collection_policy.py` `skip_reason`
Kind: L -/
lemma skippedForRole_iff (marks : PyStr → Bool) (role : PyStr) (proxyMode : Option PyStr) :
    skippedForRole marks role proxyMode = true ↔
      marks (text "internal") = false ∧ marks (text "proxy") = false ∧ role ∉ applicableRoles marks := by
  unfold skippedForRole skipReason
  rcases hinternal : marks (text "internal") with _ | _
  · rcases hproxy : marks (text "proxy") with _ | _
    · simp
    · rcases orNone proxyMode with _ | mode
      · simp [proxySkipReason_ne]
      · simp
  · simp

/-- The policy skips a described test because of its role exactly if it filters it by role, and the spec lacks
the role.
Source: `src/collection_policy.py` `skip_reason`
Kind: L -/
lemma Describes.skippedForRole_iff {spec : MarkedSpec} {marks : PyStr → Bool} (h : Describes spec marks)
    (role : Role) (proxyMode : Option PyStr) :
    skippedForRole marks role.value proxyMode = true ↔ ¬ NotRoleFiltered spec ∧ role ∉ spec.roles := by
  have hinternal := h.markers (text "internal") (by decide +kernel) (by decide +kernel)
  have hproxy := h.markers (text "proxy") (by decide +kernel) (by decide +kernel)
  rw [Gui.skippedForRole_iff, NotRoleFiltered, hinternal, hproxy, h.roles]
  simp [and_assoc]

/-- Two filters keep the same of a list exactly if they agree on its elements.
Source: none: infrastructure
Kind: L -/
lemma filter_eq_filter_iff {α : Type} {p q : α → Bool} {l : List α} :
    l.filter p = l.filter q ↔ ∀ a ∈ l, p a = true ↔ q a = true := by
  constructor
  · intro h a ha
    have hmem : a ∈ l.filter p ↔ a ∈ l.filter q := by rw [h]
    simpa [List.mem_filter, ha] using hmem
  · intro h
    apply List.filter_congr
    intro a ha
    exact Bool.eq_iff_iff.mpr (h a ha)

/-- **When the warning predicts the skips**: every checked test that the policy does not filter by role has the
run's role.
Source: `src/gui/main_window.py` `MainWindow._warn_role_mismatches`; `src/collection_policy.py` `skip_reason`
Kind: P -/
theorem announced_iff (config : DutConfig) (proxyMode : Option PyStr) (tree : List (Rose SpecItem))
    (marks : MarkedSpec → PyStr → Bool) (hdescribes : ∀ spec ∈ checkedSpecs tree, Describes spec (marks spec)) :
    announced config tree =
        (checkedSpecs tree).filter (fun spec => skippedForRole (marks spec) config.role.value proxyMode) ↔
      ∀ spec ∈ checkedSpecs tree, NotRoleFiltered spec → config.role ∈ spec.roles := by
  unfold announced
  rw [filter_eq_filter_iff]
  apply forall₂_congr
  intro spec hspec
  rw [(hdescribes spec hspec).skippedForRole_iff, decide_eq_true_eq]
  constructor
  · intro hsame hfree
    by_contra hrole
    exact (hsame.mp hrole).1 hfree
  · intro hfree
    constructor
    · intro hrole
      exact ⟨fun h => hrole (hfree h), hrole⟩
    · exact And.right

/-- A test of the proxy suite, for clients like all of them.
Source: `src/catalog.py` `CATALOG`
Kind: D -/
def relaySpec : MarkedSpec where
  module := text "proxy"
  submodule := none
  file := text "test_proxy_relay"
  test := text "test_proxy_relays_payload_round_trip"
  title := text "Relay round-trip (both DUT legs)"
  description := text "Sends a unique payload through the proxy to the backend instance."
  rfc := text "RFC 9293 §3.5, §3.7"
  markers := [text "proxy"]

/-- The tree with this test checked.
Source: none: example
Kind: D -/
def relayTree : List (Rose SpecItem) :=
  [.node { target := relaySpec.nodeid, checkState := .checked, spec := some relaySpec } []]

/-- Its one marker.
Source: `tests/proxy/test_proxy_relay.py` `pytestmark`
Kind: D -/
def relayMarks (name : PyStr) : Bool := name = text "proxy"

/-- Source: none: example. Kind: L -/
lemma describes_relayTree : ∀ spec ∈ checkedSpecs relayTree, Describes spec relayMarks := by
  intro spec hspec
  obtain rfl : spec = relaySpec := List.mem_singleton.mp hspec
  constructor
  · intro role
    cases role <;> decide +kernel
  · intro name _ _
    simp [relaySpec, relayMarks]

/-- A run against port 80 of a device behind a proxy.
Source: none: example
Kind: D -/
def relayConfig (role : Role) : DutConfig where
  interface := some (text "eth0")
  targetIp := some (text "10.0.0.5")
  targetStack := some (text "linux")
  role := role

/-- In client role nothing is announced, and nothing is skipped.
Source: `src/gui/main_window.py` `MainWindow._warn_role_mismatches`
Kind: P -/
theorem relay_not_announced :
    announced (relayConfig .client) relayTree =
      (checkedSpecs relayTree).filter fun _ =>
        skippedForRole relayMarks (relayConfig .client).role.value (some (text "socks5")) := by
  apply (announced_iff _ _ relayTree (fun _ => relayMarks) describes_relayTree).mpr
  intro spec hspec _
  obtain rfl : spec = relaySpec := List.mem_singleton.mp hspec
  decide +kernel

/-- **In server role the window announces that a proxy test will be skipped, and it runs.**
Source: `src/gui/main_window.py` `MainWindow._warn_role_mismatches`
Kind: P -/
theorem relay_announced_not_skipped :
    ¬ ∀ (config : DutConfig) (proxyMode : Option PyStr) (tree : List (Rose SpecItem))
        (marks : MarkedSpec → PyStr → Bool), (∀ spec ∈ checkedSpecs tree, Describes spec (marks spec)) →
      announced config tree =
        (checkedSpecs tree).filter fun spec => skippedForRole (marks spec) config.role.value proxyMode := by
  intro hall
  have hsame := hall (relayConfig .server) (some (text "socks5")) relayTree (fun _ => relayMarks) describes_relayTree
  have hannounced : announced (relayConfig .server) relayTree = [relaySpec] := by decide +kernel
  have hruns : skippedForRole relayMarks Role.server.value (some (text "socks5")) = false := by decide +kernel
  rw [hannounced, show (relayConfig .server).role = Role.server from rfl] at hsame
  simp only [hruns, List.filter_false] at hsame
  cases hsame

end NetstackSuite.Gui
