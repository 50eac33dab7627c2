import NetstackSuite.Config.DutConfig
import NetstackSuite.PacketEngine.Responder
import NetstackSuite.Python.JsonDumps

/-!
# The host's own resets

On Windows the host's TCP/IP stack sees the device's replies too, and resets connections it knows nothing of.
`HostRstGuard` keeps from it the segments to the dynamic port range. The ports the suite speaks from are handed
out by the fixtures of `tests/conftest.py`, or they are the operator's: a pinned source port in client role, the
target port in server role. `ports_covered_iff` says when all ports of a run are in the guard's range.
-/

namespace NetstackSuite.PacketEngine

open NetstackSuite.Config NetstackSuite.Python NetstackSuite.Utils

/-! ## The guard -/

/-- A test of the guard's filter.
Source: WinDivert filter language
Kind: D -/
inductive FilterTest where
  | tcp
  | dstAddr (ip : PyStr)
  | dstPortFrom (low : Nat)
  | dstPortTo (high : Nat)
  deriving DecidableEq, Repr

namespace FilterTest

/-- Source: WinDivert filter language. Kind: D -/
def expression : FilterTest → PyStr
  | tcp => text "tcp"
  | dstAddr ip => text "ip.DstAddr == " ++ ip
  | dstPortFrom low => text "tcp.DstPort >= " ++ decimal low
  | dstPortTo high => text "tcp.DstPort <= " ++ decimal high

/-- Source: WinDivert filter language. Kind: D -/
def passes (segment : Packet) : FilterTest → Bool
  | tcp => segment.tcp?.isSome
  | dstAddr ip => segment.ip?.any fun header => header.dst == ip
  | dstPortFrom low => segment.tcp?.any fun header => low ≤ header.dport.toNat
  | dstPortTo high => segment.tcp?.any fun header => header.dport.toNat ≤ high

end FilterTest

/-- The guard, by the tests of its filter.
Source: `src/packet_engine/rst_guard.py` `HostRstGuard`
Kind: D -/
structure HostRstGuard where
  tests : List FilterTest

namespace HostRstGuard

/-- Source: `src/packet_engine/rst_guard.py` `HostRstGuard.__init__`. Kind: D -/
def new (localIp : PyStr) : HostRstGuard where
  tests := [.tcp, .dstAddr localIp, .dstPortFrom EPHEMERAL_PORT_RANGE.1.toNat,
    .dstPortTo EPHEMERAL_PORT_RANGE.2.toNat]

/-- The expression the driver is opened with.
Source: `src/packet_engine/rst_guard.py` `HostRstGuard.__init__`
Kind: D -/
def filter (guard : HostRstGuard) : PyStr := join (text " and ") (guard.tests.map FilterTest.expression)

/-- The driver takes the segment, so the host's own stack never sees it.
Source: `src/packet_engine/rst_guard.py` `HostRstGuard._run`
Kind: D -/
def diverts (guard : HostRstGuard) (segment : Packet) : Bool := guard.tests.all (FilterTest.passes segment)

example : (new (text "192.168.1.1")).filter =
    text "tcp and ip.DstAddr == 192.168.1.1 and tcp.DstPort >= 49152 and tcp.DstPort <= 65535" := by
  decide +kernel

end HostRstGuard

/-! ## The ports the suite speaks from -/

/-- Source: `tests/conftest.py` `_SOURCE_PORT_BASE`. Kind: D -/
def SOURCE_PORT_BASE : Int := 49152

/-- Source: `tests/conftest.py` `_SOURCE_PORT_SPAN`. Kind: D -/
def SOURCE_PORT_SPAN : Int := 65535 - SOURCE_PORT_BASE + 1

/-- The port of the dynamic range that a session's counter stands at.
Source: `tests/conftest.py` `_next_source_port`
Kind: D -/
def nextSourcePort (counter : Nat) : Int × Nat := (SOURCE_PORT_BASE + counter % SOURCE_PORT_SPAN, counter + 1)

/-- The operator's port, if one was pinned, or a fresh one.
Source: `tests/conftest.py` `source_port`
Kind: D -/
def sourcePort (config : DutConfig) (counter : Nat) : Int × Nat :=
  match config.sourcePort with
  | some port => if port ≠ 0 then (port, counter) else nextSourcePort counter
  | none => nextSourcePort counter

/-- What a test may ask for a local port: one of several, its only one, or the one to listen on.
Source: `tests/conftest.py` `source_ports`, `source_port`; `tests/tcp/syn/test_server_handshake.py` `listen_port`
Kind: D -/
inductive PortUse where
  | sourcePorts
  | sourcePort
  | listenPort
  deriving DecidableEq, Repr

/-- The role of the tests that ask for it; in a run of the other role they are skipped.
Source: `tests/tcp`
Kind: D -/
def PortUse.role : PortUse → Role
  | sourcePorts => .client
  | sourcePort => .client
  | listenPort => .server

/-- What a run has used so far.
Source: `tests/conftest.py` `_source_port_counter`
Kind: D -/
structure PortSession where
  counter : Nat := 0
  ports : List Int := []
  deriving DecidableEq, Repr

namespace PortSession

/-- A test uses the port it was given.
Source: none: infrastructure
Kind: D -/
def uses (session : PortSession) (given : Int × Nat) : PortSession where
  counter := given.2
  ports := session.ports ++ [given.1]

/-- One more use of a local port in a run.
Source: `tests/conftest.py` `source_ports`, `source_port`; `tests/tcp/syn/test_server_handshake.py` `listen_port`
Kind: D -/
def step (config : DutConfig) (session : PortSession) (use : PortUse) : PortSession :=
  if use.role ≠ config.role then session
  else
    match use with
    | .sourcePorts => session.uses (nextSourcePort session.counter)
    | .sourcePort => session.uses (PacketEngine.sourcePort config session.counter)
    | .listenPort =>
        match config.targetPort with
        | some port => session.uses (port, session.counter)
        | none => session

/-- A whole run.
Source: none: infrastructure
Kind: D -/
def run (config : DutConfig) (uses : List PortUse) : PortSession := uses.foldl (step config) {}

end PortSession

/-- The segment is sent to a port of the suite.
Source: none: specification
Kind: D -/
def SentTo (localIp : PyStr) (port : Int) (segment : Packet) : Prop :=
  ∃ ip tcp, segment.ip? = some ip ∧ segment.tcp? = some tcp ∧ ip.dst = localIp ∧
    (tcp.dport.toNat : Int) = port

/-- The guard takes every segment that is sent to a port the run uses.
Source: none: specification
Kind: D -/
def Covered (config : DutConfig) (localIp : PyStr) (uses : List PortUse) : Prop :=
  ∀ port ∈ (PortSession.run config uses).ports, ∀ segment, SentTo localIp port segment →
    (HostRstGuard.new localIp).diverts segment = true

/-- A port below the dynamic range.
Source: `src/config.py` `EPHEMERAL_PORT_RANGE`
Kind: D -/
def BelowDynamic (port : Int) : Prop := 0 ≤ port ∧ port < EPHEMERAL_PORT_RANGE.1

/-- The operator chose no port below the dynamic range for this use, or the run's role has no such use.
Source: none: specification
Kind: D -/
def ChosenDynamic (config : DutConfig) : PortUse → Prop
  | .sourcePorts => True
  | .sourcePort => config.role = .client → ∀ port, config.sourcePort = some port → port ≠ 0 → ¬ BelowDynamic port
  | .listenPort => config.role = .server → ∀ port, config.targetPort = some port → ¬ BelowDynamic port

/-! ## What the filter covers -/

/-- What `serve_tcp_handshake` takes from the wire is sent to the port it listens on.
Source: `src/packet_engine/responder.py` `serve_tcp_handshake`
Kind: L -/
lemma sentTo_of_toListenPort {localIp : PyStr} {listenPort : Int} {set clear : Flags} {segment : Packet}
    (h : toListenPort localIp listenPort set clear segment = true) : SentTo localIp listenPort segment := by
  obtain ⟨ip, tcp, hip, htcp, hdst, hport, -, -⟩ := toListenPort_iff.mp h
  exact ⟨ip, tcp, hip, htcp, hdst, hport⟩

/-- What the guard takes of the segments to a port.
Source: `src/packet_engine/rst_guard.py` `HostRstGuard.__init__`
Kind: L -/
lemma diverts_iff {localIp : PyStr} {port : Int} {segment : Packet} (h : SentTo localIp port segment) :
    (HostRstGuard.new localIp).diverts segment = true ↔ EPHEMERAL_PORT_RANGE.1 ≤ port := by
  obtain ⟨ip, tcp, hip, htcp, hdst, rfl⟩ := h
  have hwidth := tcp.dport.isLt
  simp only [HostRstGuard.diverts, HostRstGuard.new, EPHEMERAL_PORT_RANGE, List.all_cons, List.all_nil,
    FilterTest.passes, hip, htcp, hdst, Option.isSome_some, Option.any_some, beq_self_eq_true, Bool.true_and,
    Bool.and_true, Bool.and_eq_true, decide_eq_true_eq]
  omega

/-- A segment to a port of the suite.
Source: none: infrastructure
Kind: D -/
def segmentTo (localIp : PyStr) (port : BitVec 16) : Packet :=
  [.ip { src := text "10.0.0.5", dst := localIp },
    .tcp { sport := 80, dport := port, seq := 0, ack := 1, flags := SYN_ACK, window := 8192 }]

/-- **The guard takes all segments to a port, exactly if it is not below the dynamic range.**
Source: `src/packet_engine/rst_guard.py` `HostRstGuard.__init__`
Kind: P -/
theorem diverts_all_iff (localIp : PyStr) (port : Int) :
    (∀ segment, SentTo localIp port segment → (HostRstGuard.new localIp).diverts segment = true) ↔
      ¬ BelowDynamic port := by
  constructor
  · rintro hall ⟨hnonneg, hbelow⟩
    have hsmall : port < 49152 := hbelow
    have hsent : SentTo localIp port (segmentTo localIp (BitVec.ofInt 16 port)) := by
      refine ⟨_, _, rfl, rfl, rfl, ?_⟩
      rw [BitVec.toNat_ofInt]
      omega
    have hdynamic := (diverts_iff hsent).mp (hall _ hsent)
    omega
  · intro hdynamic segment hsent
    apply (diverts_iff hsent).mpr
    obtain ⟨_, tcp, _, _, _, rfl⟩ := hsent
    unfold BelowDynamic at hdynamic
    omega

/-! ## Whole runs -/

/-- The counter never leaves the dynamic range.
Source: `tests/conftest.py` `_next_source_port`
Kind: L -/
lemma nextSourcePort_dynamic (counter : Nat) : ¬ BelowDynamic (nextSourcePort counter).1 := by
  have hspan : (0 : Int) ≤ counter % SOURCE_PORT_SPAN := Int.emod_nonneg _ (by decide)
  rintro ⟨-, hbelow⟩
  simp only [nextSourcePort, SOURCE_PORT_BASE, EPHEMERAL_PORT_RANGE] at hbelow
  omega

namespace PortSession

/-- No port in use is below the dynamic range.
Source: none: specification
Kind: D -/
def Dynamic (session : PortSession) : Prop := ∀ port ∈ session.ports, ¬ BelowDynamic port

lemma dynamic_uses (session : PortSession) (given : Int × Nat) :
    (session.uses given).Dynamic ↔ session.Dynamic ∧ ¬ BelowDynamic given.1 := by
  simp [Dynamic, uses, or_imp, forall_and]

variable (config : DutConfig)

/-- The port of a test that needs one: dynamic unless the operator pinned another.
Source: `tests/conftest.py` `source_port`
Kind: L -/
lemma sourcePort_dynamic_iff (counter : Nat) :
    ¬ BelowDynamic (sourcePort config counter).1 ↔
      ∀ port, config.sourcePort = some port → port ≠ 0 → ¬ BelowDynamic port := by
  unfold sourcePort
  rcases config.sourcePort with _ | pinned
  · simp [nextSourcePort_dynamic]
  · by_cases hzero : pinned = 0
    · simp [hzero, nextSourcePort_dynamic]
    · simp [hzero]

/-- One more use keeps the ports dynamic exactly if the operator's choice for it is.
Source: `tests/conftest.py` `source_ports`, `source_port`; `tests/tcp/syn/test_server_handshake.py` `listen_port`
Kind: L -/
lemma dynamic_step (session : PortSession) (use : PortUse) :
    (step config session use).Dynamic ↔ session.Dynamic ∧ ChosenDynamic config use := by
  unfold step
  rcases use with _ | _ | _ <;> rcases hrole : config.role with _ | _
  · simp [PortUse.role, ChosenDynamic, dynamic_uses, nextSourcePort_dynamic]
  · simp [PortUse.role, ChosenDynamic]
  · simp [PortUse.role, ChosenDynamic, hrole, dynamic_uses, sourcePort_dynamic_iff]
  · simp [PortUse.role, ChosenDynamic, hrole]
  · simp [PortUse.role, ChosenDynamic, hrole]
  · rcases htarget : config.targetPort with _ | port
    · simp [PortUse.role, ChosenDynamic, htarget]
    · simp [PortUse.role, ChosenDynamic, hrole, htarget, dynamic_uses]

/-- A whole run keeps the ports dynamic exactly if all the operator's choices are.
Source: none: infrastructure
Kind: L -/
lemma dynamic_foldl (uses : List PortUse) (session : PortSession) :
    (uses.foldl (step config) session).Dynamic ↔ session.Dynamic ∧ ∀ use ∈ uses, ChosenDynamic config use := by
  induction uses generalizing session with
  | nil => simp
  | cons use uses ih =>
      rw [List.foldl_cons, ih, dynamic_step, List.forall_mem_cons, and_assoc]

end PortSession

variable {config : DutConfig} {localIp : PyStr} {uses : List PortUse}

/-- Covered means that no port in use is below the dynamic range.
Source: `src/packet_engine/rst_guard.py` `HostRstGuard`
Kind: L -/
lemma covered_iff_dynamic :
    Covered config localIp uses ↔ (PortSession.run config uses).Dynamic := by
  unfold Covered PortSession.Dynamic
  simp only [diverts_all_iff]

/-- **In a covered run the host never sees the handshakes the suite serves.**
Source: `src/packet_engine/responder.py` `serve_tcp_handshake`
Kind: P -/
theorem handshake_diverted {port : Int} {set clear : Flags} {segment : Packet} (hrole : config.role = .server)
    (htarget : config.targetPort = some port) (hcovered : Covered config localIp uses)
    (hused : PortUse.listenPort ∈ uses) (htaken : toListenPort localIp port set clear segment = true) :
    (HostRstGuard.new localIp).diverts segment = true := by
  rw [covered_iff_dynamic, PortSession.run, PortSession.dynamic_foldl] at hcovered
  have hdynamic := hcovered.2 .listenPort hused hrole port htarget
  exact (diverts_all_iff localIp port).mpr hdynamic segment (sentTo_of_toListenPort htaken)

/-- **When the guard covers a run**: the operator chose no port below the dynamic range for anything the run
does.
Source: `src/packet_engine/rst_guard.py` `HostRstGuard`; `tests/conftest.py` `source_port`
Kind: P -/
theorem ports_covered_iff (config : DutConfig) (localIp : PyStr) (uses : List PortUse) :
    Covered config localIp uses ↔ ∀ use ∈ uses, ChosenDynamic config use := by
  rw [covered_iff_dynamic, PortSession.run, PortSession.dynamic_foldl]
  simp [PortSession.Dynamic]

/-- A server-role run against port 80.
Source: none: example
Kind: D -/
def webServerConfig : DutConfig where
  interface := some (text "eth0")
  targetIp := some (text "10.0.0.5")
  targetStack := some (text "linux")
  targetPort := some 80
  role := .server

/-- **The host resets the device's connection to port 80.**
Source: `src/packet_engine/rst_guard.py` `HostRstGuard`
Kind: P -/
theorem listen_port_uncovered :
    ¬ ∀ (config : DutConfig) (localIp : PyStr) (uses : List PortUse), Covered config localIp uses := by
  intro hall
  have hcovered := hall webServerConfig (text "10.0.0.1") [.listenPort]
  have hdiverts := hcovered 80 (by decide +kernel) (segmentTo (text "10.0.0.1") 80) ⟨_, _, rfl, rfl, rfl, rfl⟩
  exact absurd hdiverts (by decide +kernel)

end NetstackSuite.PacketEngine
