import NetstackSuite.Tests.EstablishedTests

/-!
# The tests of the handshake

The tests of LISTEN, of SYN-RECEIVED and of a port without a listener, which send their segments by hand and
look at the replies. One of them asks for what the standard does not have: a connection in SYN-RECEIVED is
still there when it has answered an unacceptable acknowledgement with a reset, so data behind it, with the right
acknowledgement, does complete the handshake, and `test_wrong_seq_ack_does_not_complete_handshake` fails on
every device that does as it should (`always_wrongSeqAck`). Another takes the SYN-ACK, and not an ACK, for the
only answer to a SYN that comes again.
-/

namespace NetstackSuite.Tests

open NetstackSuite.Lib NetstackSuite.PacketEngine NetstackSuite.Python NetstackSuite.Utils

/-! ## The tests -/

section

variable {τ : Type} (craft : Craft) (sourcePort : BitVec 16) (timeout : ℚ)

/-- Source: `tests/tcp/state_machine/test_challenge_ack.py` `test_ack_arriving_on_listen_port_elicits_rst`.
Kind: D -/
def testAckArrivingOnListenPortElicitsRst : TestScript τ Unit := do
  let segAck := 0xDEADBEEF
  let packet := craft.tcp sourcePort [.A] (some 1000) segAck
  let reply ← sendReceive packet timeout
  assertThat (hasTcp reply)
  assertThat (isRst reply)
  let tcp ← tcpOf reply
  assertThat (tcp.seq.toNat == segAck)

/-- Source: `tests/tcp/state_machine/test_rst_handling.py` `CLOSED_PORT`. Kind: D -/
def CLOSED_PORT : BitVec 16 := 2

/-- Source: `tests/tcp/state_machine/test_rst_handling.py` `test_ack_to_closed_port_elicits_rst`. Kind: D -/
def testAckToClosedPortElicitsRst : TestScript τ Unit := do
  let packet := craft.tcp sourcePort [.A] (some 1000) 1000 (some CLOSED_PORT)
  let reply ← sendReceive packet timeout
  assertThat reply.isSome
  assertThat (isRst reply)

/-- Source: `tests/tcp/syn/test_three_way_handshake.py` `test_syn_elicits_syn_ack`. Kind: D -/
def testSynElicitsSynAck (drawn : Fin (MAX_SEQ + 1)) : TestScript τ Unit := do
  let tracker := TCPSequenceTracker.new drawn
  let packet := craft.tcp sourcePort [.S] (some tracker.seq)
  let reply ← sendReceive packet timeout
  assertThat reply.isSome
  assertThat (isSynAck reply)

/-- Source: `tests/tcp/state_machine/test_syn_received_state.py` `_send_syn`. Kind: D -/
def sendSyn (isn : Nat) : TestScript τ (Option Packet) :=
  sendReceive (craft.tcp sourcePort [.S] (some isn)) timeout

/-- Source: `tests/tcp/state_machine/test_syn_received_state.py`
`test_duplicate_syn_in_syn_received_retransmits_same_syn_ack`. Kind: D -/
def testDuplicateSynInSynReceivedRetransmitsSameSynAck : TestScript τ Unit := do
  let isn := 0x01000000
  let first ← sendSyn craft sourcePort timeout isn
  assertThat (isSynAck first)
  let second ← sendSyn craft sourcePort timeout isn
  assertThat second.isSome
  assertThat (isSynAck second)
  let secondTcp ← tcpOf second
  let firstTcp ← tcpOf first
  assertThat (secondTcp.seq == firstTcp.seq)
  assertThat (secondTcp.ack.toNat == seq32 (isn + 1))
  send (craft.tcp sourcePort [.R] (some (isn + 1)))

/-- Source: `tests/tcp/state_machine/test_syn_received_state.py`
`test_rst_in_syn_received_aborts_half_open_connection`. Kind: D -/
def testRstInSynReceivedAbortsHalfOpenConnection : TestScript τ Unit := do
  let isn := 0x02000000
  let synAck ← sendSyn craft sourcePort timeout isn
  assertThat (isSynAck synAck)
  send (craft.tcp sourcePort [.R] (some (isn + 1)))
  let tcp ← tcpOf synAck
  let strayAck := craft.tcp sourcePort [.A] (some (isn + 1)) (seq32 (tcp.seq.toNat + 1))
  let reply ← sendReceive strayAck (3 / 2)
  if hasTcp reply then
    assertThat (isRst reply)

/-- Source: `tests/tcp/state_machine/test_syn_received_state.py`
`test_wrong_seq_ack_does_not_complete_handshake`. Kind: D -/
def testWrongSeqAckDoesNotCompleteHandshake : TestScript τ Unit := do
  let isn := 0x03000000
  let synAck ← sendSyn craft sourcePort timeout isn
  assertThat (isSynAck synAck)
  let tcp ← tcpOf synAck
  let badAck := craft.tcp sourcePort [.A] (some (isn + 1)) (seq32 (tcp.seq.toNat + 5000))
  let reply ← sendReceive badAck (3 / 2)
  assertThat (reply.isNone || isRst reply)
  let data := craft.tcp sourcePort [.P, .A] (some (isn + 1)) (seq32 (tcp.seq.toNat + 1)) none DEFAULT_WINDOW
    (bytes "x")
  let follow ← sendReceive data (3 / 2)
  if hasTcp follow then
    assertThat (!isAck follow || isRst follow)

end

/-! ## What they come to -/

section

variable {τ : Type} {u : τ} {link : Link} {craft : Craft} {sport : BitVec 16} {net₀ net : Network} {timeout : ℚ}

/-- How a test without the fixture ends: it has dealt with the endpoint of its own ports only.
Source: none: infrastructure
Kind: D -/
def Left (ports : BitVec 16 × BitVec 16) (net₀ : Network) (passes : Bool) (outcome : Except PyExc Unit) (_ : τ)
    (net : Network) : Prop :=
  outcome = outcomeOf passes ∧ Kept ports net₀ net

variable (lawful : link.Lawful)

include lawful

/-- Source: `tests/tcp/syn/test_three_way_handshake.py` `test_syn_elicits_syn_ack`. Kind: L -/
lemma always_synElicitsSynAck {drawn : Fin (MAX_SEQ + 1)}
    (h : Talk craft (craft.dutPort, sport) net .listen (fun _ => False) net) (htime : link.latency ≤ timeout)
    (hdrawn : drawn.val + 1 < 2 ^ 32) :
    Always link.world (testSynElicitsSynAck craft sport timeout drawn)
      (Left (craft.dutPort, sport) net true) u net := by
  have hisn : (BitVec.ofNat 32 drawn.val).toNat = drawn.val := Nat.mod_eq_of_lt (Nat.lt_of_succ_lt hdrawn)
  unfold testSynElicitsSynAck
  refine h.always_syn lawful htime (goes_tcp craft sport [.S] drawn 0 none DEFAULT_WINDOW []) (by rwa [hisn]) ?_
  intro iss frame net' hs h'
  exact always_assertThat rfl (always_assertLast (isSynAck_of_segment hs) ⟨rfl, h'.kept⟩)

end

section

variable {τ : Type} {u : τ} {link : Link} {craft : Craft} {sport : BitVec 16} {net : Network} {timeout : ℚ}

/-- **A SYN with the last number of all** has no answer: its SYN-ACK acknowledges 0, and Scapy compares numbers
without wrapping. So the test passes in every run if and only if it draws another number.
Source: `tests/tcp/syn/test_three_way_handshake.py` `test_syn_elicits_syn_ack`;
`src/packet_engine/sequence.py` `TCPSequenceTracker.new`
Kind: P -/
theorem synElicitsSynAck_iff (lawful : link.Lawful) (hnumbers : link.ComparesNumbers)
    {drawn : Fin (MAX_SEQ + 1)} (h : Talk craft (craft.dutPort, sport) net .listen (fun _ => False) net)
    (htime : link.latency ≤ timeout) :
    Always link.world (testSynElicitsSynAck craft sport timeout drawn) (fun outcome _ _ => outcome = .ok ()) u net ↔
      drawn.val ≠ MAX_SEQ := by
  constructor
  · intro hall hlast
    obtain ⟨window, hwindow⟩ := lawful.someWindow
    let c : Tcp.Choice := { iss := 0, window, challenge := true, hold := true }
    let last : Tcp.SeqNum := BitVec.ofNat 32 MAX_SEQ
    let packet := craft.tcp sport [.S] (some MAX_SEQ)
    have hgoes : Goes craft (craft.dutPort, sport) packet (flagged [.S] last 0 0) :=
      goes_tcp craft sport [.S] MAX_SEQ 0 none DEFAULT_WINDOW []
    have harrive : Tcp.arrive link.conduct c (net.host.conn (craft.dutPort, sport)) (flagged [.S] last 0 0) =
        (.synReceived (Tcp.opened 0 last), [(Tcp.opened 0 last).synAck]) := by
      rw [h.conn]
      exact Tcp.arrive_listen_syn rfl rfl rfl rfl
    let frame := net.host.frame (craft.dutPort, sport) window (Tcp.opened 0 last).synAck
    have hno : link.answers packet frame = false := by
      refine Bool.eq_false_iff.mpr fun htrue => ?_
      obtain ⟨_, _, -, -, -, -, -, hpacket⟩ := hgoes
      rcases hnumbers packet frame _ _ htrue hpacket (segment?_frame ..) with hreset | ⟨-, hclose⟩
      · exact Bool.false_ne_true hreset.1
      · exact absurd hclose (by decide)
    have hexchanges : link.Exchanges net packet timeout none
        { host := net.host.setConn (craft.dutPort, sport) (.synReceived (Tcp.opened 0 last)) } := by
      refine ⟨c, [], [], [frame], hwindow, ?_, List.forall_mem_nil _, List.forall_mem_nil _, ?_, ?_, ?_,
        List.forall_mem_nil _⟩
      · rw [arrive_of_addressed (hgoes.addressed h), harrive]
      · rw [arrive_of_addressed (hgoes.addressed h), harrive]
        exact link.heard_self fun g hg => List.mem_singleton.mp hg ▸ sent_frame net.host _ _ _
      · exact fun g hg => absurd hg (Option.not_mem_none g)
      · exact fun _ => (List.find?_eq_none.mpr fun g hg => by
          rw [List.mem_singleton.mp hg, hno]
          exact Bool.false_ne_true).symm
    unfold testSynElicitsSynAck at hall
    rw [TCPSequenceTracker.new, hlast] at hall
    have hafter := of_always_sendReceive hall hexchanges
    have hfailed := of_always_failed rfl hafter
    cases hfailed
  · intro hne
    have hdrawn : drawn.val + 1 < 2 ^ 32 := by
      have hlt := drawn.isLt
      unfold MAX_SEQ at hne hlt
      omega
    exact (always_synElicitsSynAck lawful h htime hdrawn).mono fun outcome _ _ hend => hend.1

theorem synElicitsSynAck_sample :
    ¬ Always (plainLink {}).world (testSynElicitsSynAck sampleCraft 49152 5 (Fin.last MAX_SEQ))
      (fun outcome _ _ => outcome = .ok ()) () (idleNetwork sampleCraft) := by
  intro hall
  exact (synElicitsSynAck_iff (lawful_plainLink {}) (Link.comparesNumbers_scapy rfl) (talk_idle sampleCraft 49152)
    (by decide +kernel : (0 : ℚ) ≤ 5)).mp hall rfl

end

end NetstackSuite.Tests
