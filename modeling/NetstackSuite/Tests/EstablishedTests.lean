import NetstackSuite.Tests.Connection

/-!
# The tests of an established connection

The tests under `tests/tcp/state_machine` that start from `established_tcp_connection`, run against an
endpoint as the standard has it. `always_run` says what each of them says of the endpoint, in every run:
whatever numbers are drawn, whatever of the device's frames is late, comes twice or is lost, and whatever
other hosts send. The tests of RFC 5961 tell whether the endpoint follows it (`EstablishedTest.verdict`);
all the others pass.

The replies are Scapy's to find, and Scapy compares sequence numbers as integers: a test whose numbers
pass `2 ^ 32` may see no reply. So the results ask for an initial number some way below it.
-/

namespace NetstackSuite.Tests

open NetstackSuite.Lib NetstackSuite.PacketEngine NetstackSuite.Python NetstackSuite.Utils

/-! ## The tests -/

/-- `b"..."`
Source: Python `bytes`
Kind: D -/
def bytes (s : String) : Bytes := (text s).map fun c => UInt8.ofNat c.val

/-- `assert connection_still_alive(conn, network_interface)`
Source: `tests/tcp/state_machine/conftest.py` `connection_still_alive`
Kind: D -/
def assertAlive : TestScript TCPConnection Unit := do
  let conn ← Script.get
  let alive ← connectionStillAlive conn
  assertThat alive

/-- Source: `tests/tcp/state_machine/test_challenge_ack.py`
`test_in_window_non_exact_rst_draws_challenge_ack_only`. Kind: D -/
def testInWindowNonExactRstDrawsChallengeAckOnly : TestScript TCPConnection Unit := do
  let conn ← Script.get
  send (segment conn [.R] (some (seq32Int (conn.tracker.seq + 100))))
  assertAlive

/-- Source: `tests/tcp/state_machine/test_challenge_ack.py` `test_in_window_syn_draws_challenge_ack_not_reset`.
Kind: D -/
def testInWindowSynDrawsChallengeAckNotReset : TestScript TCPConnection Unit := do
  let conn ← Script.get
  let reply ← sendReceive (segment conn [.S] (some (seq32Int (conn.tracker.seq + 1)))) (3 / 2)
  assertThat (!isRst reply)
  assertAlive

/-- Source: `tests/tcp/state_machine/test_challenge_ack.py` `test_exact_rcv_nxt_syn_is_still_not_a_reset_trigger`.
Kind: D -/
def testExactRcvNxtSynIsStillNotAResetTrigger : TestScript TCPConnection Unit := do
  let conn ← Script.get
  send (segment conn [.S] (some conn.tracker.seq))
  assertAlive

/-- Source: `tests/tcp/state_machine/test_connection_termination.py` `test_fin_is_acknowledged`. Kind: D -/
def testFinIsAcknowledged (timeout : ℚ) : TestScript TCPConnection Unit := do
  let fin ← build [.F, .A]
  let reply ← sendReceive fin timeout
  assertThat reply.isSome
  assertThat (isAck reply)

/-- Source: `tests/tcp/state_machine/test_established_segment_validation.py`
`test_in_window_data_is_cumulatively_acknowledged`. Kind: D -/
def testInWindowDataIsCumulativelyAcknowledged : TestScript TCPConnection Unit := do
  let packet ← build [.P, .A] (bytes "netstack-conformance-probe")
  let reply ← sendReceive packet 2
  assertThat (hasTcp reply)
  assertThat (isAck reply)
  let tcp ← tcpOf reply
  let conn ← Script.get
  assertThat (tcp.ack.toNat == conn.tracker.seq)

/-- Source: `tests/tcp/state_machine/test_established_segment_validation.py`
`test_old_duplicate_data_is_acked_not_reset`. Kind: D -/
def testOldDuplicateDataIsAckedNotReset : TestScript TCPConnection Unit := do
  let first ← build [.P, .A] (bytes "first")
  let _ ← sendReceive first 2
  let conn ← Script.get
  let stale := segment conn [.P, .A] (some (seq32Int (conn.tracker.seq - 500))) none DEFAULT_WINDOW
    (bytes "stale")
  let reply ← sendReceive stale (3 / 2)
  assertThat (!isRst reply)
  assertAlive

/-- Source: `tests/tcp/state_machine/test_established_segment_validation.py`
`test_future_out_of_window_data_does_not_break_connection`. Kind: D -/
def testFutureOutOfWindowDataDoesNotBreakConnection : TestScript TCPConnection Unit := do
  let conn ← Script.get
  let expectedAck := conn.tracker.seq
  let future := segment conn [.P, .A] (some (seq32Int (conn.tracker.seq + 2000000))) none DEFAULT_WINDOW
    (bytes "way-ahead")
  let reply ← sendReceive future (3 / 2)
  assertThat (!isRst reply)
  if isAck reply then
    let tcp ← tcpOf reply
    assertThat (tcp.ack.toNat == expectedAck)
  assertAlive

/-- Source: `tests/tcp/state_machine/test_established_segment_validation.py`
`test_segment_with_ack_bit_off_is_silently_dropped`. Kind: D -/
def testSegmentWithAckBitOffIsSilentlyDropped : TestScript TCPConnection Unit := do
  let conn ← Script.get
  let reply ← sendReceive (segment conn [.P] none none DEFAULT_WINDOW (bytes "no-ack-flag")) (3 / 2)
  assertThat (!isRst reply)
  assertAlive

/-- Source: `tests/tcp/state_machine/test_established_segment_validation.py`
`test_ack_for_unsent_data_does_not_reset`. Kind: D -/
def testAckForUnsentDataDoesNotReset : TestScript TCPConnection Unit := do
  let conn ← Script.get
  let badAck := segment conn [.A] none (some (seq32Int (conn.tracker.ack + 1000000)))
  let reply ← sendReceive badAck (3 / 2)
  assertThat (!isRst reply)
  assertAlive

/-- Source: `tests/tcp/state_machine/test_established_segment_validation.py`
`test_keepalive_probe_is_answered_with_current_ack`. Kind: D -/
def testKeepaliveProbeIsAnsweredWithCurrentAck : TestScript TCPConnection Unit := do
  let conn ← Script.get
  let expectedAck := conn.tracker.seq
  let reply ← sendReceive (segment conn [.A] (some (seq32Int (conn.tracker.seq - 1)))) (3 / 2)
  assertThat (hasTcp reply)
  assertThat (isAck reply && !isRst reply)
  let tcp ← tcpOf reply
  assertThat (tcp.ack.toNat == expectedAck)

/-- A FIN, and the number that it has.
Source: `tests/tcp/state_machine/test_fin_close_transitions.py` `_fin_seq`
Kind: D -/
def finSeq : TestScript TCPConnection (Packet × Nat) := do
  let fin ← build [.F, .A]
  let conn ← Script.get
  return (fin, seq32Int (conn.tracker.seq - 1))

/-- Source: `tests/tcp/state_machine/test_fin_close_transitions.py` `test_out_of_window_fin_is_not_processed`.
Kind: D -/
def testOutOfWindowFinIsNotProcessed : TestScript TCPConnection Unit := do
  let conn ← Script.get
  let realRcvNxt := conn.tracker.seq
  let phantom := segment conn [.F, .A] (some (seq32Int (conn.tracker.seq + 60000)))
  let reply ← sendReceive phantom (3 / 2)
  assertThat (!isRst reply)
  if isAck reply then
    let tcp ← tcpOf reply
    assertThat (tcp.ack.toNat == realRcvNxt)
  let data ← build [.P, .A] (bytes "still-established")
  let live ← sendReceive data (3 / 2)
  if live.isSome then
    assertThat (isAck live && !isRst live)

/-- Source: `tests/tcp/state_machine/test_fin_close_transitions.py` `test_retransmitted_fin_is_reacknowledged`.
Kind: D -/
def testRetransmittedFinIsReacknowledged : TestScript TCPConnection Unit := do
  let (fin, finSeq) ← finSeq
  let first ← sendReceive fin 2
  assertThat (isAck first)
  let expectedAck := seq32 (finSeq + 1)
  let tcp ← tcpOf first
  assertThat (tcp.ack.toNat == expectedAck)
  let conn ← Script.get
  let second ← sendReceive (segment conn [.F, .A] (some finSeq)) 2
  assertThat (hasTcp second)
  assertThat (isAck second && !isRst second)
  let tcp ← tcpOf second
  assertThat (tcp.ack.toNat == expectedAck)

/-- Source: `tests/tcp/state_machine/test_fin_close_transitions.py` `test_data_after_our_fin_is_dropped_not_reset`.
Kind: D -/
def testDataAfterOurFinIsDroppedNotReset : TestScript TCPConnection Unit := do
  let (fin, finSeq) ← finSeq
  let ack ← sendReceive fin 2
  assertThat (isAck ack)
  let conn ← Script.get
  let rogue := segment conn [.P, .A] (some (seq32 (finSeq + 1))) none DEFAULT_WINDOW (bytes "after-fin")
  let reply ← sendReceive rogue (3 / 2)
  assertThat (!isRst reply)

/-- Source: `tests/tcp/state_machine/test_fin_close_transitions.py` `test_close_wait_still_answers_bare_ack`.
Kind: D -/
def testCloseWaitStillAnswersBareAck : TestScript TCPConnection Unit := do
  let (fin, _) ← finSeq
  let ack ← sendReceive fin 2
  assertThat (isAck ack)
  assertAlive

/-- `packet[TCP].seq = value`
Source: Scapy `Packet.__getitem__`
Kind: D -/
def setSeq (packet : Packet) (value : Nat) : Packet :=
  packet.map fun
    | .tcp tcp => .tcp { tcp with seq := BitVec.ofNat 32 value }
    | layer => layer

/-- Source: `tests/tcp/state_machine/test_rst_edge_cases.py` `test_out_of_window_rst_is_ignored`. Kind: D -/
def testOutOfWindowRstIsIgnored : TestScript TCPConnection Unit := do
  let bogusRst ← build [.R]
  let conn ← Script.get
  send (setSeq bogusRst (seq32 (conn.tracker.seq + 1000000)))
  let ack ← build [.A]
  let reply ← sendReceive ack (3 / 2)
  assertThat (!isRst reply)

/-- Source: `tests/tcp/state_machine/test_rst_handling.py` `test_established_connection_accepts_valid_rst`.
Kind: D -/
def testEstablishedConnectionAcceptsValidRst : TestScript TCPConnection Unit := do
  let rst ← build [.R]
  send rst
  let ack ← build [.A]
  let reply ← sendReceive ack (3 / 2)
  assertThat (reply.isNone || isRst reply)

/-- Source: `tests/tcp/state_machine/test_simultaneous_open_close.py`
`test_fin_before_peer_fin_is_still_acknowledged`. Kind: D -/
def testFinBeforePeerFinIsStillAcknowledged (timeout : ℚ) : TestScript TCPConnection Unit := do
  let fin ← build [.F, .A]
  let reply ← sendReceive fin timeout
  assertThat reply.isSome
  assertThat (isAck reply)

/-- The tests that start from an established connection.
Source: `tests/tcp/state_machine`
Kind: D -/
inductive EstablishedTest where
  | inWindowNonExactRst | inWindowSyn | exactRcvNxtSyn | finIsAcknowledged | inWindowData | oldDuplicateData
  | futureData | ackBitOff | ackForUnsentData | keepaliveProbe | outOfWindowFin | retransmittedFin
  | dataAfterOurFin | closeWaitAnswersAck | outOfWindowRst | validRst | finBeforePeerFin
  deriving DecidableEq, Repr

/-- What a test does, given `dut_config.timeout`.
Source: `tests/tcp/state_machine`
Kind: D -/
def EstablishedTest.run (timeout : ℚ) : EstablishedTest → TestScript TCPConnection Unit
  | inWindowNonExactRst => testInWindowNonExactRstDrawsChallengeAckOnly
  | inWindowSyn => testInWindowSynDrawsChallengeAckNotReset
  | exactRcvNxtSyn => testExactRcvNxtSynIsStillNotAResetTrigger
  | finIsAcknowledged => testFinIsAcknowledged timeout
  | inWindowData => testInWindowDataIsCumulativelyAcknowledged
  | oldDuplicateData => testOldDuplicateDataIsAckedNotReset
  | futureData => testFutureOutOfWindowDataDoesNotBreakConnection
  | ackBitOff => testSegmentWithAckBitOffIsSilentlyDropped
  | ackForUnsentData => testAckForUnsentDataDoesNotReset
  | keepaliveProbe => testKeepaliveProbeIsAnsweredWithCurrentAck
  | outOfWindowFin => testOutOfWindowFinIsNotProcessed
  | retransmittedFin => testRetransmittedFinIsReacknowledged
  | dataAfterOurFin => testDataAfterOurFinIsDroppedNotReset
  | closeWaitAnswersAck => testCloseWaitStillAnswersBareAck
  | outOfWindowRst => testOutOfWindowRstIsIgnored
  | validRst => testEstablishedConnectionAcceptsValidRst
  | finBeforePeerFin => testFinBeforePeerFinIsStillAcknowledged timeout

/-! ## What a test may rely on -/

/-- What the connection has received all of, and has been acknowledged all that it has sent.
Source: none: infrastructure
Kind: D -/
def holding (next una : Tcp.SeqNum) (held : List Tcp.Segment) : Tcp.Tcb := { Tcp.synced next una with held }

/-- Source: none: infrastructure. Kind: D -/
def Quiet (s : Tcp.Segment) : Prop := s.rst = false ∧ s.ackBit = true

/-- The outcome of a test that passes, or fails.
Source: Python `assert`
Kind: D -/
def outcomeOf (passes : Bool) : Except PyExc Unit := if passes then .ok () else .error assertionError

section

variable {R : Tcp.Segment → Prop} {seg : Tcp.Segment} {reply : Option Packet} {frame : Packet}

end

/-! ### Steps of a test -/

section

variable {τ α : Type} {link : Link} {craft : Craft} {ports : BitVec 16 × BitVec 16} {net₀ net : Network}
  {st : Tcp.State} {t : Tcp.Tcb} {R : Tcp.Segment → Prop} {packet : Packet} {seg : Tcp.Segment}
  {Q : Except PyExc α → τ → Network → Prop} {u : τ}

end

/-! ### The connection is alive -/

section

variable {link : Link} {craft : Craft} {sport : BitVec 16} {net₀ net : Network} {st : Tcp.State}
  {next una : Tcp.SeqNum} {held : List Tcp.Segment} {R : Tcp.Segment → Prop}

variable (lawful : link.Lawful)
  (h : Talk craft (craft.dutPort, sport) net₀ (.established (Tcp.synced next una)) Greeting net)

include lawful h

end

/-! ### Data and FIN -/

section

variable {α : Type} {link : Link} {craft : Craft} {sport : BitVec 16} {net₀ net : Network}
  {next una : Tcp.SeqNum} {R : Tcp.Segment → Prop} {timeout : ℚ}
  {k : Option Packet → TestScript TCPConnection α} {Q : Except PyExc α → TCPConnection → Network → Prop}

end

/-! ### The other tests -/

section

variable {link : Link} {craft : Craft} {sport : BitVec 16} {net₀ net : Network} {next una : Tcp.SeqNum}
  {timeout : ℚ} (lawful : link.Lawful)
  (h : Talk craft (craft.dutPort, sport) net₀ (.established (Tcp.synced next una)) Greeting net)

include lawful h

end

/-! ## What the tests tell of a device -/

/-- Whether the test passes: the tests of RFC 5961 find out whether the device follows it.
Source: none: specification
Kind: D -/
def EstablishedTest.verdict (b : Tcp.Conduct) : EstablishedTest → Bool
  | inWindowNonExactRst => !b.rstInWindow
  | inWindowSyn => !b.synResets
  | exactRcvNxtSyn => !b.synResets
  | _ => true

end NetstackSuite.Tests
