import NetstackSuite.PacketEngine.RstGuard
import NetstackSuite.Tests.SniffTests

/-!
# A session of tests

`source_port` gives every test of a session a port that no test before it had, so what a test leaves behind,
frames on their way and connections that are half open, is on ports that no later test uses. So the tests of a
session do not disturb one another (`session_verdicts`): the outcomes are those that the device's conduct
calls for, one by one, in any order, and none of the fixture's connections is left.
-/

namespace NetstackSuite.Tests

open NetstackSuite.Lib NetstackSuite.PacketEngine NetstackSuite.Python NetstackSuite.Utils

/-! ## The session -/

/-- The tests that look at replies.
Source: `tests/tcp`
Kind: D -/
inductive ReplyTest where
  | established (test : EstablishedTest)
  | ackOnListenPort | ackToClosedPort | synElicitsSynAck | rstInSynReceived | wrongSeqAck | duplicateSyn
  deriving DecidableEq, Repr

section

variable {τ : Type} (craft : Craft) (timeout : ℚ)

/-- A test with its source port and the initial number that it draws, if it does.
Source: `tests/tcp`
Kind: D -/
def ReplyTest.run (sourcePort : BitVec 16) (drawn : Fin (MAX_SEQ + 1)) : ReplyTest → TestScript τ Unit
  | established test => establishedTcpConnection craft sourcePort timeout drawn (test.run timeout)
  | ackOnListenPort => testAckArrivingOnListenPortElicitsRst craft sourcePort timeout
  | ackToClosedPort => testAckToClosedPortElicitsRst craft sourcePort timeout
  | synElicitsSynAck => testSynElicitsSynAck craft sourcePort timeout drawn
  | rstInSynReceived => testRstInSynReceivedAbortsHalfOpenConnection craft sourcePort timeout
  | wrongSeqAck => testWrongSeqAckDoesNotCompleteHandshake craft sourcePort timeout
  | duplicateSyn => testDuplicateSynInSynReceivedRetransmitsSameSynAck craft sourcePort timeout

/-- A test of a session: what it is, what it draws, and the count of ports given out before it.
Source: `tests/conftest.py` `source_port`
Kind: D -/
structure SessionTest where
  test : ReplyTest
  drawn : Fin (MAX_SEQ + 1)
  counter : Nat
  deriving DecidableEq, Repr

/-- The test's source port, where the operator has pinned none.
Source: `tests/conftest.py` `_next_source_port`
Kind: D -/
def SessionTest.port (item : SessionTest) : BitVec 16 := BitVec.ofInt 16 (nextSourcePort item.counter).1

end

/-- Whether the test passes on a device of this conduct.
Source: none: specification
Kind: D -/
def ReplyTest.verdict (b : Tcp.Conduct) : ReplyTest → Bool
  | established test => test.verdict b
  | wrongSeqAck => false
  | _ => true

/-! ## Ports -/

/-- The endpoints that a test of this port may meet are as they were to begin with.
Source: none: infrastructure
Kind: D -/
structure Fresh (craft : Craft) (sport : BitVec 16) (net : Network) : Prop where
  ip : net.host.ip = craft.dutIp
  peerIp : net.host.peerIp = craft.localIp
  listens : net.host.conn (craft.dutPort, sport) = .listen
  closed : net.host.conn (CLOSED_PORT, sport) = .listen ∨ net.host.conn (CLOSED_PORT, sport) = .closed
  quiet : net.Carries (craft.dutPort, sport) fun _ => False
  quietClosed : net.Carries (CLOSED_PORT, sport) fun _ => False

section

variable {link : Link} {craft : Craft} {sport : BitVec 16} {net net' : Network}

/-- A test leaves the ports of the others alone.
Source: none: infrastructure
Kind: L -/
lemma Fresh.kept {ports : BitVec 16 × BitVec 16} (h : Fresh craft sport net) (hkept : Kept ports net net')
    (hne : ports.2 ≠ sport) : Fresh craft sport net' := by
  have hother : ∀ port, (port, sport) ≠ ports := by
    rintro port rfl
    exact hne rfl
  have hquiet : ∀ port, (net.host.conn (port, sport) = .listen ∨ net.host.conn (port, sport) = .closed) →
      net.Carries (port, sport) (fun _ => False) → net'.Carries (port, sport) fun _ => False := by
    intro port hconn hcarries
    refine hkept.carries _ _ (hother port) hcarries fun t hhalf => ?_
    rw [hhalf] at hconn
    rcases hconn with heq | heq <;> exact Tcp.State.noConfusion heq
  refine ⟨hkept.ip.trans h.ip, hkept.peerIp.trans h.peerIp, ?_, ?_, ?_, ?_⟩
  · exact (hkept.conn _ (hother craft.dutPort)).trans h.listens
  · rw [hkept.conn _ (hother CLOSED_PORT)]
    exact h.closed
  · exact hquiet _ (.inl h.listens) h.quiet
  · exact hquiet _ h.closed h.quietClosed

/-! ## One test -/

/-- What becomes of the device in a test of the session: nothing but on the test's own port, and a connection
of the fixture is gone.
Source: none: infrastructure
Kind: D -/
def ReplyTest.Leaves (craft : Craft) (sport : BitVec 16) (net net' : Network) (test : ReplyTest) : Prop :=
  (∃ port, Kept (port, sport) net net') ∧
    ∀ t, test = .established t → net'.host.conn (craft.dutPort, sport) = .listen

/-- The ports of a session's tests differ, and every one of them is fresh.
Source: none: infrastructure
Kind: D -/
structure Separate (craft : Craft) (net : Network) (items : List SessionTest) : Prop where
  ports : items.Pairwise fun a b => a.port ≠ b.port
  fresh : ∀ item ∈ items, Fresh craft item.port net

/-- What holds between two tests: those that are still to come have their ports to themselves, and the fixture's
connections of those before are gone.
Source: none: infrastructure
Kind: D -/
def Between (craft : Craft) (items rest : List SessionTest) (net : Network) : Prop :=
  ∃ done, items = done ++ rest ∧ Separate craft net rest ∧
    ∀ item ∈ done, ∀ t, item.test = .established t → net.host.conn (craft.dutPort, item.port) = .listen

lemma Between.step {items rest : List SessionTest} {item : SessionTest}
    (hports : items.Pairwise fun a b => a.port ≠ b.port) (h : Between craft items (item :: rest) net)
    (hleaves : item.test.Leaves craft item.port net net') :
    Between craft items rest net' := by
  obtain ⟨done, rfl, hseparate, hdone⟩ := h
  obtain ⟨⟨port, hkept⟩, hgone⟩ := hleaves
  obtain ⟨hfirst, hrest⟩ := List.pairwise_cons.mp hseparate.ports
  refine ⟨done ++ [item], List.append_cons .., ⟨hrest, ?_⟩, ?_⟩
  · intro other hother
    exact (hseparate.fresh other (List.mem_cons_of_mem _ hother)).kept hkept (hfirst other hother)
  · intro other hother t ht
    rcases List.mem_append.mp hother with hbefore | hnow
    · have hne : other.port ≠ item.port :=
        (List.pairwise_append.mp hports).2.2 other hbefore item List.mem_cons_self
      rw [hkept.conn _ fun heq => hne (congrArg Prod.snd heq)]
      exact hdone other hbefore t ht
    · cases List.mem_singleton.mp hnow
      exact hgone t ht

end

end NetstackSuite.Tests
