import NetstackSuite.Lib.First
import NetstackSuite.PacketEngine.Interface

/-!
# Server-role responders

In server role the suite waits for the device under test to start a conversation and then answers.
The three responders share `serveOnce`; `serveTcpHandshake` listens a second time, for the final
acknowledgement of the handshake.

`handshake_sound_iff` is the result: a returned frame is evidence of a completed handshake exactly if
the second window has no stray segment before the device's own acknowledgement. The second filter asks
for a segment to our port with ACK and without SYN, whoever sent it and whatever it acknowledges.
-/

namespace NetstackSuite.PacketEngine

open NetstackSuite.Lib NetstackSuite.Python NetstackSuite.Reporting NetstackSuite.Utils

/-! ## Reply builders -/

/-- The SYN-ACK a server returns to a SYN. `randint` is the number `random.randint(0, MAX_SEQ)` drew.
Source: `src/packet_engine/responder.py` `build_syn_ack_reply`
Kind: D -/
def buildSynAckReply (syn : Packet) (localMac : PyStr) (serverIsn : Option (BitVec 32))
    (window : Option (BitVec 16)) (randint : BitVec 32) : Except PyExc Packet := do
  let ip ← layerOf syn.ip?
  let tcp ← layerOf syn.tcp?
  let isn := serverIsn.getD randint
  let ether ← layerOf syn.ether?
  return [
    .ether { src := localMac, dst := ether.src },
    .ip { src := ip.dst, dst := ip.src },
    .tcp {
      sport := tcp.dport
      dport := tcp.sport
      flags := SYN_ACK
      seq := isn
      ack := BitVec.ofNat 32 (seq32 (tcp.seq.toNat + 1))
      window := window.getD tcp.window }]

/-- The L7 bytes to mirror back, or empty when the packet carried none.
Source: `src/packet_engine/responder.py` `_echo_payload`
Kind: D -/
def echoPayload (packet : Packet) : Bytes := packet.raw?.getD []

/-- L2 and L3 of a reply: source and destination swapped.
Source: `src/packet_engine/responder.py` `_reply_headers`
Kind: D -/
def replyHeaders (received : Packet) (localMac : PyStr) : Except PyExc Packet := do
  let ip ← layerOf received.ip?
  let ether ← layerOf received.ether?
  return [.ether { src := localMac, dst := ether.src }, .ip { src := ip.dst, dst := ip.src }]

/-- Echoes a UDP datagram back to its sender.
Source: `src/packet_engine/responder.py` `build_udp_echo_reply`
Kind: D -/
def buildUdpEchoReply (datagram : Packet) (localMac : PyStr) : Except PyExc Packet := do
  let udp ← layerOf datagram.udp?
  let headers ← replyHeaders datagram localMac
  return headers ++
    [.udp { sport := udp.dport, dport := udp.sport }, .raw (echoPayload datagram)]

/-- Source: `src/packet_engine/responder.py` `ICMP_ECHO_REPLY`. Kind: D -/
def ICMP_ECHO_REPLY : BitVec 8 := 0

/-- Source: `src/packet_engine/responder.py` `ICMP_ECHO_REQUEST`. Kind: D -/
def ICMP_ECHO_REQUEST : BitVec 8 := 8

/-- The Echo Reply to a received Echo Request.
Source: `src/packet_engine/responder.py` `build_icmp_echo_reply`
Kind: D -/
def buildIcmpEchoReply (request : Packet) (localMac : PyStr) : Except PyExc Packet := do
  let icmp ← layerOf request.icmp?
  let headers ← replyHeaders request localMac
  return headers ++
    [.icmp { type := ICMP_ECHO_REPLY, id := icmp.id, seq := icmp.seq }, .raw (echoPayload request)]

/-! ## Filters -/

/-- The filter prefix every responder needs: the right L4 layer, an IP header, and destined for us.
Source: `src/packet_engine/responder.py` `_addressed_to_us`
Kind: D -/
def addressedToUs (localIp : PyStr) (haslayer : Packet → Bool) (packet : Packet) : Bool :=
  haslayer packet && packet.ip?.any fun ip => ip.dst == localIp

/-- What both filters of `serve_tcp_handshake` ask, and the flags one set and one clear.
Source: `src/packet_engine/responder.py` `serve_tcp_handshake`
Kind: D -/
def toListenPort (localIp : PyStr) (listenPort : Int) (set clear : Flags) (packet : Packet) : Bool :=
  addressedToUs localIp (fun p => p.tcp?.isSome) packet &&
    packet.tcp?.any fun tcp =>
      (tcp.dport.toNat : Int) == listenPort && anyFlags tcp.flags set && !anyFlags tcp.flags clear

/-- The filter of the first window: the device opens a connection.
Source: `src/packet_engine/responder.py` `serve_tcp_handshake`
Kind: D -/
def opensConnection (localIp : PyStr) (listenPort : Int) : Packet → Bool :=
  toListenPort localIp listenPort SYN ACK

/-- The filter of the second window.
Source: `src/packet_engine/responder.py` `serve_tcp_handshake`
Kind: D -/
def acknowledges (localIp : PyStr) (listenPort : Int) : Packet → Bool :=
  toListenPort localIp listenPort ACK SYN

/-! ## Orchestration -/

/-- Waits for one matching packet, answers it and returns it.
Source: `src/packet_engine/responder.py` `_serve_once`
Kind: D -/
def serveOnce (interface : NetworkInterface) (lfilter : Packet → Bool)
    (buildReply : Packet → Except PyExc Packet) (testNodeid : Option PyStr) :
    Except PyExc (Option Packet) × NetworkInterface :=
  match interface.sniff 1 lfilter testNodeid with
  | ([], interface) => (.ok none, interface)
  | (received :: _, interface) =>
    match buildReply received with
    | .error e => (.error e, interface)
    | .ok reply =>
      match interface.send reply testNodeid with
      | (interface, some e) => (.error e, interface)
      | (interface, none) => (.ok (some received), interface)

/-- Waits for the device to open a connection, replies SYN-ACK, and returns the final ACK.
Source: `src/packet_engine/responder.py` `serve_tcp_handshake`
Kind: D -/
def serveTcpHandshake (interface : NetworkInterface) (localIp localMac : PyStr) (listenPort : Int)
    (testNodeid : Option PyStr) (randint : BitVec 32) :
    Except PyExc (Option Packet) × NetworkInterface :=
  match serveOnce interface (opensConnection localIp listenPort)
      (fun p => buildSynAckReply p localMac none none randint) testNodeid with
  | (.error e, interface) => (.error e, interface)
  | (.ok none, interface) => (.ok none, interface)
  | (.ok (some _), interface) =>
    let (acks, interface) := interface.sniff 1 (acknowledges localIp listenPort) testNodeid
    (.ok acks.head?, interface)

/-- Waits for a datagram and echoes it.
Source: `src/packet_engine/responder.py` `serve_udp_echo`
Kind: D -/
def serveUdpEcho (interface : NetworkInterface) (localIp localMac : PyStr) (listenPort : Int)
    (testNodeid : Option PyStr) : Except PyExc (Option Packet) × NetworkInterface :=
  serveOnce interface
    (fun packet => addressedToUs localIp (fun p => p.udp?.isSome) packet &&
      packet.udp?.any fun udp => (udp.dport.toNat : Int) == listenPort)
    (fun packet => buildUdpEchoReply packet localMac) testNodeid

/-- Waits for an Echo Request and answers it.
Source: `src/packet_engine/responder.py` `serve_icmp_echo`
Kind: D -/
def serveIcmpEcho (interface : NetworkInterface) (localIp localMac : PyStr)
    (testNodeid : Option PyStr) : Except PyExc (Option Packet) × NetworkInterface :=
  serveOnce interface
    (fun packet => addressedToUs localIp (fun p => p.icmp?.isSome) packet &&
      packet.icmp?.any fun icmp => icmp.type == ICMP_ECHO_REQUEST)
    (fun packet => buildIcmpEchoReply packet localMac) testNodeid

/-! ## What the responders return -/

/-- The interface after one exchange: a frame received, its reply sent.
Source: `src/packet_engine/responder.py` `_serve_once`
Kind: D -/
def NetworkInterface.exchanged (interface : NetworkInterface) (received reply : Packet)
    (testNodeid : Option PyStr) : NetworkInterface :=
  (interface.listened.record .received testNodeid [received]).record .sent testNodeid [reply]

section ServeOnce

variable (interface : NetworkInterface) (lfilter : Packet → Bool)
  (buildReply : Packet → Except PyExc Packet) (testNodeid : Option PyStr)

/-- Nothing matched.
Source: `src/packet_engine/responder.py` `_serve_once`
Kind: L -/
lemma serveOnce_of_none (hfirst : interface.first lfilter = none) :
    serveOnce interface lfilter buildReply testNodeid =
      (.ok none, interface.listened.record .received testNodeid []) := by
  unfold serveOnce
  rw [NetworkInterface.sniff_one, hfirst]
  rfl

/-- A frame matched that no reply can be built to.
Source: `src/packet_engine/responder.py` `_serve_once`
Kind: L -/
lemma serveOnce_of_unanswerable {received : Packet} {e : PyExc}
    (hfirst : interface.first lfilter = some received) (hreply : buildReply received = .error e) :
    serveOnce interface lfilter buildReply testNodeid =
      (.error e, interface.listened.record .received testNodeid [received]) := by
  unfold serveOnce
  rw [NetworkInterface.sniff_one, hfirst]
  simp only [Option.toList_some, hreply]

/-- The reply was refused by the socket.
Source: `src/packet_engine/responder.py` `_serve_once`
Kind: L -/
lemma serveOnce_of_refused {received reply : Packet} {e : PyExc}
    (hfirst : interface.first lfilter = some received) (hreply : buildReply received = .ok reply)
    (hsend : interface.sendp reply = .error e) :
    serveOnce interface lfilter buildReply testNodeid =
      (.error e, interface.listened.record .received testNodeid [received]) := by
  unfold serveOnce
  rw [NetworkInterface.sniff_one, hfirst]
  simp only [Option.toList_some, hreply, NetworkInterface.send, NetworkInterface.sendp_record,
    NetworkInterface.sendp_listened, hsend]

/-- A frame matched and its reply went out.
Source: `src/packet_engine/responder.py` `_serve_once`
Kind: L -/
lemma serveOnce_of_sent {received reply : Packet}
    (hfirst : interface.first lfilter = some received) (hreply : buildReply received = .ok reply)
    (hsend : interface.sendp reply = .ok ()) :
    serveOnce interface lfilter buildReply testNodeid =
      (.ok (some received), interface.exchanged received reply testNodeid) := by
  unfold serveOnce
  rw [NetworkInterface.sniff_one, hfirst]
  simp only [Option.toList_some, hreply, NetworkInterface.send, NetworkInterface.sendp_record,
    NetworkInterface.sendp_listened, hsend]
  rfl

/-- **`_serve_once` returns a frame exactly if it was the first to match and its reply went out.**
Source: `src/packet_engine/responder.py` `_serve_once`
Kind: P -/
theorem serveOnce_eq_some_iff (received : Packet) (after : NetworkInterface) :
    serveOnce interface lfilter buildReply testNodeid = (.ok (some received), after) ↔
      ∃ reply, interface.first lfilter = some received ∧ buildReply received = .ok reply ∧
        interface.sendp reply = .ok () ∧ after = interface.exchanged received reply testNodeid := by
  constructor
  · intro h
    rcases hfirst : interface.first lfilter with _ | packet
    · rw [serveOnce_of_none _ _ _ _ hfirst] at h
      simp at h
    rcases hreply : buildReply packet with e | reply
    · rw [serveOnce_of_unanswerable _ _ _ _ hfirst hreply] at h
      simp at h
    rcases hsend : interface.sendp reply with e | ⟨⟩
    · rw [serveOnce_of_refused _ _ _ _ hfirst hreply hsend] at h
      simp at h
    · rw [serveOnce_of_sent _ _ _ _ hfirst hreply hsend] at h
      obtain ⟨rfl, rfl⟩ : packet = received ∧ _ = after := by simpa using h
      exact ⟨reply, rfl, hreply, hsend, rfl⟩
  · rintro ⟨reply, hfirst, hreply, hsend, rfl⟩
    exact serveOnce_of_sent _ _ _ _ hfirst hreply hsend

end ServeOnce

/-! ## The handshake -/

section Handshake

variable (interface : NetworkInterface) (localIp localMac : PyStr) (listenPort : Int)
  (testNodeid : Option PyStr) (randint : BitVec 32)

/-- **`serve_tcp_handshake` returns a frame exactly if a SYN was answered and this frame was the first
of the second window to pass the second filter.**
Source: `src/packet_engine/responder.py` `serve_tcp_handshake`
Kind: P -/
theorem serveTcpHandshake_eq_some_iff (final : Packet) (after : NetworkInterface) :
    serveTcpHandshake interface localIp localMac listenPort testNodeid randint =
        (.ok (some final), after) ↔
      ∃ syn synAck, interface.first (opensConnection localIp listenPort) = some syn ∧
        buildSynAckReply syn localMac none none randint = .ok synAck ∧
        interface.sendp synAck = .ok () ∧
        interface.listened.first (acknowledges localIp listenPort) = some final ∧
        after = (interface.exchanged syn synAck testNodeid).listened.record .received testNodeid
          [final] := by
  unfold serveTcpHandshake
  constructor
  · intro h
    split at h
    · simp at h
    · simp at h
    next syn exchanged hserve =>
      obtain ⟨synAck, hfirst, hreply, hsend, rfl⟩ :=
        (serveOnce_eq_some_iff _ _ _ _ _ _).mp hserve
      simp only [NetworkInterface.sniff_one, Option.head?_toList, Prod.mk.injEq,
        Except.ok.injEq] at h
      obtain ⟨hfinal, rfl⟩ := h
      refine ⟨syn, synAck, hfirst, hreply, hsend, hfinal, ?_⟩
      rw [hfinal, Option.toList_some]
  · rintro ⟨syn, synAck, hfirst, hreply, hsend, hfinal, rfl⟩
    rw [(serveOnce_eq_some_iff _ _ _ _ _ _).mpr ⟨synAck, hfirst, hreply, hsend, rfl⟩]
    have hsecond : (interface.exchanged syn synAck testNodeid).first
        (acknowledges localIp listenPort) = some final := hfinal
    simp only [NetworkInterface.sniff_one, hsecond, Option.toList_some, List.head?_cons]

end Handshake

/-- The two ends of a connection, as the segment's sender writes them.
Source: none: specification
Kind: D -/
structure Connection where
  src : PyStr
  sport : BitVec 16
  dst : PyStr
  dport : BitVec 16
  deriving DecidableEq, Repr

/-- The connection a segment belongs to.
Source: none: specification
Kind: D -/
def Packet.connection? (packet : Packet) : Option Connection := do
  let ip ← packet.ip?
  let tcp ← packet.tcp?
  return { src := ip.src, sport := tcp.sport, dst := ip.dst, dport := tcp.dport }

/-- `final` ends the handshake that `syn` began and `synAck` answered: it is a segment of the same
connection, with ACK and neither SYN nor RST, that acknowledges the SYN-ACK's sequence number.
Source: none: specification
Kind: D -/
def CompletesHandshake (syn synAck final : Packet) : Prop :=
  ∃ opened answer tcp, syn.connection? = some opened ∧ synAck.tcp? = some answer ∧
    final.connection? = some opened ∧ final.tcp? = some tcp ∧
    anyFlags tcp.flags ACK = true ∧ anyFlags tcp.flags SYN = false ∧
    anyFlags tcp.flags RST = false ∧ tcp.ack.toNat = (answer.seq.toNat + 1) % 2 ^ 32

section Soundness

variable (interface : NetworkInterface) (localIp localMac : PyStr) (listenPort : Int)
  (testNodeid : Option PyStr) (randint : BitVec 32)

/-- A returned frame is evidence: of what the call recorded, the last frame is the one returned, and
it ends the handshake of the first two.
Source: none: specification
Kind: D -/
def HandshakeSound : Prop :=
  ∀ final after,
    serveTcpHandshake interface localIp localMac listenPort testNodeid randint =
      (.ok (some final), after) →
    ∃ syn synAck, after.recorded = interface.recorded ++
        [{ direction := .received, packet := syn, testNodeid },
          { direction := .sent, packet := synAck, testNodeid },
          { direction := .received, packet := final, testNodeid }] ∧
      CompletesHandshake syn synAck final

/-- A segment that passes the second filter is the peer's own acknowledgement: it comes from the
address and port of the SYN, is no reset, and acknowledges the ISN that was drawn.
Source: none: specification
Kind: D -/
def PeerAcknowledges (syn packet : Packet) : Prop :=
  ∃ opened c tcp, syn.connection? = some opened ∧ packet.connection? = some c ∧
    packet.tcp? = some tcp ∧ c.src = opened.src ∧ c.sport = opened.sport ∧
    anyFlags tcp.flags RST = false ∧ tcp.ack = randint + 1

/-- When a SYN was answered, no stray segment with ACK and without SYN reaches our port in the second
window before the peer's own acknowledgement.
Source: none: specification
Kind: D -/
def NoStrayBeforePeer : Prop :=
  ∀ syn synAck, interface.first (opensConnection localIp listenPort) = some syn →
    buildSynAckReply syn localMac none none randint = .ok synAck →
    interface.sendp synAck = .ok () →
    ∀ before stray rest, interface.listened.windows.headD [] = before ++ stray :: rest →
      acknowledges localIp listenPort stray = true → ¬ PeerAcknowledges randint syn stray →
      ∃ ack ∈ before, acknowledges localIp listenPort ack = true ∧ PeerAcknowledges randint syn ack

/-- What a handshake that returned a frame has recorded.
Source: `src/packet_engine/interface.py` `NetworkInterface._record`
Kind: L -/
lemma recorded_exchanged_listened (syn synAck final : Packet) :
    ((interface.exchanged syn synAck testNodeid).listened.record .received testNodeid
        [final]).recorded =
      interface.recorded ++
        [{ direction := .received, packet := syn, testNodeid },
          { direction := .sent, packet := synAck, testNodeid },
          { direction := .received, packet := final, testNodeid }] := by
  unfold NetworkInterface.exchanged
  simp

variable {localIp localMac listenPort randint}

/-- What the two filters let through.
Source: `src/packet_engine/responder.py` `serve_tcp_handshake`
Kind: L -/
lemma toListenPort_iff {set clear : Flags} {packet : Packet} :
    toListenPort localIp listenPort set clear packet = true ↔
      ∃ ip tcp, packet.ip? = some ip ∧ packet.tcp? = some tcp ∧ ip.dst = localIp ∧
        (tcp.dport.toNat : Int) = listenPort ∧ anyFlags tcp.flags set = true ∧
        anyFlags tcp.flags clear = false := by
  unfold toListenPort addressedToUs
  rcases hip : packet.ip? with _ | ip <;> rcases htcp : packet.tcp? with _ | tcp <;>
    simp [htcp, and_assoc]

/-- The SYN-ACK carries the ISN that was drawn, and acknowledges the SYN.
Source: `src/packet_engine/responder.py` `build_syn_ack_reply`
Kind: L -/
lemma tcp?_buildSynAckReply {syn synAck : Packet} {serverIsn : Option (BitVec 32)}
    {window : Option (BitVec 16)}
    (hreply : buildSynAckReply syn localMac serverIsn window randint = .ok synAck) :
    ∃ opened tcp, syn.tcp? = some opened ∧ synAck.tcp? = some tcp ∧
      tcp.seq = serverIsn.getD randint ∧ tcp.ack = opened.seq + 1 := by
  unfold buildSynAckReply at hreply
  rcases hip : syn.ip? with _ | ip <;> rcases htcp : syn.tcp? with _ | tcp <;>
    rcases hether : syn.ether? with _ | ether <;>
    simp only [hip, htcp, hether, layerOf, bind, Except.bind, pure, Except.pure, reduceCtorEq,
      Except.ok.injEq] at hreply
  subst hreply
  refine ⟨tcp, _, rfl, rfl, rfl, ?_⟩
  apply BitVec.eq_of_toNat_eq
  simp [seq32_eq_mod]

/-- Given what the filters check, a completed handshake is the peer's own acknowledgement.
Source: `src/packet_engine/responder.py` `serve_tcp_handshake`
Kind: L -/
lemma completesHandshake_iff {syn synAck final : Packet}
    (hsyn : opensConnection localIp listenPort syn = true)
    (hreply : buildSynAckReply syn localMac none none randint = .ok synAck)
    (hfinal : acknowledges localIp listenPort final = true) :
    CompletesHandshake syn synAck final ↔ PeerAcknowledges randint syn final := by
  obtain ⟨ipS, tcpS, hipS, htcpS, hdstS, hportS, -, -⟩ := toListenPort_iff.mp hsyn
  obtain ⟨ipF, tcpF, hipF, htcpF, hdstF, hportF, hack, hnosyn⟩ := toListenPort_iff.mp hfinal
  obtain ⟨_, answer, -, hanswer, hseq, -⟩ := tcp?_buildSynAckReply hreply
  have hdport : tcpF.dport = tcpS.dport := BitVec.eq_of_toNat_eq (by omega)
  have hcS : syn.connection? = some ⟨ipS.src, tcpS.sport, ipS.dst, tcpS.dport⟩ := by
    simp [Packet.connection?, hipS, htcpS]
  have hcF : final.connection? = some ⟨ipF.src, tcpF.sport, ipF.dst, tcpF.dport⟩ := by
    simp [Packet.connection?, hipF, htcpF]
  have hnext : tcpF.ack.toNat = (answer.seq.toNat + 1) % 2 ^ 32 ↔ tcpF.ack = randint + 1 := by
    rw [hseq, Option.getD_none, ← BitVec.toNat_inj, BitVec.toNat_add]
    rfl
  constructor
  · rintro ⟨opened, answer', tcp, hopened, hanswer', hconn, htcp, -, -, hrst, hnum⟩
    obtain rfl : answer = answer' := Option.some.inj (hanswer.symm.trans hanswer')
    obtain rfl : tcpF = tcp := Option.some.inj (htcpF.symm.trans htcp)
    exact ⟨opened, opened, tcpF, hopened, hconn, htcp, rfl, rfl, hrst, hnext.mp hnum⟩
  · rintro ⟨opened, c, tcp, hopened, hc, htcp, hsrc, hsport, hrst, hnum⟩
    obtain rfl : tcpF = tcp := Option.some.inj (htcpF.symm.trans htcp)
    obtain rfl := Option.some.inj (hcS.symm.trans hopened)
    obtain rfl := Option.some.inj (hcF.symm.trans hc)
    refine ⟨_, answer, tcpF, hcS, hanswer, ?_, htcpF, hack, hnosyn, hrst, hnext.mpr hnum⟩
    rw [hcF]
    simp only at hsrc hsport
    rw [hsrc, hsport, hdport, hdstF, hdstS]

variable (localIp localMac listenPort randint)

/-- **The second filter finds completed handshakes only, exactly if no stray segment comes first.**
Source: `src/packet_engine/responder.py` `serve_tcp_handshake`
Kind: P -/
theorem handshake_sound_iff :
    HandshakeSound interface localIp localMac listenPort testNodeid randint ↔
      NoStrayBeforePeer interface localIp localMac listenPort randint := by
  have hfirst (syn : Packet) := find?_satisfies_iff (acknowledges localIp listenPort)
    (PeerAcknowledges randint syn) (interface.listened.windows.headD [])
  constructor
  · intro hsound syn synAck hsyn hreply hsend
    apply (hfirst syn).mp
    intro final hfinal
    have hrun := (serveTcpHandshake_eq_some_iff interface localIp localMac listenPort testNodeid
      randint final _).mpr ⟨syn, synAck, hsyn, hreply, hsend, hfinal, rfl⟩
    obtain ⟨syn', synAck', hrecorded, hcompletes⟩ := hsound final _ hrun
    have hlog := recorded_exchanged_listened interface testNodeid syn synAck final
    rw [hlog, List.append_cancel_left_eq] at hrecorded
    obtain ⟨rfl, rfl⟩ : syn = syn' ∧ synAck = synAck' := by simpa using hrecorded
    exact (completesHandshake_iff (List.find?_some hsyn) hreply (List.find?_some hfinal)).mp
      hcompletes
  · intro hstray final after hrun
    obtain ⟨syn, synAck, hsyn, hreply, hsend, hfinal, rfl⟩ :=
      (serveTcpHandshake_eq_some_iff _ _ _ _ _ _ _ _).mp hrun
    refine ⟨syn, synAck, recorded_exchanged_listened interface testNodeid syn synAck final, ?_⟩
    have hpeer := (hfirst syn).mpr (hstray syn synAck hsyn hreply hsend) final hfinal
    exact (completesHandshake_iff (List.find?_some hsyn) hreply (List.find?_some hfinal)).mpr hpeer

end Soundness

/-! ### A reset from somebody else -/

/-- A TCP segment to port 80 of the suite.
Source: `tests_internal/test_responder.py`
Kind: D -/
def segmentToUs (src : PyStr) (sport : BitVec 16) (flags : Flags) (seq ack : BitVec 32) : Packet :=
  [.ether { src := text "bb:bb:bb:bb:bb:bb", dst := text "aa:aa:aa:aa:aa:aa" },
    .ip { src, dst := text "10.0.0.1" },
    .tcp { sport, dport := 80, seq, ack, flags, window := 8192 }]

/-- The SYN of the device under test.
Source: `tests_internal/test_responder.py`
Kind: D -/
def dutSyn : Packet := segmentToUs (text "10.0.0.9") 50000 SYN 42 0

/-- A reset from a third host that acknowledges nothing of ours.
Source: none: example
Kind: D -/
def strayReset : Packet := segmentToUs (text "10.0.0.77") 4444 (RST ||| ACK) 0 7

/-- **Someone else's reset counts as a completed handshake.**
Source: `src/packet_engine/responder.py` `serve_tcp_handshake`
Kind: P -/
theorem handshake_taken_from_stranger :
    ¬ ∀ (interface : NetworkInterface) (localIp localMac : PyStr) (listenPort : Int)
        (testNodeid : Option PyStr) (randint : BitVec 32),
      HandshakeSound interface localIp localMac listenPort testNodeid randint := by
  intro hsound
  let interface : NetworkInterface := { windows := [[dutSyn], [strayReset]] }
  obtain ⟨after, hrun, hfirst⟩ : ∃ after,
      serveTcpHandshake interface (text "10.0.0.1") (text "aa:aa:aa:aa:aa:aa") 80 none 1000 =
        (.ok (some strayReset), after) ∧
      after.recorded.head? = some { direction := .received, packet := dutSyn } :=
    ⟨_, rfl, rfl⟩
  obtain ⟨syn, synAck, hrecorded, opened, -, -, hopened, -, hconn, -⟩ :=
    hsound interface _ _ 80 none 1000 strayReset after hrun
  obtain rfl : dutSyn = syn := by
    rw [hrecorded] at hfirst
    exact (RecordedFrame.mk.inj (Option.some.inj hfirst)).2.1.symm
  have hsame : strayReset.connection? = dutSyn.connection? := hconn.trans hopened.symm
  exact absurd hsame (by decide +kernel)

end NetstackSuite.PacketEngine
