import NetstackSuite.Tests.HandshakeTests

/-!
# The tests that listen

Some tests send a segment, listen for a while, and pass if nothing arrives that passes their filter. The
filters look at the flags of a frame and not always at whose it is, so such a test is also about the frames
that are there for other reasons: `unseen_iff` says that it passes in every run if and only if no frame that
may arrive passes the filter. One such frame is the SYN-ACK that a device sends again to a test that has
opened a connection and left it half open.
-/

namespace NetstackSuite.Tests

open NetstackSuite.Lib NetstackSuite.PacketEngine NetstackSuite.Python NetstackSuite.Utils

/-! ## The tests -/

section

variable {τ : Type} (craft : Craft) (sourcePort : BitVec 16) (timeout : ℚ)

/-- `p.haslayer(IP) and p[IP].dst == local_ip and p[TCP].dport == source_port`, of a frame with TCP.
Source: `tests/tcp/state_machine/test_challenge_ack.py`, `tests/tcp/congestion/test_zero_window.py` `_rst_to`
Kind: D -/
def isTo (localIp : PyStr) (sport : BitVec 16) (packet : Packet) : Bool :=
  (packet.ip?.any fun ip => ip.dst == localIp) && packet.tcp?.any fun tcp => tcp.dport == sport

/-- Source: `tests/tcp/state_machine/test_challenge_ack.py` `test_data_segment_to_listen_port_is_not_accepted`.
Kind: D -/
def testDataSegmentToListenPortIsNotAccepted : TestScript τ Unit := do
  let packet := craft.tcp sourcePort [.P] (some 1000) 0 none DEFAULT_WINDOW (bytes "unsolicited")
  send packet
  let synAcks ← sniff 1 (3 / 2) fun p => isSynAck (some p) && isTo craft.localIp sourcePort p
  assertThat synAcks.isEmpty

/-- Source: `tests/tcp/syn/test_invalid_syn_flags.py`
`test_contradictory_flag_combination_does_not_establish_connection`. Kind: D -/
def testContradictoryFlagCombinationDoesNotEstablishConnection (flags : List FlagLetter) : TestScript τ Unit := do
  let packet := craft.tcp sourcePort flags (some 1000)
  send packet
  let replies ← sniff 1 (3 / 2) fun p => isBareSynAck (some p)
  assertThat replies.isEmpty

/-- The flags that the test is run with.
Source: `tests/tcp/syn/test_invalid_syn_flags.py`
`test_contradictory_flag_combination_does_not_establish_connection`
Kind: D -/
def CONTRADICTORY_FLAGS : List (List FlagLetter) := [[.S, .F], [.S, .R], [], [.F, .P, .U]]

/-- A handshake, and then window updates, the last of which the test ends with.
Source: `tests/tcp/congestion/test_zero_window.py` `test_zero_window_advertisement_does_not_break_connection`,
`test_window_reopen_after_zero_is_accepted`, `_handshake`, `_rst_to`
Kind: D -/
def testWindowUpdates (windows : List (BitVec 16)) (drawn : Fin (MAX_SEQ + 1)) : TestScript τ Unit := do
  let tracker := TCPSequenceTracker.new drawn
  let (synSeq, tracker) := tracker.onSend { payloadLen := 0, syn := true }
  let syn := craft.tcp sourcePort [.S] (some synSeq)
  let synAck ← sendReceive syn timeout
  assertThat (isSynAck synAck)
  let tcp ← tcpOf synAck
  let tracker := tracker.onReceive tcp.seq.toNat { payloadLen := 0, syn := true }
  send (craft.tcp sourcePort [.A] (some tracker.seq) tracker.ack)
  windows.forM fun window => send (craft.tcp sourcePort [.A] (some tracker.seq) tracker.ack none window)
  let strayRst ← sniff 1 (3 / 2) fun p => isRst (some p) && isTo craft.localIp sourcePort p
  assertThat strayRst.isEmpty

/-- Source: `tests/tcp/congestion/test_zero_window.py`
`test_zero_window_advertisement_does_not_break_connection`. Kind: D -/
def testZeroWindowAdvertisementDoesNotBreakConnection : Fin (MAX_SEQ + 1) → TestScript τ Unit :=
  testWindowUpdates craft sourcePort timeout [0]

end

/-! ## What a test may hear -/

/-- A frame that may arrive while a test listens: one of another host, one that is under way from the device,
or the SYN-ACK of a connection that is half open.
Source: none: specification
Kind: D -/
def Link.MayArrive (link : Link) (net : Network) (frame : Packet) : Prop :=
  (net.host.sent frame = false ∧ link.ambient frame) ∨
    (net.host.sent frame = true ∧ frame ∈ net.inFlight) ∨ net.host.Resends frame

section

variable {τ : Type} {u : τ} {link : Link} {net : Network} {timeout : ℚ} {lfilter : Packet → Bool}

/-- Something is found if something that arrives passes the filter.
Source: Scapy `sniff`
Kind: L -/
lemma isEmpty_scapySniff {frame : Packet} {arrivals : List Packet} (hframe : frame ∈ arrivals)
    (hpass : lfilter frame = true) : (scapySniff 1 lfilter arrivals).isEmpty = false := by
  have hfound : frame ∈ arrivals.filter lfilter := List.mem_filter.mpr ⟨hframe, hpass⟩
  rw [scapySniff, if_neg Nat.one_ne_zero]
  cases hfiltered : arrivals.filter lfilter with
  | nil => exact absurd (hfiltered ▸ hfound) List.not_mem_nil
  | cons first rest => rfl

lemma Host.sent_of_resends {host : Host} {frame : Packet} (h : host.Resends frame) : host.sent frame = true := by
  obtain ⟨ports, t, window, -, rfl⟩ := h
  exact sent_frame host ports window t.synAck

/-- What may arrive can be all that is heard.
Source: none: specification
Kind: L -/
lemma Link.exists_heard {frame : Packet} (h : link.MayArrive net frame) :
    ∃ own, (∀ g ∈ own, g ∈ net.inFlight ∨ net.host.Resends g) ∧ link.Heard net.host own [frame] := by
  have hown : net.host.sent frame = true → frame ∈ net.inFlight ∨ net.host.Resends frame →
      ∃ own, (∀ g ∈ own, g ∈ net.inFlight ∨ net.host.Resends g) ∧ link.Heard net.host own [frame] := by
    intro hsent hfrom
    exact ⟨[frame], List.forall_mem_singleton.mpr hfrom, link.heard_self (List.forall_mem_singleton.mpr hsent)⟩
  rcases h with ⟨hother, hambient⟩ | ⟨hsent, hflight⟩ | hresent
  · refine ⟨[], List.forall_mem_nil _, ?_, List.forall_mem_singleton.mpr (.inr hambient)⟩
    exact List.filter_cons_of_neg (by rw [hother]; exact Bool.false_ne_true)
  · exact hown hsent (.inl hflight)
  · exact hown (Host.sent_of_resends hresent) (.inr hresent)

/-- **A test that ends by hearing nothing** passes in every run if and only if no frame that may arrive passes
its filter.
Source: `src/packet_engine/interface.py` `NetworkInterface.sniff`
Kind: P -/
theorem unseen_iff :
    Always link.world ((sniff 1 timeout lfilter).bind fun found => assertThat found.isEmpty)
      (fun outcome _ _ => outcome = .ok ()) u net ↔
    ∀ frame, link.MayArrive net frame → lfilter frame = false := by
  rw [sniff_bind]
  refine (always_ask (W := link.world) (.sniff 1 timeout lfilter) _).trans ⟨?_, ?_⟩
  · intro hall frame hmay
    obtain ⟨own, hown, hheard⟩ := link.exists_heard hmay
    have hlistens : link.Listens net 1 lfilter (scapySniff 1 lfilter [frame]) { host := net.host } :=
      ⟨own, [frame], rfl, hown, hheard, rfl, List.forall_mem_nil _⟩
    have hrun := hall _ _ hlistens
    by_contra hpass
    rw [assertThat, isEmpty_scapySniff (List.mem_singleton_self frame) (Bool.eq_true_of_not_eq_false hpass)] at hrun
    have hfailed := (always_fail _).mp hrun
    cases hfailed
  · rintro hnone replies net' ⟨own, arrivals, -, hown, hheard, rfl, -⟩
    have hfiltered : arrivals.filter lfilter = [] := by
      apply List.filter_eq_nil_iff.mpr
      intro frame hframe hpass
      have hmay : link.MayArrive net frame := by
        rcases mem_arrivals hheard hframe with hmine | hother
        · have hsent : net.host.sent frame = true := (List.mem_filter.mp (hheard.own ▸ hmine)).2
          exact .inr ((hown frame hmine).imp_left fun hflight => ⟨hsent, hflight⟩)
        · exact .inl hother
      rw [hnone frame hmay] at hpass
      cases hpass
    have hempty : (scapySniff 1 lfilter arrivals).isEmpty = true := by
      rw [scapySniff, if_neg Nat.one_ne_zero, hfiltered]
      rfl
    exact always_assertLast hempty rfl

/-- What a network with more under way lets arrive.
Source: none: infrastructure
Kind: L -/
lemma Link.MayArrive.mono {net' : Network} {frame : Packet} (h : link.MayArrive net frame)
    (hhost : net'.host = net.host) (hflight : net.inFlight ⊆ net'.inFlight) : link.MayArrive net' frame := by
  unfold Link.MayArrive
  rw [hhost]
  exact h.imp_right (Or.imp_left (And.imp_right fun hframe => hflight hframe))

/-- A test that sends a segment first.
Source: `src/packet_engine/interface.py` `NetworkInterface.send`
Kind: L -/
lemma sent_unseen_iff {packet : Packet} {ports : BitVec 16 × BitVec 16} {seg : Tcp.Segment}
    (haddr : Addressed net.host packet ports seg) :
    Always link.world ((send packet).bind fun _ =>
        (sniff 1 timeout lfilter).bind fun found => assertThat found.isEmpty)
      (fun outcome _ _ => outcome = .ok ()) u net ↔
    ∀ c : Tcp.Choice, link.windows c.window → ∀ frame,
      link.MayArrive
        { host := net.host.setConn ports (Tcp.arrive link.conduct c (net.host.conn ports) seg).1
          inFlight := net.inFlight ++ (Tcp.arrive link.conduct c (net.host.conn ports) seg).2.map
            (net.host.frame ports c.window) } frame → lfilter frame = false := by
  constructor
  · intro hall c hwindow
    apply unseen_iff.mp
    refine of_always_send hall ⟨c, hwindow, ?_, ?_⟩
    · rw [arrive_of_addressed haddr]
    · rw [arrive_of_addressed haddr]
      exact fun frame => List.mem_append.mp
  · intro hnone
    rw [send_bind]
    refine (always_ask (W := link.world) (.send packet) _).mpr ?_
    rintro ⟨⟩ net' ⟨c, hwindow, hhost, hflight⟩
    rw [arrive_of_addressed haddr] at hhost hflight
    refine unseen_iff.mpr fun frame hmay => hnone c hwindow frame (hmay.mono hhost.symm ?_)
    exact fun g hg => List.mem_append.mpr (hflight g hg)

/-- The connection of these ports is as it was.
Source: none: infrastructure
Kind: L -/
lemma Host.setConn_self {host : Host} {ports : BitVec 16 × BitVec 16} {st : Tcp.State}
    (h : host.conn ports = st) : host.setConn ports st = host := by
  rw [Host.setConn, ← h, Function.update_eq_self]

/-- A segment that a listener drops leaves a test that listens with what may arrive anyway.
Source: none: specification (RFC 9293)
Kind: L -/
lemma dropped_unseen_iff (lawful : link.Lawful) {packet : Packet} {ports : BitVec 16 × BitVec 16}
    {seg : Tcp.Segment} (haddr : Addressed net.host packet ports seg) (hconn : net.host.conn ports = .listen)
    (hdrop : ∀ c, Tcp.arrive link.conduct c .listen seg = (.listen, [])) :
    Always link.world ((send packet).bind fun _ =>
        (sniff 1 timeout lfilter).bind fun found => assertThat found.isEmpty)
      (fun outcome _ _ => outcome = .ok ()) u net ↔
    ∀ frame, link.MayArrive net frame → lfilter frame = false := by
  refine (sent_unseen_iff haddr).trans ?_
  simp only [hconn, hdrop, Host.setConn_self hconn, List.map_nil, List.append_nil]
  obtain ⟨w, hwindow⟩ := lawful.someWindow
  constructor
  · intro hall
    exact hall { iss := 0, window := w, challenge := true, hold := true } hwindow
  · exact fun hnone _ _ => hnone

end

/-! ## The tests of a listener -/

section

variable {τ : Type} {u : τ} {link : Link} {craft : Craft} {sport : BitVec 16} {net : Network}

/-- **Data to a listener**: the test passes in every run if and only if no SYN-ACK to its own port is about.
Source: `tests/tcp/state_machine/test_challenge_ack.py` `test_data_segment_to_listen_port_is_not_accepted`
Kind: P -/
theorem dataSegmentToListenPort_iff (lawful : link.Lawful) (hip : net.host.ip = craft.dutIp)
    (hpeerIp : net.host.peerIp = craft.localIp) (hconn : net.host.conn (craft.dutPort, sport) = .listen) :
    Always link.world (testDataSegmentToListenPortIsNotAccepted craft sport)
      (fun outcome _ _ => outcome = .ok ()) u net ↔
    ∀ frame, link.MayArrive net frame → isTo craft.localIp sport frame = true → isSynAck (some frame) = false := by
  have hgoes := goes_tcp craft sport [.P] 1000 0 none DEFAULT_WINDOW (bytes "unsolicited")
  refine (dropped_unseen_iff lawful (hgoes.addressed_host hip hpeerIp) hconn fun c => rfl).trans ?_
  refine forall₂_congr fun frame _ => ?_
  rw [Bool.and_eq_false_iff]
  constructor
  · rintro (hnot | hnot) hto
    · exact hnot
    · rw [hnot] at hto
      cases hto
  · intro himp
    cases hto : isTo craft.localIp sport frame
    · exact .inr rfl
    · exact .inl (himp hto)

lemma isBareSynAck_frame (host : Host) (ports : BitVec 16 × BitVec 16) (window : Nat) (t : Tcp.Tcb) :
    isBareSynAck (some (host.frame ports window t.synAck)) = true := by
  have hletters : lettersOf t.synAck = [.S, .A] := rfl
  have hbare : anyFlags (flagByte [.S, .A]) (FIN ||| RST) = false := by decide
  rw [isBareSynAck, isSynAck_of_segment (segment?_frame ..), flagsOf_of_tcp (tcp?_frame ..), hletters, hbare]
  rfl

/-- **Contradictory flags**: the test passes in every run if and only if no connection of the device is half
open, on any port, no bare SYN-ACK is on its way or comes from another host, and the device does not take a
SYN with a FIN for a SYN.
Source: `tests/tcp/syn/test_invalid_syn_flags.py`
`test_contradictory_flag_combination_does_not_establish_connection`
Kind: P -/
theorem contradictoryFlags_iff (lawful : link.Lawful) {flags : List FlagLetter}
    (hflags : flags ∈ CONTRADICTORY_FLAGS) (hip : net.host.ip = craft.dutIp)
    (hpeerIp : net.host.peerIp = craft.localIp) (hconn : net.host.conn (craft.dutPort, sport) = .listen) :
    Always link.world (testContradictoryFlagCombinationDoesNotEstablishConnection craft sport flags)
      (fun outcome _ _ => outcome = .ok ()) u net ↔
    (∀ ports t, net.host.conn ports ≠ .synReceived t) ∧
      (∀ frame, (net.host.sent frame = false ∧ link.ambient frame) ∨
        (net.host.sent frame = true ∧ frame ∈ net.inFlight) → isBareSynAck (some frame) = false) ∧
      (flags = [.S, .F] → link.conduct.takesSynFin = false) := by
  have hgoes := goes_tcp craft sport flags 1000 0 none DEFAULT_WINDOW []
  have haddr := hgoes.addressed_host hip hpeerIp
  by_cases htaken : flags = [.S, .F] ∧ link.conduct.takesSynFin = true
  · -- the device is half open behind the segment, and may send its SYN-ACK again
    obtain ⟨rfl, htakes⟩ := htaken
    obtain ⟨w, hwindow⟩ := lawful.someWindow
    let c : Tcp.Choice := { iss := 0, window := w, challenge := true, hold := true }
    have harrive : (Tcp.arrive link.conduct c (net.host.conn (craft.dutPort, sport))
        (flagged [.S, .F] 1000 0 0)).1 = .synReceived (Tcp.opened 0 1000) := by
      rw [hconn]
      simp [Tcp.arrive, flagged, htakes, Tcp.opened, c]
    constructor
    · intro hall
      have hquiet := (sent_unseen_iff haddr).mp hall c hwindow
      have hhalf : (net.host.setConn (craft.dutPort, sport) (.synReceived (Tcp.opened 0 1000))).conn
          (craft.dutPort, sport) = .synReceived (Tcp.opened 0 1000) := Function.update_self ..
      have hseen := hquiet _ (.inr (.inr ⟨(craft.dutPort, sport), Tcp.opened 0 1000, 0, harrive.symm ▸ hhalf, rfl⟩))
      rw [isBareSynAck_frame] at hseen
      cases hseen
    · intro hnone
      rw [hnone.2.2 rfl] at htakes
      cases htakes
  · have hdrop : ∀ c, Tcp.arrive link.conduct c .listen
        (flagged flags (BitVec.ofNat 32 1000) (BitVec.ofNat 32 0) 0) = (.listen, []) := by
      intro c
      have htakes : flags = [.S, .F] → link.conduct.takesSynFin = false := fun heq =>
        Bool.eq_false_iff.mpr fun htrue => htaken ⟨heq, htrue⟩
      simp only [CONTRADICTORY_FLAGS, List.mem_cons, List.not_mem_nil, or_false] at hflags
      rcases hflags with rfl | rfl | rfl | rfl
      · simp [Tcp.arrive, flagged, htakes rfl]
      · rfl
      · rfl
      · rfl
    refine (dropped_unseen_iff lawful haddr hconn hdrop).trans ?_
    constructor
    · intro hnone
      refine ⟨?_, fun frame hframe => hnone frame (hframe.imp_right .inl), ?_⟩
      · intro ports t hhalf
        have hseen := hnone _ (.inr (.inr ⟨ports, t, 0, hhalf, rfl⟩))
        rw [isBareSynAck_frame] at hseen
        cases hseen
      · exact fun heq => Bool.eq_false_iff.mpr fun htrue => htaken ⟨heq, htrue⟩
    · rintro ⟨hopen, hothers, -⟩ frame (hother | hflight | ⟨ports, t, window, hhalf, -⟩)
      · exact hothers frame (.inl hother)
      · exact hothers frame (.inr hflight)
      · exact absurd hhalf (hopen ports t)

/-- With nobody about, the verdict is about the device alone.
Source: `tests/tcp/syn/test_invalid_syn_flags.py`
`test_contradictory_flag_combination_does_not_establish_connection`
Kind: L -/
theorem contradictoryFlags_sample :
    Always (plainLink {}).world
      (testContradictoryFlagCombinationDoesNotEstablishConnection sampleCraft 49152 [.S, .F])
      (fun outcome _ _ => outcome = .ok ()) () (idleNetwork sampleCraft) ∧
    ¬ Always (plainLink { takesSynFin := true }).world
      (testContradictoryFlagCombinationDoesNotEstablishConnection sampleCraft 49152 [.S, .F])
      (fun outcome _ _ => outcome = .ok ()) () (idleNetwork sampleCraft) := by
  constructor
  · refine (contradictoryFlags_iff (lawful_plainLink {}) List.mem_cons_self rfl rfl
      (conn_idle sampleCraft 49152)).mpr ⟨not_halfOpen_idle sampleCraft, ?_, fun _ => rfl⟩
    rintro frame (⟨-, hambient⟩ | ⟨-, hflight⟩)
    · exact hambient.elim
    · exact absurd hflight List.not_mem_nil
  · intro hall
    have htaken := ((contradictoryFlags_iff (lawful_plainLink _) List.mem_cons_self rfl rfl
      (conn_idle sampleCraft 49152)).mp hall).2.2 rfl
    exact Bool.false_ne_true htaken.symm

end

/-! ## The tests of a handshake -/

section

variable {τ : Type} {u : τ} {link : Link} {craft : Craft} {sport : BitVec 16} {net : Network} {timeout : ℚ}
  {drawn : Fin (MAX_SEQ + 1)}

/-- The endpoint of the test's ports is established: it expects the number after that of the test's SYN, and
nothing of its own is unacknowledged.
Source: none: specification (RFC 9293)
Kind: D -/
def Established (craft : Craft) (sport : BitVec 16) (drawn : Fin (MAX_SEQ + 1)) (net : Network) : Prop :=
  ∃ iss, net.host.conn (craft.dutPort, sport) =
    .established (Tcp.synced (BitVec.ofNat 32 drawn.val + 1) (iss + 1))

end

end NetstackSuite.Tests
