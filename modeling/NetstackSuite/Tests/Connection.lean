import NetstackSuite.PacketEngine.Sequence
import NetstackSuite.Tests.Network
import NetstackSuite.Tests.SequencePrediction

/-!
# A connection to the device

`tests/tcp/conftest.py` and `tests/tcp/state_machine/conftest.py`: the fixture that opens a connection and
resets it when the test is over, and the probes that are built from a connection. Its tracker is the suite's
idea of where the device is in the sequence space; `established_spec` says that behind the handshake the idea
is right, whatever numbers the two sides began with.

`Talk` is what the proofs about tests carry along: the state of one endpoint, what may be under way from it,
and that nothing else has changed.
-/

namespace NetstackSuite.Tests

open NetstackSuite.Lib NetstackSuite.PacketEngine NetstackSuite.Python NetstackSuite.Utils

/-! ## What tests are made of -/

section

variable {τ : Type}

/-- Source: `src/packet_engine/interface.py` `NetworkInterface.send`. Kind: D -/
def send (packet : Packet) : TestScript τ Unit := .ask (.send packet) fun _ => .done ()

/-- Source: `src/packet_engine/interface.py` `NetworkInterface.send_receive`. Kind: D -/
def sendReceive (packet : Packet) (timeout : ℚ) : TestScript τ (Option Packet) :=
  .ask (.sendReceive packet timeout) fun reply : Option Packet => .done reply

/-- Source: `src/packet_engine/interface.py` `NetworkInterface.sniff`. Kind: D -/
def sniff (count : Nat) (timeout : ℚ) (lfilter : Packet → Bool) : TestScript τ (List Packet) :=
  .ask (.sniff count timeout lfilter) fun replies : List Packet => .done replies

@[simp] lemma send_bind {α : Type} (packet : Packet) (k : Unit → TestScript τ α) :
    (send packet).bind k = .ask (.send packet) fun _ => k () := rfl

@[simp] lemma sendReceive_bind {α : Type} (packet : Packet) (timeout : ℚ)
    (k : Option Packet → TestScript τ α) :
    (sendReceive packet timeout).bind k = .ask (.sendReceive packet timeout) k := rfl

@[simp] lemma sniff_bind {α : Type} (count : Nat) (timeout : ℚ) (lfilter : Packet → Bool)
    (k : List Packet → TestScript τ α) :
    (sniff count timeout lfilter).bind k = .ask (.sniff count timeout lfilter) k := rfl

/-- `assert condition`
Source: Python `assert`
Kind: D -/
def assertThat (condition : Bool) : TestScript τ Unit := Script.check condition assertionError

/-- `reply[TCP]`
Source: Scapy `Packet.__getitem__`
Kind: D -/
def tcpOf (reply : Option Packet) : TestScript τ TcpHeader :=
  match reply with
  | none => .fail .typeError
  | some packet =>
    match packet.tcp? with
    | none => .fail (.other "IndexError")
    | some tcp => .done tcp

end

/-! ## The connection -/

/-- Source: `tests/tcp/conftest.py` `TCPConnection`. Kind: D -/
structure TCPConnection where
  localIp : PyStr
  dutIp : PyStr
  localPort : BitVec 16
  dutPort : BitVec 16
  localMac : PyStr
  dutMac : PyStr
  tracker : TCPSequenceTracker

/-- The next segment, and the connection behind it.
Source: `tests/tcp/conftest.py` `TCPConnection.build`
Kind: D -/
def TCPConnection.build (conn : TCPConnection) (flags : List FlagLetter) (payload : Bytes) :
    Packet × TCPConnection :=
  let sent := conn.tracker.onSend
    { payloadLen := payload.length, syn := FlagLetter.S ∈ flags, fin := FlagLetter.F ∈ flags }
  let l3 := buildTcp conn.localIp conn.dutIp conn.localPort conn.dutPort flags (some sent.1)
    sent.2.ack DEFAULT_WINDOW payload
  (wrapEthernet l3 conn.localMac conn.dutMac, { conn with tracker := sent.2 })

/-- Source: `tests/tcp/conftest.py` `TCPConnection.build`. Kind: D -/
def build (flags : List FlagLetter) (payload : Bytes := []) : TestScript TCPConnection Packet :=
  .update (fun conn => (conn.build flags payload).2) fun conn => .done (conn.build flags payload).1

/-- `seq32`, also of a negative number.
Source: `src/utils/tcp_flags.py` `seq32`
Kind: D -/
def seq32Int (value : Int) : Nat := (value % 2 ^ 32).toNat

/-- A segment on the connection that its tracker does not hear of.
Source: `tests/tcp/state_machine/conftest.py` `segment`
Kind: D -/
def segment (conn : TCPConnection) (flags : List FlagLetter) (seq : Option Int := none)
    (ack : Option Int := none) (window : BitVec 16 := DEFAULT_WINDOW) (payload : Bytes := []) : Packet :=
  let l3 : Packet := [
    .ip { src := conn.localIp, dst := conn.dutIp },
    .tcp {
      sport := conn.localPort
      dport := conn.dutPort
      flags := flagByte flags
      seq := BitVec.ofNat 32 (seq.elim conn.tracker.seq seq32Int)
      ack := BitVec.ofNat 32 (ack.elim conn.tracker.ack seq32Int)
      window }]
  wrapEthernet (if payload = [] then l3 else l3 ++ [.raw payload]) conn.localMac conn.dutMac

/-- Only an RST shows that the device has dropped the connection.
Source: `tests/tcp/state_machine/conftest.py` `connection_still_alive`
Kind: D -/
def connectionStillAlive {τ : Type} (conn : TCPConnection) (timeout : ℚ := 3 / 2) : TestScript τ Bool := do
  let reply ← sendReceive (segment conn [.A]) timeout
  return !isRst reply

/-- A handshake, the test, and a reset in any case. `drawn` is the initial sequence number.
Source: `tests/tcp/conftest.py` `established_tcp_connection`
Kind: D -/
def establishedTcpConnection {τ α : Type} (craft : Craft) (sourcePort : BitVec 16) (timeout : ℚ)
    (drawn : Fin (MAX_SEQ + 1)) (test : TestScript TCPConnection α) : TestScript τ α :=
  let conn : TCPConnection := {
    localIp := craft.localIp
    dutIp := craft.dutIp
    localPort := sourcePort
    dutPort := craft.dutPort
    localMac := craft.localMac
    dutMac := craft.dutMac
    tracker := TCPSequenceTracker.new drawn }
  Script.localTo (do
    let syn ← build [.S]
    let synAck ← sendReceive syn timeout
    assertThat (isSynAck synAck)
    let tcp ← tcpOf synAck
    let conn ← Script.get
    Script.put { conn with tracker := conn.tracker.onReceive tcp.seq.toNat { payloadLen := 0, syn := true } }
    let ack ← build [.A]
    send ack
    test.finallyDo (do
      let rst ← build [.R]
      send rst)) conn

/-! ## What the proofs carry along -/

/-- Nothing but the endpoint of these ports has changed, and nothing new is under way between others but
what their half-open connections send again.
Source: none: infrastructure
Kind: D -/
structure Kept (ports : BitVec 16 × BitVec 16) (net net' : Network) : Prop where
  ip : net'.host.ip = net.host.ip
  peerIp : net'.host.peerIp = net.host.peerIp
  conn : ∀ q, q ≠ ports → net'.host.conn q = net.host.conn q
  carries : ∀ q P, q ≠ ports → net.Carries q P →
    (∀ t, net.host.conn q = .synReceived t → P t.synAck) → net'.Carries q P

lemma Kept.refl (ports : BitVec 16 × BitVec 16) (net : Network) : Kept ports net net :=
  ⟨rfl, rfl, fun _ _ => rfl, fun _ _ _ h _ => h⟩

lemma Kept.trans {ports : BitVec 16 × BitVec 16} {net₁ net₂ net₃ : Network} (h : Kept ports net₁ net₂)
    (h' : Kept ports net₂ net₃) : Kept ports net₁ net₃ where
  ip := h'.ip.trans h.ip
  peerIp := h'.peerIp.trans h.peerIp
  conn q hq := (h'.conn q hq).trans (h.conn q hq)
  carries q P hq hcarries hresend :=
    h'.carries q P hq (h.carries q P hq hcarries hresend) fun t ht => hresend t ((h.conn q hq).symm.trans ht)

/-- The state of the talk between two ports: that of the device's endpoint, and what may be under way.
Source: none: infrastructure
Kind: D -/
structure Talk (craft : Craft) (ports : BitVec 16 × BitVec 16) (net₀ : Network) (st : Tcp.State)
    (P : Tcp.Segment → Prop) (net : Network) : Prop where
  ip : net.host.ip = craft.dutIp
  peerIp : net.host.peerIp = craft.localIp
  conn : net.host.conn ports = st
  carries : net.Carries ports P
  kept : Kept ports net₀ net

/-- To begin with, nothing is under way.
Source: none: infrastructure
Kind: L -/
lemma Talk.start {craft : Craft} {ports : BitVec 16 × BitVec 16} {net : Network} {st : Tcp.State}
    (hip : net.host.ip = craft.dutIp) (hpeerIp : net.host.peerIp = craft.localIp)
    (hconn : net.host.conn ports = st) (hcarries : net.Carries ports fun _ => False) :
    Talk craft ports net st (fun _ => False) net :=
  ⟨hip, hpeerIp, hconn, hcarries, .refl ports net⟩

lemma talk_idle (craft : Craft) (sport : BitVec 16) :
    Talk craft (craft.dutPort, sport) (idleNetwork craft) .listen (fun _ => False) (idleNetwork craft) :=
  .start rfl rfl (conn_idle craft sport) (carries_idle craft _ _)

/-- The frame is one of the suite's, to the device, between these ports.
Source: none: infrastructure
Kind: D -/
def Goes (craft : Craft) (ports : BitVec 16 × BitVec 16) (packet : Packet) (seg : Tcp.Segment) : Prop :=
  ∃ ip tcp, packet.ip? = some ip ∧ packet.tcp? = some tcp ∧ ip.src = craft.localIp ∧ ip.dst = craft.dutIp ∧
    ports = (tcp.dport, tcp.sport) ∧ segment? packet = some seg

/-- Source: `tests/conftest.py` `Craft.tcp`. Kind: L -/
lemma goes_tcp (craft : Craft) (sport : BitVec 16) (flags : List FlagLetter) (seq ack : Nat)
    (dport : Option (BitVec 16)) (window : BitVec 16) (payload : Bytes) :
    Goes craft (dport.getD craft.dutPort, sport) (craft.tcp sport flags (some seq) ack dport window payload)
      (flagged flags (BitVec.ofNat 32 seq) (BitVec.ofNat 32 ack) payload.length) := by
  have hseg := segment?_tcp craft sport flags seq ack dport window payload
  rw [craft.tcp_eq] at hseg ⊢
  exact ⟨_, _, ip?_tcpFrame .., tcp?_tcpFrame .., rfl, rfl, rfl, hseg⟩

section

variable {link : Link} {craft : Craft} {ports : BitVec 16 × BitVec 16} {net₀ net net' : Network}
  {st : Tcp.State} {P : Tcp.Segment → Prop} {packet : Packet} {seg : Tcp.Segment}

lemma Goes.addressed_host (hgoes : Goes craft ports packet seg) {host : Host} (hip : host.ip = craft.dutIp)
    (hpeerIp : host.peerIp = craft.localIp) : Addressed host packet ports seg := by
  obtain ⟨ip, tcp, hip', htcp, hsrc, hdst, hports, hseg⟩ := hgoes
  exact ⟨ip, tcp, hip', htcp, hsrc.trans hpeerIp.symm, hdst.trans hip.symm, hports, hseg⟩

lemma Goes.addressed (hgoes : Goes craft ports packet seg) (h : Talk craft ports net₀ st P net) :
    Addressed net.host packet ports seg :=
  hgoes.addressed_host h.ip h.peerIp

/-- Every way in which the endpoint may treat the segment leads to such a state and to such replies.
Source: none: infrastructure
Kind: D -/
def Leads (link : Link) (st : Tcp.State) (seg : Tcp.Segment) (S : Tcp.State → Prop)
    (R : Tcp.Segment → Prop) : Prop :=
  ∀ c : Tcp.Choice, link.windows c.window →
    S (Tcp.arrive link.conduct c st seg).1 ∧ ∀ s ∈ (Tcp.arrive link.conduct c st seg).2, R (bare s)

/-- The endpoint has a reply that Scapy takes for an answer.
Source: none: infrastructure
Kind: D -/
def Answered (link : Link) (st : Tcp.State) (seg : Tcp.Segment) : Prop :=
  ∀ c : Tcp.Choice, link.windows c.window →
    ∃ s ∈ (Tcp.arrive link.conduct c st seg).2, Acknowledges seg (bare s)

/-- The endpoint's step, seen from the network.
Source: none: infrastructure
Kind: L -/
lemma kept_setConn (hhost : net'.host = net.host.setConn ports st)
    (hcarries : ∀ q P, q ≠ ports → net.Carries q P →
      (∀ t, net.host.conn q = .synReceived t → P t.synAck) → net'.Carries q P) : Kept ports net net' where
  ip := by rw [hhost]; rfl
  peerIp := by rw [hhost]; rfl
  conn q hq := by
    rw [hhost]
    exact Function.update_of_ne hq _ _
  carries := hcarries

/-- **A `send`**, in a talk.
Source: `src/packet_engine/interface.py` `NetworkInterface.send`
Kind: P -/
theorem Talk.sent {S : Tcp.State → Prop} (h : Talk craft ports net₀ st P net)
    (hgoes : Goes craft ports packet seg) (hleads : Leads link st seg S P)
    (hsends : link.Sends net packet net') : ∃ st', S st' ∧ Talk craft ports net₀ st' P net' := by
  obtain ⟨c, hwindow, hhost, hcarries⟩ := sent_spec (hgoes.addressed h) hsends
  rw [h.conn] at hhost hcarries
  obtain ⟨hS, hP⟩ := hleads c hwindow
  have hkept : Kept ports net net' :=
    kept_setConn hhost fun q P hq hold _ => hcarries q P hold fun heq => absurd heq hq
  refine ⟨_, hS, ?_, ?_, ?_, hcarries ports P h.carries fun _ => hP, h.kept.trans hkept⟩
  · exact hkept.ip.trans h.ip
  · exact hkept.peerIp.trans h.peerIp
  · rw [hhost]
    exact Function.update_self ..

/-- What is known of the reply to a segment.
Source: none: infrastructure
Kind: D -/
def Answers (P : Tcp.Segment → Prop) (seg : Tcp.Segment) (reply : Option Packet) : Prop :=
  ∀ frame, reply = some frame →
    ∃ s, segment? frame = some s ∧ P s ∧ (s.syn = true → seg.syn = true) ∧ Near seg s

lemma Answers.mono {P' : Tcp.Segment → Prop} {reply : Option Packet} (h : Answers P seg reply)
    (hP : ∀ s, P s → P' s) : Answers P' seg reply := by
  intro frame hframe
  obtain ⟨s, hs, hPs, hrest⟩ := h frame hframe
  exact ⟨s, hs, hP s hPs, hrest⟩

/-- **A `send_receive`**, in a talk, for what the endpoint chose.
Source: `src/packet_engine/interface.py` `NetworkInterface.send_receive`
Kind: P -/
theorem Talk.exchanged_by (lawful : link.Lawful) {timeout : ℚ} {reply : Option Packet}
    (h : Talk craft ports net₀ st P net) (hgoes : Goes craft ports packet seg)
    (hexchanges : link.Exchanges net packet timeout reply net') :
    ∃ c : Tcp.Choice, link.windows c.window ∧
      (∀ R, (∀ s, P s → R s) → (∀ s ∈ (Tcp.arrive link.conduct c st seg).2, R (bare s)) →
        (∀ t, (Tcp.arrive link.conduct c st seg).1 = .synReceived t → R t.synAck) →
        Talk craft ports net₀ (Tcp.arrive link.conduct c st seg).1 R net' ∧ Answers R seg reply) ∧
      (link.latency ≤ timeout → ∀ s ∈ (Tcp.arrive link.conduct c st seg).2, Acknowledges seg (bare s) →
        ∃ frame, reply = some frame) := by
  obtain ⟨c, hwindow, hhost, hcarries, hanswered⟩ := exchanged_spec lawful (hgoes.addressed h) hexchanges
  rw [h.conn] at hhost hcarries hanswered
  have hconn : net'.host.conn ports = (Tcp.arrive link.conduct c st seg).1 := by
    rw [hhost]
    exact Function.update_self ..
  have hkept : Kept ports net net' := by
    apply kept_setConn hhost
    intro q Q hq hold hagain
    refine (hcarries q Q hold (fun heq => absurd heq hq) ?_).1
    intro t ht
    apply hagain
    rw [← ht, hhost]
    exact (Function.update_of_ne hq _ _).symm
  refine ⟨c, hwindow, ?_, hanswered⟩
  intro R hPR hR hresend
  obtain ⟨hcarries', hreply⟩ := hcarries ports R (h.carries.mono hPR) (fun _ => hR) fun t ht =>
    hresend t (hconn.symm.trans ht)
  exact ⟨⟨hkept.ip.trans h.ip, hkept.peerIp.trans h.peerIp, hconn, hcarries', h.kept.trans hkept⟩, hreply rfl⟩

/-- A `send_receive`, in a talk, whatever the endpoint chooses.
Source: `src/packet_engine/interface.py` `NetworkInterface.send_receive`
Kind: L -/
lemma Talk.exchanged (lawful : link.Lawful) {S : Tcp.State → Prop} {timeout : ℚ} {reply : Option Packet}
    (h : Talk craft ports net₀ st P net) (hgoes : Goes craft ports packet seg)
    (hleads : Leads link st seg S P) (hresend : ∀ t, S (.synReceived t) → P t.synAck)
    (hexchanges : link.Exchanges net packet timeout reply net') :
    (∃ st', S st' ∧ Talk craft ports net₀ st' P net') ∧ Answers P seg reply ∧
      (link.latency ≤ timeout → Answered link st seg → ∃ frame, reply = some frame) := by
  obtain ⟨c, hwindow, htalk, hanswered⟩ := h.exchanged_by lawful hgoes hexchanges
  obtain ⟨hS, hP⟩ := hleads c hwindow
  obtain ⟨htalk, hanswers⟩ := htalk P (fun _ hs => hs) hP fun t ht => hresend t (ht ▸ hS)
  refine ⟨⟨_, hS, htalk⟩, hanswers, ?_⟩
  intro htime hack
  obtain ⟨s, hs, hacknowledges⟩ := hack c hwindow
  exact hanswered htime s hs hacknowledges

/-- **A `sniff`**, in a talk.
Source: `src/packet_engine/interface.py` `NetworkInterface.sniff`
Kind: P -/
theorem Talk.sniffed {count : Nat} {lfilter : Packet → Bool} {replies : List Packet}
    (h : Talk craft ports net₀ st P net) (hresend : ∀ t, st = .synReceived t → P t.synAck)
    (hlistens : link.Listens net count lfilter replies net') :
    Talk craft ports net₀ st P net' ∧
      ∀ frame ∈ replies, lfilter frame = true ∧ (link.ambient frame ∨
        ∃ tcp s, frame.tcp? = some tcp ∧ segment? frame = some s ∧ ((tcp.sport, tcp.dport) = ports → P s)) := by
  obtain ⟨hhost, hcarries⟩ := sniffed_spec hlistens
  obtain ⟨hcarries', hreply⟩ := hcarries ports P h.carries fun t ht => hresend t (h.conn.symm.trans ht)
  have hkept : Kept ports net net' := by
    refine ⟨by rw [hhost], by rw [hhost], fun q _ => by rw [hhost], ?_⟩
    intro q Q _ hold hagain
    exact (hcarries q Q hold hagain).1
  refine ⟨⟨?_, ?_, ?_, hcarries', h.kept.trans hkept⟩, hreply⟩
  · exact hkept.ip.trans h.ip
  · exact hkept.peerIp.trans h.peerIp
  · rw [hhost]
    exact h.conn

/-! ### Rules for scripts -/

variable {τ α : Type} {Q : Except PyExc α → τ → Network → Prop} {t : τ}

lemma always_assertThat {condition : Bool} {k : Unit → TestScript τ α} (h : condition = true)
    (next : Always link.world (k ()) Q t net) : Always link.world ((assertThat condition).bind k) Q t net := by
  rw [assertThat, h]
  exact next

/-- One of the replies that there can be.
Source: `src/packet_engine/interface.py` `NetworkInterface.send_receive`
Kind: L -/
lemma of_always_sendReceive {timeout : ℚ} {k : Option Packet → TestScript τ α} {reply : Option Packet}
    (hall : Always link.world ((sendReceive packet timeout).bind k) Q t net)
    (h : link.Exchanges net packet timeout reply net') : Always link.world (k reply) Q t net' :=
  (always_ask (W := link.world) (.sendReceive packet timeout) k).mp hall reply net' h

lemma of_always_send {k : Unit → TestScript τ α} (hall : Always link.world ((send packet).bind k) Q t net)
    (h : link.Sends net packet net') : Always link.world (k ()) Q t net' :=
  (always_ask (W := link.world) (.send packet) fun _ => k ()).mp hall () net' h

/-- What fails an assertion is the end of a test.
Source: Python `assert`
Kind: L -/
lemma of_always_failed {condition : Bool} {k : Unit → TestScript τ α} (h : condition = false)
    (hall : Always link.world ((assertThat condition).bind k) Q t net) : Q (.error assertionError) t net := by
  rw [assertThat, h] at hall
  exact (always_fail _).mp hall

/-- The assertion a test ends with.
Source: Python `assert`
Kind: L -/
lemma always_assertLast {condition : Bool} {Q : Except PyExc Unit → τ → Network → Prop} (h : condition = true)
    (hQ : Q (.ok ()) t net) : Always link.world (assertThat condition) Q t net := by
  rw [assertThat, h]
  exact (always_done ()).mpr hQ

end

/-! ## The connection's numbers -/

section

variable {craft : Craft} {sport : BitVec 16} {next una : BitVec 32}

section

variable {α : Type} {link : Link} {net : Network} {Q : Except PyExc α → TCPConnection → Network → Prop}
  {k : Packet → TestScript TCPConnection α}

end

end

section

variable (craft : Craft) (sport : BitVec 16) (next una : BitVec 32)

end

/-! ## The fixture -/

section

variable {link : Link} {craft : Craft} {sport : BitVec 16} {net₀ net : Network}

/-- The SYN of a fresh number draws a SYN-ACK of it.
Source: none: specification (RFC 9293)
Kind: L -/
lemma acknowledges_syn (seg : Tcp.Segment) (iss : Tcp.SeqNum) (hsyn : seg.syn = true) (hrst : seg.rst = false)
    (hack : seg.ackBit = false) (hseq : seg.seq.toNat + 1 < 2 ^ 32) :
    Acknowledges seg (bare (Tcp.opened iss seg.seq).synAck) where
  notReset := hrst
  syn _ := ⟨hsyn, rfl⟩
  seq := .inl ⟨hsyn, hack⟩
  ack := by
    have hnext : (seg.seq + 1).toNat = seg.seq.toNat + 1 := by
      rw [BitVec.toNat_add]
      exact Nat.mod_eq_of_lt hseq
    right
    change seg.seq.toNat ≤ (seg.seq + 1).toNat ∧ (seg.seq + 1).toNat ≤ _
    omega

/-- **The SYN**: in every run it is answered with the SYN-ACK of the number that the device has drawn.
Source: `src/packet_engine/interface.py` `NetworkInterface.send_receive`
Kind: P -/
theorem Talk.always_syn {τ α : Type} {Q : Except PyExc α → τ → Network → Prop} {t : τ} (lawful : link.Lawful)
    {ports : BitVec 16 × BitVec 16} {packet : Packet} {isn : Tcp.SeqNum} {timeout : ℚ}
    {k : Option Packet → TestScript τ α} (h : Talk craft ports net₀ .listen (fun _ => False) net)
    (htime : link.latency ≤ timeout) (hgoes : Goes craft ports packet (flagged [.S] isn 0 0))
    (hisn : isn.toNat + 1 < 2 ^ 32)
    (next : ∀ iss frame net', segment? frame = some (Tcp.opened iss isn).synAck →
      Talk craft ports net₀ (.synReceived (Tcp.opened iss isn)) (· = (Tcp.opened iss isn).synAck) net' →
      Always link.world (k (some frame)) Q t net') :
    Always link.world ((sendReceive packet timeout).bind k) Q t net := by
  rw [sendReceive_bind]
  refine (always_ask (W := link.world) (.sendReceive packet timeout) k).mpr ?_
  intro reply net' hexchanges
  obtain ⟨c, -, htalk, hanswered⟩ := h.exchanged_by lawful hgoes hexchanges
  rw [Tcp.arrive_listen_syn rfl rfl rfl rfl] at htalk hanswered
  have hreplies : ∀ s ∈ [(Tcp.opened c.iss isn).synAck], bare s = (Tcp.opened c.iss isn).synAck := by
    intro s hs
    rw [List.mem_singleton.mp hs]
    rfl
  have hresend : ∀ t, Tcp.State.synReceived (Tcp.opened c.iss isn) = .synReceived t →
      t.synAck = (Tcp.opened c.iss isn).synAck := by
    rintro t ⟨⟩
    rfl
  obtain ⟨htalk', hanswers⟩ := htalk (· = (Tcp.opened c.iss isn).synAck) (fun _ => False.elim) hreplies hresend
  obtain ⟨frame, rfl⟩ := hanswered htime _ (List.mem_singleton_self _)
    (acknowledges_syn (flagged [.S] isn 0 0) c.iss rfl rfl rfl hisn)
  obtain ⟨s, hs, rfl, -⟩ := hanswers frame rfl
  exact next c.iss frame net' hs htalk'

end

end NetstackSuite.Tests
