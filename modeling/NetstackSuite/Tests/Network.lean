import Mathlib.Data.Rat.Defs
import Mathlib.Algebra.Order.Ring.Rat
import NetstackSuite.Lib.Script
import NetstackSuite.Lib.TcpEndpoint
import NetstackSuite.PacketEngine.Builders

/-!
# The device on the other side of the link

What a conformance test does to the device it does through three calls of `NetworkInterface`: `send`,
`send_receive` and `sniff`. A test is a `Script` of these. The world that answers it is a host with one
TCP endpoint for each pair of ports, behind a link on which frames of other hosts are seen too. A frame of
the host may arrive late, and more than once, or be lost once it is late, and a half-open connection may send
its SYN-ACK again; a reply that the host sends at once does arrive within the link's latency.

`Exchanged` says all that a `send_receive` can do: the endpoint has seen the segment, and what comes back,
if anything, is one of the frames that are under way, or one of the endpoint's replies.
-/

namespace NetstackSuite.Tests

open NetstackSuite.Lib NetstackSuite.PacketEngine NetstackSuite.Python NetstackSuite.Utils

/-! ## What a test can do -/

/-- Source: `src/packet_engine/interface.py` `NetworkInterface`. Kind: D -/
inductive NetCmd where
  | send (packet : Packet)
  | sendReceive (packet : Packet) (timeout : ℚ)
  | sniff (count : Nat) (timeout : ℚ) (lfilter : Packet → Bool)

/-- Source: `src/packet_engine/interface.py` `NetworkInterface`. Kind: D -/
def NetCmd.Reply : NetCmd → Type
  | send _ => Unit
  | sendReceive _ _ => Option Packet
  | sniff _ _ _ => List Packet

/-- A test, or a part of one, with its local state.
Source: `tests`
Kind: D -/
abbrev TestScript (τ α : Type) := Script NetCmd NetCmd.Reply τ PyExc α

/-! ## Segments and frames -/

/-- The segment of a TCP header and its payload.
Source: none: specification (RFC 9293)
Kind: D -/
def segmentOf (tcp : TcpHeader) (payload : Bytes) : Tcp.Segment where
  seq := tcp.seq
  ack := tcp.ack
  syn := anyFlags tcp.flags SYN
  ackBit := anyFlags tcp.flags ACK
  fin := anyFlags tcp.flags FIN
  rst := anyFlags tcp.flags RST
  text := payload.length

/-- The segment of a frame, if it has one.
Source: none: specification (RFC 9293)
Kind: D -/
def segment? (packet : Packet) : Option Tcp.Segment :=
  packet.tcp?.map fun tcp => segmentOf tcp (packet.raw?.getD [])

/-- The letters of a segment's control bits.
Source: none: specification (RFC 9293)
Kind: D -/
def lettersOf (seg : Tcp.Segment) : List FlagLetter :=
  (if seg.fin then [.F] else []) ++ (if seg.syn then [.S] else []) ++ (if seg.rst then [.R] else []) ++
    if seg.ackBit then [.A] else []

/-! ### What the predicates see of a segment -/

lemma mem_lettersOf (seg : Tcp.Segment) (letter : FlagLetter) :
    letter ∈ lettersOf seg ↔
      (letter = .F ∧ seg.fin = true) ∨ (letter = .S ∧ seg.syn = true) ∨ (letter = .R ∧ seg.rst = true) ∨
        (letter = .A ∧ seg.ackBit = true) := by
  unfold lettersOf
  cases seg.fin <;> cases seg.syn <;> cases seg.rst <;> cases seg.ackBit <;> simp

/-- A segment with these flags.
Source: none: infrastructure
Kind: D -/
def flagged (flags : List FlagLetter) (seq ack : BitVec 32) (text : Nat) : Tcp.Segment where
  seq := seq
  ack := ack
  syn := FlagLetter.S ∈ flags
  ackBit := FlagLetter.A ∈ flags
  fin := FlagLetter.F ∈ flags
  rst := FlagLetter.R ∈ flags
  text := text

/-- Source: `tests/conftest.py` `Craft.tcp`. Kind: L -/
lemma segment?_tcp (craft : Craft) (sport : BitVec 16) (flags : List FlagLetter) (seq ack : Nat)
    (dport : Option (BitVec 16)) (window : BitVec 16) (payload : Bytes) :
    segment? (craft.tcp sport flags (some seq) ack dport window payload) =
      some (flagged flags (BitVec.ofNat 32 seq) (BitVec.ofNat 32 ack) payload.length) := by
  have hbit := fun letter : FlagLetter =>
    (anyFlags_bit (flagByte flags) letter).trans (getLsbD_flagByte flags letter)
  rw [craft.tcp_eq, segment?, tcp?_tcpFrame, raw?_tcpFrame, Option.map_some]
  refine congrArg some ?_
  rw [segmentOf, flagged, ← hbit .S, ← hbit .A, ← hbit .F, ← hbit .R]
  rfl

section

variable {packet : Packet} {seg : Tcp.Segment} (h : segment? packet = some seg)

include h

lemma exists_tcp : ∃ tcp, packet.tcp? = some tcp ∧ segmentOf tcp (packet.raw?.getD []) = seg :=
  Option.map_eq_some_iff.mp h

/-- Source: `src/utils/tcp_flags.py` `is_syn_ack`. Kind: L -/
lemma isSynAck_of_segment : isSynAck (some packet) = (seg.syn && seg.ackBit) := by
  obtain ⟨tcp, htcp, rfl⟩ := exists_tcp h
  have hboth : ∀ flags : Flags,
      (flags &&& SYN_ACK == SYN_ACK) = (anyFlags flags SYN && anyFlags flags ACK) := by decide +kernel
  rw [isSynAck, hasFlags, flagsOf_of_tcp htcp, if_neg (by decide), hboth]
  rfl

end

/-! ## The device -/

/-- The device: its addresses, those of the suite, and an endpoint for each pair of its port and the
suite's.
Source: none: specification
Kind: D -/
structure Host where
  ip : PyStr
  mac : PyStr
  peerIp : PyStr
  peerMac : PyStr
  conn : BitVec 16 × BitVec 16 → Tcp.State

/-- A segment from one of the host's ports; whatever the segment, it goes without text.
Source: none: specification
Kind: D -/
def Host.frame (host : Host) (ports : BitVec 16 × BitVec 16) (window : Nat) (seg : Tcp.Segment) : Packet :=
  tcpFrame { src := host.mac, dst := host.peerMac } { src := host.ip, dst := host.peerIp }
    { sport := ports.1, dport := ports.2, seq := seg.seq, ack := seg.ack, flags := flagByte (lettersOf seg),
      window := BitVec.ofNat 16 window } []

/-- A segment as the host's frames carry it.
Source: none: specification
Kind: D -/
def bare (seg : Tcp.Segment) : Tcp.Segment := { seg with text := 0 }

/-- The endpoint of a pair of ports goes over to a state.
Source: none: specification
Kind: D -/
def Host.setConn (host : Host) (ports : BitVec 16 × BitVec 16) (st : Tcp.State) : Host :=
  { host with conn := Function.update host.conn ports st }

/-- A frame arrives: its segment goes to the endpoint of its ports, whose replies go out.
Source: none: specification
Kind: D -/
def Host.arrive (host : Host) (b : Tcp.Conduct) (c : Tcp.Choice) (packet : Packet) : Host × List Packet :=
  match packet.ip?, packet.tcp? with
  | some ip, some tcp =>
    if ip.src = host.peerIp ∧ ip.dst = host.ip then
      let ports := (tcp.dport, tcp.sport)
      let r := Tcp.arrive b c (host.conn ports) (segmentOf tcp (packet.raw?.getD []))
      (host.setConn ports r.1, r.2.map (host.frame ports c.window))
    else (host, [])
  | _, _ => (host, [])

/-- The frame is one of the host's.
Source: none: specification
Kind: D -/
def Host.sent (host : Host) (packet : Packet) : Bool := packet.ip?.any fun ip => ip.src == host.ip

/-- The SYN-ACK of a connection that is half open, again.
Source: none: specification (RFC 9293)
Kind: D -/
def Host.Resends (host : Host) (packet : Packet) : Prop :=
  ∃ ports t window, host.conn ports = .synReceived t ∧ packet = host.frame ports window t.synAck

/-! ## The link -/

/-- What a test depends on beside the device's state: the device's conduct and the windows it offers; how soon
its replies arrive; which frames Scapy takes for an answer to one; and what other hosts send.
Source: none: specification
Kind: D -/
structure Link where
  conduct : Tcp.Conduct
  windows : Nat → Prop
  latency : ℚ
  answers : Packet → Packet → Bool
  ambient : Packet → Prop

/-- The device, and those of its frames that may still arrive.
Source: none: specification
Kind: D -/
structure Network where
  host : Host
  inFlight : List Packet := []

/-- The frames that arrive are these of the host, among those of other hosts.
Source: none: specification
Kind: D -/
structure Link.Heard (link : Link) (host : Host) (own arrivals : List Packet) : Prop where
  own : arrivals.filter host.sent = own
  others : ∀ frame ∈ arrivals, host.sent frame = true ∨ link.ambient frame

/-- A frame reaches the host, which may leave replies under way.
Source: none: specification
Kind: D -/
def Link.Sends (link : Link) (net : Network) (packet : Packet) (net' : Network) : Prop :=
  ∃ c, link.windows c.window ∧
    net'.host = (net.host.arrive link.conduct c packet).1 ∧
    ∀ frame ∈ net'.inFlight, frame ∈ net.inFlight ∨ frame ∈ (net.host.arrive link.conduct c packet).2

/-- A frame reaches the host, and the first arrival that Scapy takes for its answer is returned.
Source: none: specification
Kind: D -/
def Link.Exchanges (link : Link) (net : Network) (packet : Packet) (timeout : ℚ) (reply : Option Packet)
    (net' : Network) : Prop :=
  ∃ c late again arrivals, link.windows c.window ∧
    net'.host = (net.host.arrive link.conduct c packet).1 ∧
    (∀ frame ∈ late, frame ∈ net.inFlight) ∧
    (∀ frame ∈ again, net'.host.Resends frame) ∧
    link.Heard net'.host (late ++ (net.host.arrive link.conduct c packet).2 ++ again) arrivals ∧
    (∀ frame ∈ reply, frame ∈ arrivals ∧ link.answers packet frame = true) ∧
    (link.latency ≤ timeout → reply = arrivals.find? (link.answers packet)) ∧
    ∀ frame ∈ net'.inFlight, frame ∈ net.inFlight ∨ frame ∈ arrivals

/-- The frames that arrive while a test listens, however long, as far as they pass a filter.
Source: none: specification
Kind: D -/
def Link.Listens (link : Link) (net : Network) (count : Nat) (lfilter : Packet → Bool) (reply : List Packet)
    (net' : Network) : Prop :=
  ∃ own arrivals, net'.host = net.host ∧
    (∀ frame ∈ own, frame ∈ net.inFlight ∨ net.host.Resends frame) ∧
    link.Heard net.host own arrivals ∧
    reply = scapySniff count lfilter arrivals ∧
    ∀ frame ∈ net'.inFlight, frame ∈ net.inFlight ∨ frame ∈ arrivals

/-- Source: none: specification. Kind: D -/
def Link.Replies (link : Link) (net : Network) : (cmd : NetCmd) → cmd.Reply → Network → Prop
  | .send packet, _, net' => link.Sends net packet net'
  | .sendReceive packet timeout, reply, net' => link.Exchanges net packet timeout reply net'
  | .sniff count _ lfilter, reply, net' => link.Listens net count lfilter reply net'

/-- The link as the world of a test.
Source: none: specification
Kind: D -/
def Link.world (link : Link) : World Network NetCmd NetCmd.Reply := ⟨link.Replies⟩

/-! ## Laws of the link -/

/-- The frames go to and fro between the same ports and addresses.
Source: none: infrastructure
Kind: D -/
def Opposite (packet frame : Packet) : Prop :=
  ∃ ip ip' tcp tcp', packet.ip? = some ip ∧ frame.ip? = some ip' ∧ packet.tcp? = some tcp ∧
    frame.tcp? = some tcp' ∧ ip'.src = ip.dst ∧ ip'.dst = ip.src ∧ tcp'.sport = tcp.dport ∧
    tcp'.dport = tcp.sport

/-- The reply is at the numbers of the segment, compared as numbers and not modulo `2 ^ 32`.
Source: Scapy `TCP.answers`
Kind: D -/
structure Acknowledges (seg reply : Tcp.Segment) : Prop where
  notReset : seg.rst = false
  syn : reply.syn = true → seg.syn = true ∧ reply.ackBit = true
  seq : (seg.syn = true ∧ seg.ackBit = false) ∨ reply.seq = seg.ack
  ack : (reply.rst = true ∧ reply.ackBit = false) ∨
    seg.seq.toNat ≤ reply.ack.toNat ∧ reply.ack.toNat ≤ seg.seq.toNat + 1 + seg.text

/-- The reply is where the segment says that it expects the peer, compared as numbers; to a bare SYN it may
be anywhere.
Source: Scapy `TCP.answers`
Kind: D -/
def Near (seg reply : Tcp.Segment) : Prop :=
  (seg.syn = true ∧ seg.ackBit = false) ∨
    reply.seq.toNat ≤ seg.ack.toNat + 2 ∧ seg.ack.toNat ≤ reply.seq.toNat + 2

/-- What the suite relies on: the device offers windows of at least a default segment and at most what the
header can say; and Scapy takes for an answer what goes the opposite way and acknowledges the segment, a
SYN-ACK only for one to a SYN, only what is near, and only what comes from where the segment went. That last
says too that no ICMP error of another host arrives: Scapy takes one that quotes the segment for its answer,
whoever sends it. The device sends none.
Source: RFC 9293; Scapy `TCP.answers`, `IP.answers`
Kind: D -/
structure Link.Lawful (link : Link) : Prop where
  window : ∀ w, link.windows w → 536 ≤ w ∧ w ≤ 65535
  someWindow : ∃ w, link.windows w
  source : ∀ packet frame ip, link.answers packet frame = true → packet.ip? = some ip →
    (frame.ip?.any fun ip' => ip'.src == ip.dst) = true
  ports : ∀ packet frame tcp tcp', link.answers packet frame = true → packet.tcp? = some tcp →
    frame.tcp? = some tcp' → tcp'.sport = tcp.dport ∧ tcp'.dport = tcp.sport
  syn : ∀ packet frame seg seg', link.answers packet frame = true → segment? packet = some seg →
    segment? frame = some seg' → seg'.syn = true → seg.syn = true
  near : ∀ packet frame seg seg', link.answers packet frame = true → segment? packet = some seg →
    segment? frame = some seg' → Near seg seg'
  acknowledged : ∀ packet frame seg seg', Opposite packet frame → segment? packet = some seg →
    segment? frame = some seg' → Acknowledges seg seg' → link.answers packet frame = true

/-- The two numbers are at most so far apart.
Source: Scapy `TCP.answers`
Kind: D -/
def within (d a b : Nat) : Bool := a ≤ b + d && b ≤ a + d

/-- What Scapy takes for an answer, of the frames that are TCP over IP (an ICMP error that quotes the packet would
be one too): never to an RST; a SYN-ACK to a SYN; between the same ports; and, but for a bare SYN, and a bare RST,
at the numbers, within 2.
Source: Scapy `TCP.answers`, `IP.answers`
Kind: D -/
def scapyAnswers (packet frame : Packet) : Bool :=
  match packet.ip?, packet.tcp?, frame.ip?, frame.tcp? with
  | some ip, some tcp, some ip', some tcp' =>
    let seg := segmentOf tcp (packet.raw?.getD [])
    let reply := segmentOf tcp' (frame.raw?.getD [])
    ip'.src == ip.dst && ip'.dst == ip.src &&
      (!seg.rst && (!reply.syn || reply.ackBit && seg.syn) &&
        (tcp'.sport == tcp.dport && tcp'.dport == tcp.sport)) &&
      (seg.syn && !seg.ackBit || within 2 seg.ack.toNat reply.seq.toNat) &&
      (reply.rst && !reply.ackBit || within (2 + seg.text) seg.seq.toNat reply.ack.toNat)
  | _, _, _, _ => false

lemma within_iff {d a b : Nat} : within d a b = true ↔ a ≤ b + d ∧ b ≤ a + d := by
  rw [within, Bool.and_eq_true, decide_eq_true_eq, decide_eq_true_eq]

/-- All that makes an answer.
Source: Scapy `TCP.answers`
Kind: D -/
structure Answering (packet frame : Packet) (seg reply : Tcp.Segment) : Prop where
  opposite : Opposite packet frame
  notReset : seg.rst = false
  syn : reply.syn = true → reply.ackBit = true ∧ seg.syn = true
  seq : (seg.syn = true ∧ seg.ackBit = false) ∨ within 2 seg.ack.toNat reply.seq.toNat = true
  ack : (reply.rst = true ∧ reply.ackBit = false) ∨ within (2 + seg.text) seg.seq.toNat reply.ack.toNat = true

lemma scapyAnswers_iff {packet frame : Packet} :
    scapyAnswers packet frame = true ↔
      ∃ seg reply, segment? packet = some seg ∧ segment? frame = some reply ∧ Answering packet frame seg reply := by
  constructor
  · intro h
    unfold scapyAnswers at h
    split at h
    · rename_i ip tcp ip' tcp' hip htcp hip' htcp'
      simp only [Bool.and_eq_true, Bool.or_eq_true, Bool.not_eq_true', beq_iff_eq] at h
      obtain ⟨⟨⟨⟨hsrc, hdst⟩, ⟨hrst, hsyn⟩, hsport, hdport⟩, hseq⟩, hack⟩ := h
      refine ⟨_, _, congrArg (Option.map _) htcp, congrArg (Option.map _) htcp', ?_, hrst, ?_, hseq, hack⟩
      · exact ⟨ip, ip', tcp, tcp', hip, hip', htcp, htcp', hsrc, hdst, hsport, hdport⟩
      · intro hreply
        exact hsyn.resolve_left (by rw [hreply]; exact Bool.true_eq_false.mp)
    · cases h
  · rintro ⟨seg, reply, hseg, hreply, ⟨ip, ip', tcp, tcp', hip, hip', htcp, htcp', hsrc, hdst, hsport, hdport⟩,
      hrst, hsyn, hseq, hack⟩
    obtain ⟨_, htcp₁, rfl⟩ := exists_tcp hseg
    obtain ⟨_, htcp₂, rfl⟩ := exists_tcp hreply
    rw [htcp] at htcp₁
    rw [htcp'] at htcp₂
    cases htcp₁
    cases htcp₂
    unfold scapyAnswers
    rw [hip, htcp, hip', htcp']
    have hsynAck : (segmentOf tcp' (frame.raw?.getD [])).syn = false ∨
        (segmentOf tcp' (frame.raw?.getD [])).ackBit = true ∧ (segmentOf tcp (packet.raw?.getD [])).syn = true := by
      cases hs : (segmentOf tcp' (frame.raw?.getD [])).syn
      · exact .inl rfl
      · exact .inr (hsyn hs)
    simp only [Bool.and_eq_true, Bool.or_eq_true, Bool.not_eq_true', beq_iff_eq]
    exact ⟨⟨⟨⟨hsrc, hdst⟩, ⟨hrst, hsynAck⟩, hsport, hdport⟩, hseq⟩, hack⟩

/-- **What Scapy does with TCP is what the suite relies on.**
Source: Scapy `TCP.answers`
Kind: P -/
theorem Link.lawful_scapy {link : Link} (hanswers : link.answers = scapyAnswers)
    (hwindow : ∀ w, link.windows w → 536 ≤ w ∧ w ≤ 65535) (hsome : ∃ w, link.windows w) : link.Lawful := by
  refine ⟨hwindow, hsome, ?_, ?_, ?_, ?_, ?_⟩ <;> rw [hanswers]
  · intro packet frame ip h hip
    obtain ⟨_, _, -, -, ⟨_, ip', _, _, hip₁, hip', -, -, hsrc, -⟩, -⟩ := scapyAnswers_iff.mp h
    rw [hip] at hip₁
    cases hip₁
    rw [hip', Option.any_some, hsrc, beq_self_eq_true]
  · intro packet frame tcp tcp' h htcp htcp'
    obtain ⟨_, _, -, -, ⟨_, _, _, _, -, -, htcp₁, htcp₂, -, -, hports⟩, -⟩ := scapyAnswers_iff.mp h
    rw [htcp] at htcp₁
    rw [htcp'] at htcp₂
    cases htcp₁
    cases htcp₂
    exact hports
  · intro packet frame seg seg' h hseg hseg' hsyn
    obtain ⟨_, _, hseg₁, hseg₂, hanswering⟩ := scapyAnswers_iff.mp h
    rw [hseg] at hseg₁
    rw [hseg'] at hseg₂
    cases hseg₁
    cases hseg₂
    exact (hanswering.syn hsyn).2
  · intro packet frame seg seg' h hseg hseg'
    obtain ⟨_, _, hseg₁, hseg₂, hanswering⟩ := scapyAnswers_iff.mp h
    rw [hseg] at hseg₁
    rw [hseg'] at hseg₂
    cases hseg₁
    cases hseg₂
    refine hanswering.seq.imp_right fun hnear => ?_
    have hboth := within_iff.mp hnear
    exact ⟨hboth.2, hboth.1⟩
  · intro packet frame seg seg' hopposite hseg hseg' hack
    refine scapyAnswers_iff.mpr ⟨seg, seg', hseg, hseg', hopposite, hack.notReset, ?_, ?_, ?_⟩
    · exact fun hsyn => (hack.syn hsyn).symm
    · refine hack.seq.imp_right fun heq => within_iff.mpr ?_
      rw [heq]
      omega
    · refine hack.ack.imp_right fun hbounds => within_iff.mpr ?_
      omega

/-- Scapy compares an acknowledgement with the number of the segment as numbers, not modulo `2 ^ 32`: what it
takes for an answer, a bare RST apart, acknowledges a number close to the segment's.
Source: Scapy `TCP.answers`
Kind: D -/
def Link.ComparesNumbers (link : Link) : Prop :=
  ∀ packet frame seg reply, link.answers packet frame = true → segment? packet = some seg →
    segment? frame = some reply → (reply.rst = true ∧ reply.ackBit = false) ∨
      reply.ack.toNat ≤ seg.seq.toNat + 2 + seg.text ∧ seg.seq.toNat ≤ reply.ack.toNat + 2 + seg.text

lemma Link.comparesNumbers_scapy {link : Link} (hanswers : link.answers = scapyAnswers) : link.ComparesNumbers := by
  intro packet frame seg reply h hseg hreply
  rw [hanswers] at h
  obtain ⟨_, _, hseg', hreply', hanswering⟩ := scapyAnswers_iff.mp h
  rw [hseg] at hseg'
  rw [hreply] at hreply'
  cases hseg'
  cases hreply'
  refine hanswering.ack.imp_right fun hnear => ?_
  have hboth := within_iff.mp hnear
  omega

/-! ## What is under way -/

/-- All that is under way from the host is TCP, and what is between two ports has the property.
Source: none: infrastructure
Kind: D -/
def Network.Carries (net : Network) (ports : BitVec 16 × BitVec 16) (P : Tcp.Segment → Prop) : Prop :=
  ∀ frame ∈ net.inFlight, net.host.sent frame = true →
    ∃ tcp seg, frame.tcp? = some tcp ∧ segment? frame = some seg ∧ ((tcp.sport, tcp.dport) = ports → P seg)

lemma Network.Carries.mono {net : Network} {ports : BitVec 16 × BitVec 16} {P Q : Tcp.Segment → Prop}
    (h : net.Carries ports P) (hPQ : ∀ seg, P seg → Q seg) : net.Carries ports Q := by
  intro frame hframe hsent
  obtain ⟨tcp, seg, htcp, hseg, hP⟩ := h frame hframe hsent
  exact ⟨tcp, seg, htcp, hseg, fun hports => hPQ seg (hP hports)⟩

section

variable (host : Host) (ports : BitVec 16 × BitVec 16) (window : Nat) (seg : Tcp.Segment)

@[simp] lemma tcp?_frame :
    (host.frame ports window seg).tcp? = some {
      sport := ports.1
      dport := ports.2
      seq := seg.seq
      ack := seg.ack
      flags := flagByte (lettersOf seg)
      window := BitVec.ofNat 16 window } := rfl

@[simp] lemma ip?_frame :
    (host.frame ports window seg).ip? = some { src := host.ip, dst := host.peerIp } := rfl

@[simp] lemma segment?_frame : segment? (host.frame ports window seg) = some (bare seg) := by
  have hbit := fun letter : FlagLetter =>
    (anyFlags_bit (flagByte (lettersOf seg)) letter).trans (getLsbD_flagByte (lettersOf seg) letter)
  have hS := hbit .S
  have hA := hbit .A
  have hF := hbit .F
  have hR := hbit .R
  simp only [mem_lettersOf, reduceCtorEq, true_and, false_and, false_or, or_false, Bool.decide_eq_true]
    at hS hA hF hR
  rw [segment?, tcp?_frame, Option.map_some]
  refine congrArg some ?_
  rw [segmentOf]
  dsimp only
  rw [show SYN = FlagLetter.S.bit from rfl, show ACK = FlagLetter.A.bit from rfl,
    show FIN = FlagLetter.F.bit from rfl, show RST = FlagLetter.R.bit from rfl, hS, hA, hF, hR]
  rfl

@[simp] lemma sent_frame : host.sent (host.frame ports window seg) = true := by
  simp [Host.sent]

end

/-- The frame is for the host, and this is its segment.
Source: none: infrastructure
Kind: D -/
def Addressed (host : Host) (packet : Packet) (ports : BitVec 16 × BitVec 16) (seg : Tcp.Segment) : Prop :=
  ∃ ip tcp, packet.ip? = some ip ∧ packet.tcp? = some tcp ∧ ip.src = host.peerIp ∧ ip.dst = host.ip ∧
    ports = (tcp.dport, tcp.sport) ∧ segment? packet = some seg

/-- A frame of a host whose segment, if it is between these ports, has the property.
Source: none: infrastructure
Kind: D -/
def Made (q : BitVec 16 × BitVec 16) (P : Tcp.Segment → Prop) (frame : Packet) : Prop :=
  ∃ (host : Host) (ports : _) (window : _) (seg : _),
    frame = host.frame ports window seg ∧ (ports = q → P (bare seg))

/-- What is added to what is under way are frames of the host, and frames of others.
Source: none: infrastructure
Kind: L -/
lemma Network.Carries.extend {net net' : Network} {q : BitVec 16 × BitVec 16} {P : Tcp.Segment → Prop}
    (h : net.Carries q P) (hip : net'.host.ip = net.host.ip)
    (hnew : ∀ frame ∈ net'.inFlight,
      frame ∈ net.inFlight ∨ net'.host.sent frame = false ∨ Made q P frame) : net'.Carries q P := by
  intro frame hframe hsent
  rcases hnew frame hframe with hold | hother | ⟨host, ports, window, seg, rfl, hP⟩
  · have hsent' : net.host.sent frame = true := by
      rw [← hsent, Host.sent, Host.sent, hip]
    exact h frame hold hsent'
  · rw [hother] at hsent
    cases hsent
  · exact ⟨_, bare seg, tcp?_frame host ports window seg, segment?_frame host ports window seg, hP⟩

section

variable {link : Link} {net net' : Network} {packet : Packet} {ports : BitVec 16 × BitVec 16}
  {seg : Tcp.Segment}

lemma arrive_of_addressed (h : Addressed net.host packet ports seg) (b : Tcp.Conduct) (c : Tcp.Choice) :
    net.host.arrive b c packet =
      (net.host.setConn ports (Tcp.arrive b c (net.host.conn ports) seg).1,
        (Tcp.arrive b c (net.host.conn ports) seg).2.map (net.host.frame ports c.window)) := by
  obtain ⟨ip, tcp, hip, htcp, hsrc, hdst, rfl, hseg⟩ := h
  obtain ⟨_, htcp', hseg'⟩ := exists_tcp hseg
  rw [htcp] at htcp'
  cases htcp'
  unfold Host.arrive
  rw [hip, htcp]
  dsimp only
  rw [if_pos ⟨hsrc, hdst⟩, hseg']

/-- What a half-open connection sends again is between its own ports.
Source: none: specification (RFC 9293)
Kind: L -/
lemma made_of_resends {host : Host} {frame : Packet} {q : BitVec 16 × BitVec 16} {P : Tcp.Segment → Prop}
    (h : host.Resends frame) (hP : ∀ t, host.conn q = .synReceived t → P t.synAck) : Made q P frame := by
  obtain ⟨ports, t, window, hconn, rfl⟩ := h
  exact ⟨host, ports, window, t.synAck, rfl, fun hports => hP t (hports ▸ hconn)⟩

/-- A reply of the endpoint's is an answer if it acknowledges the segment.
Source: Scapy `TCP.answers`
Kind: L -/
lemma Link.Lawful.answers_frame (lawful : link.Lawful) (haddr : Addressed net.host packet ports seg)
    (window : Nat) {s : Tcp.Segment} (hack : Acknowledges seg (bare s)) :
    link.answers packet (net.host.frame ports window s) = true := by
  obtain ⟨ip, tcp, hip, htcp, hsrc, hdst, rfl, hseg⟩ := haddr
  have hopposite : Opposite packet (net.host.frame (tcp.dport, tcp.sport) window s) :=
    ⟨ip, _, tcp, _, hip, ip?_frame .., htcp, tcp?_frame .., hdst.symm, hsrc.symm, rfl, rfl⟩
  exact lawful.acknowledged _ _ seg (bare s) hopposite hseg (segment?_frame ..) hack

/-- **All that a `send` can do**: the endpoint has made its step, and its replies may be under way.
Source: `src/packet_engine/interface.py` `NetworkInterface.send`
Kind: P -/
theorem sent_spec (haddr : Addressed net.host packet ports seg) (h : link.Sends net packet net') :
    ∃ c, link.windows c.window ∧
      net'.host = net.host.setConn ports (Tcp.arrive link.conduct c (net.host.conn ports) seg).1 ∧
      ∀ q P, net.Carries q P →
        (q = ports → ∀ s ∈ (Tcp.arrive link.conduct c (net.host.conn ports) seg).2, P (bare s)) →
        net'.Carries q P := by
  obtain ⟨c, hwindow, hhost, hflight⟩ := h
  rw [arrive_of_addressed haddr] at hhost hflight
  refine ⟨c, hwindow, hhost, ?_⟩
  intro q P hcarries hP
  apply hcarries.extend (by rw [hhost]; rfl)
  intro frame hframe
  rcases hflight frame hframe with hold | hnew
  · exact .inl hold
  · obtain ⟨s, hs, rfl⟩ := List.mem_map.mp hnew
    exact .inr (.inr ⟨net.host, ports, c.window, s, rfl, fun hports => hP hports.symm s hs⟩)

/-- The frames that arrive are frames of other hosts, of the endpoint, or were under way.
Source: none: infrastructure
Kind: L -/
lemma mem_arrivals {host : Host} {own arrivals : List Packet} {frame : Packet}
    (h : link.Heard host own arrivals) (hframe : frame ∈ arrivals) :
    frame ∈ own ∨ host.sent frame = false ∧ link.ambient frame := by
  cases hsent : host.sent frame
  · rcases h.others frame hframe with hown | hother
    · rw [hsent] at hown
      cases hown
    · exact .inr ⟨rfl, hother⟩
  · exact .inl (h.own ▸ List.mem_filter.mpr ⟨hframe, hsent⟩)

/-- **All that a `send_receive` can do**: the endpoint has made its step; the reply, if there is one, is
between its ports, has what every frame under way there has and what the endpoint's replies have; and if the
endpoint acknowledges the segment there is one.
Source: `src/packet_engine/interface.py` `NetworkInterface.send_receive`
Kind: P -/
theorem exchanged_spec (lawful : link.Lawful) {timeout : ℚ} {reply : Option Packet}
    (haddr : Addressed net.host packet ports seg) (h : link.Exchanges net packet timeout reply net') :
    ∃ c, link.windows c.window ∧
      net'.host = net.host.setConn ports (Tcp.arrive link.conduct c (net.host.conn ports) seg).1 ∧
      (∀ q P, net.Carries q P →
        (q = ports → ∀ s ∈ (Tcp.arrive link.conduct c (net.host.conn ports) seg).2, P (bare s)) →
        (∀ t, net'.host.conn q = .synReceived t → P t.synAck) →
        net'.Carries q P ∧ (q = ports → ∀ frame, reply = some frame →
          ∃ s, segment? frame = some s ∧ P s ∧ (s.syn = true → seg.syn = true) ∧ Near seg s)) ∧
      (link.latency ≤ timeout →
        ∀ s ∈ (Tcp.arrive link.conduct c (net.host.conn ports) seg).2, Acknowledges seg (bare s) →
          ∃ frame, reply = some frame) := by
  obtain ⟨c, late, again, arrivals, hwindow, hhost, hlate, hagain, hheard, hreply, hprompt, hflight⟩ := h
  rw [arrive_of_addressed haddr] at hhost hheard
  dsimp only at hhost hheard
  have hip : net'.host.ip = net.host.ip := by rw [hhost]; rfl
  refine ⟨c, hwindow, hhost, ?_, ?_⟩
  · intro q P hcarries hP hresend
    have hmade : ∀ frame ∈ arrivals,
        frame ∈ net.inFlight ∨ net'.host.sent frame = false ∨ Made q P frame := by
      intro frame hframe
      rcases mem_arrivals hheard hframe with hown | hother
      · rcases List.mem_append.mp hown with hown | hresent
        · rcases List.mem_append.mp hown with hold | hnew
          · exact .inl (hlate frame hold)
          · obtain ⟨s, hs, rfl⟩ := List.mem_map.mp hnew
            exact .inr (.inr ⟨net.host, ports, c.window, s, rfl, fun hports => hP hports.symm s hs⟩)
        · exact .inr (.inr (made_of_resends (hagain frame hresent) hresend))
      · exact .inr (.inl hother.1)
    have hcarries' : Network.Carries { net' with inFlight := arrivals } q P :=
      hcarries.extend hip hmade
    refine ⟨hcarries.extend hip fun frame hframe => (hflight frame hframe).elim .inl (hmade frame), ?_⟩
    rintro rfl frame rfl
    obtain ⟨hframe, hanswers⟩ := hreply frame rfl
    obtain ⟨ip, tcp, hpacket, htcp, -, hdst, hports, hseg⟩ := haddr
    have hsent : net'.host.sent frame = true := by
      rw [Host.sent, hip, ← hdst]
      exact lawful.source packet frame ip hanswers hpacket
    obtain ⟨tcp', s, htcp', hs, hPs⟩ := hcarries' frame hframe hsent
    have hopposite := lawful.ports packet frame tcp tcp' hanswers htcp htcp'
    refine ⟨s, hs, hPs ?_, lawful.syn packet frame seg s hanswers hseg hs,
      lawful.near packet frame seg s hanswers hseg hs⟩
    rw [hports, hopposite.1, hopposite.2]
  · intro htime s hs hack
    have hmem : net.host.frame ports c.window s ∈ arrivals := by
      have hsub : arrivals.filter net'.host.sent ⊆ arrivals := List.filter_subset_self _
      apply hsub
      rw [hheard.own]
      apply List.mem_append_left
      apply List.mem_append_right
      exact List.mem_map_of_mem hs
    have hanswers := lawful.answers_frame haddr c.window hack
    rw [hprompt htime]
    exact Option.isSome_iff_exists.mp (List.find?_isSome.mpr ⟨_, hmem, hanswers⟩)

/-- **All that a `sniff` can do**: nothing to the host; what it returns passes the filter, and is from
another host or was under way, or is the SYN-ACK of a half-open connection.
Source: `src/packet_engine/interface.py` `NetworkInterface.sniff`
Kind: P -/
theorem sniffed_spec {count : Nat} {lfilter : Packet → Bool} {reply : List Packet}
    (h : link.Listens net count lfilter reply net') :
    net'.host = net.host ∧
      ∀ q P, net.Carries q P → (∀ t, net.host.conn q = .synReceived t → P t.synAck) →
        net'.Carries q P ∧ ∀ frame ∈ reply, lfilter frame = true ∧
          (link.ambient frame ∨ ∃ tcp s, frame.tcp? = some tcp ∧ segment? frame = some s ∧
            ((tcp.sport, tcp.dport) = q → P s)) := by
  obtain ⟨own, arrivals, hhost, hown, hheard, rfl, hflight⟩ := h
  refine ⟨hhost, ?_⟩
  intro q P hcarries hresend
  have hmade : ∀ frame ∈ arrivals,
      frame ∈ net.inFlight ∨ net'.host.sent frame = false ∨ Made q P frame := by
    intro frame hframe
    rcases mem_arrivals hheard hframe with hframe | hother
    · rcases hown frame hframe with hold | hresent
      · exact .inl hold
      · exact .inr (.inr (made_of_resends hresent hresend))
    · rw [hhost]
      exact .inr (.inl hother.1)
  have hip : net'.host.ip = net.host.ip := by rw [hhost]
  have hcarries' : Network.Carries { net' with inFlight := arrivals } q P :=
    hcarries.extend hip hmade
  refine ⟨hcarries.extend hip fun frame hframe => (hflight frame hframe).elim .inl (hmade frame), ?_⟩
  intro frame hframe
  have hpassed : frame ∈ arrivals.filter lfilter := by
    unfold scapySniff at hframe
    split at hframe
    · exact hframe
    · exact List.mem_of_mem_take hframe
  obtain ⟨hframe, hfilter⟩ := List.mem_filter.mp hpassed
  refine ⟨hfilter, ?_⟩
  rcases hheard.others frame hframe with hsent | hother
  · exact .inr (hcarries' frame hframe (by rw [← hsent, ← hhost]))
  · exact .inl hother

end

/-- Frames of a host alone arrive as they are.
Source: none: infrastructure
Kind: L -/
lemma Link.heard_self (link : Link) {host : Host} {own : List Packet}
    (h : ∀ frame ∈ own, host.sent frame = true) : link.Heard host own own :=
  ⟨List.filter_eq_self.mpr h, fun frame hframe => .inl (h frame hframe)⟩

/-- A link on which all is prompt and nobody else sends.
Source: none: specification
Kind: D -/
def plainLink (conduct : Tcp.Conduct) : Link where
  conduct := conduct
  windows := (· = 65535)
  latency := 0
  answers := scapyAnswers
  ambient := fun _ => False

lemma lawful_plainLink (conduct : Tcp.Conduct) : (plainLink conduct).Lawful := by
  refine Link.lawful_scapy rfl ?_ ⟨65535, rfl⟩
  rintro _ rfl
  decide

/-- A device that listens on the run's port and has met nobody yet.
Source: none: specification
Kind: D -/
def idleNetwork (craft : Craft) : Network where
  host := {
    ip := craft.dutIp
    mac := craft.dutMac
    peerIp := craft.localIp
    peerMac := craft.localMac
    conn := fun ports => if ports.1 = craft.dutPort then .listen else .closed }

/-- A run's addresses.
Source: none: specification
Kind: D -/
def sampleCraft : Craft where
  localIp := text "192.168.1.2"
  localMac := text "02:00:00:00:00:02"
  dutIp := text "192.168.1.1"
  dutMac := text "02:00:00:00:00:01"
  dutPort := 80

lemma carries_idle (craft : Craft) (ports : BitVec 16 × BitVec 16) (P : Tcp.Segment → Prop) :
    (idleNetwork craft).Carries ports P := List.forall_mem_nil _

lemma conn_idle (craft : Craft) (sport : BitVec 16) :
    (idleNetwork craft).host.conn (craft.dutPort, sport) = .listen := if_pos rfl

lemma not_halfOpen_idle (craft : Craft) (ports : BitVec 16 × BitVec 16) (t : Tcp.Tcb) :
    (idleNetwork craft).host.conn ports ≠ .synReceived t := by
  unfold idleNetwork
  dsimp only
  split <;> exact Tcp.State.noConfusion

end NetstackSuite.Tests
