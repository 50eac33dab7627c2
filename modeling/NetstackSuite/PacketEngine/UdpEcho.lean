import NetstackSuite.PacketEngine.Responder

/-!
# The UDP echo

`build_udp_echo_reply` mirrors the load of the first `Raw` layer of the datagram. Scapy puts there what it has
no dissector for; on a port with a protocol bound to it the payload becomes that protocol's layer, and the reply
is empty. `echo_exact_iff` says which datagrams are echoed with their payload and their addresses swapped.
-/

namespace NetstackSuite.PacketEngine

open NetstackSuite.Python

namespace Packet

variable (outer inner : Packet)

lemma ether?_append : ether? (outer ++ inner) = outer.ether?.or inner.ether? := List.findSome?_append

lemma ip?_append : ip? (outer ++ inner) = outer.ip?.or inner.ip? := List.findSome?_append

lemma udp?_append : udp? (outer ++ inner) = outer.udp?.or inner.udp? := List.findSome?_append

lemma raw?_append : raw? (outer ++ inner) = outer.raw?.or inner.raw? := List.findSome?_append

end Packet

/-! ## Received datagrams -/

/-- A layer of a datagram's payload, with the bytes it was dissected from.
Source: Scapy `Packet.dissect`
Kind: D -/
structure PayloadLayer where
  layer : Layer
  contents : Bytes
  raw : ∀ load, layer = .raw load → load = contents

/-- The load of a `Raw` layer.
Source: Scapy `Raw`
Kind: D -/
def PayloadLayer.load? (l : PayloadLayer) : Option Bytes := Packet.raw? [l.layer]

/-- No layer but the first `Raw` one has any bytes.
Source: none: specification
Kind: D -/
def OnlyFirstRaw : List PayloadLayer → Prop
  | [] => True
  | l :: layers =>
      match l.load? with
      | some _ => ∀ l' ∈ layers, l'.contents = []
      | none => l.contents = [] ∧ OnlyFirstRaw layers

/-- A UDP datagram in an Ethernet frame, dissected: the layers in front of the UDP header, those behind it, and
the padding of the frame. The payload's layers depend on the ports and on the bytes, so any are possible.
Source: Scapy `Packet.dissect`, `UDP`, `Padding`
Kind: D -/
structure UdpDatagram where
  front : Packet
  ether : EtherHeader
  ip : IpHeader
  udp : UdpHeader
  behind : List PayloadLayer
  padding : Option Bytes := none
  front_ether : front.ether? = some ether
  front_ip : front.ip? = some ip
  front_udp : front.udp? = none
  front_raw : front.raw? = none

namespace UdpDatagram

variable (datagram : UdpDatagram)

/-- The layers of the padding. `Padding` is a layer of its own, which `haslayer(Raw)` does not match.
Source: Scapy `Padding`
Kind: D -/
def paddingLayers : Packet := datagram.padding.toList.map (.other (text "Padding"))

/-- The frame as the responder sees it.
Source: Scapy `Packet`
Kind: D -/
def packet : Packet :=
  datagram.front ++ .udp datagram.udp :: (datagram.behind.map PayloadLayer.layer ++ datagram.paddingLayers)

/-- The bytes behind the UDP header.
Source: none: specification
Kind: D -/
def payload : Bytes := datagram.behind.flatMap PayloadLayer.contents

/-- What is mirrored of them.
Source: `src/packet_engine/responder.py` `_echo_payload`
Kind: D -/
def firstLoad : Bytes := (datagram.behind.findSome? PayloadLayer.load?).getD []

/-- The reply that is due: the payload, with source and destination swapped at each level.
Source: none: specification
Kind: D -/
def echo : Packet :=
  [.ether { src := datagram.ether.dst, dst := datagram.ether.src },
    .ip { src := datagram.ip.dst, dst := datagram.ip.src },
    .udp { sport := datagram.udp.dport, dport := datagram.udp.sport },
    .raw datagram.payload]

end UdpDatagram

/-! ## The first `Raw` layer -/

/-- Source: Scapy `Raw`. Kind: L -/
lemma PayloadLayer.contents_of_load {l : PayloadLayer} {load : Bytes} (h : l.load? = some load) :
    load = l.contents := by
  apply l.raw
  unfold load? Packet.raw? at h
  rcases hlayer : l.layer <;> rw [hlayer] at h <;> simp_all

/-- The first load is no longer than all the contents.
Source: none: infrastructure
Kind: L -/
lemma length_findSome_le (layers : List PayloadLayer) :
    ((layers.findSome? PayloadLayer.load?).getD []).length ≤ (layers.flatMap PayloadLayer.contents).length := by
  induction layers with
  | nil => exact Nat.le_refl 0
  | cons l layers ih =>
      rw [List.findSome?_cons, List.flatMap_cons, List.length_append]
      rcases hload : l.load? with _ | load
      · exact le_trans ih (Nat.le_add_left _ _)
      · simp only [Option.getD_some]
        rw [PayloadLayer.contents_of_load hload]
        exact Nat.le_add_right _ _

/-- The first load is the whole payload exactly if no other layer has any bytes.
Source: none: infrastructure
Kind: L -/
lemma findSome_eq_flatMap_iff (layers : List PayloadLayer) :
    (layers.findSome? PayloadLayer.load?).getD [] = layers.flatMap PayloadLayer.contents ↔
      OnlyFirstRaw layers := by
  induction layers with
  | nil => exact iff_of_true rfl trivial
  | cons l layers ih =>
      have hrest := length_findSome_le layers
      rw [List.findSome?_cons, List.flatMap_cons, OnlyFirstRaw]
      rcases hload : l.load? with _ | load
      · simp only
        rw [← ih]
        constructor
        · intro hsame
          have hempty : l.contents = [] := by
            apply List.eq_nil_of_length_eq_zero
            have hlength := congrArg List.length hsame
            rw [List.length_append] at hlength
            omega
          exact ⟨hempty, by rw [hsame, hempty, List.nil_append]⟩
        · rintro ⟨hempty, hsame⟩
          rw [hempty, List.nil_append, hsame]
      · simp only [Option.getD_some]
        rw [PayloadLayer.contents_of_load hload, List.self_eq_append_right, List.flatMap_eq_nil_iff]

/-! ## The reply -/

namespace UdpDatagram

variable (datagram : UdpDatagram)

lemma ether?_packet : datagram.packet.ether? = some datagram.ether := by
  rw [packet, Packet.ether?_append, datagram.front_ether, Option.some_or]

lemma ip?_packet : datagram.packet.ip? = some datagram.ip := by
  rw [packet, Packet.ip?_append, datagram.front_ip, Option.some_or]

lemma udp?_packet : datagram.packet.udp? = some datagram.udp := by
  rw [packet, Packet.udp?_append, datagram.front_udp, Option.none_or]
  rfl

/-- The padding is not mirrored.
Source: Scapy `Padding`
Kind: L -/
lemma raw?_packet : datagram.packet.raw? = datagram.behind.findSome? PayloadLayer.load? := by
  have hlayers : Packet.raw? (datagram.behind.map PayloadLayer.layer) =
      datagram.behind.findSome? PayloadLayer.load? := by
    unfold Packet.raw? PayloadLayer.load? Packet.raw?
    rw [List.findSome?_map]
    simp only [List.findSome?_singleton]
    rfl
  have hpadding : datagram.paddingLayers.raw? = none := by
    unfold paddingLayers
    rcases datagram.padding with _ | padding <;> rfl
  have hbehind : Packet.raw? (.udp datagram.udp :: (datagram.behind.map PayloadLayer.layer ++ datagram.paddingLayers)) =
      Packet.raw? (datagram.behind.map PayloadLayer.layer ++ datagram.paddingLayers) := rfl
  rw [packet, Packet.raw?_append, datagram.front_raw, Option.none_or, hbehind, Packet.raw?_append, hpadding,
    Option.or_none, hlayers]

/-- The reply that is sent.
Source: `src/packet_engine/responder.py` `build_udp_echo_reply`
Kind: L -/
lemma buildUdpEchoReply_packet (localMac : PyStr) :
    buildUdpEchoReply datagram.packet localMac = .ok
      [.ether { src := localMac, dst := datagram.ether.src },
        .ip { src := datagram.ip.dst, dst := datagram.ip.src },
        .udp { sport := datagram.udp.dport, dport := datagram.udp.sport },
        .raw ((datagram.behind.findSome? PayloadLayer.load?).getD [])] := by
  unfold buildUdpEchoReply replyHeaders echoPayload
  rw [datagram.udp?_packet, datagram.ip?_packet, datagram.ether?_packet, datagram.raw?_packet]
  rfl

end UdpDatagram

/-- **What `serve_udp_echo` sends for a datagram** is this reply, from `localMac`.
Source: `src/packet_engine/responder.py` `serve_udp_echo`
Kind: P -/
theorem serveUdpEcho_recorded {interface after : NetworkInterface} {localIp localMac : PyStr} {listenPort : Int}
    {testNodeid : Option PyStr} {datagram : UdpDatagram}
    (h : serveUdpEcho interface localIp localMac listenPort testNodeid = (.ok (some datagram.packet), after)) :
    ∃ reply, buildUdpEchoReply datagram.packet localMac = .ok reply ∧
      after.recorded = interface.recorded ++
        [{ direction := .received, packet := datagram.packet, testNodeid },
          { direction := .sent, packet := reply, testNodeid }] := by
  obtain ⟨reply, -, hreply, -, rfl⟩ := (serveOnce_eq_some_iff _ _ _ _ _ _).mp h
  refine ⟨reply, hreply, ?_⟩
  simp [NetworkInterface.exchanged]

/-- **Which datagrams are echoed**: those sent to the responder's own MAC of whose payload nothing but the first
`Raw` layer has any bytes.
Source: `src/packet_engine/responder.py` `build_udp_echo_reply`
Kind: P -/
theorem echo_exact_iff (datagram : UdpDatagram) (localMac : PyStr) :
    buildUdpEchoReply datagram.packet localMac = .ok datagram.echo ↔
      datagram.ether.dst = localMac ∧ OnlyFirstRaw datagram.behind := by
  rw [datagram.buildUdpEchoReply_packet, ← findSome_eq_flatMap_iff, UdpDatagram.echo, UdpDatagram.payload]
  simp [eq_comm]

/-- A datagram to the port of DNS, dissected as DNS.
Source: none: example
Kind: D -/
def dnsQuery : UdpDatagram where
  front := [.ether { src := text "bb:bb:bb:bb:bb:bb", dst := text "aa:aa:aa:aa:aa:aa" },
    .ip { src := text "10.0.0.9", dst := text "10.0.0.1" }]
  ether := { src := text "bb:bb:bb:bb:bb:bb", dst := text "aa:aa:aa:aa:aa:aa" }
  ip := { src := text "10.0.0.9", dst := text "10.0.0.1" }
  udp := { sport := 50000, dport := 53 }
  behind := [{
    layer := .other (text "DNS") [0x12, 0x34, 1, 0, 0, 0, 0, 0, 0, 0, 0, 0]
    contents := [0x12, 0x34, 1, 0, 0, 0, 0, 0, 0, 0, 0, 0]
    raw := fun _ h => nomatch h }]
  front_ether := rfl
  front_ip := rfl
  front_udp := rfl
  front_raw := rfl

/-- **A DNS query is answered with an empty datagram.**
Source: `src/packet_engine/responder.py` `build_udp_echo_reply`
Kind: P -/
theorem dns_query_not_echoed :
    ¬ ∀ (datagram : UdpDatagram) (localMac : PyStr), datagram.ether.dst = localMac →
      buildUdpEchoReply datagram.packet localMac = .ok datagram.echo := by
  intro h
  have hecho := h dnsQuery (text "aa:aa:aa:aa:aa:aa") rfl
  exact absurd hecho (by decide +kernel)

end NetstackSuite.PacketEngine
