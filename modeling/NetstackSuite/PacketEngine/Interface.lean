import NetstackSuite.Lib.Loop
import NetstackSuite.Python.Text
import NetstackSuite.Reporting.Models
import NetstackSuite.Utils.TcpFlags

/-!
# Frames and the network interface

A frame is what Scapy makes of it: a stack of dissected layers. `NetworkInterface` is the suite's
wrapper around one Ethernet interface; its state here is what the outside will let each coming
`sniff` see, and what `_record` has been given so far.
-/

namespace NetstackSuite.PacketEngine

open NetstackSuite.Lib NetstackSuite.Python NetstackSuite.Reporting NetstackSuite.Utils

/-! ## Frames -/

/-- An Ethernet header.
Source: Scapy `Ether`
Kind: D -/
structure EtherHeader where
  src : PyStr
  dst : PyStr
  deriving DecidableEq, Repr

/-- An IPv4 header, with its addresses as Scapy renders them.
Source: Scapy `IP`
Kind: D -/
structure IpHeader where
  src : PyStr
  dst : PyStr
  deriving DecidableEq, Repr

/-- A TCP header.
Source: Scapy `TCP`
Kind: D -/
structure TcpHeader where
  sport : BitVec 16
  dport : BitVec 16
  seq : BitVec 32
  ack : BitVec 32
  flags : Flags
  window : BitVec 16
  deriving DecidableEq, Repr

/-- A UDP header.
Source: Scapy `UDP`
Kind: D -/
structure UdpHeader where
  sport : BitVec 16
  dport : BitVec 16
  deriving DecidableEq, Repr

/-- An ICMP echo header.
Source: Scapy `ICMP`
Kind: D -/
structure IcmpHeader where
  type : BitVec 8
  id : BitVec 16
  seq : BitVec 16
  deriving DecidableEq, Repr

/-- One layer of a dissected frame; `other` is any layer the responders do not look into.
Source: Scapy `Packet`
Kind: D -/
inductive Layer where
  | ether (header : EtherHeader)
  | ip (header : IpHeader)
  | tcp (header : TcpHeader)
  | udp (header : UdpHeader)
  | icmp (header : IcmpHeader)
  | raw (load : Bytes)
  | other (name : PyStr) (contents : Bytes)
  deriving DecidableEq, Repr

/-- A frame: its layers, outermost first.
Source: Scapy `Packet`
Kind: D -/
abbrev Packet := List Layer

namespace Packet

/-- `packet[Ether]`; `none` where `packet.haslayer(Ether)` is false. The other accessors are alike.
Source: Scapy `Packet.getlayer`
Kind: D -/
def ether? (packet : Packet) : Option EtherHeader :=
  packet.findSome? fun layer => match layer with | .ether h => some h | _ => none

/-- Source: Scapy `Packet.getlayer`. Kind: D -/
def ip? (packet : Packet) : Option IpHeader :=
  packet.findSome? fun layer => match layer with | .ip h => some h | _ => none

/-- Source: Scapy `Packet.getlayer`. Kind: D -/
def tcp? (packet : Packet) : Option TcpHeader :=
  packet.findSome? fun layer => match layer with | .tcp h => some h | _ => none

/-- Source: Scapy `Packet.getlayer`. Kind: D -/
def udp? (packet : Packet) : Option UdpHeader :=
  packet.findSome? fun layer => match layer with | .udp h => some h | _ => none

/-- Source: Scapy `Packet.getlayer`. Kind: D -/
def icmp? (packet : Packet) : Option IcmpHeader :=
  packet.findSome? fun layer => match layer with | .icmp h => some h | _ => none

/-- Source: Scapy `Packet.getlayer`. Kind: D -/
def raw? (packet : Packet) : Option Bytes :=
  packet.findSome? fun layer => match layer with | .raw load => some load | _ => none

end Packet

/-- `packet[Layer]` raises when the layer is missing.
Source: Scapy `Packet.__getitem__`
Kind: D -/
def layerOf {header : Type} (found : Option header) : Except PyExc header :=
  match found with
  | some h => .ok h
  | none => .error (.other "IndexError")

/-! ## The interface -/

/-- What `_record` is called with.
Source: `src/packet_engine/interface.py` `_record`
Kind: D -/
structure RecordedFrame where
  direction : PacketDirection
  packet : Packet
  testNodeid : Option PyStr := none
  deriving DecidableEq, Repr

/-- The interface and the segment behind it. A `sniff` listens for a while; `windows` are the frames
on the wire in each coming such while, so frames nobody listens for are in none of them.
Source: `src/packet_engine/interface.py` `NetworkInterface`
Kind: D -/
structure NetworkInterface where
  windows : List (List Packet)
  /-- Scapy's `sendp`: the frame is put on the wire, or the socket refuses it. -/
  sendp : Packet → Except PyExc Unit := fun _ => .ok ()
  recorded : List RecordedFrame := []

/-- Scapy's `sniff`: the frames of the window that pass the filter, until `count` of them are found
(`0`: no limit).
Source: Scapy `sniff`
Kind: D -/
def scapySniff (count : Nat) (lfilter : Packet → Bool) (window : List Packet) : List Packet :=
  if count = 0 then window.filter lfilter else (window.filter lfilter).take count

namespace NetworkInterface

/-- `_record`, once for each frame.
Source: `src/packet_engine/interface.py` `NetworkInterface._record`
Kind: D -/
def record (interface : NetworkInterface) (direction : PacketDirection)
    (testNodeid : Option PyStr) (packets : List Packet) : NetworkInterface :=
  { interface with
    recorded := interface.recorded ++ packets.map fun packet =>
      { direction, packet, testNodeid : RecordedFrame } }

/-- The coming window is over.
Source: none: infrastructure
Kind: D -/
def listened (interface : NetworkInterface) : NetworkInterface :=
  { interface with windows := interface.windows.tail }

/-- Listens for the length of a window and records what passed the filter.
Source: `src/packet_engine/interface.py` `NetworkInterface.sniff`
Kind: D -/
def sniff (interface : NetworkInterface) (count : Nat) (lfilter : Packet → Bool)
    (testNodeid : Option PyStr) : List Packet × NetworkInterface :=
  let packets := scapySniff count lfilter (interface.windows.headD [])
  (packets, interface.listened.record .received testNodeid packets)

/-- Sends a frame and then records it.
Source: `src/packet_engine/interface.py` `NetworkInterface.send`
Kind: D -/
def send (interface : NetworkInterface) (packet : Packet) (testNodeid : Option PyStr) :
    Outcome NetworkInterface PyExc :=
  match interface.sendp packet with
  | .ok () => (interface.record .sent testNodeid [packet], none)
  | .error e => (interface, some e)

/-- The first frame of the coming window that passes a filter.
Source: none: infrastructure
Kind: D -/
def first (interface : NetworkInterface) (lfilter : Packet → Bool) : Option Packet :=
  (interface.windows.headD []).find? lfilter

/-- **A sniff for one frame** gets the first of the window that passes the filter.
Source: `src/packet_engine/interface.py` `NetworkInterface.sniff`
Kind: P -/
theorem sniff_one (interface : NetworkInterface) (lfilter : Packet → Bool)
    (testNodeid : Option PyStr) :
    interface.sniff 1 lfilter testNodeid =
      ((interface.first lfilter).toList,
        interface.listened.record .received testNodeid (interface.first lfilter).toList) := by
  have hone : scapySniff 1 lfilter (interface.windows.headD []) =
      (interface.first lfilter).toList := by
    unfold scapySniff first
    rw [← List.head?_filter]
    rcases (interface.windows.headD []).filter lfilter with _ | ⟨packet, rest⟩ <;> simp
  simp only [sniff, hone]

@[simp] lemma windows_listened (interface : NetworkInterface) :
    interface.listened.windows = interface.windows.tail := rfl

@[simp] lemma sendp_listened (interface : NetworkInterface) :
    interface.listened.sendp = interface.sendp := rfl

@[simp] lemma recorded_listened (interface : NetworkInterface) :
    interface.listened.recorded = interface.recorded := rfl

variable (interface : NetworkInterface) (direction : PacketDirection) (testNodeid : Option PyStr)

@[simp] lemma windows_record (packets : List Packet) :
    (interface.record direction testNodeid packets).windows = interface.windows := rfl

@[simp] lemma sendp_record (packets : List Packet) :
    (interface.record direction testNodeid packets).sendp = interface.sendp := rfl

@[simp] lemma recorded_record (packets : List Packet) :
    (interface.record direction testNodeid packets).recorded =
      interface.recorded ++ packets.map fun packet =>
        { direction, packet, testNodeid : RecordedFrame } := rfl

end NetworkInterface

end NetstackSuite.PacketEngine
