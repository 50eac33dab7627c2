import NetstackSuite.Utils.PacketFlags

/-!
# Packet factories

`build_tcp` and `wrap_ethernet` of `src/packet_engine/builders.py`, and `Craft` of `tests/conftest.py`, which
binds a run's addresses to them. A field that is not given has Scapy's default.
-/

namespace NetstackSuite.PacketEngine

open NetstackSuite.Python NetstackSuite.Utils

/-- Source: `src/packet_engine/builders.py` `DEFAULT_WINDOW`. Kind: D -/
def DEFAULT_WINDOW : BitVec 16 := 8192

/-- Source: `src/packet_engine/builders.py` `build_tcp`. Kind: D -/
def buildTcp (srcIp dstIp : PyStr) (srcPort dstPort : BitVec 16) (flags : List FlagLetter)
    (seq : Option Nat) (ack : Nat := 0) (window : BitVec 16 := DEFAULT_WINDOW) (payload : Bytes := []) :
    Packet :=
  let pkt : Packet := [
    .ip { src := srcIp, dst := dstIp },
    .tcp {
      sport := srcPort
      dport := dstPort
      seq := BitVec.ofNat 32 (seq.getD 0)
      ack := BitVec.ofNat 32 ack
      flags := flagByte flags
      window }]
  if payload = [] then pkt else pkt ++ [.raw payload]

/-- Source: `src/packet_engine/builders.py` `wrap_ethernet`. Kind: D -/
def wrapEthernet (l3Packet : Packet) (srcMac dstMac : PyStr) : Packet :=
  .ether { src := srcMac, dst := dstMac } :: l3Packet

/-- A run's addressing.
Source: `tests/conftest.py` `Craft`
Kind: D -/
structure Craft where
  localIp : PyStr
  localMac : PyStr
  dutIp : PyStr
  dutMac : PyStr
  dutPort : BitVec 16
  deriving DecidableEq, Repr

/-- A TCP segment to the device, to the run's target port unless another is given.
Source: `tests/conftest.py` `Craft.tcp`
Kind: D -/
def Craft.tcp (craft : Craft) (sport : BitVec 16) (flags : List FlagLetter) (seq : Option Nat)
    (ack : Nat := 0) (dport : Option (BitVec 16) := none) (window : BitVec 16 := DEFAULT_WINDOW)
    (payload : Bytes := []) : Packet :=
  let l3 := buildTcp craft.localIp craft.dutIp sport (dport.getD craft.dutPort) flags seq ack window payload
  wrapEthernet l3 craft.localMac craft.dutMac

/-- A frame with one TCP segment, which is what all of these build.
Source: none: infrastructure
Kind: D -/
def tcpFrame (ether : EtherHeader) (ip : IpHeader) (tcp : TcpHeader) (payload : Bytes) : Packet :=
  .ether ether :: .ip ip :: .tcp tcp :: if payload = [] then [] else [.raw payload]

section

variable (ether : EtherHeader) (ip : IpHeader) (tcp : TcpHeader) (payload : Bytes)

@[simp] lemma ip?_tcpFrame : (tcpFrame ether ip tcp payload).ip? = some ip := rfl

@[simp] lemma tcp?_tcpFrame : (tcpFrame ether ip tcp payload).tcp? = some tcp := rfl

@[simp] lemma raw?_tcpFrame : (tcpFrame ether ip tcp payload).raw?.getD [] = payload := by
  unfold tcpFrame
  split
  · rename_i h
    rw [h]
    rfl
  · rfl

@[simp] lemma flagsOf_tcpFrame : flagsOf (some (tcpFrame ether ip tcp payload)) = tcp.flags := rfl

end

/-- Source: `tests/conftest.py` `Craft.tcp`. Kind: L -/
lemma Craft.tcp_eq (craft : Craft) (sport : BitVec 16) (flags : List FlagLetter) (seq : Option Nat) (ack : Nat)
    (dport : Option (BitVec 16)) (window : BitVec 16) (payload : Bytes) :
    craft.tcp sport flags seq ack dport window payload =
      tcpFrame { src := craft.localMac, dst := craft.dutMac } { src := craft.localIp, dst := craft.dutIp }
        { sport, dport := dport.getD craft.dutPort, seq := BitVec.ofNat 32 (seq.getD 0),
          ack := BitVec.ofNat 32 ack, flags := flagByte flags, window } payload := by
  unfold Craft.tcp buildTcp wrapEthernet tcpFrame
  by_cases h : payload = [] <;> simp [h]

end NetstackSuite.PacketEngine
