import NetstackSuite.PacketEngine.Interface

/-!
# Predicates over a received packet

The predicates of `src/utils/tcp_flags.py`. They take what `send_receive` returns, so `none` too; a packet
without a TCP layer has no flag set. Flags are written with Scapy's letters, as `flags="PA"` is.
-/

namespace NetstackSuite.Utils

open NetstackSuite.PacketEngine NetstackSuite.Python

/-- Source: `src/utils/tcp_flags.py` `PSH`. Kind: D -/
def PSH : Flags := 0x08

/-- Source: `src/utils/tcp_flags.py` `URG`. Kind: D -/
def URG : Flags := 0x20

/-- Scapy's letter for a flag.
Source: Scapy `TCP.flags`
Kind: D -/
inductive FlagLetter where
  | F
  | S
  | R
  | P
  | A
  | U
  deriving DecidableEq, Repr

/-- Source: Scapy `TCP.flags`. Kind: D -/
def FlagLetter.bit : FlagLetter → Flags
  | F => FIN
  | S => SYN
  | R => RST
  | P => PSH
  | A => ACK
  | U => URG

/-- The flags a string of letters stands for.
Source: Scapy `TCP.flags`
Kind: D -/
def flagByte (letters : List FlagLetter) : Flags := letters.foldr (fun letter flags => letter.bit ||| flags) 0

/-- Source: `src/utils/tcp_flags.py` `flags_of`. Kind: D -/
def flagsOf (packet : Option Packet) : Flags :=
  match packet.bind Packet.tcp? with
  | some tcp => tcp.flags
  | none => 0

/-- Every bit of the mask is set.
Source: `src/utils/tcp_flags.py` `has_flags`
Kind: D -/
def hasFlags (packet : Option Packet) (mask : Flags) : Bool :=
  if mask = 0 then false else flagsOf packet &&& mask == mask

/-- Source: `src/utils/tcp_flags.py` `is_syn_ack`. Kind: D -/
def isSynAck (packet : Option Packet) : Bool := hasFlags packet SYN_ACK

/-- Source: `src/utils/tcp_flags.py` `is_bare_syn_ack`. Kind: D -/
def isBareSynAck (packet : Option Packet) : Bool := isSynAck packet && !anyFlags (flagsOf packet) (FIN ||| RST)

/-- Source: `src/utils/tcp_flags.py` `is_bare_syn`. Kind: D -/
def isBareSyn (packet : Option Packet) : Bool := hasFlags packet SYN && !hasFlags packet ACK

/-- Source: `src/utils/tcp_flags.py` `is_rst`. Kind: D -/
def isRst (packet : Option Packet) : Bool := hasFlags packet RST

/-- Source: `src/utils/tcp_flags.py` `is_ack`. Kind: D -/
def isAck (packet : Option Packet) : Bool := hasFlags packet ACK

/-- `packet is not None and packet.haslayer(TCP)`
Source: Scapy `Packet.haslayer`
Kind: D -/
def hasTcp (packet : Option Packet) : Bool := (packet.bind Packet.tcp?).isSome

@[simp] lemma flagsOf_none : flagsOf none = 0 := rfl

lemma flagsOf_of_tcp {packet : Packet} {tcp : TcpHeader} (h : packet.tcp? = some tcp) :
    flagsOf (some packet) = tcp.flags := by
  simp [flagsOf, h]

@[simp] lemma isRst_none : isRst none = false := rfl

@[simp] lemma isAck_none : isAck none = false := rfl

@[simp] lemma isSynAck_none : isSynAck none = false := rfl

/-- Where the letter's bit stands.
Source: none: infrastructure
Kind: D -/
def FlagLetter.index : FlagLetter → Nat
  | F => 0
  | S => 1
  | R => 2
  | P => 3
  | A => 4
  | U => 5

lemma FlagLetter.bit_eq (letter : FlagLetter) : letter.bit = BitVec.twoPow 9 letter.index := by
  cases letter <;> rfl

lemma FlagLetter.bit_ne_zero (letter : FlagLetter) : letter.bit ≠ 0 := by
  cases letter <;> decide

/-- A flag as a truth value.
Source: `src/utils/tcp_flags.py` `any_flags`
Kind: L -/
lemma anyFlags_bit (flags : Flags) (letter : FlagLetter) :
    anyFlags flags letter.bit = flags.getLsbD letter.index := by
  have hne : BitVec.twoPow 9 letter.index ≠ 0 := letter.bit_eq ▸ letter.bit_ne_zero
  rw [anyFlags, letter.bit_eq, BitVec.and_twoPow]
  cases flags.getLsbD letter.index
  · rfl
  · simpa using hne

/-- A letter's flag is set exactly if the letter is there.
Source: Scapy `TCP.flags`
Kind: L -/
lemma getLsbD_flagByte (letters : List FlagLetter) (letter : FlagLetter) :
    (flagByte letters).getLsbD letter.index = decide (letter ∈ letters) := by
  induction letters with
  | nil => simp [flagByte]
  | cons first letters ih =>
      have hfirst : first.bit.getLsbD letter.index = decide (letter = first) := by
        cases first <;> cases letter <;> decide
      have hcons : flagByte (first :: letters) = first.bit ||| flagByte letters := rfl
      rw [hcons, BitVec.getLsbD_or, hfirst, ih, ← Bool.decide_or]
      exact decide_eq_decide.mpr List.mem_cons.symm

end NetstackSuite.Utils
