import Mathlib.Algebra.Group.Nat.Defs
import Mathlib.Tactic.Common

/-!
# TCP flag bits and the sequence space

The constants and the one arithmetic function of `src/utils/tcp_flags.py` that the packet engine
uses. A TCP header's flags are nine bits, its sequence and acknowledgement numbers thirty-two.
-/

namespace NetstackSuite.Utils

/-- The flag bits of a TCP header.
Source: `src/utils/tcp_flags.py`
Kind: D -/
abbrev Flags := BitVec 9

/-- Source: `src/utils/tcp_flags.py` `FIN`. Kind: D -/
def FIN : Flags := 0x01

/-- Source: `src/utils/tcp_flags.py` `SYN`. Kind: D -/
def SYN : Flags := 0x02

/-- Source: `src/utils/tcp_flags.py` `RST`. Kind: D -/
def RST : Flags := 0x04

/-- Source: `src/utils/tcp_flags.py` `ACK`. Kind: D -/
def ACK : Flags := 0x10

/-- Source: `src/utils/tcp_flags.py` `SYN_ACK`. Kind: D -/
def SYN_ACK : Flags := SYN ||| ACK

/-- `flags & mask` as a truth value: some bit of `mask` is set.
Source: `src/utils/tcp_flags.py` `any_flags`
Kind: D -/
def anyFlags (flags mask : Flags) : Bool := flags &&& mask != 0

/-- Source: `src/utils/tcp_flags.py` `MAX_SEQ`. Kind: D -/
def MAX_SEQ : Nat := 2 ^ 32 - 1

/-- Wraps a sequence or acknowledgement number into the sequence space.
Source: `src/utils/tcp_flags.py` `seq32`
Kind: D -/
def seq32 (value : Nat) : Nat := value &&& MAX_SEQ

/-- The mask is reduction modulo `2 ^ 32`.
Source: `src/utils/tcp_flags.py` `seq32`
Kind: L -/
lemma seq32_eq_mod (value : Nat) : seq32 value = value % 2 ^ 32 :=
  Nat.and_two_pow_sub_one_eq_mod value 32

end NetstackSuite.Utils
