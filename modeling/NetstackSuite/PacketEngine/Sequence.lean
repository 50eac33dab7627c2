import Mathlib.Algebra.BigOperators.Group.List.Basic
import Mathlib.Algebra.Order.Ring.Nat
import NetstackSuite.Utils.TcpFlags

/-!
# Sequence bookkeeping

`TCPSequenceTracker` of `src/packet_engine/sequence.py`, over whole exchanges of sent and received
segments. A control flag occupies a sequence number of its own, so a segment occupies its payload and one
number more for each of SYN and FIN; the tracker adds one if either is set. `follows_iff` says which
exchanges do not tell the two apart.
-/

namespace NetstackSuite.PacketEngine

open NetstackSuite.Utils

/-! ## The tracker -/

/-- What the tracker is told about a segment.
Source: `src/packet_engine/sequence.py` `TCPSequenceTracker.on_send`
Kind: D -/
structure Segment where
  payloadLen : Nat
  syn : Bool := false
  fin : Bool := false
  deriving DecidableEq, Repr

/-- Source: `src/packet_engine/sequence.py` `TCPSequenceTracker`. Kind: D -/
structure TCPSequenceTracker where
  seq : Nat
  ack : Nat := 0
  deriving DecidableEq, Repr

namespace TCPSequenceTracker

/-- A tracker, given the number that was drawn.
Source: `src/packet_engine/sequence.py` `TCPSequenceTracker.new`
Kind: D -/
def new (drawn : Fin (MAX_SEQ + 1)) : TCPSequenceTracker := { seq := drawn }

/-- The number of the segment just sent, and the tracker behind it.
Source: `src/packet_engine/sequence.py` `TCPSequenceTracker.on_send`
Kind: D -/
def onSend (t : TCPSequenceTracker) (seg : Segment) : Nat × TCPSequenceTracker :=
  let sentSeq := t.seq
  (sentSeq, { t with seq := seq32 (t.seq + seg.payloadLen + (if seg.syn ∨ seg.fin then 1 else 0)) })

/-- Source: `src/packet_engine/sequence.py` `TCPSequenceTracker.on_receive`. Kind: D -/
def onReceive (t : TCPSequenceTracker) (remoteSeq : Nat) (seg : Segment) : TCPSequenceTracker :=
  { t with ack := seq32 (remoteSeq + seg.payloadLen + (if seg.syn ∨ seg.fin then 1 else 0)) }

end TCPSequenceTracker

/-! ## Exchanges -/

/-- A call on the tracker.
Source: `src/packet_engine/sequence.py` `TCPSequenceTracker`
Kind: D -/
inductive Act where
  | send (seg : Segment)
  | receive (remoteSeq : Nat) (seg : Segment)
  deriving DecidableEq, Repr

/-- Source: `src/packet_engine/sequence.py` `TCPSequenceTracker`. Kind: D -/
def TCPSequenceTracker.act (t : TCPSequenceTracker) : Act → TCPSequenceTracker
  | .send seg => (t.onSend seg).2
  | .receive remoteSeq seg => t.onReceive remoteSeq seg

/-- The tracker after an exchange.
Source: `src/packet_engine/sequence.py` `TCPSequenceTracker`
Kind: D -/
def TCPSequenceTracker.after (t : TCPSequenceTracker) (exchange : List Act) : TCPSequenceTracker :=
  exchange.foldl TCPSequenceTracker.act t

/-- What the calls of `on_send` return, in order.
Source: `src/packet_engine/sequence.py` `TCPSequenceTracker.on_send`
Kind: D -/
def TCPSequenceTracker.returned (t : TCPSequenceTracker) : List Act → List Nat
  | [] => []
  | .send seg :: rest => (t.onSend seg).1 :: (t.onSend seg).2.returned rest
  | .receive remoteSeq seg :: rest => (t.onReceive remoteSeq seg).returned rest

/-- The segments sent in an exchange.
Source: none: infrastructure
Kind: D -/
def sent (exchange : List Act) : List Segment :=
  exchange.filterMap fun
    | .send seg => some seg
    | .receive _ _ => none

/-- The segments received in an exchange.
Source: none: infrastructure
Kind: D -/
def received (exchange : List Act) : List Segment :=
  exchange.filterMap fun
    | .send _ => none
    | .receive _ seg => some seg

/-! ## What a segment occupies -/

/-- SEG.LEN: the payload, and one for each control flag.
Source: none: specification (RFC 9293)
Kind: D -/
def Segment.len (seg : Segment) : Nat :=
  seg.payloadLen + (if seg.syn then 1 else 0) + (if seg.fin then 1 else 0)

/-- What the tracker advances by.
Source: `src/packet_engine/sequence.py` `TCPSequenceTracker.on_send`, `on_receive`
Kind: D -/
def Segment.advance (seg : Segment) : Nat := seg.payloadLen + (if seg.syn ∨ seg.fin then 1 else 0)

/-- Both control flags.
Source: none: infrastructure
Kind: D -/
def Segment.Both (seg : Segment) : Prop := seg.syn = true ∧ seg.fin = true

/-- The tracker falls short by one for a segment with both flags, and for no other.
Source: `src/packet_engine/sequence.py` `TCPSequenceTracker.on_send`
Kind: L -/
lemma Segment.len_of_both {seg : Segment} (h : seg.Both) : seg.len = seg.advance + 1 := by
  obtain ⟨hsyn, hfin⟩ := h
  simp [len, advance, hsyn, hfin]

lemma Segment.len_of_not_both {seg : Segment} (h : ¬ seg.Both) : seg.len = seg.advance := by
  unfold Both at h
  unfold len advance
  cases hsyn : seg.syn
  · simp
  · have hfin : seg.fin = false := by simpa [hsyn] using h
    simp [hfin]

/-- The exchange is numbered as the sequence space is: each segment sent has the number behind all that
was sent before it, each one received is acknowledged up to its end, and no number leaves the space.
Source: none: specification (RFC 9293)
Kind: D -/
structure Follows (iss : Fin (MAX_SEQ + 1)) (exchange : List Act) : Prop where
  sent : ∀ k < (sent exchange).length,
    ((TCPSequenceTracker.new iss).returned exchange)[k]? =
      some ((iss + (((sent exchange).take k).map Segment.len).sum) % 2 ^ 32)
  inSpace : ∀ seen, seen <+: exchange → ((TCPSequenceTracker.new iss).after seen).seq < 2 ^ 32
  received : ∀ seen remoteSeq seg, seen ++ [.receive remoteSeq seg] <+: exchange →
    ((TCPSequenceTracker.new iss).after (seen ++ [.receive remoteSeq seg])).ack =
      (remoteSeq + seg.len) % 2 ^ 32

/-! ## What the tracker returns -/

namespace TCPSequenceTracker

variable (t : TCPSequenceTracker)

lemma onSend_seq (seg : Segment) : (t.onSend seg).2.seq = (t.seq + seg.advance) % 2 ^ 32 := by
  simp only [onSend, seq32_eq_mod, Segment.advance, Nat.add_assoc]

lemma onReceive_ack (remoteSeq : Nat) (seg : Segment) :
    (t.onReceive remoteSeq seg).ack = (remoteSeq + seg.advance) % 2 ^ 32 := by
  simp only [onReceive, seq32_eq_mod, Segment.advance, Nat.add_assoc]

/-- A call keeps the number in the space.
Source: `src/packet_engine/sequence.py` `TCPSequenceTracker.on_send`
Kind: L -/
lemma seq_act_lt (h : t.seq < 2 ^ 32) (a : Act) : (t.act a).seq < 2 ^ 32 := by
  cases a with
  | send seg =>
      rw [act, onSend_seq]
      exact Nat.mod_lt _ (by decide)
  | receive remoteSeq seg => exact h

/-- Every exchange keeps the number in the space.
Source: `src/packet_engine/sequence.py` `TCPSequenceTracker.on_send`
Kind: L -/
lemma seq_after_lt (h : t.seq < 2 ^ 32) (exchange : List Act) : (t.after exchange).seq < 2 ^ 32 := by
  induction exchange generalizing t with
  | nil => exact h
  | cons a rest ih => exact ih (t.act a) (t.seq_act_lt h a)

/-- **Each number returned is what the tracker advanced by before**, from its first number on.
Source: `src/packet_engine/sequence.py` `TCPSequenceTracker.on_send`
Kind: P -/
theorem returned_getElem? (h : t.seq < 2 ^ 32) (exchange : List Act) {k : Nat}
    (hk : k < (sent exchange).length) :
    (t.returned exchange)[k]? =
      some ((t.seq + (((sent exchange).take k).map Segment.advance).sum) % 2 ^ 32) := by
  induction exchange generalizing t k with
  | nil => simp [sent] at hk
  | cons a rest ih =>
      cases a with
      | send seg =>
          have hsent : sent (.send seg :: rest) = seg :: sent rest := rfl
          rw [hsent] at hk ⊢
          cases k with
          | zero =>
              rw [List.take_zero, List.map_nil, List.sum_nil, Nat.add_zero, Nat.mod_eq_of_lt h]
              rfl
          | succ k =>
              have hlt := t.seq_act_lt h (.send seg)
              have hrest := ih (t.onSend seg).2 hlt (Nat.lt_of_succ_lt_succ hk)
              rw [List.take_succ_cons, List.map_cons, List.sum_cons, returned,
                List.getElem?_cons_succ, hrest, onSend_seq, Nat.mod_add_mod, Nat.add_assoc]
      | receive remoteSeq seg => exact ih (t.onReceive remoteSeq seg) h hk

lemma ack_after_receive (seen : List Act) (remoteSeq : Nat) (seg : Segment) :
    (t.after (seen ++ [.receive remoteSeq seg])).ack = (remoteSeq + seg.advance) % 2 ^ 32 := by
  rw [after, List.foldl_append]
  exact onReceive_ack _ remoteSeq seg

end TCPSequenceTracker

section

variable {iss : Fin (MAX_SEQ + 1)} {exchange : List Act} (h : Follows iss exchange)

include h

/-- Behind a segment with both flags, the number of the next one is off by one.
Source: `src/packet_engine/sequence.py` `TCPSequenceTracker.on_send`
Kind: L -/
lemma not_both_of_sent {seg : Segment} (hseg : seg ∈ (sent exchange).dropLast) : ¬ seg.Both := by
  have hiss : (TCPSequenceTracker.new iss).seq < 2 ^ 32 := iss.isLt
  have hreturned := fun k => (TCPSequenceTracker.new iss).returned_getElem? hiss exchange (k := k)
  intro hboth
  obtain ⟨k, hk, rfl⟩ := List.getElem_of_mem hseg
  rw [List.length_dropLast] at hk
  rw [List.getElem_dropLast] at hboth
  have hlen := Segment.len_of_both hboth
  have hhere := (hreturned k (by omega)).symm.trans (h.sent k (by omega))
  have hnext := (hreturned (k + 1) (by omega)).symm.trans (h.sent (k + 1) (by omega))
  rw [Option.some.injEq] at hhere hnext
  rw [List.take_succ_eq_append_getElem (by omega), List.map_append, List.map_append,
    List.sum_append, List.sum_append, List.map_singleton, List.map_singleton, List.sum_singleton,
    List.sum_singleton, hlen] at hnext
  omega

/-- The acknowledgement of a segment with both flags is off by one.
Source: `src/packet_engine/sequence.py` `TCPSequenceTracker.on_receive`
Kind: L -/
lemma not_both_of_received {seg : Segment} (hseg : seg ∈ received exchange) : ¬ seg.Both := by
  intro hboth
  obtain ⟨a, ha, heq⟩ := List.mem_filterMap.mp hseg
  cases a with
  | send seg => cases heq
  | receive remoteSeq seg' =>
      cases heq
      obtain ⟨seen, rest, rfl⟩ := List.append_of_mem ha
      have hend := h.received seen remoteSeq seg ⟨rest, by simp⟩
      rw [TCPSequenceTracker.ack_after_receive, Segment.len_of_both hboth] at hend
      omega

end

/-- **Which exchanges are numbered right**: those in which a segment with both SYN and FIN is sent last,
if at all, and none is received.
Source: `src/packet_engine/sequence.py` `TCPSequenceTracker`
Kind: P -/
theorem follows_iff (iss : Fin (MAX_SEQ + 1)) (exchange : List Act) :
    Follows iss exchange ↔
      (∀ seg ∈ (sent exchange).dropLast, ¬ seg.Both) ∧ ∀ seg ∈ received exchange, ¬ seg.Both := by
  have hiss : (TCPSequenceTracker.new iss).seq < 2 ^ 32 := iss.isLt
  constructor
  · intro h
    exact ⟨fun seg hseg => not_both_of_sent h hseg, fun seg hseg => not_both_of_received h hseg⟩
  · rintro ⟨hsent, hreceived⟩
    constructor
    case sent =>
      intro k hk
      have hsame : ((sent exchange).take k).map Segment.len =
          ((sent exchange).take k).map Segment.advance := by
        apply List.map_congr_left
        intro seg hseg
        apply Segment.len_of_not_both
        apply hsent
        rw [List.dropLast_eq_take]
        exact List.take_subset_take_left _ (by omega) hseg
      rw [TCPSequenceTracker.returned_getElem? _ hiss exchange hk, hsame]
      rfl
    case inSpace =>
      intro seen _
      exact TCPSequenceTracker.seq_after_lt _ hiss seen
    case received =>
      intro seen remoteSeq seg hseen
      have hmem : seg ∈ received exchange :=
        List.mem_filterMap.mpr ⟨.receive remoteSeq seg, hseen.subset (by simp), rfl⟩
      rw [TCPSequenceTracker.ack_after_receive, Segment.len_of_not_both (hreceived seg hmem)]

/-- **Two flags in one segment are counted once**: the segment after it has the number of its FIN.
Source: `src/packet_engine/sequence.py` `TCPSequenceTracker.on_send`
Kind: P -/
theorem syn_fin_counted_once :
    ¬ Follows 0 [.send { payloadLen := 0, syn := true, fin := true }, .send { payloadLen := 0 }] := by
  intro h
  have hnext := h.sent 1 (by decide)
  revert hnext
  decide

end NetstackSuite.PacketEngine
