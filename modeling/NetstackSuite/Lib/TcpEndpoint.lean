import Mathlib.Algebra.Order.Ring.Nat
import Mathlib.Logic.Function.Iterate
import Mathlib.Tactic.Common

/-!
# A passive TCP endpoint

How an endpoint that listens treats the segments of one peer (RFC 9293, section 3.10.7), as a function of
its state, the segment and the choices the standard leaves to it at that moment: the initial sequence
number, the window, whether a challenge ACK goes out now, whether a segment out of order is kept. Its
application only reads; it neither sends nor closes.

What differs between generations of endpoints is its `Conduct`: RFC 5961 asks for an RST at exactly the
next number expected and for a challenge ACK in answer to a SYN, RFC 793 did not; and endpoints do differ
on a SYN that comes again and on a SYN with a FIN.

A sequence number is compared by its distance from another, modulo `2 ^ 32`.
-/

namespace NetstackSuite.Lib.Tcp

/-- Source: none: specification (RFC 9293). Kind: D -/
abbrev SeqNum := BitVec 32

/-- A segment: its numbers, its control bits and how many octets of text it has.
Source: none: specification (RFC 9293)
Kind: D -/
structure Segment where
  seq : SeqNum
  ack : SeqNum := 0
  syn : Bool := false
  ackBit : Bool := false
  fin : Bool := false
  rst : Bool := false
  text : Nat := 0
  deriving DecidableEq, Repr

/-- SEG.LEN
Source: none: specification (RFC 9293)
Kind: D -/
def Segment.len (seg : Segment) : Nat := seg.text + seg.syn.toNat + seg.fin.toNat

/-- The sequence number is one of the segment's.
Source: none: specification (RFC 9293)
Kind: D -/
def Segment.covers (seg : Segment) (n : SeqNum) : Bool := (n - seg.seq).toNat < seg.len

/-- What an endpoint keeps of a connection: SND.UNA, SND.NXT, RCV.NXT, and segments out of order.
Source: none: specification (RFC 9293)
Kind: D -/
structure Tcb where
  sndUna : SeqNum
  sndNxt : SeqNum
  rcvNxt : SeqNum
  held : List Segment := []
  deriving DecidableEq, Repr

/-- The states of an endpoint that listens and whose application does not close. A port without a
listener is `closed`; a connection that is deleted leaves the listener behind.
Source: none: specification (RFC 9293)
Kind: D -/
inductive State where
  | closed
  | listen
  | synReceived (t : Tcb)
  | established (t : Tcb)
  | closeWait (t : Tcb)
  deriving DecidableEq, Repr

/-- What endpoints differ in.
Source: none: specification (RFC 793, RFC 5961)
Kind: D -/
structure Conduct where
  /-- An RST anywhere in the window resets the connection, not only one at RCV.NXT. -/
  rstInWindow : Bool := false
  /-- A SYN in the window resets the connection. -/
  synResets : Bool := false
  /-- A SYN that comes again is answered with the SYN-ACK again, not with an ACK. -/
  resendsSynAck : Bool := true
  /-- A SYN with a FIN opens a connection. -/
  takesSynFin : Bool := false
  deriving DecidableEq, Repr

/-- The choices of the endpoint as a segment arrives.
Source: none: specification (RFC 9293)
Kind: D -/
structure Choice where
  iss : SeqNum
  window : Nat
  challenge : Bool
  hold : Bool
  deriving DecidableEq, Repr

/-! ## Replies -/

/-- `<SEQ=SND.NXT><ACK=RCV.NXT><CTL=ACK>`
Source: none: specification (RFC 9293)
Kind: D -/
def Tcb.ackSegment (t : Tcb) : Segment := { seq := t.sndNxt, ack := t.rcvNxt, ackBit := true }

/-- `<SEQ=ISS><ACK=RCV.NXT><CTL=SYN,ACK>`
Source: none: specification (RFC 9293)
Kind: D -/
def Tcb.synAck (t : Tcb) : Segment := { seq := t.sndUna, ack := t.rcvNxt, syn := true, ackBit := true }

/-- A challenge ACK, unless their number is being limited.
Source: none: specification (RFC 5961)
Kind: D -/
def Tcb.challenge (t : Tcb) (c : Choice) : List Segment := if c.challenge then [t.ackSegment] else []

/-- The reset in answer to a segment: `<SEQ=SEG.ACK><CTL=RST>`, or
`<SEQ=0><ACK=SEG.SEQ+SEG.LEN><CTL=RST,ACK>` to one without ACK.
Source: none: specification (RFC 9293)
Kind: D -/
def Segment.reset (seg : Segment) : Segment :=
  if seg.ackBit then { seq := seg.ack, rst := true }
  else { seq := 0, ack := seg.seq + BitVec.ofNat 32 seg.len, ackBit := true, rst := true }

/-! ## The checks -/

/-- `RCV.NXT =< n < RCV.NXT+RCV.WND`
Source: none: specification (RFC 9293)
Kind: D -/
def Tcb.inWindow (t : Tcb) (window : Nat) (n : SeqNum) : Bool := (n - t.rcvNxt).toNat < window

/-- The first check: the segment begins or ends in the window.
Source: none: specification (RFC 9293)
Kind: D -/
def Tcb.acceptable (t : Tcb) (window : Nat) (seg : Segment) : Bool :=
  if window = 0 then seg.len == 0 && seg.seq == t.rcvNxt
  else t.inWindow window seg.seq ||
    seg.len != 0 && t.inWindow window (seg.seq + BitVec.ofNat 32 (seg.len - 1))

/-- What becomes of a segment and of its connection.
Source: none: infrastructure
Kind: D -/
inductive Check where
  | drop (replies : List Segment)
  | delete (replies : List Segment)
  | proceed
  deriving DecidableEq, Repr

/-- The checks of the sequence number, of RST, of SYN and for ACK, as they are for a connection that is
established.
Source: none: specification (RFC 9293, RFC 5961)
Kind: D -/
def Tcb.check (t : Tcb) (b : Conduct) (c : Choice) (seg : Segment) : Check :=
  if !t.acceptable c.window seg then .drop (if seg.rst then [] else [t.ackSegment])
  else if seg.rst then
    if seg.seq == t.rcvNxt || b.rstInWindow then .delete [] else .drop (t.challenge c)
  else if seg.syn then
    if b.synResets then .delete [{ seq := t.sndNxt, rst := true }] else .drop (t.challenge c)
  else if !seg.ackBit then .drop []
  else .proceed

/-- The check of the acknowledgement: what is acknowledged by it, unless it is of something never sent.
Source: none: specification (RFC 9293)
Kind: D -/
def Tcb.acknowledge (t : Tcb) (ack : SeqNum) : Option Tcb :=
  if (ack - t.sndUna).toNat ≤ (t.sndNxt - t.sndUna).toNat then some { t with sndUna := ack }
  else if (ack - t.sndNxt).toNat < 2 ^ 31 then none
  else some t

/-- What of the segment is new, as far as the window reaches; and whether its FIN is among it.
Source: none: specification (RFC 9293)
Kind: D -/
def Tcb.take (t : Tcb) (window : Nat) (seg : Segment) : Tcb × Bool :=
  let rest := seg.len - (t.rcvNxt - seg.seq).toNat
  let n := min rest window
  ({ t with rcvNxt := t.rcvNxt + BitVec.ofNat 32 n }, seg.fin && n == rest)

/-- One pass over the segments that were kept.
Source: none: specification (RFC 9293)
Kind: D -/
def absorb (window : Nat) : List Segment → Tcb × Bool → Tcb × Bool
  | [], r => r
  | h :: hs, (t, fin) =>
      absorb window hs (if !fin && h.covers t.rcvNxt then t.take window h else (t, fin))

/-- Segment text and FIN on a connection that is established.
Source: none: specification (RFC 9293)
Kind: D -/
def Tcb.receive (t : Tcb) (c : Choice) (seg : Segment) : State × List Segment :=
  if seg.len = 0 then (.established t, [])
  else if seg.covers t.rcvNxt then
    let (t', fin) := (absorb c.window t.held)^[t.held.length] (t.take c.window seg)
    (if fin then .closeWait t' else .established t', [t'.ackSegment])
  else
    (.established { t with held := if c.hold then t.held ++ [seg] else t.held }, [t.ackSegment])

/-- A segment arrives.
Source: none: specification (RFC 9293)
Kind: D -/
def arrive (b : Conduct) (c : Choice) : State → Segment → State × List Segment
  | .closed, seg => (.closed, if seg.rst then [] else [seg.reset])
  | .listen, seg =>
      if seg.rst then (.listen, [])
      else if seg.ackBit then (.listen, [seg.reset])
      else if seg.syn && (!seg.fin || b.takesSynFin) then
        let t : Tcb := { sndUna := c.iss, sndNxt := c.iss + 1, rcvNxt := seg.seq + 1 }
        (.synReceived t, [t.synAck])
      else (.listen, [])
  | .synReceived t, seg =>
      if !t.acceptable c.window seg then
        (.synReceived t,
          if seg.rst then []
          else if b.resendsSynAck && seg.syn && !seg.ackBit && seg.seq + 1 == t.rcvNxt then [t.synAck]
          else [t.ackSegment])
      else if seg.rst then
        if seg.seq == t.rcvNxt || b.rstInWindow then (.listen, [])
        else (.synReceived t, t.challenge c)
      else if seg.syn then (.listen, [])
      else if !seg.ackBit then (.synReceived t, [])
      else if seg.ack == t.sndNxt then Tcb.receive { t with sndUna := seg.ack } c seg
      else (.synReceived t, [seg.reset])
  | .established t, seg =>
      match t.check b c seg with
      | .drop replies => (.established t, replies)
      | .delete replies => (.listen, replies)
      | .proceed =>
        match t.acknowledge seg.ack with
        | none => (.established t, [t.ackSegment])
        | some t' => t'.receive c seg
  | .closeWait t, seg =>
      match t.check b c seg with
      | .drop replies => (.closeWait t, replies)
      | .delete replies => (.listen, replies)
      | .proceed =>
        match t.acknowledge seg.ack with
        | none => (.closeWait t, [t.ackSegment])
        | some t' => (.closeWait t', [])

/-! ## Distances -/

section

variable {b : Conduct} {c : Choice} {t : Tcb} {seg : Segment} {st : State}

/-! ## What the checks do -/

/-- What a SYN makes of an endpoint that listens.
Source: none: specification (RFC 9293)
Kind: D -/
def opened (iss seq : SeqNum) : Tcb := { sndUna := iss, sndNxt := iss + 1, rcvNxt := seq + 1 }

/-- A connection on which all is acknowledged and nothing is out of order.
Source: none: specification (RFC 9293)
Kind: D -/
def synced (next una : SeqNum) : Tcb := { sndUna := una, sndNxt := una, rcvNxt := next }

lemma arrive_listen_syn (hsyn : seg.syn = true) (hrst : seg.rst = false) (hack : seg.ackBit = false)
    (hfin : seg.fin = false) :
    arrive b c .listen seg = (.synReceived (opened c.iss seg.seq), [(opened c.iss seg.seq).synAck]) := by
  simp [arrive, hsyn, hrst, hack, hfin, opened]

end

end NetstackSuite.Lib.Tcp
