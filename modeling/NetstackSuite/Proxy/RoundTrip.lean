import NetstackSuite.Lib.Runs
import NetstackSuite.Proxy.Backend

/-!
# A round trip through an echoing peer

`ProxyClient.roundtrip` of `src/proxy/client.py` sends the whole payload before it reads any of it back;
`EchoBackend._handle_tcp` of `src/proxy/backend.py` sends back the whole of a chunk before it reads the
next. Between the two, each direction holds a bounded number of bytes.

A payload comes back in every case if it is at most one byte longer than what both directions hold; for
every longer one there is a run that leaves both sides in `sendall`, neither of which can go on
(`roundtrip_completes_iff`). Time is not modelled: a `sendall` times out only if nothing else can happen.
-/

namespace NetstackSuite.Proxy

open NetstackSuite.Python NetstackSuite.Lib

/-! ## The system -/

/-- How many bytes each direction between the two holds.
Source: none: infrastructure
Kind: D -/
structure Capacity where
  toPeer : Nat
  fromPeer : Nat
  toPeer_pos : 0 < toPeer
  fromPeer_pos : 0 < fromPeer

/-- A round trip under way.
Source: `src/proxy/client.py` `ProxyClient.roundtrip`, `src/proxy/backend.py` `EchoBackend._handle_tcp`
Kind: D -/
structure RoundTrip where
  /-- What the client's `sendall` has still to send. -/
  unsent : Bytes
  /-- On the way to the peer. -/
  outgoing : Bytes := []
  /-- What the peer's `sendall` has still to send back; nothing while it is in `recv`. -/
  data : Bytes := []
  /-- On the way back. -/
  incoming : Bytes := []
  /-- What `_recv_exact` has read. -/
  buffer : Bytes := []
  /-- A `sendall` has timed out. -/
  timedOut : Bool := false
  deriving DecidableEq

/-- What happens next. Every operation moves as many bytes as it likes, but at least one.
Source: `src/proxy/client.py` `ProxyClient.roundtrip`, `src/proxy/backend.py` `EchoBackend._handle_tcp`
Kind: D -/
inductive RoundTripEvent where
  | send (n : Nat)
  | peerRecv (n : Nat)
  | peerSend (n : Nat)
  | recv (n : Nat)
  | timeout
  deriving DecidableEq, Repr

namespace RoundTrip

/-- Both sides are in `sendall`, and neither direction has room.
Source: `src/proxy/client.py` `ProxyClient.send`, `src/proxy/backend.py` `EchoBackend._handle_tcp`
Kind: D -/
def BothBlocked (c : Capacity) (s : RoundTrip) : Prop :=
  (s.unsent ≠ [] ∧ c.toPeer ≤ s.outgoing.length) ∧ s.data ≠ [] ∧ c.fromPeer ≤ s.incoming.length

instance (c : Capacity) (s : RoundTrip) : Decidable (BothBlocked c s) :=
  inferInstanceAs (Decidable (_ ∧ _))

/-- One step of a round trip of `count` bytes.
Source: `src/proxy/client.py` `ProxyClient.roundtrip`, `src/proxy/backend.py` `EchoBackend._handle_tcp`
Kind: D -/
def step (c : Capacity) (count : Nat) (s : RoundTrip) (e : RoundTripEvent) : Option RoundTrip :=
  if s.timedOut then none
  else
    match e with
    | .send n =>
        if 0 < n ∧ n ≤ s.unsent.length ∧ s.outgoing.length + n ≤ c.toPeer then
          some { s with unsent := s.unsent.drop n, outgoing := s.outgoing ++ s.unsent.take n }
        else none
    | .peerRecv n =>
        if s.data = [] ∧ 0 < n ∧ n ≤ s.outgoing.length ∧ n ≤ RECV_CHUNK then
          some { s with outgoing := s.outgoing.drop n, data := s.outgoing.take n }
        else none
    | .peerSend n =>
        if 0 < n ∧ n ≤ s.data.length ∧ s.incoming.length + n ≤ c.fromPeer then
          some { s with data := s.data.drop n, incoming := s.incoming ++ s.data.take n }
        else none
    | .recv n =>
        -- `roundtrip` reads only when `send` has returned, and `_recv_exact` never more than it still needs
        if s.unsent = [] ∧ 0 < n ∧ n ≤ s.incoming.length ∧ n ≤ count - s.buffer.length then
          some { s with incoming := s.incoming.drop n, buffer := s.buffer ++ s.incoming.take n }
        else none
    | .timeout => if s.BothBlocked c then some { s with timedOut := true } else none

/-- Source: `src/proxy/client.py` `ProxyClient.roundtrip`. Kind: D -/
def start (payload : Bytes) : RoundTrip := { unsent := payload }

/-! ## What a step does -/

variable {c : Capacity} {payload : Bytes} {s t : RoundTrip} {e : RoundTripEvent}

section Enabled

variable {count n : Nat} (hlive : s.timedOut = false)
include hlive

lemma step_send (hn : 0 < n) (hle : n ≤ s.unsent.length) (hroom : s.outgoing.length + n ≤ c.toPeer) :
    s.step c count (.send n) =
      some { s with unsent := s.unsent.drop n, outgoing := s.outgoing ++ s.unsent.take n } := by
  unfold RoundTrip.step
  rw [if_neg (by simp [hlive])]
  exact if_pos ⟨hn, hle, hroom⟩

lemma step_peerRecv (hdata : s.data = []) (hn : 0 < n) (hle : n ≤ s.outgoing.length)
    (hchunk : n ≤ RECV_CHUNK) :
    s.step c count (.peerRecv n) =
      some { s with outgoing := s.outgoing.drop n, data := s.outgoing.take n } := by
  unfold RoundTrip.step
  rw [if_neg (by simp [hlive])]
  exact if_pos ⟨hdata, hn, hle, hchunk⟩

lemma step_peerSend (hn : 0 < n) (hle : n ≤ s.data.length)
    (hroom : s.incoming.length + n ≤ c.fromPeer) :
    s.step c count (.peerSend n) =
      some { s with data := s.data.drop n, incoming := s.incoming ++ s.data.take n } := by
  unfold RoundTrip.step
  rw [if_neg (by simp [hlive])]
  exact if_pos ⟨hn, hle, hroom⟩

lemma step_recv (hunsent : s.unsent = []) (hn : 0 < n) (hle : n ≤ s.incoming.length)
    (hneed : n ≤ count - s.buffer.length) :
    s.step c count (.recv n) =
      some { s with incoming := s.incoming.drop n, buffer := s.buffer ++ s.incoming.take n } := by
  unfold RoundTrip.step
  rw [if_neg (by simp [hlive])]
  exact if_pos ⟨hunsent, hn, hle, hneed⟩

lemma step_timeout (hblocked : s.BothBlocked c) :
    s.step c count .timeout = some { s with timedOut := true } := by
  unfold RoundTrip.step
  rw [if_neg (by simp [hlive])]
  exact if_pos hblocked

end Enabled

lemma step_timedOut {count : Nat} (htimed : s.timedOut = true) (e : RoundTripEvent) :
    s.step c count e = none := by
  unfold RoundTrip.step
  exact if_pos htimed

/-- The peer's part is the handler's: it reads a chunk, and sends it back piece by piece.
Source: `src/proxy/backend.py` `EchoBackend._handle_tcp`
Kind: L -/
theorem peer_handlerMove {count n : Nat} (flags : BackendFlags) (conn : Conn) :
    (s.step c count (.peerRecv n) = some t →
      handlerMove flags conn .receiving (.data (s.outgoing.take n)) =
        some ({ conn with received := conn.received ++ t.data }, .addingReceived t.data)) ∧
    (s.step c count (.peerSend n) = some t → ∀ chunk,
      handlerMove flags conn (.sending chunk s.data) (.sent n) =
        some ({ conn with echoed := conn.echoed ++ s.data.take n },
          if t.data = [] then .addingEchoed chunk else .sending chunk t.data)) := by
  constructor
  · intro hstep
    unfold RoundTrip.step at hstep
    obtain ⟨-, hstep⟩ := Option.ite_none_left_eq_some.mp hstep
    obtain ⟨⟨-, hn, hle, hchunk⟩, ht⟩ := Option.ite_none_right_eq_some.mp hstep
    obtain rfl := Option.some.inj ht
    have hlength : (s.outgoing.take n).length = n := List.length_take_of_le hle
    have hne : s.outgoing.take n ≠ [] := List.ne_nil_of_length_pos (by omega)
    simp only [handlerMove]
    rw [if_neg (by omega), if_neg hne]
  · intro hstep chunk
    unfold RoundTrip.step at hstep
    obtain ⟨-, hstep⟩ := Option.ite_none_left_eq_some.mp hstep
    obtain ⟨⟨hn, hle, -⟩, ht⟩ := Option.ite_none_right_eq_some.mp hstep
    obtain rfl := Option.some.inj ht
    simp only [handlerMove]
    rw [if_pos ⟨hn, hle⟩]

/-- What holds in every state of a round trip.
Source: `src/proxy/client.py` `ProxyClient.roundtrip`, `src/proxy/backend.py` `EchoBackend._handle_tcp`
Kind: D -/
structure Whole (c : Capacity) (payload : Bytes) (s : RoundTrip) : Prop where
  bytes : s.buffer ++ s.incoming ++ s.data ++ s.outgoing ++ s.unsent = payload
  outgoing_le : s.outgoing.length ≤ c.toPeer
  incoming_le : s.incoming.length ≤ c.fromPeer
  /-- The client reads nothing before it has sent all. -/
  sending : s.unsent ≠ [] → s.buffer = []
  timedOut : s.timedOut = true → s.BothBlocked c

/-- What is left to do: every byte is moved four times.
Source: none: specification
Kind: D -/
def remaining (s : RoundTrip) : Nat :=
  4 * s.unsent.length + 3 * s.outgoing.length + 2 * s.data.length + s.incoming.length +
    if s.timedOut then 0 else 1

lemma whole_start (c : Capacity) (payload : Bytes) : Whole c payload (start payload) :=
  ⟨rfl, Nat.zero_le _, Nat.zero_le _, fun _ => rfl, fun h => absurd h (by simp [start])⟩

/-- **One step** loses no byte and overfills nothing, and less is left to do.
Source: `src/proxy/client.py` `ProxyClient.roundtrip`, `src/proxy/backend.py` `EchoBackend._handle_tcp`
Kind: P -/
lemma Whole.step (h : Whole c payload s) (hstep : s.step c payload.length e = some t) :
    Whole c payload t ∧ t.remaining < s.remaining := by
  obtain ⟨hbytes, hout, hin, hsending, -⟩ := h
  unfold RoundTrip.step at hstep
  obtain ⟨hlive, hstep⟩ := Option.ite_none_left_eq_some.mp hstep
  have hlive' : s.timedOut = false := by simpa using hlive
  cases e with
  | send n =>
      obtain ⟨⟨hn, hle, hroom⟩, ht⟩ := Option.ite_none_right_eq_some.mp hstep
      obtain rfl := Option.some.inj ht
      refine ⟨⟨?_, ?_, hin, ?_, fun h => absurd h hlive⟩, ?_⟩
      · rw [← hbytes]
        simp
      · simp
        omega
      · intro hne
        apply hsending
        rintro hnil
        simp [hnil] at hne
      · simp [remaining, hlive']
        omega
  | peerRecv n =>
      obtain ⟨⟨hdata, hn, hle, -⟩, ht⟩ := Option.ite_none_right_eq_some.mp hstep
      obtain rfl := Option.some.inj ht
      refine ⟨⟨?_, ?_, hin, hsending, fun h => absurd h hlive⟩, ?_⟩
      · rw [← hbytes, hdata]
        simp
      · simp
        omega
      · simp [remaining, hlive', hdata]
        omega
  | peerSend n =>
      obtain ⟨⟨hn, hle, hroom⟩, ht⟩ := Option.ite_none_right_eq_some.mp hstep
      obtain rfl := Option.some.inj ht
      refine ⟨⟨?_, hout, ?_, hsending, fun h => absurd h hlive⟩, ?_⟩
      · rw [← hbytes]
        simp
      · simp
        omega
      · simp [remaining, hlive']
        omega
  | recv n =>
      obtain ⟨⟨hsent, hn, hle, -⟩, ht⟩ := Option.ite_none_right_eq_some.mp hstep
      obtain rfl := Option.some.inj ht
      refine ⟨⟨?_, hout, ?_, fun hne => absurd hsent hne, fun h => absurd h hlive⟩, ?_⟩
      · rw [← hbytes]
        simp
      · simp
        omega
      · simp [remaining, hlive']
        omega
  | timeout =>
      obtain ⟨hblocked, ht⟩ := Option.ite_none_right_eq_some.mp hstep
      obtain rfl := Option.some.inj ht
      refine ⟨⟨hbytes, hout, hin, hsending, fun _ => hblocked⟩, ?_⟩
      simp [remaining, hlive']

/-- The lengths of the five parts add up.
Source: none: infrastructure
Kind: L -/
lemma Whole.length (h : Whole c payload s) :
    s.buffer.length + s.incoming.length + s.data.length + s.outgoing.length + s.unsent.length =
      payload.length := by
  rw [← h.bytes]
  simp only [List.length_append]

/-- Two blocked sides have, with a byte of each, more than both directions hold.
Source: `src/proxy/client.py` `ProxyClient.send`, `src/proxy/backend.py` `EchoBackend._handle_tcp`
Kind: L -/
lemma Whole.length_of_bothBlocked (h : Whole c payload s) (hblocked : s.BothBlocked c) :
    c.toPeer + c.fromPeer + 2 ≤ payload.length := by
  obtain ⟨⟨hunsent, hout⟩, hdata, hin⟩ := hblocked
  have hlength := h.length
  have hclient := List.length_pos_iff.mpr hunsent
  have hpeer := List.length_pos_iff.mpr hdata
  omega

/-- A side that is not blocked can go on, until all has come back.
Source: `src/proxy/client.py` `ProxyClient.roundtrip`, `src/proxy/backend.py` `EchoBackend._handle_tcp`
Kind: L -/
lemma Whole.progress (h : Whole c payload s) (hfree : ¬ s.BothBlocked c) (hopen : s.buffer ≠ payload) :
    ∃ e t, s.step c payload.length e = some t := by
  have hlive : s.timedOut = false := by
    rw [← Bool.not_eq_true]
    exact fun htimed => hfree (h.timedOut htimed)
  have hlength := h.length
  have hpeer := c.fromPeer_pos
  have hclient := c.toPeer_pos
  by_cases hdata : s.data = []
  · by_cases hout : s.outgoing = []
    · by_cases hunsent : s.unsent = []
      · -- all that is left is on the way back
        have hin : s.incoming ≠ [] := by
          intro hin
          apply hopen
          rw [← h.bytes, hin, hdata, hout, hunsent]
          simp
        have hin' := List.length_pos_iff.mpr hin
        exact ⟨.recv 1, _, step_recv hlive hunsent Nat.one_pos hin' (by omega)⟩
      · have hunsent' := List.length_pos_iff.mpr hunsent
        have hroom : s.outgoing.length + 1 ≤ c.toPeer := by
          rw [hout]
          exact hclient
        exact ⟨.send 1, _, step_send hlive Nat.one_pos hunsent' hroom⟩
    · have hout' := List.length_pos_iff.mpr hout
      exact ⟨.peerRecv 1, _, step_peerRecv hlive hdata Nat.one_pos hout' (by decide)⟩
  · have hdata' := List.length_pos_iff.mpr hdata
    rcases Nat.lt_or_ge s.incoming.length c.fromPeer with hroom | hfull
    · exact ⟨.peerSend 1, _, step_peerSend hlive Nat.one_pos hdata' hroom⟩
    · by_cases hunsent : s.unsent = []
      · -- the peer is blocked, and the client reads
        exact ⟨.recv 1, _, step_recv hlive hunsent Nat.one_pos (by omega) (by omega)⟩
      · have hunsent' := List.length_pos_iff.mpr hunsent
        rcases Nat.lt_or_ge s.outgoing.length c.toPeer with hroom | hfull'
        · exact ⟨.send 1, _, step_send hlive Nat.one_pos hunsent' hroom⟩
        · exact absurd ⟨⟨hunsent, hfull'⟩, hdata, hfull⟩ hfree

/-! ## Both sides in `sendall` -/

/-- A state that some run of a round trip comes to.
Source: `src/proxy/client.py` `ProxyClient.roundtrip`
Kind: D -/
def Reached (c : Capacity) (payload : Bytes) (s : RoundTrip) : Prop :=
  Reaches (RoundTrip.step c payload.length) (fun _ _ => True) (start payload) s

lemma Reached.step (h : Reached c payload s) (hstep : s.step c payload.length e = some t) :
    Reached c payload t := Reaches.step h trivial hstep

/-- Every state reached is whole.
Source: `src/proxy/client.py` `ProxyClient.roundtrip`
Kind: L -/
lemma Reached.whole (h : Reached c payload s) : Whole c payload s :=
  h.invariant (Whole c payload) (whole_start c payload) fun _ _ _ hs _ hstep => (hs.step hstep).1

/-- A byte goes to the peer and is read there.
Source: `src/proxy/backend.py` `EchoBackend._handle_tcp`
Kind: L -/
lemma Reached.toPeer {a : UInt8} {rest back : Bytes}
    (h : Reached c payload { unsent := a :: rest, incoming := back }) :
    Reached c payload { unsent := rest, data := [a], incoming := back } := by
  have hsent : Reached c payload { unsent := rest, outgoing := [a], incoming := back } :=
    h.step (step_send rfl Nat.one_pos (Nat.succ_pos _) c.toPeer_pos)
  exact hsent.step (step_peerRecv rfl rfl Nat.one_pos le_rfl (by decide))

/-- The first bytes of a payload have come back as far as the client, which reads none of them.
Source: `src/proxy/client.py` `ProxyClient.roundtrip`
Kind: L -/
lemma reached_incoming (c : Capacity) (payload : Bytes) {front back : Bytes}
    (hpayload : front ++ back = payload) (hle : front.length ≤ c.fromPeer) :
    Reached c payload { unsent := back, incoming := front } := by
  induction front using List.reverseRecOn generalizing back with
  | nil =>
      obtain rfl : back = payload := hpayload
      exact .start
  | append_singleton front a ih =>
      rw [List.length_append, List.length_singleton] at hle
      rw [List.append_assoc] at hpayload
      have hpeer := (ih hpayload (by omega)).toPeer
      exact hpeer.step (step_peerSend rfl Nat.one_pos le_rfl hle)

/-- **Both sides block** over a payload that is two bytes longer than what both directions hold, or more.
Source: `src/proxy/client.py` `ProxyClient.roundtrip`, `src/proxy/backend.py` `EchoBackend._handle_tcp`
Kind: P -/
theorem bothBlocked_reached (c : Capacity) {payload : Bytes}
    (hlong : c.toPeer + c.fromPeer + 2 ≤ payload.length) :
    ∃ s, Reached c payload s ∧ s.BothBlocked c := by
  have hpayload := List.take_append_drop c.fromPeer payload
  have hfront : (payload.take c.fromPeer).length = c.fromPeer := List.length_take_of_le (by omega)
  have htail : (payload.drop c.fromPeer).length = payload.length - c.fromPeer := List.length_drop
  obtain ⟨a, rest, hrest⟩ := List.exists_cons_of_length_pos (htail ▸ (by omega) :
    0 < (payload.drop c.fromPeer).length)
  rw [hrest] at hpayload htail
  have hroom : c.toPeer + 1 ≤ rest.length := by
    rw [List.length_cons] at htail
    omega
  -- the way back is full and the peer has a byte in hand; the client fills the way out
  have hpeer := (reached_incoming c payload hpayload hfront.le).toPeer
  have hfull := hpeer.step (step_send rfl c.toPeer_pos (Nat.le_of_succ_le hroom) (Nat.zero_add _).le)
  refine ⟨_, hfull, ⟨?_, ?_⟩, List.cons_ne_nil a [], hfront.ge⟩
  · apply List.ne_nil_of_length_pos
    rw [List.length_drop]
    exact Nat.sub_pos_of_lt hroom
  · exact (List.length_take_of_le (Nat.le_of_succ_le hroom)).ge

/-- What has come back stays.
Source: `src/proxy/client.py` `ProxyClient._recv_exact`
Kind: L -/
lemma buffer_stays (s : RoundTrip) (e : RoundTripEvent) (t : RoundTrip) (hback : s.buffer = payload)
    (hstep : s.step c payload.length e = some t) : t.buffer = payload := by
  unfold RoundTrip.step at hstep
  obtain ⟨-, hstep⟩ := Option.ite_none_left_eq_some.mp hstep
  cases e with
  | send n | peerRecv n | peerSend n | timeout =>
      obtain ⟨-, ht⟩ := Option.ite_none_right_eq_some.mp hstep
      obtain rfl := Option.some.inj ht
      exact hback
  | recv n =>
      obtain ⟨⟨-, hn, -, hneed⟩, -⟩ := Option.ite_none_right_eq_some.mp hstep
      rw [hback, Nat.sub_self] at hneed
      omega

/-- A `sendall` of two blocked sides times out, and the payload does not come back.
Source: `src/proxy/client.py` `ProxyClient.roundtrip`, `src/proxy/backend.py` `EchoBackend._handle_tcp`
Kind: P -/
theorem Reached.not_delivered (h : Reached c payload s) (hblocked : s.BothBlocked c) :
    ¬ Inevitable (RoundTrip.step c payload.length) (fun s => s.buffer = payload) (start payload) := by
  intro hdelivers
  have hopen : s.buffer ≠ payload := by
    intro hback
    have hlength := h.whole.length
    have hunsent := List.length_pos_iff.mpr hblocked.1.1
    rw [hback] at hlength
    omega
  have hthere := hdelivers.of_reaches buffer_stays h
  cases htimed : s.timedOut with
  | true => exact hopen (hthere.of_stuck (step_timedOut htimed))
  | false =>
      cases hthere with
      | now hback => exact hopen hback
      | later _ hnext =>
          have hafter := hnext .timeout _ (step_timeout htimed hblocked)
          exact hopen (hafter.of_stuck (step_timedOut rfl))

/-! ## Which payloads come back -/

/-- No state has both sides blocked in a send, and every maximal run brings the payload back.
Source: `src/proxy/client.py` `ProxyClient.roundtrip`
Kind: D -/
structure Completes (c : Capacity) (payload : Bytes) : Prop where
  never_blocked : ∀ s, Reached c payload s → ¬ s.BothBlocked c
  delivers : Inevitable (RoundTrip.step c payload.length) (fun s => s.buffer = payload) (start payload)

/-- Source: `src/proxy/client.py` `ProxyClient.roundtrip`. Kind: L -/
lemma Whole.not_bothBlocked (h : Whole c payload s)
    (hle : payload.length ≤ c.toPeer + c.fromPeer + 1) : ¬ s.BothBlocked c := by
  intro hblocked
  have hlong := h.length_of_bothBlocked hblocked
  omega

/-- Source: `src/proxy/client.py` `ProxyClient.roundtrip`. Kind: P -/
theorem never_blocked_iff (c : Capacity) (payload : Bytes) :
    (∀ s, Reached c payload s → ¬ s.BothBlocked c) ↔
      payload.length ≤ c.toPeer + c.fromPeer + 1 := by
  constructor
  · intro hnever
    by_contra hlong
    obtain ⟨s, hreached, hblocked⟩ := bothBlocked_reached c (Nat.lt_of_not_le hlong)
    exact hnever s hreached hblocked
  · intro hle s hreached
    exact hreached.whole.not_bothBlocked hle

/-- Source: `src/proxy/client.py` `ProxyClient.roundtrip`. Kind: P -/
theorem delivered_iff (c : Capacity) (payload : Bytes) :
    Inevitable (RoundTrip.step c payload.length) (fun s => s.buffer = payload) (start payload) ↔
      payload.length ≤ c.toPeer + c.fromPeer + 1 := by
  constructor
  · intro hdelivers
    by_contra hlong
    obtain ⟨s, hreached, hblocked⟩ := bothBlocked_reached c (Nat.lt_of_not_le hlong)
    exact hreached.not_delivered hblocked hdelivers
  · intro hle
    apply Inevitable.of_measure remaining _ _ (whole_start c payload)
    · intro s e t hs hstep
      exact hs.step hstep
    · intro s hs hopen
      exact hs.progress (hs.not_bothBlocked hle) hopen

/-- **A payload comes back in every case if and only if it is at most one byte longer than what both
directions hold.**
Source: `src/proxy/client.py` `ProxyClient.roundtrip`, `src/proxy/backend.py` `EchoBackend._handle_tcp`
Kind: P -/
theorem roundtrip_completes_iff (c : Capacity) (payload : Bytes) :
    Completes c payload ↔ payload.length ≤ c.toPeer + c.fromPeer + 1 := by
  constructor
  · intro h
    exact (never_blocked_iff c payload).mp h.never_blocked
  · intro hle
    exact ⟨(never_blocked_iff c payload).mpr hle, (delivered_iff c payload).mpr hle⟩

/-- The payload of `test_large_payload_spanning_many_segments`.
Source: `tests_internal/test_proxy_relay.py`
Kind: D -/
def largePayload : Bytes := (List.range 200000).map fun i => UInt8.ofNat (i % 251)

/-- 64 KiB in each direction.
Source: none: infrastructure
Kind: D -/
def plainCapacity : Capacity where
  toPeer := 65536
  fromPeer := 65536
  toPeer_pos := by decide
  fromPeer_pos := by decide

/-- **A round trip can block**: the payload of the suite's own test, with 64 KiB in each direction.
Source: `src/proxy/client.py` `ProxyClient.roundtrip`, `src/proxy/backend.py` `EchoBackend._handle_tcp`
Kind: P -/
theorem large_payload_blocks : ¬ Completes plainCapacity largePayload := by
  intro h
  have hlong : plainCapacity.toPeer + plainCapacity.fromPeer + 2 ≤ largePayload.length := by
    rw [largePayload, List.length_map, List.length_range]
    decide
  obtain ⟨s, hreached, hblocked⟩ := bothBlocked_reached plainCapacity hlong
  exact h.never_blocked s hreached hblocked

end RoundTrip

end NetstackSuite.Proxy
