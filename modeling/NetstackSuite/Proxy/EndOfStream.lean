import NetstackSuite.Proxy.Socks5Grammar

/-!
# Streams that end too early, or not at all

Two readers that should notice how a stream ends, and when they do.

* `readSocks5Reply_cut_iff`: driven by a reader that answers with what is left, the reader of replies
  notices a cut in the header of a reply, and before the length of a domain name. A cut in an address of
  fixed length is a `ValueError`; of a cut name or port it makes a reply.
* `readUntilEof_iff`: `read_until_eof` returns at an end of stream, and raises at a timeout, as long as
  fewer bytes than its limit arrive. With as many as the limit it returns without looking further.
-/

namespace NetstackSuite.Proxy

open NetstackSuite.Lib NetstackSuite.Python

/-! ## Cut replies -/

/-- The address is a domain name.
Source: none: specification (RFC 1928)
Kind: D -/
def WireAddress.IsDomain : WireAddress → Prop
  | domain _ _ => True
  | ipv4 _ _ | ipv6 _ _ => False

/-- The outcome is a `ProtocolViolation`, or the `PeerClosedEarly` that is one.
Source: none: specification
Kind: D -/
def RaisesViolation {α : Type} (outcome : Except ProxyExc α) : Prop :=
  ∃ e, outcome = .error e ∧ e.isProtocolViolation = true

lemma not_raisesViolation_ok {α : Type} (a : α) : ¬ RaisesViolation (.ok a : Except ProxyExc α) := by
  rintro ⟨e, he, -⟩
  cases he

lemma not_raisesViolation_python {α : Type} (e : PyExc) :
    ¬ RaisesViolation (.error (.python e) : Except ProxyExc α) := by
  rintro ⟨e', he, hviolation⟩
  obtain rfl := Except.error.inj he
  cases hviolation

/-- A read of what is left.
Source: none: infrastructure
Kind: L -/
lemma outcome_read {α : Type} (count : Nat) (next : Bytes → Exchange α) (rest : Bytes) :
    (Dialogue.run readAvailable (.read count next) rest).outcome =
      (Dialogue.run readAvailable (next (rest.take count)) (rest.drop count)).outcome := rfl

/-- The port is read as whatever is left of it.
Source: `src/proxy/tunnel.py` `read_socks5_reply`
Kind: L -/
lemma not_raisesViolation_port (code : UInt8) (host : PyStr) (rest : Bytes) :
    ¬ RaisesViolation (Dialogue.run readAvailable
      (.read 2 fun port => .done ⟨code, host, fromBigEndian port⟩ : Exchange Socks5Reply) rest).outcome :=
  not_raisesViolation_ok _

/-- A packed address is read whole, or its constructor raises.
Source: `src/proxy/tunnel.py` `read_socks5_reply`
Kind: L -/
lemma not_raisesViolation_packed {w : Nat} (code : UInt8) (count : Nat)
    (ofPacked : Bytes → Except PyExc (BitVec w)) (str : BitVec w → PyStr) (rest : Bytes) :
    ¬ RaisesViolation (Dialogue.run readAvailable
      ((do
        let raw ← Dialogue.ask count
        let ip ← Dialogue.lift (ofPython (ofPacked raw))
        return str ip : Exchange PyStr).bind fun host =>
          (.read 2 fun port => .done ⟨code, host, fromBigEndian port⟩ : Exchange Socks5Reply))
            rest).outcome := by
  rw [Dialogue.bind_eq, Dialogue.ask_bind, Dialogue.read_bind, outcome_read]
  rcases ofPacked (rest.take count) with e | ip
  · exact not_raisesViolation_python e
  · exact not_raisesViolation_port code (str ip) _

/-- What the reader makes of the bytes after the header.
Source: `src/proxy/tunnel.py` `read_socks5_reply`
Kind: P -/
lemma raisesViolation_iff_of_header (code reserved : UInt8) (address : WireAddress) {atyp : UInt8}
    {tail : Bytes} (haddress : address.bytes = atyp :: tail) (rest : Bytes) :
    RaisesViolation (Dialogue.run readAvailable readSocks5Reply
        (0x05 :: code :: reserved :: atyp :: rest)).outcome ↔ rest = [] ∧ address.IsDomain := by
  unfold readSocks5Reply
  rw [Dialogue.bind_eq, Dialogue.ask_bind, outcome_read]
  simp only [List.take_succ_cons, List.take_zero, List.drop_succ_cons, List.drop_zero,
    show (0x05 : UInt8) = SOCKS5_VERSION from rfl, ne_eq, not_true_eq_false, if_false]
  rcases address with ⟨octets, hlength⟩ | ⟨name, hlength⟩ | ⟨octets, hlength⟩
  · obtain rfl := (List.cons.inj haddress).1
    exact iff_of_false (not_raisesViolation_packed code 4 ipv4OfPacked (fun ip => (IpAddress.v4 ip).str) rest)
      (fun h => h.2)
  · obtain rfl := (List.cons.inj haddress).1
    rcases rest with _ | ⟨length, rest⟩
    · exact iff_of_true ⟨_, rfl, rfl⟩ ⟨rfl, trivial⟩
    · exact iff_of_false (not_raisesViolation_port code _ _) (fun h => List.cons_ne_nil _ _ h.1)
  · obtain rfl := (List.cons.inj haddress).1
    exact iff_of_false
      (not_raisesViolation_packed code 16 ipv6OfPacked (fun ip => (IpAddress.v6 ip none).str) rest) (fun h => h.2)

/-- **Which cut replies the reader refuses**: those cut in the header, or right after the header that
announces a domain name.
Source: `src/proxy/tunnel.py` `read_socks5_reply`
Kind: P -/
theorem readSocks5Reply_cut_iff (wire : WireReply) (cut : Fin wire.bytes.length) :
    RaisesViolation (Dialogue.run readAvailable readSocks5Reply (wire.bytes.take cut)).outcome ↔
      cut.val < 4 ∨ (cut.val = 4 ∧ wire.address.IsDomain) := by
  obtain ⟨atyp, tail, haddress⟩ : ∃ atyp tail, wire.address.bytes = atyp :: tail := by
    rcases wire.address with _ | _ | _ <;> exact ⟨_, _, rfl⟩
  have hbytes : wire.bytes = [0x05, wire.code, wire.reserved, atyp] ++ (tail ++ wire.port) := by
    unfold WireReply.bytes
    rw [haddress]
    rfl
  obtain ⟨cut, hlt⟩ := cut
  simp only
  rw [hbytes] at hlt ⊢
  rcases Nat.lt_or_ge cut 4 with hheader | hheader
  · refine iff_of_true ?_ (Or.inl hheader)
    rw [List.take_append_of_le_length (Nat.le_of_lt hheader)]
    have hcut : cut = 0 ∨ cut = 1 ∨ cut = 2 ∨ cut = 3 := by omega
    rcases hcut with rfl | rfl | rfl | rfl <;> exact ⟨_, rfl, rfl⟩
  · obtain ⟨after, rfl⟩ := Nat.exists_eq_add_of_le hheader
    have hlong : after < (tail ++ wire.port).length := by
      rw [List.length_append] at hlt
      simp only [List.length_cons, List.length_nil] at hlt
      omega
    have hcut : ([0x05, wire.code, wire.reserved, atyp] ++ (tail ++ wire.port)).take (4 + after) =
        0x05 :: wire.code :: wire.reserved :: atyp :: (tail ++ wire.port).take after := by
      rw [Nat.add_comm]
      rfl
    rw [hcut, raisesViolation_iff_of_header wire.code wire.reserved wire.address haddress,
      List.take_eq_nil_iff]
    constructor
    · rintro ⟨hzero | hnil, hdomain⟩
      · exact Or.inr ⟨by omega, hdomain⟩
      · rw [hnil] at hlong
        exact absurd hlong (Nat.not_lt_zero _)
    · rintro (hshort | ⟨hfour, hdomain⟩)
      · omega
      · exact ⟨Or.inl (by omega), hdomain⟩

/-- A reply cut before its port is a reply from port 0.
Source: `src/proxy/tunnel.py` `read_socks5_reply`
Kind: L -/
theorem readSocks5Reply_cut_port :
    ∃ (wire : WireReply) (cut : Fin wire.bytes.length),
      (Dialogue.run readAvailable readSocks5Reply (wire.bytes.take cut)).outcome =
          .ok ⟨0x00, text "127.0.0.1", 0⟩ ∧
        ¬ RaisesViolation (Dialogue.run readAvailable readSocks5Reply (wire.bytes.take cut)).outcome := by
  have hport : (Dialogue.run readAvailable readSocks5Reply
      [0x05, 0x00, 0x00, 0x01, 127, 0, 0, 1]).outcome = .ok ⟨0x00, text "127.0.0.1", 0⟩ := by
    decide +kernel
  refine ⟨⟨0x00, 0x00, .ipv4 [127, 0, 0, 1] rfl, [0x1F, 0x90], rfl⟩, ⟨8, by decide⟩, hport, ?_⟩
  exact hport ▸ not_raisesViolation_ok _

/-! ## Reading to the end of the stream -/

/-- What happens on a socket: bytes arrive in chunks, none of them empty; then the peer closes, or
nothing more comes within the timeout.
Source: none: specification
Kind: D -/
structure Arrival where
  chunks : List {chunk : Bytes // chunk ≠ []}
  closed : Bool

namespace Arrival

/-- Source: none: specification. Kind: D -/
def incoming (arrival : Arrival) : Incoming UInt8 ProxyExc where
  segments := arrival.chunks
  ending := if arrival.closed then .eof else .raises socketTimeout

/-- The stream of the peer, as far as it arrives.
Source: none: specification
Kind: D -/
def bytes (arrival : Arrival) : Bytes := (arrival.chunks.map Subtype.val).flatten

/-- What a caller reads from a run of `read_until_eof`: it has returned the whole stream of the peer,
whose end it has seen; and where it has not seen an end it has raised.
Source: none: specification
Kind: D -/
structure EndSeen {ρ : Type} (arrival : Arrival) (run : Run UInt8 ProxyExc ρ Bytes) : Prop where
  returned : ∀ b, run.outcome = .ok b →
    Event.received [] ∈ run.events ∧ arrival.closed = true ∧ arrival.bytes = b
  unseen : Event.received [] ∉ run.events → ∃ message, run.outcome = .error (.protocolViolation message)

end Arrival

/-- How the loop can end: at the limit, without another look at the stream; at the end of the stream;
at an error.
Source: `src/proxy/client.py` `ProxyClient.read_until_eof`
Kind: P -/
lemma readUntilEofFrom_cases (timeout : PyFloat) (limit : Int) (buffer : Bytes)
    (incoming : Incoming UInt8 ProxyExc) :
    let run := readUntilEofFrom timeout limit buffer incoming
    let all := buffer ++ incoming.stream.bytes
    (limit ≤ all.length ∧ (∃ b, run.outcome = .ok b) ∧ Event.received [] ∉ run.events) ∨
      (all.length < limit ∧ incoming.ending = .eof ∧ run.outcome = .ok all ∧
        Event.received [] ∈ run.events) ∨
      (all.length < limit ∧ Event.received [] ∉ run.events ∧ ∃ e, incoming.ending = .raises e ∧
        run.outcome = .error (if e = socketTimeout then noEof timeout all.length else e)) := by
  have hchunk : 0 < RECV_CHUNK := by decide
  induction buffer, incoming using readUntilEofFrom.induct limit with
  | case1 buffer incoming hroom e _ hrecv =>
      obtain ⟨-, -, h⟩ | ⟨e', hbytes, hending, h⟩ | ⟨_, _, h, -⟩ := recv_cases incoming hchunk
      · rw [h] at hrecv
        cases hrecv
      · rw [readUntilEofFrom, if_pos hroom, h, hbytes, List.append_nil]
        exact Or.inr (Or.inr ⟨hroom, List.not_mem_nil, e', hending, rfl⟩)
      · rw [h] at hrecv
        cases hrecv
  | case2 buffer incoming hroom _ hrecv =>
      obtain ⟨hbytes, hending, h⟩ | ⟨_, -, -, h⟩ | ⟨chunk, _, h, hne, -⟩ := recv_cases incoming hchunk
      · rw [readUntilEofFrom, if_pos hroom, h, hbytes, List.append_nil]
        exact Or.inr (Or.inl ⟨hroom, hending, rfl, List.mem_singleton_self _⟩)
      · rw [h] at hrecv
        cases hrecv
      · rw [h] at hrecv
        exact absurd (Except.ok.inj (Prod.mk.inj hrecv).1) hne
  | case3 buffer incoming hroom chunk incoming' hrecv hne ih =>
      have hbytes : incoming.stream.bytes = chunk ++ incoming'.stream.bytes ∧
          incoming'.ending = incoming.ending := by
        obtain ⟨-, -, h⟩ | ⟨_, -, -, h⟩ | ⟨_, _, h, -, -, hbytes, hending⟩ := recv_cases incoming hchunk
        · rw [h] at hrecv
          exact absurd (Except.ok.inj (Prod.mk.inj hrecv).1).symm hne
        · rw [h] at hrecv
          cases hrecv
        · rw [h] at hrecv
          obtain ⟨hdata, rfl⟩ := Prod.mk.inj hrecv
          obtain rfl := Except.ok.inj hdata
          exact ⟨hbytes, hending⟩
      have hother : Event.received [] ≠ Event.received chunk :=
        fun h => hne (Event.received.inj h).symm
      rw [readUntilEofFrom, if_pos hroom, hrecv]
      simp only [if_neg hne, Run.after, List.mem_cons, hother, false_or]
      simp only [List.append_assoc, ← hbytes.1, hbytes.2] at ih
      exact ih
  | case4 buffer incoming hfull =>
      rw [readUntilEofFrom, if_neg hfull]
      refine Or.inl ⟨?_, ⟨buffer, rfl⟩, List.not_mem_nil⟩
      rw [List.length_append]
      omega

/-- **When `read_until_eof` tells an end of stream from anything else**: as long as fewer bytes than its
limit arrive.
Source: `src/proxy/client.py` `ProxyClient.read_until_eof`
Kind: P -/
theorem readUntilEof_iff (timeout : PyFloat) (limit : Int) (arrival : Arrival) :
    arrival.EndSeen (readUntilEof timeout limit arrival.incoming) ↔
      (arrival.bytes.length : Int) < limit := by
  unfold readUntilEof
  obtain ⟨hfull, ⟨b, hreturns⟩, hunseen⟩ | ⟨hroom, hending, hreturns, hseen⟩ |
      ⟨hroom, hunseen, e, hending, hraises⟩ :=
    readUntilEofFrom_cases timeout limit [] arrival.incoming
  · refine iff_of_false (fun h => ?_) (not_lt.mpr hfull)
    exact hunseen (h.returned b hreturns).1
  · refine iff_of_true ⟨?_, fun hunseen => absurd hseen hunseen⟩ hroom
    intro b hb
    have hclosed : arrival.closed = true := by
      by_contra hopen
      unfold Arrival.incoming at hending
      rw [if_neg hopen] at hending
      cases hending
    rw [hreturns] at hb
    exact ⟨hseen, hclosed, Except.ok.inj hb⟩
  · refine iff_of_true ⟨?_, fun _ => ?_⟩ hroom
    · intro b hb
      rw [hraises] at hb
      cases hb
    · have htimeout : e = socketTimeout := by
        unfold Arrival.incoming at hending
        by_cases hclosed : arrival.closed = true
        · rw [if_pos hclosed] at hending
          cases hending
        · rw [if_neg hclosed] at hending
          exact (Ending.raises.inj hending).symm
      rw [hraises, if_pos htimeout]
      exact ⟨_, rfl⟩

/-- A stream that goes on past the limit is returned as if it had ended.
Source: `src/proxy/client.py` `ProxyClient.read_until_eof`
Kind: L -/
theorem readUntilEof_at_limit :
    ∃ arrival : Arrival, arrival.closed = false ∧
      (readUntilEof (.ofDecimal false 5 0) 2 arrival.incoming).outcome = .ok [1, 2, 3] ∧
      ¬ arrival.EndSeen (readUntilEof (.ofDecimal false 5 0) 2 arrival.incoming) := by
  have hreturns : (readUntilEof (.ofDecimal false 5 0) 2
      (Arrival.incoming ⟨[⟨[1, 2, 3], by decide⟩], false⟩)).outcome = .ok [1, 2, 3] := by
    unfold readUntilEof
    rw [readUntilEofFrom, if_pos (by decide)]
    show Run.outcome (Run.after (readUntilEofFrom _ 2 [1, 2, 3] _) _) = _
    rw [readUntilEofFrom, if_neg (by decide)]
    rfl
  refine ⟨⟨[⟨[1, 2, 3], by decide⟩], false⟩, rfl, hreturns, ?_⟩
  intro h
  exact absurd (h.returned _ hreturns).2.1 (by decide)

end NetstackSuite.Proxy
