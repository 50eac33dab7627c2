import NetstackSuite.Proxy.HttpHead

/-!
# How many bytes the reader of a response head takes

Over a stream that ends (`readHttpResponseHead_exact`), the reader takes the bytes up to the first
header terminator if it ends within the limit, one byte more than the limit if the stream has that
many, and the whole stream otherwise. That is so for the socket, which raises at the end of the
stream, and for a reader that answers with no bytes there.
-/

namespace NetstackSuite.Proxy

open NetstackSuite.Lib NetstackSuite.Python

/-- The reader gives the bytes of a stream one at a time; after the last it gives none, or raises that
the peer has closed.
Source: `src/proxy/tunnel.py` `Reader`
Kind: D -/
structure GivesBytes {ρ : Type} (reader : Reader UInt8 ProxyExc ρ) (holds : ρ → Bytes → Prop) : Prop where
  next : ∀ {r b rest}, holds r (b :: rest) → ∃ r', reader r 1 = (.ok [b], r') ∧ holds r' rest
  ended : ∀ {r}, holds r [] → ∃ r', holds r' [] ∧
    (reader r 1 = (.ok [], r') ∨ ∃ message, reader r 1 = (.error (.peerClosedEarly message), r'))

lemma givesBytes_readAvailable : GivesBytes readAvailable (· = ·) where
  next := by
    rintro _ b rest rfl
    exact ⟨rest, rfl, rfl⟩
  ended := by
    rintro _ rfl
    exact ⟨[], rfl, Or.inl rfl⟩

lemma givesBytes_recvExact :
    GivesBytes (recvExact shortRead) fun incoming rest => incoming.stream = ⟨rest, .eof⟩ where
  next := by
    intro incoming b rest h
    obtain ⟨houtcome, hleft⟩ := recvExact_stream shortRead incoming 1
    rw [h] at houtcome hleft
    exact ⟨(recvExact shortRead incoming 1).2, Prod.ext houtcome rfl, hleft⟩
  ended := by
    intro incoming h
    obtain ⟨houtcome, hleft⟩ := recvExact_stream shortRead incoming 1
    rw [h] at houtcome hleft
    exact ⟨(recvExact shortRead incoming 1).2, hleft, Or.inr ⟨_, Prod.ext houtcome rfl⟩⟩

/-- The first header terminator of the stream ends at position `p`.
Source: none: specification (RFC 9112)
Kind: D -/
def HeadEndsAt (stream : Bytes) (p : Nat) : Prop := p ≤ stream.length ∧ IsHead (stream.take p)

/-- What the reader must make of a stream: how it ends, and which bytes it leaves.
Source: none: specification
Kind: D -/
structure HeadReading (stream : Bytes) (outcome : Except ProxyExc Bytes) (left : Bytes) : Prop where
  found : ∀ p, HeadEndsAt stream p → p ≤ HEAD_LIMIT →
    outcome = .ok (stream.take p) ∧ left = stream.drop p
  tooLong : (∀ p, HeadEndsAt stream p → ¬ p ≤ HEAD_LIMIT) → HEAD_LIMIT + 1 ≤ stream.length →
    (∃ message, outcome = .error (.protocolViolation message)) ∧ left = stream.drop (HEAD_LIMIT + 1)
  closed : (∀ p, HeadEndsAt stream p → ¬ p ≤ HEAD_LIMIT) → ¬ HEAD_LIMIT + 1 ≤ stream.length →
    (∃ message, outcome = .error (.peerClosedEarly message)) ∧ left = []

/-- No head ends in a text without the terminator.
Source: none: specification (RFC 9112)
Kind: L -/
lemma not_headEndsAt {buffer rest : Bytes} {p : Nat} (hbuffer : ¬ HEADER_TERMINATOR <:+: buffer)
    (hp : p ≤ buffer.length) : ¬ HeadEndsAt (buffer ++ rest) p := by
  rintro ⟨-, hhead⟩
  apply hbuffer
  rw [List.take_append_of_le_length hp] at hhead
  exact hhead.1.trans (List.take_prefix p buffer).isInfix

/-- A head that a stream starts with is the one that ends in it.
Source: none: specification (RFC 9112)
Kind: L -/
lemma IsHead.take_eq {head rest : Bytes} (h : IsHead head) {p : Nat} (hp : HeadEndsAt (head ++ rest) p) :
    p = head.length := by
  obtain ⟨hle, hother⟩ := hp
  have hlength : ((head ++ rest).take p).length = p := List.length_take_of_le hle
  rcases List.prefix_or_prefix_of_prefix (List.take_prefix p (head ++ rest)) (List.prefix_append head rest)
    with hshort | hlong
  · rw [h.2 _ hshort hother.1] at hlength
    exact hlength.symm
  · rw [← hother.2 _ hlong h.1] at hlength
    exact hlength.symm

/-- The loop of the reader, after the bytes of `buffer`.
Source: `src/proxy/tunnel.py` `read_http_response_head`
Kind: P -/
lemma headReading_from {ρ : Type} {reader : Reader UInt8 ProxyExc ρ} {holds : ρ → Bytes → Prop}
    (hreader : GivesBytes reader holds) {buffer rest : Bytes} {r : ρ} (hr : holds r rest)
    (hbuffer : ∀ front, front <+: buffer → HEADER_TERMINATOR <:+: front → front = buffer)
    (hroom : buffer.length ≤ HEAD_LIMIT) :
    ∃ left, holds ((readHttpResponseHeadFrom buffer).run reader r).reader left ∧
      HeadReading (buffer ++ rest) ((readHttpResponseHeadFrom buffer).run reader r).outcome left := by
  induction buffer using readHttpResponseHeadFrom.induct generalizing rest r with
  | case1 buffer hhas =>
      rw [readHttpResponseHeadFrom, if_pos hhas]
      have hhead : IsHead buffer := ⟨hasTerminator_iff.mp hhas, hbuffer⟩
      have hends : HeadEndsAt (buffer ++ rest) buffer.length := by
        refine ⟨?_, ?_⟩
        · rw [List.length_append]
          omega
        · rwa [List.take_left]
      refine ⟨rest, hr, ?_, fun hnone => absurd hroom (hnone _ hends),
        fun hnone => absurd hroom (hnone _ hends)⟩
      intro p hp _
      rw [hhead.take_eq hp, List.take_left, List.drop_left]
      exact ⟨rfl, rfl⟩
  | case2 buffer hhas ih =>
      have hcontains : ¬ HEADER_TERMINATOR <:+: buffer := fun h => hhas (hasTerminator_iff.mpr h)
      rw [readHttpResponseHeadFrom, if_neg hhas]
      rcases rest with _ | ⟨b, rest⟩
      · -- the stream ends here
        rw [List.append_nil]
        have hended : ∀ {outcome : Except ProxyExc Bytes},
            (∃ message, outcome = .error (.peerClosedEarly message)) → HeadReading buffer outcome [] := by
          intro outcome houtcome
          refine ⟨?_, fun _ hlong => absurd hlong (by omega), fun _ _ => ⟨houtcome, rfl⟩⟩
          intro p hp
          rw [← List.append_nil buffer] at hp
          have hle := hp.1
          rw [List.append_nil] at hle
          exact absurd hp (not_headEndsAt hcontains hle)
        obtain ⟨r', hr', hempty | ⟨message, hraises⟩⟩ := hreader.ended hr
        · rw [Dialogue.run_read_ok reader hempty, if_pos rfl]
          exact ⟨[], hr', hended ⟨_, rfl⟩⟩
        · rw [Dialogue.run_read_error reader hraises]
          exact ⟨[], hr', hended ⟨_, rfl⟩⟩
      · obtain ⟨r', hread, hr'⟩ := hreader.next hr
        rw [Dialogue.run_read_ok reader hread, if_neg (List.cons_ne_nil b [])]
        by_cases hfull : HEAD_LIMIT < (buffer ++ [b]).length
        · -- one byte more than the limit, and no terminator before it
          rw [if_pos hfull]
          rw [List.length_append, List.length_singleton] at hfull
          have hlimit : HEAD_LIMIT = buffer.length := by omega
          have hlength : (buffer ++ b :: rest).length = HEAD_LIMIT + 1 + rest.length := by
            rw [List.length_append, List.length_cons]
            omega
          refine ⟨rest, hr', ?_, ?_, fun _ hshort => absurd hshort (by omega)⟩
          · intro p hp hle
            exact absurd hp (not_headEndsAt hcontains (by omega))
          · intro _ _
            refine ⟨⟨_, rfl⟩, ?_⟩
            have hread : HEAD_LIMIT + 1 = (buffer ++ [b]).length := by
              rw [List.length_append, List.length_singleton, hlimit]
            rw [List.append_cons, hread, List.drop_left]
        · rw [if_neg hfull]
          obtain ⟨left, hleft, hreading⟩ := ih [b] (List.cons_ne_nil b []) hfull hr'
            (fun front => whole_of_terminator_concat hcontains b) (by omega)
          rw [List.append_assoc] at hreading
          exact ⟨left, hleft, hreading⟩

/-- **The reader of the head takes exactly the bytes it should**, over a socket in whatever segments the
stream arrives, and with a reader that answers with what is left.
Source: `src/proxy/tunnel.py` `read_http_response_head`
Kind: P -/
theorem readHttpResponseHead_exact (segments : List {segment : Bytes // segment ≠ []}) (stream : Bytes) :
    (HeadReading (segments.map Subtype.val).flatten
      (readHttpResponseHead.run (recvExact shortRead) ⟨segments, .eof⟩).outcome
      (readHttpResponseHead.run (recvExact shortRead) ⟨segments, .eof⟩).reader.stream.bytes) ∧
    HeadReading stream (readHttpResponseHead.run readAvailable stream).outcome
      (readHttpResponseHead.run readAvailable stream).reader := by
  have hempty : ∀ front : Bytes, front <+: [] → HEADER_TERMINATOR <:+: front → front = [] :=
    fun front hfront _ => List.prefix_nil.mp hfront
  have hroom : ([] : Bytes).length ≤ HEAD_LIMIT := Nat.zero_le _
  constructor
  · obtain ⟨left, hleft, hreading⟩ := headReading_from givesBytes_recvExact
      (r := ⟨segments, .eof⟩) rfl hempty hroom
    unfold readHttpResponseHead
    rw [hleft]
    exact hreading
  · obtain ⟨left, hleft, hreading⟩ := headReading_from givesBytes_readAvailable
      (rfl : stream = stream) hempty hroom
    unfold readHttpResponseHead
    rw [hleft]
    exact hreading

end NetstackSuite.Proxy
