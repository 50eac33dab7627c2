import NetstackSuite.Lib.DialogueLanguage
import NetstackSuite.Proxy.Client

/-!
# The response head of a CONNECT tunnel

The reader of the head accepts exactly the heads that fit its limit (`accepts_readHttpResponseHead`):
the shortest texts that contain the header terminator, so that not a byte of the relayed stream is
read. The parser fails with a `ProtocolViolation` only (`parseHttpConnectResponse_error`), and the
status it reads can be printed again.
-/

namespace NetstackSuite.Proxy

open NetstackSuite.Lib NetstackSuite.Python

/-- A head: it contains the terminator, and none of its proper prefixes does.
Source: none: specification (RFC 9112)
Kind: D -/
def IsHead (head : Bytes) : Prop :=
  HEADER_TERMINATOR <:+: head ∧ ∀ front, front <+: head → HEADER_TERMINATOR <:+: front → front = head

lemma hasTerminator_iff {buffer : Bytes} :
    hasTerminator buffer = true ↔ HEADER_TERMINATOR <:+: buffer := isSome_cut

/-- A head ends with the terminator.
Source: none: specification (RFC 9112)
Kind: L -/
lemma IsHead.suffix {head : Bytes} (h : IsHead head) : HEADER_TERMINATOR <:+ head := by
  obtain ⟨⟨before, after, hhead⟩, hleast⟩ := h
  have hfront : before ++ HEADER_TERMINATOR = head :=
    hleast (before ++ HEADER_TERMINATOR) ⟨after, hhead⟩ ⟨before, [], List.append_nil _⟩
  exact ⟨before, hfront⟩

/-- One more byte after a text without the terminator: it is the whole text that may contain it.
Source: none: specification (RFC 9112)
Kind: L -/
lemma whole_of_terminator_concat {buffer : Bytes} (hbuffer : ¬ HEADER_TERMINATOR <:+: buffer) (b : UInt8)
    {front : Bytes} (hfront : front <+: buffer ++ [b]) (hterminator : HEADER_TERMINATOR <:+: front) :
    front = buffer ++ [b] := by
  rcases List.prefix_concat_iff.mp hfront with hwhole | hpart
  · exact hwhole
  · exact absurd (hterminator.trans hpart.isInfix) hbuffer

/-- The reader of the head, after the bytes of `buffer`.
Source: `src/proxy/tunnel.py` `read_http_response_head`
Kind: P -/
lemma accepts_readHttpResponseHeadFrom {buffer word head : Bytes}
    (hbuffer : ∀ front, front <+: buffer → HEADER_TERMINATOR <:+: front → front = buffer) :
    (readHttpResponseHeadFrom buffer).Accepts word head ↔
      head = buffer ++ word ∧ IsHead head ∧ (word ≠ [] → head.length ≤ HEAD_LIMIT) := by
  induction buffer using readHttpResponseHeadFrom.induct generalizing word with
  | case1 buffer hhas =>
      have hcontains := hasTerminator_iff.mp hhas
      rw [readHttpResponseHeadFrom, if_pos hhas, Dialogue.accepts_done]
      constructor
      · rintro ⟨rfl, rfl⟩
        exact ⟨(List.append_nil _).symm, ⟨hcontains, hbuffer⟩, fun h => absurd rfl h⟩
      · rintro ⟨rfl, ⟨-, hleast⟩, -⟩
        have hwhole := hleast buffer (List.prefix_append buffer word) hcontains
        exact ⟨List.append_right_eq_self.mp hwhole.symm, hwhole⟩
  | case2 buffer hhas ih =>
      have hcontains : ¬ HEADER_TERMINATOR <:+: buffer := fun h => hhas (hasTerminator_iff.mpr h)
      rw [readHttpResponseHeadFrom, if_neg hhas, Dialogue.accepts_read]
      constructor
      · rintro ⟨chunk, rest, hone, rfl, haccepts⟩
        obtain ⟨b, rfl⟩ := List.length_eq_one_iff.mp hone
        rw [if_neg (List.cons_ne_nil b [])] at haccepts
        by_cases hroom : HEAD_LIMIT < (buffer ++ [b]).length
        · rw [if_pos hroom] at haccepts
          exact haccepts.elim
        · rw [if_neg hroom, ih [b] (List.cons_ne_nil b []) hroom fun front hfront hterminator =>
            whole_of_terminator_concat hcontains b hfront hterminator] at haccepts
          obtain ⟨rfl, hhead, hlength⟩ := haccepts
          refine ⟨by rw [List.append_assoc], hhead, ?_⟩
          intro _
          rcases rest with _ | ⟨c, rest⟩
          · rw [List.append_nil]
            omega
          · exact hlength (List.cons_ne_nil c rest)
      · rintro ⟨rfl, hhead, hlength⟩
        rcases word with _ | ⟨b, rest⟩
        · rw [List.append_nil] at hhead
          exact absurd hhead.1 hcontains
        · have hfits := hlength (List.cons_ne_nil b rest)
          have hroom : ¬ HEAD_LIMIT < (buffer ++ [b]).length := by
            rw [List.length_append, List.length_cons] at hfits
            rw [List.length_append, List.length_singleton]
            omega
          refine ⟨[b], rest, rfl, rfl, ?_⟩
          rw [if_neg (List.cons_ne_nil b []), if_neg hroom,
            ih [b] (List.cons_ne_nil b []) hroom fun front hfront hterminator =>
              whole_of_terminator_concat hcontains b hfront hterminator]
          exact ⟨by rw [List.append_assoc]; rfl, hhead, fun _ => hfits⟩

/-- **The reader accepts the heads that fit, and reads nothing after one.**
Source: `src/proxy/tunnel.py` `read_http_response_head`
Kind: P -/
theorem accepts_readHttpResponseHead {word head : Bytes} :
    readHttpResponseHead.Accepts word head ↔
      head = word ∧ IsHead head ∧ head.length ≤ HEAD_LIMIT := by
  have hempty : ∀ front : Bytes, front <+: [] → HEADER_TERMINATOR <:+: front → front = [] :=
    fun front hfront _ => List.prefix_nil.mp hfront
  unfold readHttpResponseHead
  rw [accepts_readHttpResponseHeadFrom hempty, List.nil_append]
  constructor
  · rintro ⟨rfl, hhead, hlength⟩
    refine ⟨rfl, hhead, hlength ?_⟩
    rintro rfl
    exact absurd (List.infix_nil.mp hhead.1) (by decide)
  · rintro ⟨rfl, hhead, hlength⟩
    exact ⟨rfl, hhead, fun _ => hlength⟩

/-- The reader of the head has no failure but a head that is too long.
Source: `src/proxy/tunnel.py` `read_http_response_head`
Kind: L -/
lemma rejects_readHttpResponseHeadFrom {buffer word : Bytes} {e : ProxyExc}
    (h : (readHttpResponseHeadFrom buffer).Rejects word e) : ∃ message, e = .protocolViolation message := by
  induction buffer using readHttpResponseHeadFrom.induct generalizing word with
  | case1 buffer hhas =>
      rw [readHttpResponseHeadFrom, if_pos hhas] at h
      exact h.elim
  | case2 buffer hhas ih =>
      rw [readHttpResponseHeadFrom, if_neg hhas, Dialogue.rejects_read] at h
      obtain ⟨chunk, rest, hone, rfl, hrejects⟩ := h
      obtain ⟨b, rfl⟩ := List.length_eq_one_iff.mp hone
      rw [if_neg (List.cons_ne_nil b [])] at hrejects
      by_cases hroom : HEAD_LIMIT < (buffer ++ [b]).length
      · rw [if_pos hroom] at hrejects
        exact ⟨_, hrejects.2.symm⟩
      · rw [if_neg hroom] at hrejects
        exact ih [b] (List.cons_ne_nil b []) hroom hrejects

/-- **A head that does not parse is a protocol violation**, whatever is wrong with it.
Source: `src/proxy/tunnel.py` `parse_http_connect_response`
Kind: P -/
theorem parseHttpConnectResponse_error {raw : Bytes} {e : ProxyExc}
    (h : parseHttpConnectResponse raw = .error e) : ∃ message, e = .protocolViolation message := by
  unfold parseHttpConnectResponse at h
  simp only at h
  split at h
  · exact ⟨_, (Except.error.inj h).symm⟩
  · exact ⟨_, (Except.error.inj h).symm⟩
  · split at h
    · split at h
      · exact ⟨_, (Except.error.inj h).symm⟩
      · split at h
        · cases h
        next e' hcode =>
          rw [pyInt_eq_error hcode] at h
          exact ⟨_, (Except.error.inj h).symm⟩
    · exact ⟨_, (Except.error.inj h).symm⟩

/-- The status of a parsed response can be printed.
Source: `src/proxy/tunnel.py` `parse_http_connect_response`
Kind: L -/
lemma intRepr_status {raw : Bytes} {response : HttpConnectResponse}
    (h : parseHttpConnectResponse raw = .ok response) : ∃ digits, intRepr response.status = .ok digits := by
  unfold parseHttpConnectResponse at h
  simp only at h
  split at h
  · cases h
  · cases h
  · split at h
    · split at h
      · cases h
      · split at h
        next status hcode =>
          obtain rfl := Except.ok.inj h
          exact intRepr_of_pyInt hcode
        · split at h <;> cases h
    · cases h

/-- **The handshake accepts a head that parses as a 2xx response**, and reports that response.
Source: `src/proxy/handshakes.py` `HttpConnectHandshake.establish`
Kind: P -/
theorem accepts_establishHttpConnect {host : PyStr} {port : Int} {word : Bytes}
    {response : HttpConnectResponse} :
    (establishHttpConnect host port).Accepts word response ↔
      (∃ request, buildHttpConnectRequest host port = .ok request) ∧ IsHead word ∧
        word.length ≤ HEAD_LIMIT ∧ parseHttpConnectResponse word = .ok response ∧
          response.tunnelEstablished = true := by
  unfold establishHttpConnect
  simp only [Dialogue.bind_eq, Dialogue.accepts_lift_bind, Dialogue.tell_bind, Dialogue.accepts_send,
    ofPython_eq_ok]
  rw [exists_and_right]
  apply and_congr_right
  intro _
  rw [Dialogue.accepts_bind]
  constructor
  · rintro ⟨_, _, rest, rfl, haccepts, hrest⟩
    obtain ⟨rfl, hhead, hlength⟩ := accepts_readHttpResponseHead.mp haccepts
    obtain ⟨parsed, hparsed, hrest⟩ := Dialogue.accepts_lift_bind.mp hrest
    by_cases hestablished : parsed.tunnelEstablished = true
    · rw [if_neg (not_not.mpr hestablished)] at hrest
      obtain ⟨rfl, rfl⟩ := hrest
      rw [List.append_nil]
      exact ⟨hhead, hlength, hparsed, hestablished⟩
    · rw [if_pos hestablished] at hrest
      simp at hrest
  · rintro ⟨hhead, hlength, hparsed, hestablished⟩
    refine ⟨word, word, [], (List.append_nil _).symm,
      accepts_readHttpResponseHead.mpr ⟨rfl, hhead, hlength⟩,
      Dialogue.accepts_lift_bind.mpr ⟨response, hparsed, ?_⟩⟩
    rw [if_neg (not_not.mpr hestablished)]
    exact ⟨rfl, rfl⟩

end NetstackSuite.Proxy
