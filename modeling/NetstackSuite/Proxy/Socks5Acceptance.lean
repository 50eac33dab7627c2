import NetstackSuite.Proxy.Socks5Grammar

/-!
# The SOCKS5 handshake as a conformance check

Which streams `Socks5Handshake.establish` accepts, against the grammar of RFC 1928 and RFC 1929.

The code reads the whole grammar, with two bytes unchecked: the version of the RFC 1929 result
(`parse_socks5_userpass_result`) and the reserved byte of the reply (`read_socks5_reply`). And it
offers username and password as soon as there is a username, although it can only answer that method
with both. `socks5_accepts_exactly_iff` says that nothing else is amiss.
-/

namespace NetstackSuite.Proxy

open NetstackSuite.Lib NetstackSuite.Python

/-- The stream starts with answers that grant the connection, as the RFCs spell them.
Source: none: specification (RFC 1928, RFC 1929)
Kind: D -/
def Conforms (offered : Bytes) (stream : Bytes) : Prop :=
  ∃ answers : Answers, answers.bytes <+: stream ∧ answers.Grants offered ∧ answers.FixedBytes

section

variable (idna : PyStr → Except PyExc Bytes) (username password : Option PyStr) (host : PyStr)
  (port : Int) (incoming : Incoming UInt8 ProxyExc)

/-- How the handshake ends over a stream that arrives in these segments.
Source: `src/proxy/handshakes.py` `Socks5Handshake.establish`
Kind: D -/
def socks5Outcome : Except ProxyExc Socks5Result :=
  ((establishSocks5 idna username password host port).run (recvExact shortRead) incoming).outcome

/-- **The handshake succeeds with a result exactly if the stream starts with answers that say it**,
that grant the connection for a method that is served, and if the origin can be encoded.
Source: `src/proxy/handshakes.py` `Socks5Handshake.establish`
Kind: P -/
theorem socks5Outcome_eq_ok_iff {result : Socks5Result} :
    socks5Outcome idna username password host port incoming = .ok result ↔
      EncodableOrigin idna host port ∧ ∃ answers : Answers,
        answers.bytes <+: incoming.stream.bytes ∧ answers.Grants (offeredMethods username) ∧
          Serves username password answers.method ∧ result = answers.result := by
  unfold socks5Outcome
  rw [(Dialogue.run_segments shortRead _ incoming).1, Dialogue.outcome_eq_ok_iff]
  simp only [accepts_establishSocks5]
  constructor
  · rintro ⟨_, rest, hbytes, hencodable, answers, hgrants, hserves, rfl, rfl⟩
    exact ⟨hencodable, answers, ⟨rest, hbytes.symm⟩, hgrants, hserves, rfl⟩
  · rintro ⟨hencodable, answers, ⟨rest, hbytes⟩, hgrants, hserves, rfl⟩
    exact ⟨answers.bytes, rest, hbytes.symm, hencodable, answers, hgrants, hserves, rfl, rfl⟩

/-- Success means conformance, and what is reported is what the stream says.
Source: none: specification (RFC 1928, RFC 1929)
Kind: D -/
structure AcceptsExactly : Prop where
  success_iff : (∃ result, socks5Outcome idna username password host port incoming = .ok result) ↔
    Conforms (offeredMethods username) incoming.stream.bytes
  result_eq : ∀ result, socks5Outcome idna username password host port incoming = .ok result →
    ∃ answers : Answers, answers.bytes <+: incoming.stream.bytes ∧ result = answers.result

/-- **The handshake accepts exactly the grammar on the streams that do not start with granting answers,
and on those that do exactly if the two unchecked bytes are right just when the client can serve the
method and encode the origin.**
Source: `src/proxy/handshakes.py` `Socks5Handshake.establish`
Kind: P -/
theorem socks5_accepts_exactly_iff :
    AcceptsExactly idna username password host port incoming ↔
      ∀ answers : Answers, answers.bytes <+: incoming.stream.bytes →
        answers.Grants (offeredMethods username) →
          ((Serves username password answers.method ∧ EncodableOrigin idna host port) ↔
            answers.FixedBytes) := by
  constructor
  · rintro ⟨hsuccess, -⟩ answers hstarts hgrants
    constructor
    · rintro ⟨hserves, hencodable⟩
      obtain ⟨answers', hstarts', -, hfixed⟩ := hsuccess.mp
        ⟨answers.result, (socks5Outcome_eq_ok_iff idna username password host port incoming).mpr
          ⟨hencodable, answers, hstarts, hgrants, hserves, rfl⟩⟩
      obtain ⟨-, hauth, -, hreserved⟩ := Answers.agree hstarts hstarts'
      exact ⟨by rw [hauth]; exact hfixed.version, by rw [hreserved]; exact hfixed.reserved⟩
    · intro hfixed
      obtain ⟨result, hresult⟩ := hsuccess.mpr ⟨answers, hstarts, hgrants, hfixed⟩
      obtain ⟨hencodable, answers', hstarts', -, hserves, -⟩ :=
        (socks5Outcome_eq_ok_iff idna username password host port incoming).mp hresult
      obtain ⟨hmethod, -, -, -⟩ := Answers.agree hstarts hstarts'
      exact ⟨by rwa [hmethod], hencodable⟩
  · intro h
    refine ⟨⟨?_, ?_⟩, ?_⟩
    · rintro ⟨result, hresult⟩
      obtain ⟨hencodable, answers, hstarts, hgrants, hserves, -⟩ :=
        (socks5Outcome_eq_ok_iff idna username password host port incoming).mp hresult
      exact ⟨answers, hstarts, hgrants, (h answers hstarts hgrants).mp ⟨hserves, hencodable⟩⟩
    · rintro ⟨answers, hstarts, hgrants, hfixed⟩
      obtain ⟨hserves, hencodable⟩ := (h answers hstarts hgrants).mpr hfixed
      exact ⟨answers.result, (socks5Outcome_eq_ok_iff idna username password host port incoming).mpr
        ⟨hencodable, answers, hstarts, hgrants, hserves, rfl⟩⟩
    · intro result hresult
      obtain ⟨-, answers, hstarts, -, -, hresult⟩ :=
        (socks5Outcome_eq_ok_iff idna username password host port incoming).mp hresult
      exact ⟨answers, hstarts, hresult⟩

end

/-- Answers that select username and password, and whose result carries version zero.
Source: none: test
Kind: D -/
def wrongVersionAnswers : Answers where
  method := 0x02
  auth := some (0x00, 0x00)
  auth_iff := ⟨fun _ => rfl, fun _ => rfl⟩
  reply := ⟨0x00, 0x00, .ipv4 [0, 0, 0, 0] rfl, [0, 0], rfl⟩

/-- **A result of the wrong version is accepted as a successful authentication.**
Source: `src/proxy/tunnel.py` `parse_socks5_userpass_result`
Kind: P -/
theorem wrong_version_accepted :
    ¬ AcceptsExactly (fun _ => .error .valueError) (some (text "user")) (some (text "pw"))
      (text "10.0.0.9") 9099 (.single wrongVersionAnswers.bytes wrongVersionAnswers.bytes_ne_nil) := by
  rintro ⟨hsuccess, -⟩
  have hencodable : EncodableOrigin (fun _ => .error .valueError) (text "10.0.0.9") 9099 :=
    ⟨[5, 1, 0, 1, 10, 0, 0, 9, 0x23, 0x8B], by decide +kernel⟩
  have hserves : Serves (some (text "user")) (some (text "pw")) wrongVersionAnswers.method :=
    Or.inr ⟨rfl, text "user", text "pw", [1, 4, 0x75, 0x73, 0x65, 0x72, 2, 0x70, 0x77], rfl, rfl,
      by decide +kernel⟩
  have hgrants : wrongVersionAnswers.Grants (offeredMethods (some (text "user"))) :=
    ⟨List.mem_cons_of_mem _ List.mem_cons_self, by rintro _ ⟨⟩; rfl, rfl⟩
  have haccepted := (socks5Outcome_eq_ok_iff _ _ _ _ _
    (.single wrongVersionAnswers.bytes wrongVersionAnswers.bytes_ne_nil)).mpr
    ⟨hencodable, wrongVersionAnswers, by simp, hgrants, hserves, rfl⟩
  obtain ⟨answers, hstarts, -, hfixed⟩ := hsuccess.mp ⟨_, haccepted⟩
  rw [Incoming.single_bytes] at hstarts
  obtain ⟨-, hauth, -, -⟩ := Answers.agree hstarts (List.prefix_refl wrongVersionAnswers.bytes)
  exact absurd (hfixed.version (0x00, 0x00) hauth) (by decide)

end NetstackSuite.Proxy
