import NetstackSuite.Lib.DialogueLanguage
import NetstackSuite.Proxy.Client

/-!
# The SOCKS5 messages of a proxy, and which of them the client accepts

What RFC 1928 and RFC 1929 let a proxy answer (`WireAddress`, `WireReply`, `Answers`), and the words
that the code's readers accept:

* `accepts_readSocks5Reply`: the replies, with any code and any reserved byte;
* `accepts_establishSocks5`: whole exchanges whose status and reply code are zero, when the method is
  one the credentials serve and the origin can be encoded.

`socks5_accepts_exactly_iff` compares the second with the grammar.
-/

namespace NetstackSuite.Proxy

open NetstackSuite.Lib NetstackSuite.Python

/-! ## The grammar -/

/-- An address of RFC 1928: the type says how long it is.
Source: none: specification (RFC 1928)
Kind: D -/
inductive WireAddress where
  | ipv4 (octets : Bytes) (length_eq : octets.length = 4)
  | domain (name : Bytes) (length_le : name.length ≤ 255)
  | ipv6 (octets : Bytes) (length_eq : octets.length = 16)

namespace WireAddress

/-- ATYP and the address.
Source: none: specification (RFC 1928)
Kind: D -/
def bytes : WireAddress → Bytes
  | ipv4 octets _ => 0x01 :: octets
  | domain name _ => 0x03 :: UInt8.ofNat name.length :: name
  | ipv6 octets _ => 0x04 :: octets

/-- The address as text.
Source: none: specification (RFC 1928)
Kind: D -/
def host : WireAddress → PyStr
  | ipv4 octets _ => ipv4Text (BitVec.ofNat 32 (fromBigEndian octets))
  | domain name _ => decodeAsciiReplace name
  | ipv6 octets _ => ipv6Text (BitVec.ofNat 128 (fromBigEndian octets))

end WireAddress

/-- A reply of RFC 1928, of any code and with any reserved byte.
Source: none: specification (RFC 1928)
Kind: D -/
structure WireReply where
  code : UInt8
  reserved : UInt8
  address : WireAddress
  port : Bytes
  port_length : port.length = 2

namespace WireReply

/-- Source: none: specification (RFC 1928). Kind: D -/
def bytes (wire : WireReply) : Bytes :=
  [0x05, wire.code, wire.reserved] ++ (wire.address.bytes ++ wire.port)

/-- What it says.
Source: none: specification (RFC 1928)
Kind: D -/
def reply (wire : WireReply) : Socks5Reply where
  replyCode := wire.code
  boundHost := wire.address.host
  boundPort := fromBigEndian wire.port

end WireReply

/-- What a proxy answers in a whole exchange: the selected method, the version and status of an
RFC 1929 result if the method asks for one, and the reply.
Source: none: specification (RFC 1928, RFC 1929)
Kind: D -/
structure Answers where
  method : UInt8
  auth : Option (UInt8 × UInt8)
  auth_iff : auth.isSome = true ↔ method = 0x02
  reply : WireReply

namespace Answers

/-- The RFC 1929 result.
Source: none: specification (RFC 1929)
Kind: D -/
def authBytes (answers : Answers) : Bytes :=
  match answers.auth with
  | none => []
  | some (version, status) => [version, status]

/-- Source: none: specification (RFC 1928). Kind: D -/
def bytes (answers : Answers) : Bytes :=
  [0x05, answers.method] ++ (answers.authBytes ++ answers.reply.bytes)

lemma bytes_ne_nil (answers : Answers) : answers.bytes ≠ [] := List.cons_ne_nil _ _

/-- What it says.
Source: none: specification (RFC 1928)
Kind: D -/
def result (answers : Answers) : Socks5Result := ⟨answers.method, answers.reply.reply⟩

/-- The proxy selects an offered method, accepts the credentials if it asks for any, and connects.
Source: none: specification (RFC 1928, RFC 1929)
Kind: D -/
structure Grants (offered : Bytes) (answers : Answers) : Prop where
  offered : answers.method ∈ offered
  status : ∀ result ∈ answers.auth, result.2 = 0x00
  code : answers.reply.code = 0x00

/-- The bytes that the RFCs fix beyond those: the version of the result, and the reserved byte.
Source: none: specification (RFC 1928, RFC 1929)
Kind: D -/
structure FixedBytes (answers : Answers) : Prop where
  version : ∀ result ∈ answers.auth, result.1 = 0x01
  reserved : answers.reply.reserved = 0x00

end Answers

/-! ## The replies -/

/-- An address type and a word are a bound address as the type says.
Source: none: specification (RFC 1928)
Kind: L -/
lemma exists_wireAddress_iff {atyp : UInt8} {word : Bytes} {host : PyStr} :
    (∃ address : WireAddress, atyp :: word = address.bytes ∧ host = address.host) ↔
      (atyp = ATYP_IPV4 ∧ word.length = 4 ∧ host = ipv4Text (BitVec.ofNat 32 (fromBigEndian word))) ∨
      (atyp = ATYP_DOMAINNAME ∧ ∃ name : Bytes, name.length ≤ 255 ∧
        word = UInt8.ofNat name.length :: name ∧ host = decodeAsciiReplace name) ∨
      (atyp = ATYP_IPV6 ∧ word.length = 16 ∧
        host = ipv6Text (BitVec.ofNat 128 (fromBigEndian word))) := by
  constructor
  · rintro ⟨⟨octets, hlength⟩ | ⟨name, hlength⟩ | ⟨octets, hlength⟩, hword, rfl⟩
    · obtain ⟨rfl, rfl⟩ := List.cons.inj hword
      exact Or.inl ⟨rfl, hlength, rfl⟩
    · obtain ⟨rfl, rfl⟩ := List.cons.inj hword
      exact Or.inr (Or.inl ⟨rfl, name, hlength, rfl, rfl⟩)
    · obtain ⟨rfl, rfl⟩ := List.cons.inj hword
      exact Or.inr (Or.inr ⟨rfl, hlength, rfl⟩)
  · rintro (⟨rfl, hlength, rfl⟩ | ⟨rfl, name, hlength, rfl, rfl⟩ | ⟨rfl, hlength, rfl⟩)
    · exact ⟨.ipv4 word hlength, rfl, rfl⟩
    · exact ⟨.domain name hlength, rfl, rfl⟩
    · exact ⟨.ipv6 word hlength, rfl, rfl⟩

/-- An address of a fixed length is read as a whole and turned into text.
Source: `src/proxy/tunnel.py` `read_socks5_reply`
Kind: L -/
lemma accepts_packed {α : Type} {ofPacked : Bytes → Except PyExc α} {str : α → PyStr} {count : Nat}
    {word : Bytes} {host : PyStr} :
    Dialogue.Accepts (do
        let raw ← Dialogue.ask count
        let ip ← Dialogue.lift (ofPython (ofPacked raw))
        return str ip : Exchange PyStr) word host ↔
      word.length = count ∧ ∃ ip, ofPacked word = .ok ip ∧ host = str ip := by
  simp only [Dialogue.bind_eq, Dialogue.ask_bind, Dialogue.pure_eq, Dialogue.accepts_read,
    Dialogue.accepts_bind, Dialogue.accepts_lift, Dialogue.accepts_done, ofPython_eq_ok]
  constructor
  · rintro ⟨octets, rest, hlength, rfl, ip, _, _, rfl, ⟨rfl, hip⟩, rfl, rfl⟩
    rw [List.append_nil, List.append_nil]
    exact ⟨hlength, ip, hip, rfl⟩
  · rintro ⟨hlength, ip, hip, rfl⟩
    exact ⟨word, [], hlength, (List.append_nil _).symm, ip, [], [], rfl, ⟨rfl, hip⟩, rfl, rfl⟩

/-- A name is read behind its length.
Source: `src/proxy/tunnel.py` `read_socks5_reply`
Kind: L -/
lemma accepts_name {word : Bytes} {host : PyStr} :
    (readBoundHost ATYP_DOMAINNAME).Accepts word host ↔
      ∃ name : Bytes, name.length ≤ 255 ∧ word = UInt8.ofNat name.length :: name ∧
        host = decodeAsciiReplace name := by
  unfold readBoundHost
  rw [if_neg (by decide), if_neg (by decide), if_pos rfl]
  simp only [Dialogue.bind_eq, Dialogue.ask_bind, Dialogue.accepts_read]
  constructor
  · rintro ⟨rawLength, rest, hone, rfl, hname⟩
    obtain ⟨length, rfl⟩ := List.length_eq_one_iff.mp hone
    obtain ⟨name, rest', hlength, rfl, rfl, rfl⟩ := hname
    have hle : name.length ≤ 255 := by
      have := length.toNat_lt
      omega
    refine ⟨name, hle, ?_, rfl⟩
    simp [hlength]
  · rintro ⟨name, hlength, rfl, rfl⟩
    refine ⟨[UInt8.ofNat name.length], name, rfl, rfl, name, [], ?_, (List.append_nil _).symm, rfl, rfl⟩
    rw [UInt8.toNat_ofNat']
    omega

/-- The word of a bound address, with its type already read.
Source: `src/proxy/tunnel.py` `read_socks5_reply`
Kind: L -/
lemma accepts_readBoundHost {atyp : UInt8} {word : Bytes} {host : PyStr} :
    (readBoundHost atyp).Accepts word host ↔
      ∃ address : WireAddress, atyp :: word = address.bytes ∧ host = address.host := by
  rw [exists_wireAddress_iff]
  by_cases h4 : atyp = ATYP_IPV4
  · subst h4
    unfold readBoundHost
    rw [if_pos rfl, accepts_packed]
    constructor
    · rintro ⟨hlength, ip, hip, rfl⟩
      rw [ipv4OfPacked, if_pos hlength] at hip
      obtain rfl := Except.ok.inj hip
      exact Or.inl ⟨rfl, hlength, rfl⟩
    · rintro (⟨-, hlength, rfl⟩ | ⟨htype, -⟩ | ⟨htype, -⟩)
      · exact ⟨hlength, _, if_pos hlength, rfl⟩
      · exact absurd htype (by decide)
      · exact absurd htype (by decide)
  · by_cases h6 : atyp = ATYP_IPV6
    · subst h6
      unfold readBoundHost
      rw [if_neg h4, if_pos rfl, accepts_packed]
      constructor
      · rintro ⟨hlength, ip, hip, rfl⟩
        rw [ipv6OfPacked, if_pos hlength] at hip
        obtain rfl := Except.ok.inj hip
        exact Or.inr (Or.inr ⟨rfl, hlength, rfl⟩)
      · rintro (⟨htype, -⟩ | ⟨htype, -⟩ | ⟨-, hlength, rfl⟩)
        · exact absurd htype (by decide)
        · exact absurd htype (by decide)
        · exact ⟨hlength, _, if_pos hlength, rfl⟩
    · by_cases h3 : atyp = ATYP_DOMAINNAME
      · subst h3
        rw [accepts_name]
        simp only [h4, h6, false_and, or_false, false_or, true_and]
      · unfold readBoundHost
        rw [if_neg h4, if_neg h6, if_neg h3, Dialogue.accepts_fail]
        simp only [h4, h6, h3, false_and, or_self]

/-- **The reader of replies accepts the replies of the grammar, and says what they say.**
Source: `src/proxy/tunnel.py` `read_socks5_reply`
Kind: P -/
theorem accepts_readSocks5Reply {word : Bytes} {reply : Socks5Reply} :
    readSocks5Reply.Accepts word reply ↔ ∃ wire : WireReply, word = wire.bytes ∧ reply = wire.reply := by
  unfold readSocks5Reply
  simp only [Dialogue.bind_eq, Dialogue.ask_bind, Dialogue.accepts_read]
  constructor
  · rintro ⟨header, rest, hfour, rfl, haccepts⟩
    obtain ⟨version, code, reserved, atyp, rfl⟩ : ∃ a b c d, header = [a, b, c, d] := by
      rcases header with _ | ⟨a, _ | ⟨b, _ | ⟨c, _ | ⟨d, _ | ⟨e, tail⟩⟩⟩⟩⟩ <;> simp at hfour
      exact ⟨a, b, c, d, rfl⟩
    simp only at haccepts
    by_cases hversion : version = SOCKS5_VERSION
    · simp only [hversion, ne_eq, not_true_eq_false, if_false, Dialogue.accepts_bind,
        Dialogue.accepts_read, Dialogue.pure_eq, Dialogue.accepts_done] at haccepts
      obtain ⟨host, front, rest', rfl, hhost, port, _, htwo, rfl, rfl, rfl⟩ := haccepts
      obtain ⟨address, haddress, rfl⟩ := accepts_readBoundHost.mp hhost
      refine ⟨⟨code, reserved, address, port, htwo⟩, ?_, rfl⟩
      unfold WireReply.bytes
      rw [← haddress, hversion]
      simp [SOCKS5_VERSION]
    · simp only [ne_eq, hversion, not_false_eq_true, if_true, Dialogue.accepts_fail] at haccepts
  · rintro ⟨⟨code, reserved, address, port, htwo⟩, rfl, rfl⟩
    obtain ⟨atyp, front, haddress⟩ : ∃ atyp front, address.bytes = atyp :: front := by
      rcases address with _ | _ | _ <;> exact ⟨_, _, rfl⟩
    refine ⟨[0x05, code, reserved, atyp], front ++ port, rfl, ?_, ?_⟩
    · simp [WireReply.bytes, haddress]
    · simp only [show (0x05 : UInt8) = SOCKS5_VERSION from rfl, ne_eq, not_true_eq_false, if_false,
        Dialogue.accepts_bind, Dialogue.accepts_read, Dialogue.pure_eq, Dialogue.accepts_done]
      exact ⟨address.host, front, port, rfl, accepts_readBoundHost.mpr ⟨address, haddress.symm, rfl⟩,
        port, [], htwo, (List.append_nil _).symm, rfl, rfl⟩

/-! ## Negotiation -/

/-- The credentials serve the method: none are needed, or both are there and fit their message.
Source: `src/proxy/handshakes.py` `Socks5Handshake._negotiate`
Kind: D -/
def Serves (username password : Option PyStr) (method : UInt8) : Prop :=
  method = AUTH_NONE ∨
    (method = AUTH_USERNAME_PASSWORD ∧ ∃ user secret auth, username = some user ∧
      password = some secret ∧ buildSocks5UserpassAuth user secret = .ok auth)

/-- The greeting is always a message: there are one or two methods.
Source: `src/proxy/handshakes.py` `Socks5Handshake._negotiate`
Kind: L -/
lemma buildSocks5Greeting_offered (username : Option PyStr) :
    buildSocks5Greeting ((offeredMethods username).map fun m => m.toNat) =
      .ok ([SOCKS5_VERSION, UInt8.ofNat (offeredMethods username).length] ++
        offeredMethods username) := by
  apply buildSocks5Greeting_of_fits
  rcases username with _ | username
  · exact ⟨Nat.le_refl 1, Nat.le_add_left 1 254⟩
  · exact ⟨Nat.le_succ 1, Nat.le_add_left 2 253⟩

/-- A method that the credentials serve is one that is offered.
Source: `src/proxy/handshakes.py` `Socks5Handshake._negotiate`
Kind: L -/
lemma Serves.offered {username password : Option PyStr} {method : UInt8}
    (h : Serves username password method) : method ∈ offeredMethods username := by
  rcases h with rfl | ⟨rfl, user, secret, auth, rfl, -, -⟩
  · exact List.mem_cons_self
  · exact List.mem_cons_of_mem _ List.mem_cons_self

/-- A selection is its version and a method.
Source: `src/proxy/tunnel.py` `parse_socks5_method_selection`
Kind: L -/
lemma parseSocks5MethodSelection_eq_ok {raw : Bytes} {method : UInt8} :
    parseSocks5MethodSelection raw = .ok method ↔ raw = [0x05, method] := by
  unfold parseSocks5MethodSelection
  split
  next version selected =>
    by_cases hversion : version = SOCKS5_VERSION
    · simp [hversion, SOCKS5_VERSION]
    · have hfive : version ≠ 0x05 := hversion
      simp [hversion, hfive]
  next hshape =>
    simp only [reduceCtorEq, false_iff]
    exact hshape 0x05 method

/-- A result is any version and a status.
Source: `src/proxy/tunnel.py` `parse_socks5_userpass_result`
Kind: L -/
lemma parseSocks5UserpassResult_eq_ok {raw : Bytes} {accepted : Bool} :
    parseSocks5UserpassResult raw = .ok accepted ↔
      ∃ version status, raw = [version, status] ∧ accepted = decide (status = 0x00) := by
  unfold parseSocks5UserpassResult
  split
  next version status =>
    constructor
    · intro h
      exact ⟨version, status, rfl, (Except.ok.inj h).symm⟩
    · rintro ⟨_, _, hraw, rfl⟩
      obtain ⟨rfl, rfl⟩ : version = _ ∧ status = _ := by simpa using hraw
      rfl
  next hshape =>
    simp only [reduceCtorEq, false_iff]
    rintro ⟨version, status, hraw, -⟩
    exact hshape version status hraw

/-- Authentication accepts a result of status zero, whatever its version.
Source: `src/proxy/handshakes.py` `Socks5Handshake._negotiate`
Kind: L -/
lemma accepts_authenticate {username password : Option PyStr} {word : Bytes} :
    (authenticate username password).Accepts word () ↔
      (∃ user secret auth, username = some user ∧ password = some secret ∧
        buildSocks5UserpassAuth user secret = .ok auth) ∧ ∃ version, word = [version, 0x00] := by
  unfold authenticate
  split
  next user secret =>
    simp only [Dialogue.bind_eq, Dialogue.accepts_lift_bind, Dialogue.tell_bind, Dialogue.ask_bind,
      Dialogue.accepts_send, Dialogue.accepts_read, parseSocks5UserpassResult_eq_ok]
    constructor
    · rintro ⟨auth, hauth, raw, rest, -, rfl, _, ⟨version, status, rfl, rfl⟩, haccepts⟩
      by_cases hstatus : status = 0x00
      · simp only [hstatus, decide_true, not_true_eq_false, if_false, Dialogue.pure_eq,
          Dialogue.accepts_done, and_true] at haccepts
        exact ⟨⟨user, secret, auth, rfl, rfl, hauth⟩, version, by rw [hstatus, haccepts]; rfl⟩
      · simp [hstatus] at haccepts
    · rintro ⟨⟨_, _, auth, ⟨⟩, ⟨⟩, hauth⟩, version, rfl⟩
      exact ⟨auth, hauth, [version, 0x00], [], rfl, rfl, true, ⟨version, 0x00, rfl, rfl⟩, rfl, rfl⟩
  next hnone =>
    simp only [Dialogue.accepts_fail, false_iff]
    rintro ⟨⟨user, secret, auth, rfl, rfl, -⟩, -⟩
    exact hnone user secret rfl rfl

/-- **Negotiation accepts a method that the credentials serve and, if it asks for them, a result of
status zero.**
Source: `src/proxy/handshakes.py` `Socks5Handshake._negotiate`
Kind: P -/
theorem accepts_negotiate {username password : Option PyStr} {word : Bytes} {method : UInt8} :
    (negotiate username password).Accepts word method ↔
      Serves username password method ∧
        ((method = AUTH_NONE ∧ word = [0x05, method]) ∨
          (method = AUTH_USERNAME_PASSWORD ∧ ∃ version, word = [0x05, method, version, 0x00])) := by
  unfold negotiate
  rw [buildSocks5Greeting_offered]
  simp only [Dialogue.bind_eq, Dialogue.lift_ok, Dialogue.done_bind, Dialogue.tell_bind,
    Dialogue.ask_bind, Dialogue.accepts_send, Dialogue.accepts_read, Dialogue.accepts_lift_bind,
    parseSocks5MethodSelection_eq_ok]
  constructor
  · rintro ⟨_, rest, -, rfl, selected, rfl, haccepts⟩
    by_cases hrefused : selected = AUTH_NO_ACCEPTABLE
    · simp only [if_pos hrefused, Dialogue.accepts_fail] at haccepts
    · rw [if_neg hrefused] at haccepts
      by_cases hauth : selected = AUTH_USERNAME_PASSWORD
      · rw [if_pos hauth, Dialogue.accepts_bind] at haccepts
        obtain ⟨_, front, _, rfl, haccepts, rfl, rfl⟩ := haccepts
        obtain ⟨hserves, version, rfl⟩ := accepts_authenticate.mp haccepts
        exact ⟨Or.inr ⟨hauth, hserves⟩, Or.inr ⟨hauth, version, rfl⟩⟩
      · rw [if_neg hauth] at haccepts
        by_cases hnone : selected = AUTH_NONE
        · rw [if_neg (not_not.mpr hnone)] at haccepts
          obtain ⟨rfl, rfl⟩ := haccepts
          exact ⟨Or.inl hnone, Or.inl ⟨hnone, rfl⟩⟩
        · rw [if_pos hnone] at haccepts
          exact haccepts.elim
  · rintro ⟨hserves, ⟨rfl, rfl⟩ | ⟨rfl, version, rfl⟩⟩
    · exact ⟨[0x05, AUTH_NONE], [], rfl, rfl, AUTH_NONE, rfl, rfl, rfl⟩
    · refine ⟨[0x05, AUTH_USERNAME_PASSWORD], [version, 0x00], rfl, rfl, AUTH_USERNAME_PASSWORD, rfl, ?_⟩
      rw [if_neg (by decide), if_pos rfl, Dialogue.accepts_bind]
      refine ⟨(), [version, 0x00], [], rfl, accepts_authenticate.mpr ⟨?_, version, rfl⟩, rfl, rfl⟩
      rcases hserves with h | ⟨-, h⟩
      · exact absurd h (by decide)
      · exact h

/-- What a negotiation that succeeds has read, and a reply, are answers.
Source: none: specification (RFC 1928, RFC 1929)
Kind: L -/
lemma answers_of_negotiation {username password : Option PyStr} {front : Bytes} {method : UInt8}
    (h : (negotiate username password).Accepts front method) (wire : WireReply) :
    ∃ answers : Answers, front ++ wire.bytes = answers.bytes ∧ answers.method = method ∧
      answers.reply = wire ∧ ∀ result ∈ answers.auth, result.2 = 0x00 := by
  obtain ⟨-, ⟨rfl, rfl⟩ | ⟨rfl, version, rfl⟩⟩ := accepts_negotiate.mp h
  · exact ⟨⟨AUTH_NONE, none, by decide, wire⟩, rfl, rfl, rfl, nofun⟩
  · refine ⟨⟨AUTH_USERNAME_PASSWORD, some (version, 0x00), ⟨fun _ => rfl, fun _ => rfl⟩, wire⟩, rfl, rfl,
      rfl, ?_⟩
    rintro _ ⟨⟩
    rfl

/-! ## Whole exchanges -/

section Exchange

variable (idna : PyStr → Except PyExc Bytes)

/-- The origin can be put into a request.
Source: `src/proxy/tunnel.py` `build_socks5_request`
Kind: D -/
def EncodableOrigin (host : PyStr) (port : Int) : Prop :=
  ∃ request, buildSocks5Request idna host port = .ok request

/-- The request is answered by a reply of code zero.
Source: `src/proxy/handshakes.py` `Socks5Handshake.establish`
Kind: L -/
lemma accepts_requestConnect {host : PyStr} {port : Int} {method : UInt8} {word : Bytes}
    {result : Socks5Result} :
    (requestConnect idna host port method).Accepts word result ↔
      EncodableOrigin idna host port ∧ ∃ wire : WireReply, wire.code = 0x00 ∧ word = wire.bytes ∧
        result = ⟨method, wire.reply⟩ := by
  unfold requestConnect
  simp only [Dialogue.bind_eq, Dialogue.accepts_lift_bind, Dialogue.tell_bind, Dialogue.accepts_send]
  simp only [Dialogue.accepts_bind, accepts_readSocks5Reply]
  constructor
  · rintro ⟨request, hrequest, _, _, rest, rfl, ⟨wire, rfl, rfl⟩, haccepts⟩
    by_cases hcode : wire.code = 0x00
    · have hsucceeded : wire.reply.succeeded = true := decide_eq_true hcode
      rw [if_neg (not_not.mpr hsucceeded)] at haccepts
      obtain ⟨rfl, rfl⟩ := haccepts
      exact ⟨⟨request, hrequest⟩, wire, hcode, List.append_nil _, rfl⟩
    · have hfailed : ¬ wire.reply.succeeded = true := fun h => hcode (of_decide_eq_true h)
      rw [if_pos hfailed] at haccepts
      simp at haccepts
  · rintro ⟨⟨request, hrequest⟩, wire, hcode, rfl, rfl⟩
    refine ⟨request, hrequest, wire.reply, wire.bytes, [], (List.append_nil _).symm, ⟨wire, rfl, rfl⟩, ?_⟩
    have hsucceeded : wire.reply.succeeded = true := decide_eq_true hcode
    rw [if_neg (not_not.mpr hsucceeded)]
    exact ⟨rfl, rfl⟩

variable (username password : Option PyStr)

/-- **The client accepts the exchanges in which the proxy grants the connection, for a method that the
credentials serve and an origin that can be encoded**, and reports what they say.
Source: `src/proxy/handshakes.py` `Socks5Handshake.establish`
Kind: P -/
theorem accepts_establishSocks5 {host : PyStr} {port : Int} {word : Bytes} {result : Socks5Result} :
    (establishSocks5 idna username password host port).Accepts word result ↔
      EncodableOrigin idna host port ∧ ∃ answers : Answers,
        answers.Grants (offeredMethods username) ∧ Serves username password answers.method ∧
          word = answers.bytes ∧ result = answers.result := by
  unfold establishSocks5
  simp only [Dialogue.bind_eq, Dialogue.accepts_bind, accepts_requestConnect]
  constructor
  · rintro ⟨method, front, rest, rfl, hfront, hencodable, wire, hcode, rfl, rfl⟩
    obtain ⟨answers, hbytes, rfl, rfl, hstatus⟩ := answers_of_negotiation hfront wire
    have hserves := (accepts_negotiate.mp hfront).1
    exact ⟨hencodable, answers, ⟨hserves.offered, hstatus, hcode⟩, hserves, hbytes, rfl⟩
  · rintro ⟨hencodable, ⟨method, auth, hiff, wire⟩, hgrants, hserves, rfl, rfl⟩
    rcases auth with _ | ⟨version, status⟩
    · have hnone : method = AUTH_NONE := by
        rcases hserves with h | ⟨h, -⟩
        · exact h
        · exact absurd (hiff.mpr h) Bool.false_ne_true
      exact ⟨method, [0x05, method], wire.bytes, rfl,
        accepts_negotiate.mpr ⟨hserves, Or.inl ⟨hnone, rfl⟩⟩, hencodable, wire, hgrants.code, rfl, rfl⟩
    · have hauth : method = AUTH_USERNAME_PASSWORD := hiff.mp rfl
      have hstatus : status = 0x00 := hgrants.status (version, status) rfl
      subst hstatus
      exact ⟨method, [0x05, method, version, 0x00], wire.bytes, rfl,
        accepts_negotiate.mpr ⟨hserves, Or.inr ⟨hauth, version, rfl⟩⟩, hencodable, wire, hgrants.code, rfl,
        rfl⟩

/-- Answers at the start of one stream agree in what decides whether they are accepted.
Source: none: specification (RFC 1928, RFC 1929)
Kind: L -/
lemma Answers.agree {answers answers' : Answers} {stream : Bytes} (h : answers.bytes <+: stream)
    (h' : answers'.bytes <+: stream) :
    answers.method = answers'.method ∧ answers.auth = answers'.auth ∧
      answers.reply.code = answers'.reply.code ∧ answers.reply.reserved = answers'.reply.reserved := by
  obtain ⟨method, auth, hiff, wire⟩ := answers
  obtain ⟨method', auth', hiff', wire'⟩ := answers'
  obtain ⟨rest, rfl⟩ := h
  obtain ⟨rest', heq⟩ := h'
  obtain ⟨-, heq⟩ := List.cons.inj heq
  obtain ⟨rfl, heq⟩ := List.cons.inj heq
  rcases auth with _ | ⟨version, status⟩
  · rcases auth' with _ | ⟨version', status'⟩
    · obtain ⟨-, heq⟩ := List.cons.inj heq
      obtain ⟨hcode, heq⟩ := List.cons.inj heq
      obtain ⟨hreserved, -⟩ := List.cons.inj heq
      exact ⟨rfl, rfl, hcode.symm, hreserved.symm⟩
    · exact absurd (hiff.mpr (hiff'.mp rfl)) Bool.false_ne_true
  · rcases auth' with _ | ⟨version', status'⟩
    · exact absurd (hiff'.mpr (hiff.mp rfl)) Bool.false_ne_true
    · obtain ⟨hversion, heq⟩ := List.cons.inj heq
      obtain ⟨hstatus, heq⟩ := List.cons.inj heq
      obtain ⟨-, heq⟩ := List.cons.inj heq
      obtain ⟨hcode, heq⟩ := List.cons.inj heq
      obtain ⟨hreserved, -⟩ := List.cons.inj heq
      exact ⟨rfl, by rw [hversion, hstatus], hcode.symm, hreserved.symm⟩

end Exchange

end NetstackSuite.Proxy
