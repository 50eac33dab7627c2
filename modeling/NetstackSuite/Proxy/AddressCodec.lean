import NetstackSuite.Proxy.Socks5Grammar
import NetstackSuite.Python.Utf8

/-!
# SOCKS5 encoders against their readers

Two directions of the wire format. The client's own reader undoes `encode_socks5_address`
(`readSocks5Reply_encodeSocks5Address`). And a server that reads what the client sends by the grammars
of RFC 1928 and RFC 1929 (`readConversation`, which is not code of the repository) recovers every field
and is left with what follows (`conversation_unambiguous`).
-/

namespace NetstackSuite.Proxy

open NetstackSuite.Lib NetstackSuite.Python

variable (idna : PyStr → Except PyExc Bytes)

/-! ## Addresses -/

/-- What the address of a host is on the wire: a packed literal, or the bytes of a name.
Source: none: specification (RFC 1928)
Kind: D -/
inductive EncodesHost (host : PyStr) : WireAddress → Prop where
  | ipv4 {ip : BitVec 32} (haddress : ipAddress host = .ok (.v4 ip)) :
      EncodesHost host (.ipv4 (bigEndian ip.toNat 4) (length_bigEndian _ _))
  | ipv6 {ip : BitVec 128} {scopeId : Option PyStr} (haddress : ipAddress host = .ok (.v6 ip scopeId)) :
      EncodesHost host (.ipv6 (bigEndian ip.toNat 16) (length_bigEndian _ _))
  | domain {e : PyExc} {name : Bytes} (hname : ipAddress host = .error e)
      (hencoded : encodeName idna host = .ok name) (hfits : FitsLengthByte name) :
      EncodesHost host (.domain name hfits.2)

/-- **An encoded host is an address of the grammar.**
Source: `src/proxy/tunnel.py` `encode_socks5_address`
Kind: P -/
theorem encodesHost_of_encodeHost {host : PyStr} {head : Bytes} (h : encodeHost idna host = .ok head) :
    ∃ address, EncodesHost idna host address ∧ head = address.bytes := by
  unfold encodeHost at h
  split at h
  next ip haddress =>
    obtain rfl := Except.ok.inj h
    exact ⟨_, .ipv4 haddress, rfl⟩
  next ip scopeId haddress =>
    obtain rfl := Except.ok.inj h
    exact ⟨_, .ipv6 haddress, rfl⟩
  next e haddress =>
    split at h
    · cases h
    · obtain ⟨name, hencoded, h⟩ := bind_eq_ok.mp h
      rw [ofPython_eq_ok] at hencoded
      split at h
      · cases h
      next hfits =>
        obtain rfl := Except.ok.inj h
        exact ⟨_, .domain haddress hencoded (not_not.mp hfits), rfl⟩

/-- An encoded address is an address of the grammar and two bytes that denote the port.
Source: `src/proxy/tunnel.py` `encode_socks5_address`
Kind: P -/
theorem encodeSocks5Address_spec {host : PyStr} {port : Int} {encoded : Bytes}
    (h : encodeSocks5Address idna host port = .ok encoded) :
    ∃ address, EncodesHost idna host address ∧ encoded = address.bytes ++ bigEndian port.toNat 2 ∧
      0 ≤ port ∧ port ≤ 65535 := by
  unfold encodeSocks5Address at h
  obtain ⟨head, hhead, h⟩ := bind_eq_ok.mp h
  obtain ⟨tail, htail, h⟩ := bind_eq_ok.mp h
  obtain rfl := Except.ok.inj h
  obtain ⟨address, haddress, rfl⟩ := encodesHost_of_encodeHost idna hhead
  rw [ofPython_eq_ok] at htail
  unfold toBytes at htail
  split at htail
  · cases htail
  next hrange =>
    obtain rfl := Except.ok.inj htail
    exact ⟨address, haddress, rfl, by omega, by omega⟩

/-! ## The client's reader undoes the encoder -/

/-- The hosts whose text comes back: an address without a scope id, or an ASCII name that is no literal
and fits its length byte.
Source: none: specification
Kind: D -/
inductive ReadableHost (host : PyStr) : Prop where
  | ipv4 {ip : BitVec 32} (haddress : ipAddress host = .ok (.v4 ip))
  | ipv6 {ip : BitVec 128} (haddress : ipAddress host = .ok (.v6 ip none))
  | name {e : PyExc} (hname : ipAddress host = .error e) (hascii : isAscii host = true)
      (hfits : FitsLengthByte host)

/-- The canonical text of a host: that of the address it denotes, or itself.
Source: none: specification
Kind: D -/
def canonicalText (host : PyStr) : PyStr :=
  match ipAddress host with
  | .ok address => address.str
  | .error _ => host

/-- The only error of `ip_address`.
Source: Python `ipaddress` `ip_address`
Kind: L -/
lemma ipAddress_eq_error {host : PyStr} {e : PyExc} (h : ipAddress host = .error e) :
    e = .valueError := by
  unfold ipAddress at h
  split at h
  · cases h
  · split at h
    · cases h
    · exact (Except.error.inj h).symm

/-- A readable host is encoded, as an address that says its canonical text.
Source: `src/proxy/tunnel.py` `encode_socks5_address`
Kind: P -/
theorem encodeHost_of_readable {host : PyStr} (h : ReadableHost host) :
    ∃ address : WireAddress, encodeHost idna host = .ok address.bytes ∧
      address.host = canonicalText host := by
  unfold canonicalText encodeHost
  rcases h with haddress | haddress | ⟨hname, hascii, hfits⟩
  · next ip =>
    have hfour : ip.toNat < 256 ^ 4 := ip.isLt
    refine ⟨.ipv4 (bigEndian ip.toNat 4) (length_bigEndian _ _), by rw [haddress]; rfl, ?_⟩
    rw [haddress]
    simp only [WireAddress.host, IpAddress.str, fromBigEndian_bigEndian hfour, BitVec.ofNat_toNat,
      BitVec.setWidth_eq]
  · next ip =>
    have hsixteen : ip.toNat < 256 ^ 16 := ip.isLt
    refine ⟨.ipv6 (bigEndian ip.toNat 16) (length_bigEndian _ _), by rw [haddress]; rfl, ?_⟩
    rw [haddress]
    simp only [WireAddress.host, IpAddress.str, fromBigEndian_bigEndian hsixteen, BitVec.ofNat_toNat,
      BitVec.setWidth_eq]
  · obtain rfl := ipAddress_eq_error hname
    obtain ⟨data, hdata⟩ : ∃ data, encodeAscii host = .ok data := ⟨_, if_pos hascii⟩
    have hlength := length_encodeAscii hdata
    have hdataFits : FitsLengthByte data := by
      unfold FitsLengthByte
      rw [hlength]
      exact hfits
    refine ⟨.domain data hdataFits.2, ?_, ?_⟩
    · rw [hname]
      simp only [encodeName, hascii, if_true, hdata, ofPython_ok, bind, Except.bind,
        not_true_eq_false, hdataFits, PyExc.isValueError, if_false]
      rfl
    · rw [hname]
      exact decodeAsciiReplace_encodeAscii hdata

/-- **Reading a reply undoes `encode_socks5_address`**: over any segmentation, the code, the canonical
text of the host and the port come back, and the tail is left unread.
Source: `src/proxy/tunnel.py` `encode_socks5_address`, `read_socks5_reply`
Kind: P -/
theorem readSocks5Reply_encodeSocks5Address (code : UInt8) {host : PyStr} (hhost : ReadableHost host)
    {port : Nat} (hport : port ≤ 65535) (tail : Bytes) :
    ∃ encoded, encodeSocks5Address idna host port = .ok encoded ∧
      ∀ incoming : Incoming UInt8 ProxyExc,
        incoming.stream.bytes = [0x05, code, 0x00] ++ encoded ++ tail →
        (readSocks5Reply.run (recvExact shortRead) incoming).outcome =
            .ok ⟨code, canonicalText host, port⟩ ∧
          (readSocks5Reply.run (recvExact shortRead) incoming).reader.stream.bytes = tail := by
  obtain ⟨address, hencoded, htext⟩ := encodeHost_of_readable idna hhost
  have hsmall : port < 256 ^ 2 := by omega
  have htail : toBytes (port : Int) 2 = .ok (bigEndian port 2) := by
    unfold toBytes
    rw [Int.toNat_natCast, if_neg (by omega)]
  let wire : WireReply := ⟨code, 0x00, address, bigEndian port 2, length_bigEndian _ _⟩
  have hreply : wire.reply = ⟨code, canonicalText host, port⟩ := by
    unfold WireReply.reply
    rw [htext, fromBigEndian_bigEndian hsmall]
  refine ⟨address.bytes ++ bigEndian port 2, ?_, ?_⟩
  · unfold encodeSocks5Address
    rw [hencoded, htail]
    rfl
  · intro incoming hbytes
    have haccepts : readSocks5Reply.Accepts wire.bytes ⟨code, canonicalText host, port⟩ :=
      accepts_readSocks5Reply.mpr ⟨wire, rfl, hreply.symm⟩
    have hstream : incoming.stream = ⟨wire.bytes ++ tail, incoming.stream.ending⟩ := by
      rw [show wire.bytes ++ tail = incoming.stream.bytes from hbytes.symm]
    obtain ⟨houtcome, -, hreader⟩ := Dialogue.run_segments shortRead readSocks5Reply incoming
    rw [houtcome, hreader, hstream]
    obtain ⟨hok, hrest⟩ := Dialogue.run_of_accepts shortRead haccepts tail incoming.stream.ending
    exact ⟨hok, by rw [hrest]⟩

/-- An ASCII name.
Source: none: test
Kind: P -/
theorem readSocks5Reply_encodeSocks5Address_name :
    ∃ encoded, encodeSocks5Address (fun _ => .error .valueError) (text "abc") (80 : Nat) = .ok encoded ∧
      ∀ incoming : Incoming UInt8 ProxyExc,
        incoming.stream.bytes = [0x05, 0x00, 0x00] ++ encoded ++ [0x41] →
        (readSocks5Reply.run (recvExact shortRead) incoming).outcome =
            .ok ⟨0x00, canonicalText (text "abc"), 80⟩ ∧
          (readSocks5Reply.run (recvExact shortRead) incoming).reader.stream.bytes = [0x41] :=
  readSocks5Reply_encodeSocks5Address (fun _ => .error .valueError) 0x00
    (.name (e := .valueError) (by decide +kernel) (by decide +kernel) (by decide)) (by decide) [0x41]

/-! ## A server that reads the client's messages -/

/-- What a server learns from a conversation.
Source: none: specification (RFC 1928, RFC 1929)
Kind: D -/
structure Conversation where
  methods : Bytes
  username : Bytes
  password : Bytes
  command : UInt8
  /-- The type of the address, and its bytes. -/
  address : UInt8 × Bytes
  port : Nat

/-- Source: none: specification (RFC 1928). Kind: D -/
def WireAddress.parts : WireAddress → UInt8 × Bytes
  | ipv4 octets _ => (0x01, octets)
  | domain name _ => (0x03, name)
  | ipv6 octets _ => (0x04, octets)

/-- A dialogue of the server, which only reads; it fails on what is no message.
Source: none: specification
Kind: D -/
abbrev Server (α : Type) := Dialogue UInt8 Unit α

/-- A byte that counts the bytes after it.
Source: none: specification (RFC 1928, RFC 1929)
Kind: D -/
def readCounted : Server Bytes := do
  let count ← Dialogue.ask 1
  match count with
  | [count] => Dialogue.ask count.toNat
  | _ => .fail ()

/-- VER, NMETHODS, METHODS.
Source: none: specification (RFC 1928)
Kind: D -/
def readGreeting : Server Bytes := do
  let version ← Dialogue.ask 1
  if version = [0x05] then readCounted else .fail ()

/-- VER, ULEN, UNAME, PLEN, PASSWD.
Source: none: specification (RFC 1929)
Kind: D -/
def readUserpass : Server (Bytes × Bytes) := do
  let version ← Dialogue.ask 1
  if version = [0x01] then do
    let username ← readCounted
    let password ← readCounted
    return (username, password)
  else .fail ()

/-- ATYP and the address.
Source: none: specification (RFC 1928)
Kind: D -/
def readAddress : Server (UInt8 × Bytes) := do
  let atyp ← Dialogue.ask 1
  if atyp = [0x01] then (Dialogue.ask 4).bind fun octets => .done (0x01, octets)
  else if atyp = [0x03] then readCounted.bind fun name => .done (0x03, name)
  else if atyp = [0x04] then (Dialogue.ask 16).bind fun octets => .done (0x04, octets)
  else .fail ()

/-- VER, CMD, RSV, ATYP, DST.ADDR, DST.PORT.
Source: none: specification (RFC 1928)
Kind: D -/
def readRequest : Server (UInt8 × (UInt8 × Bytes) × Nat) := do
  let header ← Dialogue.ask 3
  match header with
  | [0x05, command, 0x00] => do
    let address ← readAddress
    let port ← Dialogue.ask 2
    return (command, address, fromBigEndian port)
  | _ => .fail ()

/-- A greeting, credentials and a request.
Source: none: specification (RFC 1928, RFC 1929)
Kind: D -/
def readConversation : Server Conversation := do
  let methods ← readGreeting
  let (username, password) ← readUserpass
  let (command, address, port) ← readRequest
  return { methods, username, password, command, address, port }

lemma accepts_readCounted {data : Bytes} (h : data.length ≤ 255) :
    readCounted.Accepts (UInt8.ofNat data.length :: data) data := by
  have hcount : (UInt8.ofNat data.length).toNat = data.length := toNat_ofNat_of_lt (by omega)
  exact ⟨[UInt8.ofNat data.length], data, rfl, rfl, data, [], hcount.symm, (List.append_nil _).symm, rfl,
    rfl⟩

lemma accepts_readGreeting {methods : Bytes} (h : methods.length ≤ 255) :
    readGreeting.Accepts (0x05 :: UInt8.ofNat methods.length :: methods) methods :=
  ⟨[0x05], _, rfl, rfl, accepts_readCounted h⟩

lemma accepts_readUserpass {user secret : Bytes} (huser : user.length ≤ 255)
    (hsecret : secret.length ≤ 255) :
    readUserpass.Accepts
      (0x01 :: ((UInt8.ofNat user.length :: user) ++ (UInt8.ofNat secret.length :: secret)))
      (user, secret) := by
  unfold readUserpass
  simp only [Dialogue.bind_eq, Dialogue.ask_bind, Dialogue.accepts_read]
  refine ⟨[0x01], _, rfl, rfl, ?_⟩
  rw [if_pos rfl, Dialogue.accepts_bind]
  refine ⟨user, _, _, rfl, accepts_readCounted huser, ?_⟩
  rw [Dialogue.accepts_bind]
  exact ⟨secret, _, [], (List.append_nil _).symm, accepts_readCounted hsecret, rfl, rfl⟩

lemma accepts_readAddress (address : WireAddress) :
    readAddress.Accepts address.bytes address.parts := by
  unfold readAddress
  simp only [Dialogue.bind_eq, Dialogue.ask_bind, Dialogue.accepts_read]
  rcases address with ⟨octets, hlength⟩ | ⟨name, hlength⟩ | ⟨octets, hlength⟩
  · exact ⟨[0x01], octets, rfl, rfl, octets, [], hlength, (List.append_nil _).symm, rfl, rfl⟩
  · refine ⟨[0x03], UInt8.ofNat name.length :: name, rfl, rfl, ?_⟩
    rw [if_neg (by decide), if_pos rfl, Dialogue.accepts_bind]
    exact ⟨name, _, [], (List.append_nil _).symm, accepts_readCounted hlength, rfl, rfl⟩
  · exact ⟨[0x04], octets, rfl, rfl, octets, [], hlength, (List.append_nil _).symm, rfl, rfl⟩

lemma accepts_readRequest (command : UInt8) (address : WireAddress) {port : Bytes}
    (hport : port.length = 2) :
    readRequest.Accepts ([0x05, command, 0x00] ++ (address.bytes ++ port))
      (command, address.parts, fromBigEndian port) := by
  unfold readRequest
  simp only [Dialogue.bind_eq, Dialogue.ask_bind, Dialogue.accepts_read]
  refine ⟨[0x05, command, 0x00], _, rfl, rfl, ?_⟩
  simp only [Dialogue.accepts_bind, Dialogue.accepts_read]
  exact ⟨address.parts, _, _, rfl, accepts_readAddress address, port, [], hport,
    (List.append_nil _).symm, rfl, rfl⟩

/-- **The client's transcript is unambiguous**: a server that reads greeting, credentials and request
one after the other recovers the methods, the credentials, the command, the encoded host and the port,
and is left with exactly what follows.
Source: `src/proxy/tunnel.py` `build_socks5_greeting`, `build_socks5_userpass_auth`,
`build_socks5_request`
Kind: P -/
theorem conversation_unambiguous {methods : Bytes} (hmethods : FitsLengthByte methods)
    {username password : PyStr} {user secret : Bytes} (huser : encode username = .ok user)
    (huserFits : FitsLengthByte user) (hsecret : encode password = .ok secret)
    (hsecretFits : FitsLengthByte secret) {host : PyStr} {port : Int} {encoded : Bytes}
    (haddress : encodeSocks5Address idna host port = .ok encoded) (tail : Bytes) :
    ∃ greeting auth request address,
      buildSocks5Greeting (methods.map fun m => m.toNat) = .ok greeting ∧
      buildSocks5UserpassAuth username password = .ok auth ∧
      buildSocks5Request idna host port = .ok request ∧ EncodesHost idna host address ∧
      (∀ short ending,
        let run := readConversation.run (readExact short) ⟨greeting ++ auth ++ request ++ tail, ending⟩
        run.outcome = .ok
            { methods, username := user, password := secret, command := 0x01, address := address.parts,
              port := port.toNat } ∧
          run.reader = ⟨tail, ending⟩) ∧
      decodeReplace user = username ∧ decodeReplace secret = password ∧ (port.toNat : Int) = port := by
  obtain ⟨address, hhost, rfl, hlow, hhigh⟩ := encodeSocks5Address_spec idna haddress
  have hsmall : port.toNat < 256 ^ 2 := by omega
  have hgreeting : buildSocks5Greeting (methods.map fun m => m.toNat) =
      .ok (0x05 :: UInt8.ofNat methods.length :: methods) := buildSocks5Greeting_of_fits hmethods
  have hauth : buildSocks5UserpassAuth username password =
      .ok (0x01 :: ((UInt8.ofNat user.length :: user) ++ (UInt8.ofNat secret.length :: secret))) :=
    buildSocks5UserpassAuth_eq huser huserFits hsecret hsecretFits
  have hrequest : buildSocks5Request idna host port =
      .ok ([0x05, 0x01, 0x00] ++ (address.bytes ++ bigEndian port.toNat 2)) := by
    unfold buildSocks5Request
    rw [haddress]
    rfl
  refine ⟨_, _, _, address, hgreeting, hauth, hrequest, hhost, fun short ending => ?_,
    decodeReplace_encode huser, decodeReplace_encode hsecret, Int.toNat_of_nonneg hlow⟩
  have haccepts : readConversation.Accepts
      ((0x05 :: UInt8.ofNat methods.length :: methods) ++
        ((0x01 :: ((UInt8.ofNat user.length :: user) ++ (UInt8.ofNat secret.length :: secret))) ++
          ([0x05, 0x01, 0x00] ++ (address.bytes ++ bigEndian port.toNat 2))))
      { methods, username := user, password := secret, command := 0x01, address := address.parts,
        port := fromBigEndian (bigEndian port.toNat 2) } :=
    Dialogue.accepts_bind.mpr ⟨methods, _, _, rfl, accepts_readGreeting hmethods.2,
      Dialogue.accepts_bind.mpr ⟨(user, secret), _, _, rfl,
        accepts_readUserpass huserFits.2 hsecretFits.2,
        Dialogue.accepts_bind.mpr ⟨(0x01, address.parts, _), _, [], (List.append_nil _).symm,
          accepts_readRequest 0x01 address (length_bigEndian _ _), rfl, rfl⟩⟩⟩
  rw [fromBigEndian_bigEndian hsmall] at haccepts
  have hrun := Dialogue.run_of_accepts short haccepts tail ending
  simp only [List.append_assoc] at hrun ⊢
  exact hrun

/-- Two methods, short credentials and an IPv4 origin.
Source: none: test
Kind: P -/
theorem conversation_unambiguous_short :
    ∃ greeting auth request : Bytes,
      (readConversation.run (readExact fun _ _ => ())
        ⟨greeting ++ auth ++ request ++ [0x41], .eof⟩).reader = ⟨[0x41], .eof⟩ := by
  have haddress : encodeSocks5Address (fun _ => .error .valueError) (text "10.0.0.9") 9099 =
      .ok [1, 10, 0, 0, 9, 0x23, 0x8B] := by decide +kernel
  have hmethods : FitsLengthByte ([0x00, 0x02] : Bytes) := by decide
  have huser : encode (text "user") = .ok [0x75, 0x73, 0x65, 0x72] := by decide +kernel
  have hsecret : encode (text "pw") = .ok [0x70, 0x77] := by decide +kernel
  obtain ⟨greeting, auth, request, address, -, -, -, -, hrun, -⟩ :=
    conversation_unambiguous (fun _ => .error .valueError) hmethods huser (by decide) hsecret
      (by decide) haddress [0x41]
  exact ⟨greeting, auth, request, (hrun (fun _ _ => ()) .eof).2⟩

end NetstackSuite.Proxy
