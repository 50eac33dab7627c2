import NetstackSuite.Lib.Dialogue
import NetstackSuite.Proxy.Errors

/-!
# Wire formats of the proxy handshakes

`src/proxy/tunnel.py`: HTTP CONNECT and SOCKS5, as functions over bytes and as dialogues where the
source takes a `read(n)` callable. A reader may return fewer bytes than it was asked for; the checks
the source makes for that are kept.

The codec that `str.encode("idna")` applies to a host that is not ASCII is the parameter `idna`.
-/

namespace NetstackSuite.Proxy

open NetstackSuite.Lib NetstackSuite.Python

/-- A dialogue over bytes.
Source: `src/proxy/tunnel.py` `Reader`
Kind: D -/
abbrev Exchange (α : Type) := Dialogue UInt8 ProxyExc α

/-! ## HTTP CONNECT -/

/-- Source: `src/proxy/tunnel.py` `CRLF`. Kind: D -/
def CRLF : Bytes := [0x0D, 0x0A]

/-- Source: `src/proxy/tunnel.py` `HEADER_TERMINATOR`. Kind: D -/
def HEADER_TERMINATOR : Bytes := [0x0D, 0x0A, 0x0D, 0x0A]

/-- The limit on a response head.
Source: `src/proxy/tunnel.py` `read_http_response_head`
Kind: D -/
def HEAD_LIMIT : Nat := 64 * 1024

/-- authority-form; an IPv6 literal gets brackets.
Source: `src/proxy/tunnel.py` `format_authority`
Kind: D -/
def formatAuthority (host : PyStr) (port : Int) : Except PyExc PyStr := do
  let digits ← intRepr port
  if COLON ∈ host ∧ host.head? ≠ some 0x5B then
    return text "[" ++ host ++ text "]:" ++ digits
  else return host ++ text ":" ++ digits

/-- `CONNECT authority HTTP/1.1` with its Host header.
Source: `src/proxy/tunnel.py` `build_http_connect_request`
Kind: D -/
def buildHttpConnectRequest (host : PyStr) (port : Int) (extraHeaders : Dict PyStr PyStr := []) :
    Except PyExc Bytes := do
  let authority ← formatAuthority host port
  let lines := [text "CONNECT " ++ authority ++ text " HTTP/1.1", text "Host: " ++ authority] ++
    extraHeaders.map fun (name, value) => name ++ text ": " ++ value
  encodeAscii (join (text "\r\n") lines ++ text "\r\n\r\n")

/-- The headers of a response, by their lines; the last of several of one name counts.
Source: `src/proxy/tunnel.py` `parse_http_connect_response`
Kind: D -/
def parseHeaders (lines : List Bytes) : Dict PyStr PyStr :=
  (lines.filter fun line => line ≠ []).foldl (fun headers line =>
    let (name, value) := (partition COLON (decodeLatin1 line)).getD (decodeLatin1 line, [])
    headers.set (lowerLatin1 (strip name)) (strip value)) []

/-- A complete response head.
Source: `src/proxy/tunnel.py` `parse_http_connect_response`
Kind: D -/
def parseHttpConnectResponse (raw : Bytes) : Except ProxyExc HttpConnectResponse :=
  let head := ((cut HEADER_TERMINATOR raw).map Prod.fst).getD raw
  match split CRLF head with
  | [] | [] :: _ => .error (.protocolViolation (text "empty HTTP response"))
  | statusLine :: lines =>
    let malformed :=
      .error (.protocolViolation (text "malformed HTTP status line: " ++ reprBytes statusLine))
    match splitAtMost (text " ") 2 (decodeLatin1 statusLine) with
    | version :: code :: reason =>
      if ¬ (text "HTTP/").isPrefixOf (upperLatin1 version) then malformed
      else
        match pyInt code with
        | .ok status => .ok ⟨status, reason.headD [], parseHeaders lines⟩
        | .error e =>
          if e.isValueError then
            .error (.protocolViolation (text "non-numeric HTTP status code: " ++ reprLatin1 code))
          else .error (.python e)
    | _ => malformed

/-- Whether the header terminator has been read.
Source: `src/proxy/tunnel.py` `read_http_response_head`
Kind: D -/
def hasTerminator (buffer : Bytes) : Bool := (cut HEADER_TERMINATOR buffer).isSome

/-- Read byte by byte up to the header terminator, after the bytes of `buffer`.
Source: `src/proxy/tunnel.py` `read_http_response_head`
Kind: D -/
def readHttpResponseHeadFrom (buffer : Bytes) : Exchange Bytes :=
  if hasTerminator buffer then .done buffer
  else
    .read 1 fun chunk =>
      if chunk = [] then
        .fail (.peerClosedEarly (text "proxy closed the connection during the CONNECT response"))
      else if HEAD_LIMIT < (buffer ++ chunk).length then
        .fail (.protocolViolation (text "HTTP response header block exceeded 64 KiB"))
      else readHttpResponseHeadFrom (buffer ++ chunk)
termination_by HEAD_LIMIT - buffer.length
decreasing_by
  have hchunk := List.length_pos_iff.mpr ‹¬ chunk = []›
  have hroom := ‹¬ HEAD_LIMIT < (buffer ++ chunk).length›
  rw [List.length_append] at hroom ⊢
  omega

/-- Read up to and including the header terminator, and no further.
Source: `src/proxy/tunnel.py` `read_http_response_head`
Kind: D -/
def readHttpResponseHead : Exchange Bytes := readHttpResponseHeadFrom []

/-! ## SOCKS5 -/

/-- Source: `src/proxy/tunnel.py` `SOCKS5_VERSION`. Kind: D -/
def SOCKS5_VERSION : UInt8 := 0x05

/-- Source: `src/proxy/tunnel.py` `AUTH_NONE`. Kind: D -/
def AUTH_NONE : UInt8 := 0x00

/-- Source: `src/proxy/tunnel.py` `AUTH_USERNAME_PASSWORD`. Kind: D -/
def AUTH_USERNAME_PASSWORD : UInt8 := 0x02

/-- Source: `src/proxy/tunnel.py` `AUTH_NO_ACCEPTABLE`. Kind: D -/
def AUTH_NO_ACCEPTABLE : UInt8 := 0xFF

/-- Source: `src/proxy/tunnel.py` `CMD_CONNECT`. Kind: D -/
def CMD_CONNECT : UInt8 := 0x01

/-- Source: `src/proxy/tunnel.py` `ATYP_IPV4`. Kind: D -/
def ATYP_IPV4 : UInt8 := 0x01

/-- Source: `src/proxy/tunnel.py` `ATYP_DOMAINNAME`. Kind: D -/
def ATYP_DOMAINNAME : UInt8 := 0x03

/-- Source: `src/proxy/tunnel.py` `ATYP_IPV6`. Kind: D -/
def ATYP_IPV6 : UInt8 := 0x04

/-- Source: `src/proxy/tunnel.py` `AUTH_SUBNEGOTIATION_VERSION`. Kind: D -/
def AUTH_SUBNEGOTIATION_VERSION : UInt8 := 0x01

/-- A value of `bytes` has between 1 and 255 elements, as a length byte requires.
Source: `src/proxy/tunnel.py`
Kind: D -/
def FitsLengthByte {α : Type} (data : List α) : Prop := 1 ≤ data.length ∧ data.length ≤ 255

instance {α : Type} (data : List α) : Decidable (FitsLengthByte data) :=
  inferInstanceAs (Decidable (_ ∧ _))

/-- VER, NMETHODS, METHODS.
Source: `src/proxy/tunnel.py` `build_socks5_greeting`
Kind: D -/
def buildSocks5Greeting (methods : List Int) : Except ProxyExc Bytes :=
  if ¬ FitsLengthByte methods then
    .error (.configurationError (text "SOCKS5 greeting needs between 1 and 255 methods"))
  else ofPython (bytesOf (SOCKS5_VERSION.toNat :: (methods.length : Int) :: methods))

/-- A greeting of methods that fit.
Source: `src/proxy/tunnel.py` `build_socks5_greeting`
Kind: L -/
lemma buildSocks5Greeting_of_fits {methods : Bytes} (h : FitsLengthByte methods) :
    buildSocks5Greeting (methods.map fun m => m.toNat) =
      .ok (0x05 :: UInt8.ofNat methods.length :: methods) := by
  have hfits : FitsLengthByte (methods.map fun m => (m.toNat : Int)) := by
    unfold FitsLengthByte
    rw [List.length_map]
    exact h
  have hcount : (UInt8.ofNat methods.length).toNat = methods.length :=
    toNat_ofNat_of_lt (by have := h.2; omega)
  unfold buildSocks5Greeting
  rw [if_neg (not_not.mpr hfits), ofPython_eq_ok, List.length_map]
  have hbytes := bytesOf_toNat (SOCKS5_VERSION :: UInt8.ofNat methods.length :: methods)
  rw [List.map_cons, List.map_cons, hcount] at hbytes
  exact hbytes

/-- VER, METHOD: the selected method.
Source: `src/proxy/tunnel.py` `parse_socks5_method_selection`
Kind: D -/
def parseSocks5MethodSelection (raw : Bytes) : Except ProxyExc UInt8 :=
  match raw with
  | [version, method] =>
    if version ≠ SOCKS5_VERSION then
      .error (.protocolViolation (text "expected SOCKS version 0x05, got 0x" ++ hex02 version))
    else .ok method
  | _ => .error (.protocolViolation
      (text "SOCKS5 method selection must be 2 bytes, got " ++ decimal raw.length))

section Address

variable (idna : PyStr → Except PyExc Bytes)

/-- A host that is no IP literal, as bytes.
Source: `src/proxy/tunnel.py` `encode_socks5_address`
Kind: D -/
def encodeName (host : PyStr) : Except PyExc Bytes :=
  if isAscii host then encodeAscii host else idna host

/-- ATYP and DST.ADDR.
Source: `src/proxy/tunnel.py` `encode_socks5_address`
Kind: D -/
def encodeHost (host : PyStr) : Except ProxyExc Bytes :=
  match ipAddress host with
  | .ok (.v4 ip) => .ok (ATYP_IPV4 :: (IpAddress.v4 ip).packed)
  | .ok (.v6 ip scopeId) => .ok (ATYP_IPV6 :: (IpAddress.v6 ip scopeId).packed)
  | .error e =>
    if ¬ e.isValueError then .error (.python e)
    else do
      let encoded ← ofPython (encodeName idna host)
      if ¬ FitsLengthByte encoded then
        .error (.configurationError (text "SOCKS5 domain names must be 1-255 bytes"))
      else .ok (ATYP_DOMAINNAME :: UInt8.ofNat encoded.length :: encoded)

/-- ATYP, DST.ADDR and DST.PORT.
Source: `src/proxy/tunnel.py` `encode_socks5_address`
Kind: D -/
def encodeSocks5Address (host : PyStr) (port : Int) : Except ProxyExc Bytes := do
  let head ← encodeHost idna host
  let tail ← ofPython (toBytes port 2)
  return head ++ tail

/-- VER, CMD, RSV, ATYP, DST.ADDR, DST.PORT.
Source: `src/proxy/tunnel.py` `build_socks5_request`
Kind: D -/
def buildSocks5Request (host : PyStr) (port : Int) (command : Int := CMD_CONNECT.toNat) :
    Except ProxyExc Bytes := do
  let head ← ofPython (bytesOf [SOCKS5_VERSION.toNat, command, 0x00])
  let address ← encodeSocks5Address idna host port
  return head ++ address

end Address

/-- VER, ULEN, UNAME, PLEN, PASSWD, with the version of the subnegotiation.
Source: `src/proxy/tunnel.py` `build_socks5_userpass_auth`
Kind: D -/
def buildSocks5UserpassAuth (username password : PyStr) : Except ProxyExc Bytes := do
  let user ← ofPython (encode username)
  let secret ← ofPython (encode password)
  if ¬ FitsLengthByte user ∨ ¬ FitsLengthByte secret then
    .error (.configurationError (text "SOCKS5 username and password must each be 1-255 bytes"))
  else return [AUTH_SUBNEGOTIATION_VERSION, UInt8.ofNat user.length] ++ user ++
    [UInt8.ofNat secret.length] ++ secret

/-- Credentials that fit.
Source: `src/proxy/tunnel.py` `build_socks5_userpass_auth`
Kind: L -/
lemma buildSocks5UserpassAuth_eq {username password : PyStr} {user secret : Bytes}
    (huser : encode username = .ok user) (huserFits : FitsLengthByte user)
    (hsecret : encode password = .ok secret) (hsecretFits : FitsLengthByte secret) :
    buildSocks5UserpassAuth username password =
      .ok (0x01 :: ((UInt8.ofNat user.length :: user) ++ (UInt8.ofNat secret.length :: secret))) := by
  have hfits : ¬ (¬ FitsLengthByte user ∨ ¬ FitsLengthByte secret) := by
    rw [not_or, not_not, not_not]
    exact ⟨huserFits, hsecretFits⟩
  unfold buildSocks5UserpassAuth
  rw [huser, hsecret]
  simp only [ofPython_ok, bind, Except.bind, if_neg hfits, pure, Except.pure]
  simp [AUTH_SUBNEGOTIATION_VERSION]

/-- VER, STATUS: whether the status is success. The version is not looked at.
Source: `src/proxy/tunnel.py` `parse_socks5_userpass_result`
Kind: D -/
def parseSocks5UserpassResult (raw : Bytes) : Except ProxyExc Bool :=
  match raw with
  | [_, status] => .ok (status = 0x00)
  | _ => .error (.protocolViolation
      (text "SOCKS5 auth result must be 2 bytes, got " ++ decimal raw.length))

/-- BND.ADDR, of the length that its type dictates.
Source: `src/proxy/tunnel.py` `read_socks5_reply`
Kind: D -/
def readBoundHost (atyp : UInt8) : Exchange PyStr :=
  if atyp = ATYP_IPV4 then do
    let raw ← Dialogue.ask 4
    let ip ← Dialogue.lift (ofPython (ipv4OfPacked raw))
    return (IpAddress.v4 ip).str
  else if atyp = ATYP_IPV6 then do
    let raw ← Dialogue.ask 16
    let ip ← Dialogue.lift (ofPython (ipv6OfPacked raw))
    return (IpAddress.v6 ip none).str
  else if atyp = ATYP_DOMAINNAME then do
    let rawLength ← Dialogue.ask 1
    match rawLength with
    | [] => .fail (.peerClosedEarly (text "proxy closed before the SOCKS5 domain length byte"))
    | length :: _ =>
      let name ← Dialogue.ask length.toNat
      return decodeAsciiReplace name
  else .fail (.protocolViolation (text "unknown SOCKS5 address type 0x" ++ hex02 atyp))

/-- VER, REP, RSV, ATYP, BND.ADDR, BND.PORT. The reserved byte is not looked at.
Source: `src/proxy/tunnel.py` `read_socks5_reply`
Kind: D -/
def readSocks5Reply : Exchange Socks5Reply := do
  let header ← Dialogue.ask 4
  match header with
  | [version, replyCode, _reserved, atyp] =>
    if version ≠ SOCKS5_VERSION then
      .fail (.protocolViolation
        (text "expected SOCKS version 0x05 in reply, got 0x" ++ hex02 version))
    else do
      let host ← readBoundHost atyp
      let port ← Dialogue.ask 2
      return ⟨replyCode, host, fromBigEndian port⟩
  | _ => .fail (.peerClosedEarly (text "short SOCKS5 reply header"))

end NetstackSuite.Proxy
