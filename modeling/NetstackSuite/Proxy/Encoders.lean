import NetstackSuite.Lib.Http1
import NetstackSuite.Proxy.AddressCodec
import NetstackSuite.Proxy.FailureDiscipline

/-!
# What the encoders refuse

The five functions of `src/proxy/tunnel.py` that put an operator's values on the wire, on arbitrary
values: integers of any size, and texts with any character in them. They should return bytes or raise a
`ConfigurationError`, raise it for a value that does not fit its field, and build a CONNECT request that
an HTTP/1.1 parser reads as the one that was asked for.

They check the number of methods, and the lengths of names and credentials. What they leave to a
conversion escapes as that conversion's own exception, and `build_http_connect_request` checks nothing.
`encoders_reject_iff` gives the values for which all is as it should be.
-/

namespace NetstackSuite.Proxy

open NetstackSuite.Lib NetstackSuite.Python

/-! ## Values and fields -/

/-- Source: none: specification. Kind: D -/
def PortFits (port : Int) : Prop := 0 ≤ port ∧ port ≤ 65535

/-- Source: none: specification. Kind: D -/
def ByteFits (value : Int) : Prop := 0 ≤ value ∧ value ≤ 255

/-- The encoder returns or raises a `ConfigurationError`, which it does where a value does not fit.
Source: none: specification
Kind: D -/
structure RejectsMisfits (fits : Prop) (outcome : Except ProxyExc Bytes) : Prop where
  clean : ∀ e, outcome = .error e → ∃ message, e = .configurationError message
  refuses : ¬ fits → ∃ message, outcome = .error (.configurationError message)

/-- An encoder that returns.
Source: none: specification
Kind: L -/
lemma rejectsMisfits_ok {fits : Prop} {data : Bytes} :
    RejectsMisfits fits (.ok data) ↔ fits := by
  constructor
  · intro h
    by_contra hnot
    obtain ⟨_, herror⟩ := h.refuses hnot
    cases herror
  · intro h
    exact ⟨fun _ herror => absurd herror (by simp), fun hnot => absurd h hnot⟩

/-- An encoder that raises what it should.
Source: none: specification
Kind: L -/
lemma rejectsMisfits_configurationError (fits : Prop) (message : PyStr) :
    RejectsMisfits fits (.error (.configurationError message)) :=
  ⟨fun _ h => ⟨message, (Except.error.inj h).symm⟩, fun _ => ⟨message, rfl⟩⟩

/-- An encoder that lets an exception of Python's escape.
Source: none: specification
Kind: L -/
lemma not_rejectsMisfits_python (fits : Prop) (e : PyExc) :
    ¬ RejectsMisfits fits (.error (.python e)) := by
  intro h
  obtain ⟨_, he⟩ := h.clean _ rfl
  cases he

/-- `bytes(values)` of values that fit.
Source: Python `bytes`
Kind: L -/
lemma bytesOf_of_fits {values : List Int} (h : ∀ v ∈ values, ByteFits v) :
    ∃ data, bytesOf values = .ok data := by
  refine ⟨_, if_pos ?_⟩
  rw [List.all_eq_true]
  intro v hv
  rw [Bool.and_eq_true, decide_eq_true_eq, decide_eq_true_eq]
  exact h v hv

/-- `bytes(values)` of values of which one does not fit.
Source: Python `bytes`
Kind: L -/
lemma bytesOf_of_misfit {values : List Int} (h : ¬ ∀ v ∈ values, ByteFits v) :
    bytesOf values = .error .valueError := by
  refine if_neg fun hall => h fun v hv => ?_
  have hv' := List.all_eq_true.mp hall v hv
  rw [Bool.and_eq_true, decide_eq_true_eq, decide_eq_true_eq] at hv'
  exact hv'

/-- A port that fits its two bytes.
Source: Python `int.to_bytes`
Kind: L -/
lemma toBytes_of_portFits {port : Int} (h : PortFits port) : ∃ data, toBytes port 2 = .ok data := by
  refine ⟨_, if_neg ?_⟩
  have := h.1
  have := h.2
  omega

/-- A port that does not.
Source: Python `int.to_bytes`
Kind: L -/
lemma toBytes_of_misfit {port : Int} (h : ¬ PortFits port) : toBytes port 2 = .error .overflowError := by
  apply if_pos
  unfold PortFits at h
  omega

/-! ## SOCKS5 -/

/-- The greeting.
Source: `src/proxy/tunnel.py` `build_socks5_greeting`
Kind: P -/
lemma greeting_rejects_iff (methods : List Int) :
    RejectsMisfits (FitsLengthByte methods ∧ ∀ m ∈ methods, ByteFits m) (buildSocks5Greeting methods) ↔
      (FitsLengthByte methods → ∀ m ∈ methods, ByteFits m) := by
  unfold buildSocks5Greeting
  by_cases hcount : FitsLengthByte methods
  · rw [if_neg (not_not.mpr hcount)]
    have hcons : (∀ v ∈ (SOCKS5_VERSION.toNat : Int) :: (methods.length : Int) :: methods, ByteFits v) ↔
        ∀ m ∈ methods, ByteFits m := by
      rw [List.forall_mem_cons, List.forall_mem_cons]
      have hlength : ByteFits methods.length := ⟨by omega, by have := hcount.2; omega⟩
      have hversion : ByteFits SOCKS5_VERSION.toNat := ⟨by decide, by decide⟩
      exact ⟨fun h => h.2.2, fun h => ⟨hversion, hlength, h⟩⟩
    by_cases hmethods : ∀ m ∈ methods, ByteFits m
    · obtain ⟨data, hdata⟩ := bytesOf_of_fits (hcons.mpr hmethods)
      rw [hdata, ofPython_ok, rejectsMisfits_ok]
      exact iff_of_true ⟨hcount, hmethods⟩ fun _ => hmethods
    · rw [bytesOf_of_misfit (fun h => hmethods (hcons.mp h)), ofPython_error]
      exact iff_of_false (not_rejectsMisfits_python _ _) fun h => hmethods (h hcount)
  · rw [if_pos hcount]
    exact iff_of_true (rejectsMisfits_configurationError _ _) fun h => absurd h hcount

/-- The credentials.
Source: `src/proxy/tunnel.py` `build_socks5_userpass_auth`
Kind: P -/
lemma userpass_rejects_iff (username password : PyStr) :
    RejectsMisfits (CredentialFits (some username) ∧ CredentialFits (some password))
        (buildSocks5UserpassAuth username password) ↔
      (∃ user, encode username = .ok user) ∧ ∃ secret, encode password = .ok secret := by
  unfold buildSocks5UserpassAuth
  rcases huser : encode username with e | user
  · apply iff_of_false (not_rejectsMisfits_python _ e)
    rintro ⟨⟨user, h⟩, -⟩
    cases h
  · rcases hsecret : encode password with e | secret
    · apply iff_of_false (not_rejectsMisfits_python _ e)
      rintro ⟨-, secret, h⟩
      cases h
    · have hfits : CredentialFits (some username) ∧ CredentialFits (some password) ↔
          FitsLengthByte user ∧ FitsLengthByte secret := by
        unfold CredentialFits
        simp [huser, hsecret]
      rw [hfits]
      refine iff_of_true ?_ ⟨⟨user, rfl⟩, secret, rfl⟩
      simp only [ofPython_ok, bind, Except.bind, pure, Except.pure]
      by_cases hmisfit : ¬ FitsLengthByte user ∨ ¬ FitsLengthByte secret
      · rw [if_pos hmisfit]
        exact rejectsMisfits_configurationError _ _
      · rw [if_neg hmisfit, rejectsMisfits_ok]
        rwa [not_or, not_not, not_not] at hmisfit

section Address

variable (idna : PyStr → Except PyExc Bytes)

/-- The host is an address, or it can be encoded.
Source: none: specification
Kind: D -/
def EncodableHost (host : PyStr) : Prop :=
  (∃ ip, ipAddress host = .ok ip) ∨ ∃ name, encodeName idna host = .ok name

/-- The host is an address, or a name that fits its length byte.
Source: none: specification
Kind: D -/
def HostFits (host : PyStr) : Prop :=
  (∃ ip, ipAddress host = .ok ip) ∨ ∃ name, encodeName idna host = .ok name ∧ FitsLengthByte name

/-- What becomes of a host.
Source: `src/proxy/tunnel.py` `encode_socks5_address`
Kind: L -/
lemma encodeHost_cases (host : PyStr) :
    (HostFits idna host ∧ EncodableHost idna host ∧ ∃ head, encodeHost idna host = .ok head) ∨
    (¬ HostFits idna host ∧ EncodableHost idna host ∧
      ∃ message, encodeHost idna host = .error (.configurationError message)) ∨
    (¬ EncodableHost idna host ∧ ∃ e, encodeHost idna host = .error (.python e)) := by
  unfold HostFits EncodableHost encodeHost
  rcases haddress : ipAddress host with e | ip
  · obtain rfl := ipAddress_eq_error haddress
    have hvalue : ¬ ¬ PyExc.valueError.isValueError = true := not_not.mpr rfl
    simp only [if_neg hvalue]
    rcases hname : encodeName idna host with e | name
    · refine Or.inr (Or.inr ⟨?_, e, rfl⟩)
      rintro (⟨_, h⟩ | ⟨_, h⟩) <;> cases h
    · simp only [ofPython_ok, bind, Except.bind]
      by_cases hfits : FitsLengthByte name
      · rw [if_neg (not_not.mpr hfits)]
        exact Or.inl ⟨Or.inr ⟨name, rfl, hfits⟩, Or.inr ⟨name, rfl⟩, _, rfl⟩
      · rw [if_pos hfits]
        refine Or.inr (Or.inl ⟨?_, Or.inr ⟨name, rfl⟩, _, rfl⟩)
        rintro (⟨_, h⟩ | ⟨name', h, hfits'⟩)
        · cases h
        · obtain rfl := Except.ok.inj h
          exact hfits hfits'
  · refine Or.inl ⟨Or.inl ⟨ip, rfl⟩, Or.inl ⟨ip, rfl⟩, ?_⟩
    rcases ip with ip | ⟨ip, scopeId⟩
    · exact ⟨_, rfl⟩
    · exact ⟨_, rfl⟩

/-- The values of an address for which its encoder is as it should be.
Source: none: specification
Kind: D -/
def AddressCarried (host : PyStr) (port : Int) : Prop :=
  EncodableHost idna host ∧ (HostFits idna host → PortFits port)

/-- The address.
Source: `src/proxy/tunnel.py` `encode_socks5_address`
Kind: P -/
lemma address_rejects_iff (host : PyStr) (port : Int) :
    RejectsMisfits (HostFits idna host ∧ PortFits port) (encodeSocks5Address idna host port) ↔
      AddressCarried idna host port := by
  unfold AddressCarried encodeSocks5Address
  obtain ⟨hfits, hencodable, head, hhead⟩ | ⟨hmisfit, hencodable, message, hhead⟩ |
    ⟨hbad, e, hhead⟩ := encodeHost_cases idna host
  · rw [hhead]
    by_cases hport : PortFits port
    · obtain ⟨tail, htail⟩ := toBytes_of_portFits hport
      rw [htail]
      exact iff_of_true (rejectsMisfits_ok.mpr ⟨hfits, hport⟩) ⟨hencodable, fun _ => hport⟩
    · rw [toBytes_of_misfit hport]
      exact iff_of_false (not_rejectsMisfits_python _ _) fun h => hport (h.2 hfits)
  · rw [hhead]
    exact iff_of_true (rejectsMisfits_configurationError _ message)
      ⟨hencodable, fun h => absurd h hmisfit⟩
  · rw [hhead]
    exact iff_of_false (not_rejectsMisfits_python _ e) fun h => hbad h.1

/-- The request.
Source: `src/proxy/tunnel.py` `build_socks5_request`
Kind: P -/
lemma request_rejects_iff (host : PyStr) (port command : Int) :
    RejectsMisfits (ByteFits command ∧ HostFits idna host ∧ PortFits port)
        (buildSocks5Request idna host port command) ↔
      ByteFits command ∧ AddressCarried idna host port := by
  unfold buildSocks5Request
  have hvalues : (∀ v ∈ [(SOCKS5_VERSION.toNat : Int), command, 0x00], ByteFits v) ↔ ByteFits command := by
    simp only [List.forall_mem_cons]
    exact ⟨fun h => h.2.1, fun h => ⟨⟨by decide, by decide⟩, h, ⟨by decide, by decide⟩,
      List.forall_mem_nil _⟩⟩
  by_cases hcommand : ByteFits command
  · obtain ⟨head, hhead⟩ := bytesOf_of_fits (hvalues.mpr hcommand)
    rw [hhead, and_iff_right hcommand, and_iff_right hcommand, ← address_rejects_iff]
    rcases encodeSocks5Address idna host port with e | address
    · rfl
    · exact rejectsMisfits_ok.trans rejectsMisfits_ok.symm
  · rw [bytesOf_of_misfit fun h => hcommand (hvalues.mp h)]
    exact iff_of_false (not_rejectsMisfits_python _ _) fun h => hcommand h.1

end Address

/-! ## HTTP CONNECT -/

/-- The bytes of ASCII text.
Source: Python `str.encode`
Kind: D -/
def asciiBytes (s : PyStr) : Bytes := s.map fun c => UInt8.ofNat c.val

lemma asciiBytes_append (s t : PyStr) : asciiBytes (s ++ t) = asciiBytes s ++ asciiBytes t :=
  List.map_append

lemma isAscii_append (s t : PyStr) : isAscii (s ++ t) = (isAscii s && isAscii t) := List.all_append

/-- The lines of the request.
Source: `src/proxy/tunnel.py` `build_http_connect_request`
Kind: D -/
def requestLines (authority : PyStr) (extraHeaders : Dict PyStr PyStr) : List PyStr :=
  [text "CONNECT " ++ authority ++ text " HTTP/1.1", text "Host: " ++ authority] ++
    extraHeaders.map fun (name, value) => name ++ text ": " ++ value

/-- The request that was asked for.
Source: none: specification (RFC 9112)
Kind: D -/
def connectHead (authority : PyStr) (extraHeaders : Dict PyStr PyStr) : Http1.RequestHead where
  method := asciiBytes (text "CONNECT")
  target := asciiBytes authority
  fields := (asciiBytes (text "Host"), asciiBytes authority) ::
    extraHeaders.map fun (name, value) => (asciiBytes name, asciiBytes value)

/-- Lines that are joined, with a separator after the last.
Source: Python `str.join`
Kind: L -/
lemma join_append_sep (sep : PyStr) (line : PyStr) (lines : List PyStr) :
    join sep (line :: lines) ++ sep = (line :: lines).flatMap fun line => line ++ sep := by
  unfold join
  induction lines generalizing line with
  | nil => simp
  | cons next lines ih =>
      rw [List.flatMap_cons, ← ih next, List.intercalate_cons_cons]
      simp only [List.append_assoc]

/-- The text of the request is ASCII if its lines are.
Source: `src/proxy/tunnel.py` `build_http_connect_request`
Kind: L -/
lemma isAscii_lines (lines : List PyStr) :
    isAscii (lines.flatMap fun line => line ++ text "\x0d\x0a") = true ↔
      ∀ line ∈ lines, isAscii line = true := by
  induction lines with
  | nil => simp [isAscii]
  | cons line lines ih =>
      have hbreak : isAscii (text "\x0d\x0a") = true := by decide
      rw [List.flatMap_cons, isAscii_append, isAscii_append, hbreak, Bool.and_true, Bool.and_eq_true, ih,
        List.forall_mem_cons]

/-- The field lines of the request.
Source: `src/proxy/tunnel.py` `build_http_connect_request`
Kind: L -/
lemma asciiBytes_fieldLines (fields : Dict PyStr PyStr) :
    asciiBytes ((fields.map fun (name, value) => name ++ text ": " ++ value).flatMap fun line =>
        line ++ text "\x0d\x0a") ++ [Http1.CR, Http1.LF] =
      Http1.renderFields (fields.map fun (name, value) => (asciiBytes name, asciiBytes value)) := by
  induction fields with
  | nil => rfl
  | cons field fields ih =>
      rw [List.map_cons, List.flatMap_cons, List.map_cons, Http1.renderFields, ← ih]
      simp only [asciiBytes_append, List.append_assoc, Http1.renderField]
      rfl

/-- **What is built, if anything, is the request that was asked for, as it is written.**
Source: `src/proxy/tunnel.py` `build_http_connect_request`
Kind: P -/
lemma buildHttpConnectRequest_eq {host authority : PyStr} {port : Int}
    (hauthority : formatAuthority host port = .ok authority) (extraHeaders : Dict PyStr PyStr) :
    buildHttpConnectRequest host port extraHeaders =
      if ∀ line ∈ requestLines authority extraHeaders, isAscii line = true then
        .ok (Http1.render (connectHead authority extraHeaders))
      else .error .valueError := by
  have hlines : join (text "\x0d\x0a") (requestLines authority extraHeaders) ++
      text "\x0d\x0a\x0d\x0a" = ((requestLines authority extraHeaders).flatMap fun line =>
        line ++ text "\x0d\x0a") ++ text "\x0d\x0a" := by
    rw [show text "\x0d\x0a\x0d\x0a" = text "\x0d\x0a" ++ text "\x0d\x0a" from rfl, ← List.append_assoc]
    exact congrArg (· ++ text "\x0d\x0a") (join_append_sep _ _ _)
  have hbuild : buildHttpConnectRequest host port extraHeaders =
      encodeAscii (join (text "\x0d\x0a") (requestLines authority extraHeaders) ++
        text "\x0d\x0a\x0d\x0a") := by
    unfold buildHttpConnectRequest
    rw [hauthority]
    rfl
  have hbreak : isAscii (text "\x0d\x0a") = true := by decide
  rw [hbuild, hlines, encodeAscii, isAscii_append, hbreak, Bool.and_true]
  by_cases hascii : ∀ line ∈ requestLines authority extraHeaders, isAscii line = true
  · rw [if_pos ((isAscii_lines _).mpr hascii), if_pos hascii]
    congr 1
    show asciiBytes _ = _
    have hhead : Http1.render (connectHead authority extraHeaders) =
        Http1.renderRequestLine (asciiBytes (text "CONNECT")) (asciiBytes authority) ++
          Http1.CR :: Http1.LF :: (Http1.renderField (asciiBytes (text "Host"), asciiBytes authority) ++
            Http1.CR :: Http1.LF :: (asciiBytes ((extraHeaders.map fun (name, value) =>
              name ++ text ": " ++ value).flatMap fun line => line ++ text "\x0d\x0a") ++
                [Http1.CR, Http1.LF])) := by
      rw [asciiBytes_fieldLines]
      rfl
    rw [hhead]
    unfold requestLines Http1.renderRequestLine Http1.renderField
    have hmethod : asciiBytes (text "CONNECT ") = asciiBytes (text "CONNECT") ++ [0x20] := rfl
    have hversion : asciiBytes (text " HTTP/1.1") = 0x20 :: Http1.VERSION := rfl
    have hname : asciiBytes (text "Host: ") = asciiBytes (text "Host") ++ [0x3A, 0x20] := rfl
    have hend : asciiBytes (text "\x0d\x0a") = [Http1.CR, Http1.LF] := rfl
    rw [List.cons_append, List.cons_append, List.nil_append, List.flatMap_cons, List.flatMap_cons]
    simp only [asciiBytes_append, hmethod, hversion, hname, hend, List.append_assoc, List.cons_append,
      List.nil_append]
  · rw [if_neg fun h => hascii ((isAscii_lines _).mp h), if_neg hascii]

/-- The request that was asked for is well formed if its parts are, and no extra field is a second Host.
Source: none: specification (RFC 9112)
Kind: L -/
lemma wellFormed_connectHead_iff (authority : PyStr) (extraHeaders : Dict PyStr PyStr) :
    (connectHead authority extraHeaders).WellFormed ↔
      Http1.isAuthority (asciiBytes authority) = true ∧
        ∀ field ∈ extraHeaders, Http1.isToken (asciiBytes field.1) = true ∧
          Http1.isFieldValue (asciiBytes field.2) = true ∧ Http1.isHost (asciiBytes field.1) = false := by
  have hcount : ((connectHead authority extraHeaders).fields.filter fun field =>
      Http1.isHost field.1).length = 1 ↔
        ∀ field ∈ extraHeaders, Http1.isHost (asciiBytes field.1) = false := by
    rw [connectHead, List.filter_cons_of_pos (by rfl), List.length_cons, Nat.add_eq_right,
      List.length_eq_zero_iff, List.filter_eq_nil_iff, List.forall_mem_map]
    simp only [Bool.not_eq_true]
  constructor
  · intro h
    refine ⟨h.target, ?_⟩
    intro field hfield
    have hread := h.fields _ (List.mem_cons_of_mem _ (List.mem_map_of_mem hfield))
    exact ⟨hread.1, hread.2, hcount.mp h.host field hfield⟩
  · rintro ⟨hauthority, hfields⟩
    have hmethod : Http1.isToken (asciiBytes (text "CONNECT")) = true := by decide
    have hname : Http1.isToken (asciiBytes (text "Host")) = true := by decide
    refine ⟨hmethod, hauthority, ?_, hcount.mpr fun field hfield => (hfields field hfield).2.2⟩
    rw [connectHead, List.forall_mem_cons, List.forall_mem_map]
    exact ⟨⟨hname, Http1.isFieldValue_of_isAuthority hauthority⟩,
      fun field hfield => ⟨(hfields field hfield).1, (hfields field hfield).2.1⟩⟩

/-- The request is refused where the port or the host does not fit, and else it is read as the one that
was asked for.
Source: none: specification (RFC 9112)
Kind: D -/
structure ConnectRequestRead (host : PyStr) (port : Int) (extraHeaders : Dict PyStr PyStr) : Prop where
  rejects : RejectsMisfits (PortFits port ∧ isAscii host = true)
    (ofPython (buildHttpConnectRequest host port extraHeaders))
  read : ∀ data authority, buildHttpConnectRequest host port extraHeaders = .ok data →
    formatAuthority host port = .ok authority →
      Http1.parse data = some (connectHead authority extraHeaders, [])

/-- The values of a CONNECT request for which its encoder is as it should be.
Source: none: specification (RFC 9112)
Kind: D -/
structure ConnectRequestCarried (host : PyStr) (port : Int) (extraHeaders : Dict PyStr PyStr) : Prop where
  port_fits : PortFits port
  host_ascii : isAscii host = true
  authority : ∀ authority, formatAuthority host port = .ok authority →
    Http1.isAuthority (asciiBytes authority) = true
  fields : ∀ field ∈ extraHeaders, (isAscii field.1 = true ∧ isAscii field.2 = true) ∧
    Http1.isToken (asciiBytes field.1) = true ∧ Http1.isFieldValue (asciiBytes field.2) = true ∧
      Http1.isHost (asciiBytes field.1) = false

/-- The authority of a port that fits; it is ASCII if the host is.
Source: `src/proxy/tunnel.py` `format_authority`
Kind: L -/
lemma formatAuthority_of_portFits (host : PyStr) {port : Int} (h : PortFits port) :
    ∃ authority, formatAuthority host port = .ok authority ∧
      (isAscii host = true → isAscii authority = true) := by
  obtain ⟨digits, hdigits⟩ := intRepr_of_lt (i := port) (by unfold PortFits at h; omega)
  have hascii : isAscii digits = true := by
    rw [isAscii, List.all_eq_true]
    intro c hc
    have hdigit := isDigit_iff.mp ((isDecimal_of_intRepr h.1 hdigits).2 c hc)
    exact decide_eq_true (show c.val < 0x80 by omega)
  have hopen : isAscii (text "[") = true := by decide
  have hclose : isAscii (text "]:") = true := by decide
  have hcolon : isAscii (text ":") = true := by decide
  unfold formatAuthority
  rw [hdigits]
  simp only [bind, Except.bind, pure, Except.pure]
  split
  · refine ⟨_, rfl, ?_⟩
    intro hhost
    simp only [isAscii_append, hopen, hclose, hhost, hascii, Bool.and_true]
  · refine ⟨_, rfl, ?_⟩
    intro hhost
    simp only [isAscii_append, hcolon, hhost, hascii, Bool.and_true]

/-- The lines of a request are ASCII if its parts are.
Source: `src/proxy/tunnel.py` `build_http_connect_request`
Kind: L -/
lemma isAscii_requestLines {authority : PyStr} (hauthority : isAscii authority = true)
    (extraHeaders : Dict PyStr PyStr) :
    (∀ line ∈ requestLines authority extraHeaders, isAscii line = true) ↔
      ∀ field ∈ extraHeaders, isAscii field.1 = true ∧ isAscii field.2 = true := by
  have hmethod : isAscii (text "CONNECT ") = true := by decide
  have hversion : isAscii (text " HTTP/1.1") = true := by decide
  have hname : isAscii (text "Host: ") = true := by decide
  have hcolon : isAscii (text ": ") = true := by decide
  unfold requestLines
  rw [List.forall_mem_append, List.forall_mem_map]
  simp only [List.forall_mem_cons, isAscii_append, hmethod, hversion, hname, hcolon, hauthority,
    Bool.and_true, Bool.and_eq_true, true_and]
  exact and_iff_right (List.forall_mem_nil _)

/-- The CONNECT request.
Source: `src/proxy/tunnel.py` `build_http_connect_request`
Kind: P -/
lemma connectRequest_read_iff (host : PyStr) (port : Int) (extraHeaders : Dict PyStr PyStr) :
    ConnectRequestRead host port extraHeaders ↔ ConnectRequestCarried host port extraHeaders := by
  constructor
  · rintro ⟨hrejects, hread⟩
    obtain ⟨hport, hhost⟩ : PortFits port ∧ isAscii host = true := by
      by_contra hmisfit
      obtain ⟨message, herror⟩ := hrejects.refuses hmisfit
      rcases hbuild : buildHttpConnectRequest host port extraHeaders with e | data
      · rw [hbuild, ofPython_error] at herror
        cases herror
      · rw [hbuild, ofPython_ok] at herror
        cases herror
    obtain ⟨authority, hauthority, hascii⟩ := formatAuthority_of_portFits host hport
    have hbuild := buildHttpConnectRequest_eq hauthority extraHeaders
    by_cases hlines : ∀ line ∈ requestLines authority extraHeaders, isAscii line = true
    · rw [if_pos hlines] at hbuild
      have hwell := Http1.wellFormed_of_parse (hread _ authority hbuild hauthority)
      rw [wellFormed_connectHead_iff] at hwell
      rw [isAscii_requestLines (hascii hhost)] at hlines
      refine ⟨hport, hhost, ?_, fun field hfield => ⟨hlines field hfield, hwell.2 field hfield⟩⟩
      intro authority' hauthority'
      rw [← Except.ok.inj (hauthority.symm.trans hauthority')]
      exact hwell.1
    · rw [if_neg hlines] at hbuild
      rw [hbuild] at hrejects
      exact absurd hrejects (not_rejectsMisfits_python _ _)
  · rintro ⟨hport, hhost, hauthority, hfields⟩
    obtain ⟨authority, hformat, hascii⟩ := formatAuthority_of_portFits host hport
    have hbuild := buildHttpConnectRequest_eq hformat extraHeaders
    rw [if_pos ((isAscii_requestLines (hascii hhost) extraHeaders).mpr fun field hfield =>
      (hfields field hfield).1)] at hbuild
    constructor
    · rw [hbuild, ofPython_ok, rejectsMisfits_ok]
      exact ⟨hport, hhost⟩
    · intro data authority' hdata hauthority'
      obtain rfl := Except.ok.inj (hformat.symm.trans hauthority')
      obtain rfl := Except.ok.inj (hbuild.symm.trans hdata)
      have hwell := (wellFormed_connectHead_iff authority extraHeaders).mpr
        ⟨hauthority authority hformat, fun field hfield => (hfields field hfield).2⟩
      have hparse := Http1.parse_render hwell []
      rwa [List.append_nil] at hparse

/-! ## All five -/

/-- The values an operator sets.
Source: `src/proxy/tunnel.py`
Kind: D -/
structure EncoderInputs where
  host : PyStr
  port : Int
  extraHeaders : Dict PyStr PyStr := []
  methods : List Int
  command : Int
  username : PyStr
  password : PyStr

section

variable (idna : PyStr → Except PyExc Bytes) (i : EncoderInputs)

/-- Each encoder is as it should be on these values.
Source: none: specification
Kind: D -/
structure EncodersReject : Prop where
  connect : ConnectRequestRead i.host i.port i.extraHeaders
  greeting : RejectsMisfits (FitsLengthByte i.methods ∧ ∀ m ∈ i.methods, ByteFits m)
    (buildSocks5Greeting i.methods)
  request : RejectsMisfits (ByteFits i.command ∧ HostFits idna i.host ∧ PortFits i.port)
    (buildSocks5Request idna i.host i.port i.command)
  address : RejectsMisfits (HostFits idna i.host ∧ PortFits i.port)
    (encodeSocks5Address idna i.host i.port)
  userpass : RejectsMisfits (CredentialFits (some i.username) ∧ CredentialFits (some i.password))
    (buildSocks5UserpassAuth i.username i.password)

/-- The values can be carried.
Source: none: specification
Kind: D -/
structure EncoderInputs.Carried : Prop where
  connect : ConnectRequestCarried i.host i.port i.extraHeaders
  greeting : FitsLengthByte i.methods → ∀ m ∈ i.methods, ByteFits m
  command : ByteFits i.command
  address : AddressCarried idna i.host i.port
  userpass : (∃ user, encode i.username = .ok user) ∧ ∃ secret, encode i.password = .ok secret

/-- **For which values the encoders are as they should be.**
Source: `src/proxy/tunnel.py`
Kind: P -/
theorem encoders_reject_iff : EncodersReject idna i ↔ i.Carried idna := by
  constructor
  · rintro ⟨hconnect, hgreeting, hrequest, haddress, huserpass⟩
    exact ⟨(connectRequest_read_iff _ _ _).mp hconnect, (greeting_rejects_iff _).mp hgreeting,
      ((request_rejects_iff idna _ _ _).mp hrequest).1, (address_rejects_iff idna _ _).mp haddress,
      (userpass_rejects_iff _ _).mp huserpass⟩
  · rintro ⟨hconnect, hgreeting, hcommand, haddress, huserpass⟩
    exact ⟨(connectRequest_read_iff _ _ _).mpr hconnect, (greeting_rejects_iff _).mpr hgreeting,
      (request_rejects_iff idna _ _ _).mpr ⟨hcommand, haddress⟩,
      (address_rejects_iff idna _ _).mpr haddress, (userpass_rejects_iff _ _).mpr huserpass⟩

end

/-- A port above 65535 escapes as the `OverflowError` of a conversion.
Source: `src/proxy/tunnel.py` `encode_socks5_address`
Kind: L -/
theorem port_overflow_escapes :
    encodeSocks5Address (fun _ => .error .valueError) (text "example.org") 65536 =
        .error (.python .overflowError) ∧
      ¬ EncodersReject (fun _ => .error .valueError)
        { host := text "example.org", port := 65536, methods := [0], command := 1,
          username := text "user", password := text "pw" } := by
  have hescapes : encodeSocks5Address (fun _ => .error .valueError) (text "example.org") 65536 =
      .error (.python .overflowError) := by decide +kernel
  refine ⟨hescapes, ?_⟩
  intro h
  have haddress := h.address
  simp only [hescapes] at haddress
  exact not_rejectsMisfits_python _ _ haddress

end NetstackSuite.Proxy
