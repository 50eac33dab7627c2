import NetstackSuite.Proxy.Segmentation

/-!
# How connecting fails

Every byte string is a possible answer. `connect_failure_discipline`: whatever the proxy answers before
it closes, `connect` establishes the tunnel or raises one of the two classes the tests tell apart, with
the socket closed; and a `ProxyTunnelError` leaves the client holding what the DUT answered.

The proof follows the handshakes: for each, the words it rejects, with the error (`Fault`).
-/

namespace NetstackSuite.Proxy

open NetstackSuite.Lib NetstackSuite.Python

/-! ## What a failure reports -/

/-- The record says what the stream starts with.
Source: none: specification (RFC 9112, RFC 1928, RFC 1929)
Kind: D -/
inductive Reports (stream : Bytes) : Details → Prop where
  | http {head : Bytes} {response : HttpConnectResponse} (hstarts : head <+: stream)
      (hhead : IsHead head) (hparsed : parseHttpConnectResponse head = .ok response)
      (hrefused : response.tunnelEstablished = false) : Reports stream (.http response)
  | methodSelection {method : UInt8} (hstarts : [0x05, method] <+: stream) :
      Reports stream (.authFailure ⟨method, .methodSelection⟩)
  | userpass {version status : UInt8} (hstarts : [0x05, 0x02, version, status] <+: stream)
      (hstatus : status ≠ 0x00) : Reports stream (.authFailure ⟨0x02, .userpass⟩)
  | socks5 (answers : Answers) (hstarts : answers.bytes <+: stream)
      (hcode : answers.reply.code ≠ 0x00) : Reports stream (.socks5 answers.result)

lemma Reports.mono {stream stream' : Bytes} {details : Details} (h : Reports stream details)
    (hstarts : stream <+: stream') : Reports stream' details := by
  rcases h with ⟨hfront, hhead, hparsed, hrefused⟩ | hfront | ⟨hfront, hstatus⟩ | ⟨answers, hfront, hcode⟩
  · exact .http (hfront.trans hstarts) hhead hparsed hrefused
  · exact .methodSelection (hfront.trans hstarts)
  · exact .userpass (hfront.trans hstarts) hstatus
  · exact .socks5 answers (hfront.trans hstarts) hcode

/-- The failures that a handshake may end with over a stream: the peer's bytes violate the protocol,
or the DUT refuses, and the error carries what it said.
Source: none: specification
Kind: D -/
def Fault (stream : Bytes) (e : ProxyExc) : Prop :=
  e.isProtocolViolation = true ∨
    ∃ message details, e = .proxyTunnelError message (some details) ∧ Reports stream details

lemma Fault.mono {stream stream' : Bytes} {e : ProxyExc} (h : Fault stream e)
    (hstarts : stream <+: stream') : Fault stream' e := by
  rcases h with hviolation | ⟨message, details, rfl, hreports⟩
  · exact Or.inl hviolation
  · exact Or.inr ⟨message, details, rfl, hreports.mono hstarts⟩

/-! ## HTTP CONNECT -/

/-- **The HTTP handshake rejects with a fault**, once its request can be built.
Source: `src/proxy/handshakes.py` `HttpConnectHandshake.establish`
Kind: P -/
theorem fault_establishHttpConnect {host : PyStr} {port : Int} {word : Bytes} {e : ProxyExc}
    (hrequest : ∃ request, buildHttpConnectRequest host port = .ok request)
    (h : (establishHttpConnect host port).Rejects word e) : Fault word e := by
  obtain ⟨request, hrequest⟩ := hrequest
  have hauthority : ∃ authority, formatAuthority host port = .ok authority := by
    unfold buildHttpConnectRequest at hrequest
    obtain ⟨authority, hauthority, -⟩ := bind_eq_ok.mp hrequest
    exact ⟨authority, hauthority⟩
  obtain ⟨authority, hauthority⟩ := hauthority
  unfold establishHttpConnect at h
  simp only [hrequest, ofPython_ok, Dialogue.bind_eq, Dialogue.lift_ok, Dialogue.done_bind,
    Dialogue.tell_bind, Dialogue.rejects_send] at h
  rcases Dialogue.rejects_bind.mp h with hhead | ⟨head, word', rest, rfl, haccepts, hrest⟩
  · obtain ⟨message, rfl⟩ := rejects_readHttpResponseHeadFrom hhead
    exact Or.inl rfl
  · obtain ⟨rfl, hhead, -⟩ := accepts_readHttpResponseHead.mp haccepts
    rcases Dialogue.rejects_lift_bind.mp hrest with ⟨-, hparse⟩ | ⟨response, hparse, hrest⟩
    · obtain ⟨message, rfl⟩ := parseHttpConnectResponse_error hparse
      exact Or.inl rfl
    · by_cases hestablished : response.tunnelEstablished = true
      · rw [if_neg (not_not.mpr hestablished)] at hrest
        exact hrest.elim
      · obtain ⟨digits, hdigits⟩ := intRepr_status hparse
        have hmessage : ∃ message, connectRefusal host port response = .ok message := by
          unfold connectRefusal
          rw [hauthority, hdigits]
          exact ⟨_, rfl⟩
        obtain ⟨message, hmessage⟩ := hmessage
        rw [if_pos hestablished, hmessage] at hrest
        obtain ⟨rfl, rfl⟩ := hrest
        refine Or.inr ⟨message, .http response, rfl, ?_⟩
        exact .http (List.prefix_append _ _) hhead hparse (Bool.not_eq_true _ ▸ hestablished)

/-! ## SOCKS5 -/

/-- A bound address of an unknown type.
Source: `src/proxy/tunnel.py` `read_socks5_reply`
Kind: L -/
lemma rejects_readBoundHost {atyp : UInt8} {word : Bytes} {e : ProxyExc}
    (h : (readBoundHost atyp).Rejects word e) : e.isProtocolViolation = true := by
  unfold readBoundHost at h
  split at h
  · simp only [Dialogue.bind_eq, Dialogue.ask_bind, Dialogue.rejects_read] at h
    obtain ⟨octets, rest, hlength, -, hrejects⟩ := h
    rw [ipv4OfPacked, if_pos hlength] at hrejects
    exact hrejects.elim
  · split at h
    · simp only [Dialogue.bind_eq, Dialogue.ask_bind, Dialogue.rejects_read] at h
      obtain ⟨octets, rest, hlength, -, hrejects⟩ := h
      rw [ipv6OfPacked, if_pos hlength] at hrejects
      exact hrejects.elim
    · split at h
      · simp only [Dialogue.bind_eq, Dialogue.ask_bind, Dialogue.rejects_read] at h
        obtain ⟨rawLength, rest, hone, -, hrejects⟩ := h
        obtain ⟨length, rfl⟩ := List.length_eq_one_iff.mp hone
        obtain ⟨name, rest', -, -, hrejects⟩ := hrejects
        exact hrejects.elim
      · obtain ⟨-, rfl⟩ := h
        rfl

/-- A reply that is no reply.
Source: `src/proxy/tunnel.py` `read_socks5_reply`
Kind: L -/
lemma rejects_readSocks5Reply {word : Bytes} {e : ProxyExc} (h : readSocks5Reply.Rejects word e) :
    e.isProtocolViolation = true := by
  unfold readSocks5Reply at h
  simp only [Dialogue.bind_eq, Dialogue.ask_bind, Dialogue.rejects_read] at h
  obtain ⟨header, rest, -, rfl, hrejects⟩ := h
  split at hrejects
  next version code reserved atyp =>
    split at hrejects
    · obtain ⟨-, rfl⟩ := hrejects
      rfl
    · rcases Dialogue.rejects_bind.mp hrejects with hhost | ⟨host, front, rest', rfl, -, hport⟩
      · exact rejects_readBoundHost hhost
      · obtain ⟨port, rest'', -, -, hrejects⟩ := hport
        exact hrejects.elim
  · obtain ⟨-, rfl⟩ := hrejects
    rfl

/-- The credential is absent, or it fits its length byte.
Source: `src/proxy/tunnel.py` `build_socks5_userpass_auth`
Kind: D -/
def CredentialFits (credential : Option PyStr) : Prop :=
  ∀ s ∈ credential, ∃ data, encode s = .ok data ∧ FitsLengthByte data

/-- Credentials that fit make a message.
Source: `src/proxy/tunnel.py` `build_socks5_userpass_auth`
Kind: L -/
lemma buildSocks5UserpassAuth_of_fits {username password : PyStr}
    (husername : CredentialFits (some username)) (hpassword : CredentialFits (some password)) :
    ∃ auth, buildSocks5UserpassAuth username password = .ok auth := by
  obtain ⟨user, huser, huserFits⟩ := husername username rfl
  obtain ⟨secret, hsecret, hsecretFits⟩ := hpassword password rfl
  exact ⟨_, buildSocks5UserpassAuth_eq huser huserFits hsecret hsecretFits⟩

/-- Authentication that fails.
Source: `src/proxy/handshakes.py` `Socks5Handshake._negotiate`
Kind: L -/
lemma fault_authenticate {username password : Option PyStr} (husername : CredentialFits username)
    (hpassword : CredentialFits password) {word : Bytes} {e : ProxyExc}
    (h : (authenticate username password).Rejects word e) : Fault ([0x05, 0x02] ++ word) e := by
  unfold authenticate at h
  split at h
  next user secret =>
    obtain ⟨auth, hauth⟩ := buildSocks5UserpassAuth_of_fits husername hpassword
    simp only [hauth, Dialogue.bind_eq, Dialogue.lift_ok, Dialogue.done_bind, Dialogue.tell_bind,
      Dialogue.ask_bind, Dialogue.rejects_send, Dialogue.rejects_read] at h
    obtain ⟨raw, rest, htwo, rfl, hrejects⟩ := h
    obtain ⟨version, status, rfl⟩ := List.length_eq_two.mp htwo
    by_cases hstatus : status = 0x00
    · simp [parseSocks5UserpassResult, hstatus] at hrejects
    · simp only [parseSocks5UserpassResult, hstatus, decide_false, Dialogue.lift_ok,
        Dialogue.done_bind, Bool.false_eq_true, not_false_eq_true, if_true,
        Dialogue.rejects_fail] at hrejects
      obtain ⟨rfl, rfl⟩ := hrejects
      exact Or.inr ⟨_, _, rfl, .userpass (List.prefix_refl _) hstatus⟩
  · obtain ⟨rfl, rfl⟩ := h
    exact Or.inr ⟨_, _, rfl, .methodSelection (List.prefix_refl _)⟩

/-- **Negotiation rejects with a fault**, once the credentials fit their message.
Source: `src/proxy/handshakes.py` `Socks5Handshake._negotiate`
Kind: P -/
theorem fault_negotiate {username password : Option PyStr} (husername : CredentialFits username)
    (hpassword : CredentialFits password) {word : Bytes} {e : ProxyExc}
    (h : (negotiate username password).Rejects word e) : Fault word e := by
  unfold negotiate at h
  rw [buildSocks5Greeting_offered] at h
  simp only [Dialogue.bind_eq, Dialogue.lift_ok, Dialogue.done_bind, Dialogue.tell_bind,
    Dialogue.ask_bind, Dialogue.rejects_send, Dialogue.rejects_read] at h
  obtain ⟨raw, rest, htwo, rfl, hrejects⟩ := h
  obtain ⟨version, method, rfl⟩ := List.length_eq_two.mp htwo
  by_cases hversion : version = SOCKS5_VERSION
  · subst hversion
    -- what is not authentication fails as soon as the method is known
    have hselection : ∀ message rest', Fault ([SOCKS5_VERSION, method] ++ rest')
        (.proxyTunnelError message (some (.authFailure ⟨method, .methodSelection⟩))) :=
      fun message rest' => Or.inr ⟨_, _, rfl, .methodSelection (List.prefix_append _ _)⟩
    simp only [parseSocks5MethodSelection, ne_eq, not_true_eq_false, if_false, Dialogue.lift_ok,
      Dialogue.done_bind] at hrejects
    by_cases hrefused : method = AUTH_NO_ACCEPTABLE
    · rw [if_pos hrefused] at hrejects
      obtain ⟨rfl, rfl⟩ := hrejects
      exact hselection _ _
    · rw [if_neg hrefused] at hrejects
      by_cases hauth : method = AUTH_USERNAME_PASSWORD
      · rw [if_pos hauth] at hrejects
        subst hauth
        rcases Dialogue.rejects_bind.mp hrejects with hfirst | ⟨_, _, _, -, -, hdone⟩
        · exact fault_authenticate husername hpassword hfirst
        · exact hdone.elim
      · rw [if_neg hauth] at hrejects
        by_cases hnone : method = AUTH_NONE
        · rw [if_neg (not_not.mpr hnone)] at hrejects
          exact hrejects.elim
        · rw [if_pos hnone] at hrejects
          obtain ⟨rfl, rfl⟩ := hrejects
          exact hselection _ _
  · simp only [parseSocks5MethodSelection, ne_eq, hversion, not_false_eq_true, if_true,
      Dialogue.lift_error, Dialogue.fail_bind, Dialogue.rejects_fail] at hrejects
    obtain ⟨-, rfl⟩ := hrejects
    exact Or.inl rfl

variable (idna : PyStr → Except PyExc Bytes)

/-- A request that can be built has a port that can be printed.
Source: `src/proxy/tunnel.py` `build_socks5_request`
Kind: L -/
lemma intRepr_port {host : PyStr} {port : Int} (h : EncodableOrigin idna host port) :
    ∃ digits, intRepr port = .ok digits := by
  obtain ⟨request, hrequest⟩ := h
  unfold buildSocks5Request encodeSocks5Address at hrequest
  obtain ⟨_, -, hrequest⟩ := bind_eq_ok.mp hrequest
  obtain ⟨_, haddress, -⟩ := bind_eq_ok.mp hrequest
  obtain ⟨_, -, haddress⟩ := bind_eq_ok.mp haddress
  obtain ⟨_, hport, -⟩ := bind_eq_ok.mp haddress
  rw [ofPython_eq_ok] at hport
  unfold toBytes at hport
  split at hport
  · cases hport
  next hrange =>
    apply intRepr_of_lt
    omega

/-- **The SOCKS5 handshake rejects with a fault**, once its messages can be built.
Source: `src/proxy/handshakes.py` `Socks5Handshake.establish`
Kind: P -/
theorem fault_establishSocks5 {username password : Option PyStr} {host : PyStr} {port : Int}
    (husername : CredentialFits username) (hpassword : CredentialFits password)
    (horigin : EncodableOrigin idna host port) {word : Bytes} {e : ProxyExc}
    (h : (establishSocks5 idna username password host port).Rejects word e) : Fault word e := by
  unfold establishSocks5 at h
  rcases Dialogue.rejects_bind.mp h with hfirst | ⟨method, front, rest, rfl, haccepts, hrequest⟩
  · exact fault_negotiate husername hpassword hfirst
  · obtain ⟨digits, hdigits⟩ := intRepr_port idna horigin
    obtain ⟨request, hbuilt⟩ := horigin
    unfold requestConnect at hrequest
    simp only [hbuilt, Dialogue.bind_eq, Dialogue.lift_ok, Dialogue.done_bind, Dialogue.tell_bind,
      Dialogue.rejects_send] at hrequest
    rcases Dialogue.rejects_bind.mp hrequest with hreply | ⟨reply, word, rest', rfl, hreply, hrest⟩
    · exact Or.inl (rejects_readSocks5Reply hreply)
    · obtain ⟨wire, rfl, rfl⟩ := accepts_readSocks5Reply.mp hreply
      by_cases hcode : wire.code = 0x00
      · have hsucceeded : wire.reply.succeeded = true := decide_eq_true hcode
        rw [if_neg (not_not.mpr hsucceeded)] at hrest
        exact hrest.elim
      · have hfailed : ¬ wire.reply.succeeded = true := fun h => hcode (of_decide_eq_true h)
        rw [if_pos hfailed] at hrest
        simp only [socks5Refusal, hdigits, ofPython, bind, Except.bind, pure, Except.pure,
          Except.mapError, Dialogue.lift_ok, Dialogue.done_bind,
          Dialogue.rejects_fail] at hrest
        obtain ⟨rfl, rfl⟩ := hrest
        obtain ⟨answers, hword, rfl, rfl, -⟩ := answers_of_negotiation haccepts wire
        rw [List.append_nil, hword]
        exact Or.inr ⟨_, _, rfl, .socks5 answers (List.prefix_refl _) hcode⟩

/-! ## Connecting -/

/-- The handshake of the run's mode can put the origin into its request.
Source: `src/proxy/tunnel.py` `build_http_connect_request`, `build_socks5_request`
Kind: D -/
def BuildableOrigin (config : ProxyConfig) : Prop :=
  match config.mode with
  | .transparent => True
  | .httpConnect => ∃ request, buildHttpConnectRequest config.backendHost config.backendPort = .ok request
  | .socks5 => EncodableOrigin idna config.backendHost config.backendPort

/-- What a client holds when a tunnel of the mode is established.
Source: none: specification (RFC 9110, RFC 1928)
Kind: D -/
def Established (config : ProxyConfig) (details : Option Details) : Prop :=
  match config.mode with
  | .transparent => details = none
  | .httpConnect => ∃ response, details = some (.http response) ∧ response.tunnelEstablished = true
  | .socks5 => ∃ result, details = some (.socks5 result) ∧ result.reply.succeeded = true ∧
      result.method ∈ offeredMethods config.username

/-- A handshake that succeeds establishes the tunnel.
Source: `src/proxy/handshakes.py` `TunnelHandshake.establish`
Kind: P -/
theorem established_of_accepts {config : ProxyConfig} {word : Bytes} {details : Option Details}
    (h : ((forConfig config).establish idna config.origin).Accepts word details) :
    Established config details := by
  unfold forConfig at h
  unfold Established
  rcases hmode : config.mode with _ | _ | _
  · rw [hmode] at h
    exact h.2.symm
  · rw [hmode] at h
    obtain ⟨response, word', _, rfl, haccepts, rfl, rfl⟩ := Dialogue.accepts_bind.mp h
    exact ⟨response, rfl, (accepts_establishHttpConnect.mp haccepts).2.2.2.2⟩
  · rw [hmode] at h
    obtain ⟨result, word', _, rfl, haccepts, rfl, rfl⟩ := Dialogue.accepts_bind.mp h
    obtain ⟨-, answers, hgrants, -, -, rfl⟩ := (accepts_establishSocks5 idna _ _).mp haccepts
    exact ⟨answers.result, rfl, decide_eq_true hgrants.code, hgrants.offered⟩

/-- A handshake that fails ends with a fault.
Source: `src/proxy/handshakes.py` `TunnelHandshake.establish`
Kind: P -/
theorem fault_of_rejects {config : ProxyConfig} (horigin : BuildableOrigin idna config)
    (husername : CredentialFits config.username) (hpassword : CredentialFits config.password)
    {word : Bytes} {e : ProxyExc}
    (h : ((forConfig config).establish idna config.origin).Rejects word e) : Fault word e := by
  unfold forConfig at h
  unfold BuildableOrigin at horigin
  rcases hmode : config.mode with _ | _ | _
  · rw [hmode] at h
    exact h.elim
  · rw [hmode] at h horigin
    rcases Dialogue.rejects_bind.mp h with hrejects | ⟨_, _, _, -, -, hdone⟩
    · exact fault_establishHttpConnect horigin hrejects
    · exact hdone.elim
  · rw [hmode] at h horigin
    rcases Dialogue.rejects_bind.mp h with hrejects | ⟨_, _, _, -, -, hdone⟩
    · exact fault_establishSocks5 idna husername hpassword horigin hrejects
    · exact hdone.elim

/-- **Failure discipline of `connect`**: over any stream that ends, it establishes the tunnel, or it
raises `ProtocolViolation`, `PeerClosedEarly` or `ProxyTunnelError`, has closed the socket it opened and
holds none; and with a `ProxyTunnelError` it holds the record of what the DUT answered.
Source: `src/proxy/client.py` `ProxyClient.connect`
Kind: P -/
theorem connect_failure_discipline (client : ProxyClient) (incoming : Incoming UInt8 ProxyExc)
    (hends : incoming.ending = .eof) (horigin : BuildableOrigin idna client.config)
    (husername : CredentialFits client.config.username)
    (hpassword : CredentialFits client.config.password) :
    ((client.connect idna (answering incoming)).outcome = .ok () ∧
      Established client.config (client.connect idna (answering incoming)).client.details ∧
      ∃ sock, (client.connect idna (answering incoming)).client.sock = some sock ∧ sock.closed = false) ∨
    ∃ e, (client.connect idna (answering incoming)).outcome = .error e ∧
      (e.isProtocolViolation = true ∨ ∃ message details, e = .proxyTunnelError message details) ∧
      (client.connect idna (answering incoming)).client.sock = none ∧
      (∃ sock, (client.connect idna (answering incoming)).opened = some sock ∧ sock.closed = true) ∧
      ∀ message details, e = .proxyTunnelError message details →
        ∃ answer, (client.connect idna (answering incoming)).client.details = some answer ∧
          Reports incoming.stream.bytes answer := by
  obtain ⟨-, ⟨details, sock, hrun, houtcome, hclient, -, hopen, -⟩ |
    ⟨e, sock, hrun, houtcome, hclient, hopened, hclosed⟩⟩ := connect_spec idna client incoming
  · refine Or.inl ⟨houtcome, ?_, sock, by rw [hclient], hopen⟩
    obtain ⟨word, -, -, haccepts⟩ := Dialogue.accepts_of_run shortRead hrun
    rw [hclient]
    exact established_of_accepts idna haccepts
  · have hfault : Fault incoming.stream.bytes e := by
      rcases Dialogue.rejects_of_run shortRead hends hrun with
        ⟨word, rest, hbytes, hrejects⟩ | ⟨received, count, rfl⟩
      · rw [hbytes]
        exact (fault_of_rejects idna horigin husername hpassword hrejects).mono
          (List.prefix_append word rest)
      · exact Or.inl rfl
    refine Or.inr ⟨e, houtcome, ?_, by rw [hclient], ⟨sock, hopened, hclosed⟩, ?_⟩
    · rcases hfault with hviolation | ⟨message, details, rfl, -⟩
      · exact Or.inl hviolation
      · exact Or.inr ⟨message, some details, rfl⟩
    · rintro message details rfl
      rcases hfault with hviolation | ⟨_, answer, ⟨⟩, hreports⟩
      · cases hviolation
      · exact ⟨answer, by rw [hclient]; rfl, hreports⟩

/-- A proxy that grants the request, and one that refuses every method: the tunnel is established, and no socket is
left.
Source: none: test
Kind: P -/
theorem connect_failure_outcomes :
    (∃ sock, (sampleClient.connect noIdna (answering granting)).client.sock = some sock ∧ sock.closed = false) ∧
      (sampleClient.connect noIdna (answering refusal)).client.sock = none := by
  have husername : CredentialFits sampleClient.config.username := by
    rintro _ ⟨⟩
    exact ⟨[0x75, 0x73, 0x65, 0x72], by decide +kernel, by decide⟩
  have horigin : BuildableOrigin noIdna sampleClient.config :=
    ⟨[5, 1, 0, 1, 10, 0, 0, 9, 0x23, 0x8B], by decide +kernel⟩
  constructor
  · have hgranted : (sampleClient.connect noIdna (answering granting)).outcome = .ok () := by decide +kernel
    rcases connect_failure_discipline noIdna sampleClient granting rfl horigin husername nofun with
      ⟨-, -, hsock⟩ | ⟨e, hraised, -⟩
    · exact hsock
    · rw [hgranted] at hraised
      cases hraised
  · have hrefused : (sampleClient.connect noIdna (answering refusal)).outcome ≠ .ok () := by decide +kernel
    rcases connect_failure_discipline noIdna sampleClient refusal rfl horigin husername nofun with
      ⟨hok, -⟩ | ⟨e, -, -, hsock, -⟩
    · exact absurd hok hrefused
    · exact hsock

end NetstackSuite.Proxy
