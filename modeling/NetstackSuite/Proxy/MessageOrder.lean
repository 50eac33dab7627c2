import NetstackSuite.Proxy.Socks5Acceptance

/-!
# The order of the SOCKS5 client's messages

Whatever the peer answers and wherever the exchange stops, the client sends its greeting, then at most
one username/password message, then at most one request, and each only when the answers so far call for
it (`MaySend`). `socks5_path` lists the ways an exchange can go, and `socks5_completes` what passes in one that
succeeds; `socks5_message_order` reads the law off them.
-/

namespace NetstackSuite.Proxy

open NetstackSuite.Lib NetstackSuite.Python

variable (idna : PyStr → Except PyExc Bytes) (username password : Option PyStr) (host : PyStr)
  (port : Int)

/-- The greeting.
Source: `src/proxy/tunnel.py` `build_socks5_greeting`
Kind: D -/
def greetingBytes : Bytes :=
  [SOCKS5_VERSION, UInt8.ofNat (offeredMethods username).length] ++ offeredMethods username

/-- The username/password message of both credentials.
Source: `src/proxy/tunnel.py` `build_socks5_userpass_auth`
Kind: D -/
def IsUserpass (message : Bytes) : Prop :=
  ∃ user secret, username = some user ∧ password = some secret ∧
    buildSocks5UserpassAuth user secret = .ok message

/-- The CONNECT request for the origin.
Source: `src/proxy/tunnel.py` `build_socks5_request`
Kind: D -/
def IsRequest (message : Bytes) : Prop := buildSocks5Request idna host port = .ok message

/-- What may be sent after which events: the greeting first; credentials when the peer has selected
them and they were offered; the request when the peer has selected an offered method and, if that
authenticates, has answered with status zero.
Source: none: specification (RFC 1928, RFC 1929)
Kind: D -/
inductive MaySend : List (Event UInt8) → Bytes → Prop where
  | greeting : MaySend [] (greetingBytes username)
  | userpass {auth : Bytes} (hoffered : 0x02 ∈ offeredMethods username)
      (hauth : IsUserpass username password auth) :
      MaySend [.sent (greetingBytes username), .received [0x05, 0x02]] auth
  | request {message : Bytes} (hoffered : 0x00 ∈ offeredMethods username)
      (hrequest : IsRequest idna host port message) :
      MaySend [.sent (greetingBytes username), .received [0x05, 0x00]] message
  | authenticatedRequest {auth message : Bytes} {version : UInt8}
      (hoffered : 0x02 ∈ offeredMethods username) (hauth : IsUserpass username password auth)
      (hrequest : IsRequest idna host port message) :
      MaySend [.sent (greetingBytes username), .received [0x05, 0x02], .sent auth,
        .received [version, 0x00]] message

/-! ## The ways an exchange can go -/

/-- What follows a settled method: nothing yet, or the request and what is read after it.
Source: `src/proxy/handshakes.py` `Socks5Handshake.establish`
Kind: D -/
def RequestPath (events : List (Event UInt8)) : Prop :=
  events = [] ∨ ∃ message received, IsRequest idna host port message ∧
    events = .sent message :: received ∧ ∀ event ∈ received, ∃ data, event = .received data

/-- What follows the selection of username and password.
Source: `src/proxy/handshakes.py` `Socks5Handshake._negotiate`
Kind: D -/
def AuthenticationPath (events : List (Event UInt8)) : Prop :=
  events = [] ∨ ∃ auth rest, IsUserpass username password auth ∧ events = .sent auth :: rest ∧
    (rest = [] ∨ ∃ version status rest', rest = .received [version, status] :: rest' ∧
      (rest' = [] ∨ status = 0x00 ∧ RequestPath idna host port rest'))

lemma silent_readBoundHost (atyp : UInt8) : (readBoundHost atyp).Silent := by
  unfold readBoundHost
  split
  · exact (Dialogue.silent_ask 4).bind fun _ => (Dialogue.silent_lift _).bind fun _ => trivial
  · split
    · exact (Dialogue.silent_ask 16).bind fun _ => (Dialogue.silent_lift _).bind fun _ => trivial
    · split
      · apply (Dialogue.silent_ask 1).bind
        intro rawLength
        rcases rawLength with _ | ⟨length, _⟩
        · trivial
        · exact (Dialogue.silent_ask length.toNat).bind fun _ => trivial
      · trivial

lemma silent_readSocks5Reply : readSocks5Reply.Silent := by
  unfold readSocks5Reply
  apply (Dialogue.silent_ask 4).bind
  intro header
  split
  · split
    · trivial
    · exact (silent_readBoundHost _).bind fun _ => (Dialogue.silent_ask 2).bind fun _ => trivial
  · trivial

/-- Once the method is settled, the request is the only message.
Source: `src/proxy/handshakes.py` `Socks5Handshake.establish`
Kind: L -/
lemma requestPath_of_path {method : UInt8} {events : List (Event UInt8)}
    (h : (requestConnect idna host port method).Path events) : RequestPath idna host port events := by
  unfold requestConnect at h
  rcases hrequest : buildSocks5Request idna host port with e | message
  · rw [hrequest] at h
    exact Or.inl (Dialogue.path_fail.mp h)
  · simp only [hrequest, Dialogue.bind_eq, Dialogue.lift_ok, Dialogue.done_bind, Dialogue.tell_bind] at h
    rcases Dialogue.path_send.mp h with rfl | ⟨received, rfl, hreceived⟩
    · exact Or.inl rfl
    · refine Or.inr ⟨message, received, hrequest, rfl, Dialogue.Silent.path ?_ hreceived⟩
      apply silent_readSocks5Reply.bind
      intro reply
      split
      · exact (Dialogue.silent_lift _).bind fun _ => trivial
      · trivial

/-- After the selection of username and password.
Source: `src/proxy/handshakes.py` `Socks5Handshake._negotiate`
Kind: L -/
lemma authenticationPath_of_path {method : UInt8} {events : List (Event UInt8)}
    (h : ((authenticate username password).bind fun _ => requestConnect idna host port method).Path events) :
    AuthenticationPath idna username password host port events := by
  unfold authenticate at h
  split at h
  next user secret =>
    rcases hauth : buildSocks5UserpassAuth user secret with e | auth
    · rw [hauth] at h
      exact Or.inl (Dialogue.path_fail.mp h)
    · simp only [hauth, Dialogue.bind_eq, Dialogue.lift_ok, Dialogue.done_bind, Dialogue.tell_bind,
        Dialogue.ask_bind, Dialogue.send_bind, Dialogue.read_bind] at h
      rcases Dialogue.path_send.mp h with rfl | ⟨rest, rfl, hrest⟩
      · exact Or.inl rfl
      · refine Or.inr ⟨auth, rest, ⟨user, secret, rfl, rfl, hauth⟩, rfl, ?_⟩
        rcases Dialogue.path_read.mp hrest with rfl | ⟨raw, rest', rfl, htwo, hrest'⟩
        · exact Or.inl rfl
        · obtain ⟨version, status, rfl⟩ := List.length_eq_two.mp htwo
          refine Or.inr ⟨version, status, rest', rfl, ?_⟩
          by_cases hstatus : status = 0x00
          · simp only [parseSocks5UserpassResult, hstatus, decide_true, Dialogue.lift_ok,
              Dialogue.done_bind, not_true_eq_false, if_false, Dialogue.pure_eq] at hrest'
            exact Or.inr ⟨hstatus, requestPath_of_path idna host port hrest'⟩
          · simp only [parseSocks5UserpassResult, hstatus, decide_false, Dialogue.lift_ok,
              Dialogue.done_bind, Bool.false_eq_true, not_false_eq_true, if_true, Dialogue.fail_bind,
              Dialogue.path_fail] at hrest'
            exact Or.inl hrest'
  · exact Or.inl (Dialogue.path_fail.mp h)

/-- **The ways an exchange can go.**
Source: `src/proxy/handshakes.py` `Socks5Handshake.establish`
Kind: P -/
theorem socks5_path {events : List (Event UInt8)}
    (h : (establishSocks5 idna username password host port).Path events) :
    events = [] ∨ ∃ rest, events = .sent (greetingBytes username) :: rest ∧
      (rest = [] ∨ (∃ data, rest = [.received data]) ∨
        (∃ rest', rest = .received [0x05, 0x00] :: rest' ∧ RequestPath idna host port rest') ∨
        ∃ rest', rest = .received [0x05, 0x02] :: rest' ∧
          AuthenticationPath idna username password host port rest') := by
  unfold establishSocks5 negotiate at h
  rw [buildSocks5Greeting_offered] at h
  simp only [Dialogue.bind_eq, Dialogue.lift_ok, Dialogue.done_bind, Dialogue.tell_bind,
    Dialogue.ask_bind, Dialogue.send_bind, Dialogue.read_bind] at h
  rcases Dialogue.path_send.mp h with rfl | ⟨rest, rfl, hrest⟩
  · exact Or.inl rfl
  · refine Or.inr ⟨rest, rfl, ?_⟩
    rcases Dialogue.path_read.mp hrest with rfl | ⟨raw, rest', rfl, -, hrest'⟩
    · exact Or.inl rfl
    · -- nothing follows a selection that ends the exchange
      have hends : ∀ e : ProxyExc, (Dialogue.fail e : Exchange Socks5Result).Path rest' →
          ∃ data, Event.received raw :: rest' = [.received data] := by
        intro e hfail
        rw [Dialogue.path_fail.mp hfail]
        exact ⟨raw, rfl⟩
      rcases hselection : parseSocks5MethodSelection raw with e | method
      · rw [hselection] at hrest'
        exact Or.inr (Or.inl (hends e hrest'))
      · obtain rfl := parseSocks5MethodSelection_eq_ok.mp hselection
        simp only [hselection, Dialogue.lift_ok, Dialogue.done_bind] at hrest'
        by_cases hrefused : method = AUTH_NO_ACCEPTABLE
        · rw [if_pos hrefused] at hrest'
          exact Or.inr (Or.inl (hends _ hrest'))
        · rw [if_neg hrefused] at hrest'
          by_cases hauth : method = AUTH_USERNAME_PASSWORD
          · rw [if_pos hauth, Dialogue.bind_assoc] at hrest'
            subst hauth
            exact Or.inr (Or.inr (Or.inr ⟨rest', rfl,
              authenticationPath_of_path idna username password host port hrest'⟩))
          · rw [if_neg hauth] at hrest'
            by_cases hnone : method = AUTH_NONE
            · rw [if_neg (not_not.mpr hnone)] at hrest'
              subst hnone
              exact Or.inr (Or.inr (Or.inl ⟨rest', rfl, requestPath_of_path idna host port hrest'⟩))
            · rw [if_pos hnone] at hrest'
              exact Or.inr (Or.inl (hends _ hrest'))

/-! ## An exchange that succeeds -/

/-- The request goes out, and then the reply is read.
Source: `src/proxy/handshakes.py` `Socks5Handshake.establish`
Kind: L -/
lemma completes_requestConnect {method : UInt8} {events : List (Event UInt8)} {result : Socks5Result}
    (h : (requestConnect idna host port method).Completes events result) :
    result.method = method ∧ ∃ message received, IsRequest idna host port message ∧
      events = .sent message :: received ∧ ∀ event ∈ received, ∃ data, event = .received data := by
  unfold requestConnect at h
  rcases hrequest : buildSocks5Request idna host port with e | message
  · rw [hrequest] at h
    exact h.elim
  · simp only [hrequest, Dialogue.bind_eq, Dialogue.lift_ok, Dialogue.done_bind, Dialogue.tell_bind] at h
    obtain ⟨received, rfl, hreceived⟩ := h
    obtain ⟨reply, front, rest, rfl, hfront, hrest⟩ := Dialogue.completes_bind hreceived
    by_cases hsucceeded : reply.succeeded = true
    · rw [if_neg (not_not.mpr hsucceeded)] at hrest
      obtain ⟨rfl, rfl⟩ := hrest
      refine ⟨rfl, message, front ++ [], hrequest, rfl, ?_⟩
      rw [List.append_nil]
      exact silent_readSocks5Reply.path hfront.path
    · rw [if_pos hsucceeded] at hrest
      obtain ⟨_, _, _, -, -, hfailed⟩ := Dialogue.completes_bind hrest
      exact hfailed.elim

/-- The credentials go out and are accepted.
Source: `src/proxy/handshakes.py` `Socks5Handshake._negotiate`
Kind: L -/
lemma completes_authenticate {events : List (Event UInt8)} {accepted : Unit}
    (h : (authenticate username password).Completes events accepted) :
    ∃ auth version, IsUserpass username password auth ∧ events = [.sent auth, .received [version, 0x00]] := by
  unfold authenticate at h
  split at h
  next user secret =>
    rcases hauth : buildSocks5UserpassAuth user secret with e | auth
    · rw [hauth] at h
      exact h.elim
    · simp only [hauth, Dialogue.bind_eq, Dialogue.lift_ok, Dialogue.done_bind, Dialogue.tell_bind,
        Dialogue.ask_bind] at h
      obtain ⟨_, rfl, raw, rest, htwo, rfl, hrest⟩ := h
      obtain ⟨version, status, rfl⟩ := List.length_eq_two.mp htwo
      by_cases hstatus : status = 0x00
      · simp only [parseSocks5UserpassResult, hstatus, decide_true, Dialogue.lift_ok, Dialogue.done_bind,
          not_true_eq_false, if_false, Dialogue.pure_eq] at hrest
        rw [hrest.1, hstatus]
        exact ⟨auth, version, ⟨user, secret, rfl, rfl, hauth⟩, rfl⟩
      · simp only [parseSocks5UserpassResult, hstatus, decide_false, Dialogue.lift_ok, Dialogue.done_bind,
          Bool.false_eq_true, not_false_eq_true, if_true] at hrest
        exact hrest.elim
  · exact h.elim

/-- The greeting goes out, the peer selects a method, and what the method asks for follows.
Source: `src/proxy/handshakes.py` `Socks5Handshake._negotiate`
Kind: L -/
lemma completes_negotiate {events : List (Event UInt8)} {method : UInt8}
    (h : (negotiate username password).Completes events method) :
    ∃ rest, events = .sent (greetingBytes username) :: .received [0x05, method] :: rest ∧
      (method = 0x00 ∧ rest = [] ∨ method = 0x02 ∧ ∃ auth version, IsUserpass username password auth ∧
        rest = [.sent auth, .received [version, 0x00]]) := by
  unfold negotiate at h
  rw [buildSocks5Greeting_offered] at h
  simp only [Dialogue.bind_eq, Dialogue.lift_ok, Dialogue.done_bind, Dialogue.tell_bind,
    Dialogue.ask_bind] at h
  obtain ⟨_, rfl, raw, rest, -, rfl, hrest⟩ := h
  dsimp only at hrest
  rcases hselection : parseSocks5MethodSelection raw with e | selected
  · rw [hselection] at hrest
    exact hrest.elim
  · obtain rfl := parseSocks5MethodSelection_eq_ok.mp hselection
    simp only [hselection, Dialogue.lift_ok, Dialogue.done_bind] at hrest
    by_cases hrefused : selected = AUTH_NO_ACCEPTABLE
    · rw [if_pos hrefused] at hrest
      exact hrest.elim
    · rw [if_neg hrefused] at hrest
      by_cases hauth : selected = AUTH_USERNAME_PASSWORD
      · rw [if_pos hauth] at hrest
        obtain ⟨accepted, front, back, rfl, hfront, hback⟩ := Dialogue.completes_bind hrest
        obtain ⟨rfl, rfl⟩ := hback
        rw [List.append_nil]
        exact ⟨front, rfl, Or.inr ⟨hauth, completes_authenticate username password hfront⟩⟩
      · rw [if_neg hauth] at hrest
        by_cases hnone : selected = AUTH_NONE
        · rw [if_neg (not_not.mpr hnone)] at hrest
          obtain ⟨rfl, rfl⟩ := hrest
          exact ⟨[], rfl, Or.inl ⟨hnone, rfl⟩⟩
        · rw [if_pos hnone] at hrest
          exact hrest.elim

/-- **What has gone out when the handshake succeeds**: the greeting, the credentials if the peer has asked for
them, and the request.
Source: `src/proxy/handshakes.py` `Socks5Handshake.establish`
Kind: P -/
theorem socks5_completes {events : List (Event UInt8)} {result : Socks5Result}
    (h : (establishSocks5 idna username password host port).Completes events result) :
    ∃ auth request, (result.method = 0x00 ∧ auth = [] ∨
        result.method = 0x02 ∧ IsUserpass username password auth) ∧ IsRequest idna host port request ∧
      sentBytes events = greetingBytes username ++ (auth ++ request) := by
  unfold establishSocks5 at h
  obtain ⟨method, front, rest, rfl, hfront, hrest⟩ := Dialogue.completes_bind h
  obtain ⟨rfl, request, received, hrequest, rfl, hreceived⟩ := completes_requestConnect idna host port hrest
  have hsilent : sentBytes received = [] := sentBytes_of_received hreceived
  obtain ⟨middle, rfl, ⟨hmethod, rfl⟩ | ⟨hmethod, auth, version, hauth, rfl⟩⟩ :=
    completes_negotiate username password hfront
  · refine ⟨[], request, Or.inl ⟨hmethod, rfl⟩, hrequest, ?_⟩
    show greetingBytes username ++ (request ++ sentBytes received) = _
    rw [hsilent, List.append_nil, List.nil_append]
  · refine ⟨auth, request, Or.inr ⟨hmethod, hauth⟩, hrequest, ?_⟩
    show greetingBytes username ++ (auth ++ (request ++ sentBytes received)) = _
    rw [hsilent, List.append_nil]

/-! ## The law -/

/-- After a settled method there is at most the request.
Source: none: specification (RFC 1928)
Kind: L -/
lemma RequestPath.law {past events : List (Event UInt8)} (h : RequestPath idna host port events)
    (hmay : ∀ message, IsRequest idna host port message →
      MaySend idna username password host port past message) :
    Sends (MaySend idna username password host port) past events ∧
      (sentBytes events = [] ∨ IsRequest idna host port (sentBytes events)) := by
  rcases h with rfl | ⟨message, received, hmessage, rfl, hreceived⟩
  · exact ⟨trivial, Or.inl rfl⟩
  · refine ⟨⟨hmay message hmessage, sends_of_received hreceived _⟩, Or.inr ?_⟩
    have hbytes : sentBytes (Event.sent message :: received) = message := by
      show message ++ sentBytes received = message
      rw [sentBytes_of_received hreceived, List.append_nil]
    rw [hbytes]
    exact hmessage

/-- After the selection of username and password there are at most the credentials and the request.
Source: none: specification (RFC 1928, RFC 1929)
Kind: L -/
lemma AuthenticationPath.law {events : List (Event UInt8)}
    (h : AuthenticationPath idna username password host port events) :
    Sends (MaySend idna username password host port)
        [.sent (greetingBytes username), .received [0x05, 0x02]] events ∧
      ∃ auth request, (auth = [] ∨ IsUserpass username password auth) ∧
        (request = [] ∨ IsRequest idna host port request) ∧ sentBytes events = auth ++ request := by
  rcases h with rfl | ⟨auth, rest, hauth, rfl, hrest⟩
  · exact ⟨trivial, [], [], Or.inl rfl, Or.inl rfl, rfl⟩
  · have hoffered : 0x02 ∈ offeredMethods username := by
      obtain ⟨user, -, rfl, -⟩ := hauth
      exact List.mem_cons_of_mem _ List.mem_cons_self
    have hmay : MaySend idna username password host port
        [.sent (greetingBytes username), .received [0x05, 0x02]] auth := .userpass hoffered hauth
    rcases hrest with rfl | ⟨version, status, rest', rfl, rfl | ⟨rfl, hrequest⟩⟩
    · exact ⟨⟨hmay, trivial⟩, auth, [], Or.inr hauth, Or.inl rfl, rfl⟩
    · exact ⟨⟨hmay, trivial⟩, auth, [], Or.inr hauth, Or.inl rfl, rfl⟩
    · obtain ⟨hsends, hsent⟩ := hrequest.law idna username password host port
        fun message hmessage => MaySend.authenticatedRequest hoffered hauth hmessage
      exact ⟨⟨hmay, hsends⟩, auth, sentBytes rest', Or.inr hauth, hsent, rfl⟩

/-- **The order of the messages**, over every stream and wherever the exchange ends (`events` are what
has passed by then, `sent` what of the messages is out): the bytes are a prefix of greeting, at most one
username/password message, at most one request; each message is sent only when it may be; and on success
the selected method, the second byte of the stream, is one of those offered, and all that it calls for has
gone out.
Source: `src/proxy/handshakes.py` `Socks5Handshake.establish`
Kind: P -/
theorem socks5_message_order (incoming : Incoming UInt8 ProxyExc) :
    (∀ events, events <+: ((establishSocks5 idna username password host port).run
        (recvExact shortRead) incoming).events →
      (∃ auth request, (auth = [] ∨ IsUserpass username password auth) ∧
        (request = [] ∨ IsRequest idna host port request) ∧
        ∀ sent, sent <+: sentBytes events → sent <+: greetingBytes username ++ (auth ++ request)) ∧
      ∀ before message after, events = before ++ .sent message :: after →
        MaySend idna username password host port before message) ∧
    ∀ result, socks5Outcome idna username password host port incoming = .ok result →
      result.method ∈ offeredMethods username ∧ incoming.stream.bytes[1]? = some result.method ∧
        ∃ auth request, (result.method = 0x00 ∧ auth = [] ∨
            result.method = 0x02 ∧ IsUserpass username password auth) ∧ IsRequest idna host port request ∧
          sentBytes ((establishSocks5 idna username password host port).run (recvExact shortRead)
            incoming).events = greetingBytes username ++ (auth ++ request) := by
  constructor
  · intro events hevents
    have hlaw : Sends (MaySend idna username password host port) [] events ∧
        ∃ auth request, (auth = [] ∨ IsUserpass username password auth) ∧
          (request = [] ∨ IsRequest idna host port request) ∧
          sentBytes events <+: greetingBytes username ++ (auth ++ request) := by
      rcases socks5_path idna username password host port (Dialogue.path_of_segments shortRead hevents)
        with rfl | ⟨rest, rfl, rfl | ⟨data, rfl⟩ | ⟨rest', rfl, hrequest⟩ | ⟨rest', rfl, hauth⟩⟩
      · exact ⟨trivial, [], [], Or.inl rfl, Or.inl rfl, List.nil_prefix⟩
      · exact ⟨⟨.greeting, trivial⟩, [], [], Or.inl rfl, Or.inl rfl, List.prefix_refl _⟩
      · exact ⟨⟨.greeting, trivial⟩, [], [], Or.inl rfl, Or.inl rfl, List.prefix_refl _⟩
      · obtain ⟨hsends, hsent⟩ := hrequest.law idna username password host port
          fun message hmessage => MaySend.request List.mem_cons_self hmessage
        exact ⟨⟨.greeting, hsends⟩, [], sentBytes rest', Or.inl rfl, hsent, List.prefix_refl _⟩
      · obtain ⟨hsends, auth, request, hauth, hrequest, hsent⟩ :=
          hauth.law idna username password host port
        refine ⟨⟨.greeting, hsends⟩, auth, request, hauth, hrequest, ?_⟩
        rw [← hsent]
        exact List.prefix_refl _
    obtain ⟨hsends, auth, request, hauth, hrequest, hsent⟩ := hlaw
    refine ⟨⟨auth, request, hauth, hrequest, fun sent hstarts => hstarts.trans hsent⟩, ?_⟩
    intro before message after hsplit
    exact hsends.may_send hsplit
  · intro result hresult
    have hsent := socks5_completes idna username password host port
      (Dialogue.completes_of_segments shortRead hresult)
    obtain ⟨-, answers, ⟨rest, hbytes⟩, hgrants, -, rfl⟩ :=
      (socks5Outcome_eq_ok_iff idna username password host port incoming).mp hresult
    refine ⟨hgrants.offered, ?_, hsent⟩
    rw [← hbytes]
    rfl

end NetstackSuite.Proxy
