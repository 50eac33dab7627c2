import NetstackSuite.Proxy.HttpHead
import NetstackSuite.Proxy.Socks5Grammar

/-!
# The client does not depend on how TCP cuts the stream

Two connections on which the same bytes arrive, cut in different places, are the same to
`ProxyClient`: the same outcome of `connect`, the same bytes sent, and the same bytes from every call
after it (`connect_segmentation_independent`). The tunnel starts with the byte after the handshake's
reply: no reader of a reply reads past its end.
-/

namespace NetstackSuite.Proxy

open NetstackSuite.Lib NetstackSuite.Python

variable (idna : PyStr → Except PyExc Bytes)

/-! ## What a handshake reads -/

/-- The reply that ends the handshake of a mode.
Source: none: specification (RFC 9112, RFC 1928)
Kind: D -/
def HandshakeReply (mode : ProxyMode) (reply : Bytes) : Prop :=
  match mode with
  | .transparent => reply = []
  | .httpConnect => IsHead reply
  | .socks5 => ∃ answers : Answers, reply = answers.bytes

/-- **A handshake that succeeds has read a reply of its mode.**
Source: `src/proxy/handshakes.py` `TunnelHandshake.establish`
Kind: P -/
theorem handshakeReply_of_accepts {config : ProxyConfig} {origin : PyStr × Int} {word : Bytes}
    {details : Option Details}
    (h : ((forConfig config).establish idna origin).Accepts word details) :
    HandshakeReply config.mode word := by
  unfold forConfig at h
  unfold HandshakeReply
  rcases hmode : config.mode with _ | _ | _
  · rw [hmode] at h
    exact h.1
  · rw [hmode] at h
    obtain ⟨response, word', _, rfl, haccepts, rfl, -⟩ := Dialogue.accepts_bind.mp h
    rw [List.append_nil]
    exact (accepts_establishHttpConnect.mp haccepts).2.1
  · rw [hmode] at h
    obtain ⟨result, word', _, rfl, haccepts, rfl, -⟩ := Dialogue.accepts_bind.mp h
    obtain ⟨-, answers, -, -, rfl, -⟩ := (accepts_establishSocks5 idna _ _).mp haccepts
    exact ⟨answers, List.append_nil _⟩

/-! ## Connecting over a stream -/

/-- The handshake over the uncut stream.
Source: `src/proxy/client.py` `ProxyClient.connect`
Kind: D -/
def handshakeRun (config : ProxyConfig) (stream : ByteStream UInt8 ProxyExc) :
    Run UInt8 ProxyExc (ByteStream UInt8 ProxyExc) (Option Details) :=
  ((forConfig config).establish idna config.origin).run (readExact shortRead) stream

/-- The network on which everybody answers with this stream.
Source: none: specification
Kind: D -/
def answering (incoming : Incoming UInt8 ProxyExc) : PyStr × Int → Except ProxyExc (Incoming UInt8 ProxyExc) :=
  fun _ => .ok incoming

/-- What `connect` does is determined by the uncut stream.
Source: `src/proxy/client.py` `ProxyClient.connect`
Kind: P -/
theorem connect_spec (client : ProxyClient) (incoming : Incoming UInt8 ProxyExc) :
    (client.connect idna (answering incoming)).events = (handshakeRun idna client.config incoming.stream).events ∧
      ((∃ details sock, (handshakeRun idna client.config incoming.stream).outcome = .ok details ∧
          (client.connect idna (answering incoming)).outcome = .ok () ∧
          (client.connect idna (answering incoming)).client =
            { client with details, sock := some sock } ∧
          (client.connect idna (answering incoming)).opened = some sock ∧ sock.closed = false ∧
          sock.incoming.stream = (handshakeRun idna client.config incoming.stream).reader) ∨
        (∃ e sock, (handshakeRun idna client.config incoming.stream).outcome = .error e ∧
          (client.connect idna (answering incoming)).outcome = .error e ∧
          (client.connect idna (answering incoming)).client =
            { client with details := e.details, sock := none } ∧
          (client.connect idna (answering incoming)).opened = some sock ∧ sock.closed = true)) := by
  obtain ⟨houtcome, hevents, hreader⟩ := Dialogue.run_segments shortRead
    ((forConfig client.config).establish idna client.config.origin) incoming
  unfold handshakeRun
  rw [← houtcome, ← hevents, ← hreader]
  unfold ProxyClient.connect answering
  simp only
  rcases hrun : (((forConfig client.config).establish idna client.config.origin).run
    (recvExact shortRead) incoming).outcome with e | details
  · exact ⟨rfl, Or.inr ⟨e, _, rfl, rfl, rfl, rfl, rfl⟩⟩
  · exact ⟨rfl, Or.inl ⟨details, _, rfl, rfl, rfl, rfl, rfl, rfl⟩⟩

/-- The calls on a connected client are determined by what is left of the stream.
Source: `src/proxy/client.py` `ProxyClient`
Kind: L -/
lemma relay_eq {client : ProxyClient} {sock : Sock} (h : client.sock = some sock) (calls : List Relay) :
    client.relay calls =
      (Dialogue.runAll (readExact shortRead) (calls.map Relay.exchange) sock.incoming.stream).1 := by
  unfold ProxyClient.relay
  rw [h]
  exact Dialogue.runAll_segments shortRead _ sock.incoming

/-- **Segmentation independence**: on two segmentations of one stream, `connect` has the same outcome,
reports the same details and sends the same bytes, and every following sequence of calls has the same
results; and the tunnel starts with the byte that follows the reply.
Source: `src/proxy/client.py` `ProxyClient`
Kind: P -/
theorem connect_segmentation_independent (client : ProxyClient)
    (incoming incoming' : Incoming UInt8 ProxyExc) (h : incoming.stream = incoming'.stream) :
    (client.connect idna (answering incoming)).outcome =
        (client.connect idna (answering incoming')).outcome ∧
      (client.connect idna (answering incoming)).client.details =
        (client.connect idna (answering incoming')).client.details ∧
      sentBytes (client.connect idna (answering incoming)).events =
        sentBytes (client.connect idna (answering incoming')).events ∧
      ((client.connect idna (answering incoming)).outcome = .ok () →
        (∀ calls, (client.connect idna (answering incoming)).client.relay calls =
          (client.connect idna (answering incoming')).client.relay calls) ∧
        ∃ reply rest, incoming.stream.bytes = reply ++ rest ∧ HandshakeReply client.config.mode reply ∧
          ∀ count ≤ rest.length,
            ((client.connect idna (answering incoming)).client.relay [.recvExact count]).map Prod.fst =
              [.ok (rest.take count)]) := by
  obtain ⟨hevents, hcases⟩ := connect_spec idna client incoming
  obtain ⟨hevents', hcases'⟩ := connect_spec idna client incoming'
  rw [← h] at hevents' hcases'
  rcases hcases with ⟨details, sock, hrun, houtcome, hclient, -, -, hstream⟩ |
    ⟨e, sock, hrun, houtcome, hclient, -, -⟩
  · rcases hcases' with ⟨details', sock', hrun', houtcome', hclient', -, -, hstream'⟩ |
      ⟨e', sock', hrun', -⟩
    · rw [hrun] at hrun'
      obtain rfl := Except.ok.inj hrun'
      refine ⟨by rw [houtcome, houtcome'], by rw [hclient, hclient'], by rw [hevents, hevents'], ?_⟩
      intro _
      have hsock : (client.connect idna (answering incoming)).client.sock = some sock := by rw [hclient]
      have hsock' : (client.connect idna (answering incoming')).client.sock = some sock' := by
        rw [hclient']
      refine ⟨?_, ?_⟩
      · intro calls
        rw [relay_eq hsock, relay_eq hsock', hstream, hstream']
      · obtain ⟨reply, hbytes, -, haccepts⟩ := Dialogue.accepts_of_run shortRead hrun
        refine ⟨reply, _, hbytes, handshakeReply_of_accepts idna haccepts, ?_⟩
        intro count hcount
        rw [relay_eq hsock, hstream]
        simp only [List.map_cons, List.map_nil, Dialogue.runAll, Relay.exchange, Dialogue.ask]
        have hread := readExact_append shortRead
          ((handshakeRun idna client.config incoming.stream).reader.bytes.take count)
          ((handshakeRun idna client.config incoming.stream).reader.bytes.drop count)
          (handshakeRun idna client.config incoming.stream).reader.ending (List.length_take_of_le hcount)
        rw [List.take_append_drop] at hread
        rw [Dialogue.run_read_ok _ hread]
        rfl
    · rw [hrun] at hrun'
      cases hrun'
  · rcases hcases' with ⟨details', sock', hrun', -⟩ | ⟨e', sock', hrun', houtcome', hclient', -, -⟩
    · rw [hrun] at hrun'
      cases hrun'
    · rw [hrun] at hrun'
      obtain rfl := Except.error.inj hrun'
      refine ⟨by rw [houtcome, houtcome'], by rw [hclient, hclient'], by rw [hevents, hevents'], ?_⟩
      intro hok
      rw [houtcome] at hok
      cases hok

lemma sampleFront : HasFront (some (text "10.0.0.1")) (some 1080) :=
  ⟨by decide +kernel, 1080, rfl, by decide⟩

/-- A client of a SOCKS5 proxy, with a username only.
Source: none: test
Kind: D -/
def sampleClient : ProxyClient where
  config :=
    { mode := .socks5, backendHost := text "10.0.0.9", backendPort := 9099,
      proxyHost := some (text "10.0.0.1"), proxyPort := some 1080, username := some (text "user"),
      hasFront := fun _ => sampleFront }

/-- No name has to be encoded.
Source: none: test
Kind: D -/
def noIdna : PyStr → Except PyExc Bytes := fun _ => .error .valueError

/-- The refusal of every method, in one segment.
Source: none: test
Kind: D -/
def refusal : Incoming UInt8 ProxyExc := .single [0x05, 0xFF] (List.cons_ne_nil _ _)

/-- A proxy that asks for no authentication, grants the CONNECT request and hands on two bytes of the tunnel, all in
one segment.
Source: none: test
Kind: D -/
def granting : Incoming UInt8 ProxyExc :=
  .single [0x05, 0x00, 0x05, 0x00, 0x00, 0x01, 0x0A, 0x00, 0x00, 0x09, 0x23, 0x8B, 0x68, 0x69]
    (List.cons_ne_nil _ _)

/-- The same, cut inside the replies and inside the tunnel.
Source: none: test
Kind: D -/
def grantingInPieces : Incoming UInt8 ProxyExc where
  segments := [
    ⟨[0x05], List.cons_ne_nil _ _⟩,
    ⟨[0x00, 0x05, 0x00, 0x00, 0x01, 0x0A], List.cons_ne_nil _ _⟩,
    ⟨[0x00, 0x00, 0x09, 0x23, 0x8B, 0x68], List.cons_ne_nil _ _⟩,
    ⟨[0x69], List.cons_ne_nil _ _⟩]
  ending := .eof

/-- A connection that succeeds on both segmentations, and relays the same; and the refusal of every method, in one
segment and byte by byte.
Source: none: test
Kind: P -/
theorem connect_segmentation_relayed :
    (sampleClient.connect noIdna (answering granting)).outcome = .ok () ∧
      (sampleClient.connect noIdna (answering grantingInPieces)).outcome = .ok () ∧
      ((sampleClient.connect noIdna (answering grantingInPieces)).client.relay [.roundtrip [0x68, 0x69]]).map
        Prod.fst = [.ok [0x68, 0x69]] ∧
      (sampleClient.connect noIdna (answering refusal)).outcome =
        (sampleClient.connect noIdna
          (answering ⟨[⟨[0x05], List.cons_ne_nil _ _⟩, ⟨[0xFF], List.cons_ne_nil _ _⟩], .eof⟩)).outcome := by
  have hok : (sampleClient.connect noIdna (answering granting)).outcome = .ok () := by decide +kernel
  have hrelays : ((sampleClient.connect noIdna (answering granting)).client.relay [.roundtrip [0x68, 0x69]]).map
      Prod.fst = [.ok [0x68, 0x69]] := by decide +kernel
  obtain ⟨houtcome, -, -, hrelay⟩ :=
    connect_segmentation_independent noIdna sampleClient granting grantingInPieces rfl
  obtain ⟨hrefused, -⟩ := connect_segmentation_independent noIdna sampleClient refusal
    ⟨[⟨[0x05], List.cons_ne_nil _ _⟩, ⟨[0xFF], List.cons_ne_nil _ _⟩], .eof⟩ rfl
  refine ⟨hok, houtcome ▸ hok, ?_, hrefused⟩
  rw [← (hrelay hok).1]
  exact hrelays

end NetstackSuite.Proxy
