import NetstackSuite.Proxy.Backend

/-!
# What the echo backend's counters say

Each counter is updated in a section of its own, around a send that holds no lock. `Consistent` is what
relates the counters to the places of all threads if sections are single steps; by
`Program.atomic_of_reaches` it holds of every state of the interleaved backend with the running section
completed. `backend_accounted` states it of the states themselves: of each connection at all times, of
a snapshot from the moment its reader holds the lock.
-/

namespace NetstackSuite.Proxy

open NetstackSuite.Python NetstackSuite.Lib

/-! ## What holds at each place -/

/-- What has been sent back on a connection, at each place of its handler.
Source: `src/proxy/backend.py` `EchoBackend._handle_tcp`
Kind: D -/
def HandlerPlace.Relays (conn : Conn) : HandlerPlace → Prop
  | .addingReceived data => conn.received = conn.echoed ++ data
  | .sending _ rest => conn.received = conn.echoed ++ rest
  | .ended (.echoFailed _) => conn.echoed <+: conn.received
  | _ => conn.echoed = conn.received

/-- A snapshot that agrees with itself.
Source: `src/proxy/backend.py` `EchoBackend.stats`
Kind: D -/
structure BackendStats.Plausible (stats : BackendStats) : Prop where
  peers : stats.tcpConnections = stats.peers.length
  bytes : stats.tcpBytesEchoed ≤ stats.tcpBytesReceived

/-- What holds of a thread at its place.
Source: `src/proxy/backend.py` `EchoBackend`
Kind: D -/
def Place.Ok : Place → Prop
  | .handler conn place => place.Relays conn
  | .stats (.returned snapshot) => snapshot.Plausible
  | _ => True

/-- The size of the chunk a thread has counted as received and not as echoed: it is being echoed, or its
echo failed.
Source: `src/proxy/backend.py` `EchoBackend._handle_tcp`
Kind: D -/
def Place.bytesInFlight : Place → Nat
  | .handler _ (.sending data _) => data.length
  | .handler _ (.addingEchoed data) => data.length
  | .handler _ (.ended (.echoFailed data)) => data.length
  | _ => 0

/-- What relates the counters to the places, between sections.
Source: `src/proxy/backend.py` `EchoBackend`
Kind: D -/
structure Consistent (a : Atomic BackendFlags Place BackendStats) : Prop where
  places : ∀ place ∈ a.threads, place.Ok
  peers : a.shared.tcpConnections = a.shared.peers.length
  bytes : a.shared.tcpBytesReceived =
    a.shared.tcpBytesEchoed + (a.threads.map Place.bytesInFlight).sum

lemma Consistent.plausible {a : Atomic BackendFlags Place BackendStats} (h : Consistent a) :
    a.shared.Plausible :=
  ⟨h.peers, by rw [h.bytes]; exact Nat.le_add_right _ _⟩

/-- Wherever a handler is, what it sent back is a prefix of what it received.
Source: `src/proxy/backend.py` `EchoBackend._handle_tcp`
Kind: L -/
lemma HandlerPlace.Relays.ordered {conn : Conn} {place : HandlerPlace} (h : place.Relays conn) :
    conn.echoed <+: conn.received := by
  unfold Relays at h
  split at h
  · exact ⟨_, h.symm⟩
  · exact ⟨_, h.symm⟩
  · exact h
  · exact ⟨[], by rw [h, List.append_nil]⟩

/-! ## What a step outside the lock keeps -/

/-- A step of a handler.
Source: `src/proxy/backend.py` `EchoBackend._handle_tcp`
Kind: L -/
lemma handlerMove_spec {flags : BackendFlags} {conn conn' : Conn} {place place' : HandlerPlace}
    {e : BackendEvent} (h : handlerMove flags conn place e = some (conn', place'))
    (hok : place.Relays conn) :
    place'.Relays conn' ∧
      Place.bytesInFlight (.handler conn' place') = Place.bytesInFlight (.handler conn place) := by
  unfold handlerMove at h
  split at h
  case h_1 =>
    obtain ⟨rfl, rfl⟩ := Prod.mk.inj (Option.some.inj h)
    split
    · exact ⟨hok, rfl⟩
    · exact ⟨hok, rfl⟩
  case h_4 chunk =>
    -- a chunk is appended, or the stream has ended
    have hok : conn.echoed = conn.received := hok
    split at h
    · cases h
    · split at h
      · obtain ⟨rfl, rfl⟩ := Prod.mk.inj (Option.some.inj h)
        exact ⟨hok, rfl⟩
      · obtain ⟨rfl, rfl⟩ := Prod.mk.inj (Option.some.inj h)
        refine ⟨?_, rfl⟩
        change conn.received ++ chunk = conn.echoed ++ chunk
        rw [hok]
  case h_5 data rest n =>
    -- `n` more bytes of the chunk are sent
    have hok : conn.received = conn.echoed ++ rest := hok
    split at h
    · obtain ⟨rfl, rfl⟩ := Prod.mk.inj (Option.some.inj h)
      have hsplit : conn.received = (conn.echoed ++ rest.take n) ++ rest.drop n := by
        rw [List.append_assoc, List.take_append_drop, hok]
      split
      · next hdone =>
          rw [hdone, List.append_nil] at hsplit
          exact ⟨hsplit.symm, rfl⟩
      · exact ⟨hsplit, rfl⟩
    · cases h
  case h_6 data rest =>
    obtain ⟨rfl, rfl⟩ := Prod.mk.inj (Option.some.inj h)
    exact ⟨⟨rest, Eq.symm hok⟩, rfl⟩
  case h_7 data rest =>
    obtain ⟨rfl, rfl⟩ := Prod.mk.inj (Option.some.inj h)
    exact ⟨⟨rest, Eq.symm hok⟩, rfl⟩
  case h_10 => cases h
  all_goals
    obtain ⟨rfl, rfl⟩ := Prod.mk.inj (Option.some.inj h)
    exact ⟨hok, rfl⟩

/-- The threads a step of an accept loop starts.
Source: `src/proxy/backend.py` `EchoBackend._accept_loop`
Kind: L -/
lemma acceptMove_spawned {flags : BackendFlags} {place place' : AcceptPlace} {e : BackendEvent}
    {spawned : List Place} (h : acceptMove flags place e = some (place', spawned)) :
    ∀ p ∈ spawned, p = .handler ⟨[], []⟩ .looping := by
  unfold acceptMove at h
  split at h
  case h_6 =>
    obtain ⟨rfl, rfl⟩ := Prod.mk.inj (Option.some.inj h)
    exact fun p hp => List.mem_singleton.mp hp
  case h_8 => cases h
  all_goals
    obtain ⟨rfl, rfl⟩ := Prod.mk.inj (Option.some.inj h)
    exact fun p hp => absurd hp List.not_mem_nil

/-- A step outside the lock leads from a right place to a right place, starts threads that are right
and have nothing in flight, and moves no chunk in or out of flight.
Source: `src/proxy/backend.py` `EchoBackend`
Kind: L -/
lemma backendMove_spec {flags : BackendFlags} {place place' : Place} {e : BackendEvent}
    {spawned : List Place} (h : backendMove flags place e = some (place', spawned))
    (hok : place.Ok) :
    place'.Ok ∧ (∀ p ∈ spawned, p.Ok ∧ p.bytesInFlight = 0) ∧
      place'.bytesInFlight = place.bytesInFlight := by
  cases place with
  | accept place =>
      obtain ⟨r, hr, heq⟩ := Option.map_eq_some_iff.mp h
      obtain ⟨rfl, rfl⟩ := Prod.mk.inj heq
      refine ⟨trivial, ?_, rfl⟩
      intro p hp
      rw [acceptMove_spawned hr p hp]
      exact ⟨rfl, rfl⟩
  | handler conn place =>
      obtain ⟨r, hr, heq⟩ := Option.map_eq_some_iff.mp h
      obtain ⟨rfl, rfl⟩ := Prod.mk.inj heq
      obtain ⟨hrelays, hbytes⟩ := handlerMove_spec hr hok
      exact ⟨hrelays, fun p hp => absurd hp List.not_mem_nil, hbytes⟩
  | udp place =>
      obtain ⟨r, -, heq⟩ := Option.map_eq_some_iff.mp h
      obtain ⟨rfl, rfl⟩ := Prod.mk.inj heq
      exact ⟨trivial, fun p hp => absurd hp List.not_mem_nil, rfl⟩
  | stats place => cases h

/-! ## What a section keeps -/

/-- What `stats` returns is the statistics at the moment it takes the lock.
Source: `src/proxy/backend.py` `EchoBackend.stats`
Kind: L -/
lemma run_stats {stats : BackendStats} {body : List Instr} (reg : Registers)
    (h : backendSection (.stats .reading) = some body) :
    backend.run body (stats, reg) = (stats, { reg with snapshot := stats }) := by
  cases h
  rfl

/-- A section leads from a right place to a right place, counts a connection with its peer, and counts
bytes as received when they come into flight and as echoed when they leave it.
Source: `src/proxy/backend.py` `EchoBackend`
Kind: L -/
lemma backendSection_spec {place : Place} {body : List Instr} {stats : BackendStats} (reg : Registers)
    (h : backendSection place = some body) (hok : place.Ok) (hstats : stats.Plausible) :
    let r := backend.run body (stats, reg)
    (backendAfter place r.2).Ok ∧ r.1.tcpConnections = r.1.peers.length ∧
      r.1.tcpBytesReceived + stats.tcpBytesEchoed + place.bytesInFlight =
        stats.tcpBytesReceived + r.1.tcpBytesEchoed + (backendAfter place r.2).bytesInFlight := by
  unfold backendSection at h
  split at h
  case h_1 peer =>
    cases h
    refine ⟨trivial, ?_, rfl⟩
    change stats.tcpConnections + 1 = (stats.peers ++ [peer]).length
    rw [hstats.peers, List.length_append, List.length_singleton]
  case h_2 conn data =>
    cases h
    refine ⟨hok, hstats.peers, ?_⟩
    change stats.tcpBytesReceived + data.length + stats.tcpBytesEchoed + 0 =
      stats.tcpBytesReceived + stats.tcpBytesEchoed + data.length
    omega
  case h_3 conn data =>
    cases h
    refine ⟨hok, hstats.peers, ?_⟩
    change stats.tcpBytesReceived + stats.tcpBytesEchoed + data.length =
      stats.tcpBytesReceived + (stats.tcpBytesEchoed + data.length) + 0
    omega
  case h_4 =>
    cases h
    exact ⟨trivial, hstats.peers, rfl⟩
  case h_5 =>
    cases h
    exact ⟨hstats, hstats.peers, rfl⟩
  case h_6 => cases h

/-! ## The invariant -/

/-- A thread started from outside.
Source: `src/proxy/backend.py` `EchoBackend.start`
Kind: L -/
lemma backendStart_spec {place : Place} (h : backendStart place = true) :
    place.Ok ∧ place.bytesInFlight = 0 := by
  unfold backendStart at h
  split at h
  · exact ⟨trivial, rfl⟩
  · exact ⟨trivial, rfl⟩
  · exact ⟨trivial, rfl⟩
  · cases h

/-- **Every step keeps the counters and the places related**, if a section is one step.
Source: `src/proxy/backend.py` `EchoBackend`
Kind: P -/
theorem Consistent.step {a b : Atomic BackendFlags Place BackendStats} (h : Consistent a)
    (hstep : backend.AtomicStep a b) : Consistent b := by
  cases hstep with
  | setEnv flags => exact ⟨h.places, h.peers, h.bytes⟩
  | @start place hstart =>
      obtain ⟨hok, hzero⟩ := backendStart_spec hstart
      refine ⟨?_, h.peers, ?_⟩
      · intro p hp
        rcases List.mem_append.mp hp with hp | hp
        · exact h.places p hp
        · rw [List.mem_singleton.mp hp]
          exact hok
      · change a.shared.tcpBytesReceived = a.shared.tcpBytesEchoed +
          ((a.threads ++ [place]).map Place.bytesInFlight).sum
        rw [List.map_append, List.sum_append, List.map_singleton, List.sum_singleton, hzero,
          Nat.add_zero]
        exact h.bytes
  | @move i place place' spawned e hthread hmove =>
      have hmem := List.mem_of_getElem? hthread
      obtain ⟨hok, hspawned, hbytes⟩ := backendMove_spec hmove (h.places place hmem)
      refine ⟨?_, h.peers, ?_⟩
      · intro p hp
        rcases List.mem_append.mp hp with hp | hp
        · rcases List.mem_or_eq_of_mem_set hp with hp | rfl
          · exact h.places p hp
          · exact hok
        · exact (hspawned p hp).1
      · have hsum := sum_map_set_add Place.bytesInFlight place' hthread
        have hnone : (spawned.map Place.bytesInFlight).sum = 0 := by
          apply List.sum_eq_zero
          intro n hn
          obtain ⟨p, hp, rfl⟩ := List.mem_map.mp hn
          exact (hspawned p hp).2
        have hold := h.bytes
        change a.shared.tcpBytesReceived = a.shared.tcpBytesEchoed +
          ((a.threads.set i place' ++ spawned).map Place.bytesInFlight).sum
        rw [List.map_append, List.sum_append, hnone]
        omega
  | @critical i place body hthread hbody =>
      have hmem := List.mem_of_getElem? hthread
      obtain ⟨hok, hpeers, hbytes⟩ :=
        backendSection_spec backend.registers hbody (h.places place hmem) h.plausible
      refine ⟨?_, hpeers, ?_⟩
      · intro p hp
        rcases List.mem_or_eq_of_mem_set hp with hp | rfl
        · exact h.places p hp
        · exact hok
      · have hsum := sum_map_set_add Place.bytesInFlight
          (backendAfter place (backend.run body (a.shared, backend.registers)).2) hthread
        have hold := h.bytes
        change (backend.run body (a.shared, backend.registers)).1.tcpBytesReceived =
          (backend.run body (a.shared, backend.registers)).1.tcpBytesEchoed +
            ((a.threads.set i (backendAfter place _)).map Place.bytesInFlight).sum
        omega

/-- Every reachable backend, with its running section completed, is consistent.
Source: `src/proxy/backend.py` `EchoBackend`
Kind: P -/
theorem EchoBackend.Reachable.consistent {s : EchoBackend} (h : s.Reachable) :
    ∃ a, backend.Completes s a ∧ Consistent a := by
  have hreach : Relation.ReflTransGen backend.Step
      ⟨⟨false, false, false⟩, .initial, none, ([] : List Place).map (Program.idle Instr Registers)⟩ s :=
    h
  obtain ⟨a, hcompletes, hatomic⟩ := Program.atomic_of_reaches hreach
  refine ⟨a, hcompletes, ?_⟩
  apply Program.invariant_of_atomicReaches Consistent hatomic
  · exact ⟨fun p hp => absurd hp List.not_mem_nil, rfl, rfl⟩
  · intro a b hconsistent hstep
    exact hconsistent.step hstep

/-! ## What is seen of it -/

/-- The total size of the chunks being echoed or whose echo failed.
Source: `src/proxy/backend.py` `EchoBackend._handle_tcp`
Kind: D -/
def EchoBackend.bytesInFlight (s : EchoBackend) : Nat :=
  ((s.threads.map Thread.pc).map Place.bytesInFlight).sum

/-- Thread `i` is inside `stats`, and this is what it will return.
Source: `src/proxy/backend.py` `EchoBackend.stats`
Kind: D -/
def EchoBackend.Snapshots (s : EchoBackend) (i : Nat) (snapshot : BackendStats) : Prop :=
  ∃ todo reg, s.threads[i]? = some ⟨.stats .reading, .inside todo reg⟩ ∧
    snapshot = (backend.run todo (s.shared, reg)).2.snapshot

/-- What the backend's accounts say: on every connection what was sent back is a prefix of what was
received, and all of it when the write side is shut down; in a snapshot, all the while it is taken,
there is one connection for each peer, and the bytes received but not echoed are those in flight; and a
snapshot that was returned still agrees with itself.
Source: `src/proxy/backend.py` `EchoBackend`
Kind: D -/
structure EchoBackend.Accounted (s : EchoBackend) : Prop where
  ordered : ∀ (i : Nat) conn place phase, s.threads[i]? = some ⟨.handler conn place, phase⟩ →
    conn.echoed <+: conn.received
  connections : ∀ i snapshot, s.Snapshots i snapshot →
    snapshot.tcpConnections = snapshot.peers.length
  bytes : ∀ i snapshot, s.Snapshots i snapshot →
    snapshot.tcpBytesReceived = snapshot.tcpBytesEchoed + s.bytesInFlight
  returned : ∀ (i : Nat) snapshot phase, s.threads[i]? = some ⟨.stats (.returned snapshot), phase⟩ →
    snapshot.Plausible
  complete : ∀ (i : Nat) conn place phase, s.threads[i]? = some ⟨.handler conn place, phase⟩ →
    place = .halfClosed ∨ place = .ended .shutDown → conn.echoed = conn.received

/-- The sections of a handler.
Source: `src/proxy/backend.py` `EchoBackend._handle_tcp`
Kind: L -/
lemma handler_section {conn : Conn} {place : HandlerPlace} {body : List Instr}
    (h : backendSection (.handler conn place) = some body) :
    ∃ data, place = .addingReceived data ∨ place = .addingEchoed data := by
  unfold backendSection at h
  split at h
  case h_2 heq =>
    cases heq
    exact ⟨_, Or.inl rfl⟩
  case h_3 heq =>
    cases heq
    exact ⟨_, Or.inr rfl⟩
  case h_6 => cases h
  all_goals
    rename_i heq
    cases heq

/-- A handler outside the lock is where it may be; inside, it is adding to a counter, and what it sent
back is a prefix of what it received.
Source: `src/proxy/backend.py` `EchoBackend._handle_tcp`
Kind: L -/
lemma handler_relays {s : EchoBackend} {a : Atomic BackendFlags Place BackendStats}
    (hcompletes : backend.Completes s a) (h : Consistent a) {i : Nat} {conn : Conn}
    {place : HandlerPlace} {phase : Phase Instr Registers}
    (hthread : s.threads[i]? = some ⟨.handler conn place, phase⟩) :
    place.Relays conn ∨ conn.echoed <+: conn.received ∧
      ∃ data, place = .addingReceived data ∨ place = .addingEchoed data := by
  rcases phase with _ | ⟨todo, reg⟩
  · exact Or.inl (h.places _ (List.mem_of_getElem? (hcompletes.outside hthread)))
  · obtain ⟨body, before, hbody, -, -, hthreads⟩ := hcompletes.inside hthread
    have hi : i < s.threads.length := (List.getElem?_eq_some_iff.mp hthread).1
    have hok := h.places (backendAfter (.handler conn place) (backend.run todo (s.shared, reg)).2) (by
      rw [hthreads]
      exact List.mem_set (by simpa using hi) _)
    obtain ⟨data, rfl | rfl⟩ := handler_section hbody
    · have hrelays : (HandlerPlace.sending data data).Relays conn := hok
      exact Or.inr ⟨hrelays.ordered, data, Or.inl rfl⟩
    · have hrelays : HandlerPlace.looping.Relays conn := hok
      exact Or.inr ⟨hrelays.ordered, data, Or.inr rfl⟩

/-- While a thread is inside `stats`, what it will return is the statistics, nobody else is inside, and
the places of all threads account for them.
Source: `src/proxy/backend.py` `EchoBackend.stats`
Kind: L -/
lemma snapshot_spec {s : EchoBackend} {a : Atomic BackendFlags Place BackendStats}
    (hcompletes : backend.Completes s a) (h : Consistent a) {i : Nat} {snapshot : BackendStats}
    (hsnapshot : s.Snapshots i snapshot) :
    snapshot.tcpConnections = snapshot.peers.length ∧
      snapshot.tcpBytesReceived = snapshot.tcpBytesEchoed + s.bytesInFlight := by
  obtain ⟨todo, reg, hthread, rfl⟩ := hsnapshot
  obtain ⟨body, before, hbody, hrun, hshared, hthreads⟩ := hcompletes.inside hthread
  rw [run_stats _ hbody] at hrun
  have hstats : (backend.run todo (s.shared, reg)).2.snapshot = a.shared := by
    rw [hshared, hrun]
  have hpc : (s.threads.map Thread.pc)[i]? = some (.stats .reading) := by
    rw [List.getElem?_map, hthread]
    rfl
  have hsum := sum_map_set_add Place.bytesInFlight
    (backendAfter (.stats .reading) (backend.run todo (s.shared, reg)).2) hpc
  have hbytes := h.bytes
  rw [hthreads] at hbytes
  rw [hstats]
  refine ⟨h.peers, hbytes.trans ?_⟩
  -- the reader itself has nothing in flight, before its section and behind it
  rw [EchoBackend.bytesInFlight]
  exact congrArg _ hsum

/-- **The backend's accounts are right in every interleaving** of its loops, any number of handlers and
any number of reads of `stats`.
Source: `src/proxy/backend.py` `EchoBackend`
Kind: P -/
theorem backend_accounted {s : EchoBackend} (h : s.Reachable) : s.Accounted := by
  obtain ⟨a, hcompletes, hconsistent⟩ := h.consistent
  constructor
  case ordered =>
    intro i conn place phase hthread
    rcases handler_relays hcompletes hconsistent hthread with hrelays | ⟨hordered, -⟩
    · exact hrelays.ordered
    · exact hordered
  case connections =>
    intro i snapshot hsnapshot
    exact (snapshot_spec hcompletes hconsistent hsnapshot).1
  case bytes =>
    intro i snapshot hsnapshot
    exact (snapshot_spec hcompletes hconsistent hsnapshot).2
  case returned =>
    intro i snapshot phase hthread
    rcases phase with _ | ⟨todo, reg⟩
    · exact hconsistent.places _ (List.mem_of_getElem? (hcompletes.outside hthread))
    · obtain ⟨body, before, hbody, -, -, -⟩ := hcompletes.inside hthread
      cases hbody
  case complete =>
    intro i conn place phase hthread hplace
    rcases handler_relays hcompletes hconsistent hthread with hrelays | ⟨-, data, hdata⟩
    · rcases hplace with rfl | rfl
      · exact hrelays
      · exact hrelays
    · rcases hplace with rfl | rfl <;> simp at hdata

/-- A backend that received two bytes and echoed one of them, seen by a reader of `stats` that has
loaded two of the fields.
Source: `src/proxy/backend.py` `EchoBackend`
Kind: D -/
def EchoBackend.halfEchoed : EchoBackend where
  env := ⟨false, true, false⟩
  shared := ⟨1, 2, 0, 0, 0, [text "10.0.0.1:80"]⟩
  lock := some 2
  threads := [
    ⟨.accept .looping, .outside⟩,
    ⟨.handler ⟨[1, 2], [1]⟩ (.sending [1, 2] [2]), .outside⟩,
    ⟨.stats .reading, .inside
      [.copy .tcpBytesEchoed, .copy .udpDatagrams, .copy .udpBytesReceived, .copyPeers]
      ⟨0, ⟨1, 2, 0, 0, 0, []⟩⟩⟩]

/-- The accounts of that backend.
Source: `src/proxy/backend.py` `EchoBackend`
Kind: P -/
theorem backend_accounted_halfEchoed : EchoBackend.halfEchoed.Accounted := by
  apply backend_accounted
  -- the accept loop takes a connection and counts it
  refine .head (.setEnv ⟨false, true, false⟩) ?_
  refine .head (.start (by rfl : backend.start (.accept .looping) = true)) ?_
  refine .head (.move (i := 0) (a := .next) rfl rfl) ?_
  refine .head (.move (i := 0) (a := .next) rfl rfl) ?_
  refine .head (.move (i := 0) (a := .accepted (text "10.0.0.1") 80) rfl rfl) ?_
  refine .head (.acquire (i := 0) rfl rfl rfl) ?_
  refine .head (.exec (i := 0) rfl) ?_
  refine .head (.exec (i := 0) rfl) ?_
  refine .head (.exec (i := 0) rfl) ?_
  refine .head (.release (i := 0) rfl) ?_
  refine .head (.move (i := 0) (a := .next) rfl rfl) ?_
  -- the handler receives a chunk, counts it, and sends the first byte of it back
  refine .head (.move (i := 1) (a := .next) rfl rfl) ?_
  refine .head (.move (i := 1) (a := .data [1, 2]) rfl rfl) ?_
  refine .head (.acquire (i := 1) rfl rfl rfl) ?_
  refine .head (.exec (i := 1) rfl) ?_
  refine .head (.exec (i := 1) rfl) ?_
  refine .head (.release (i := 1) rfl) ?_
  refine .head (.move (i := 1) (a := .sent 1) rfl rfl) ?_
  -- the statistics are read
  refine .head (.start (by rfl : backend.start (.stats .reading) = true)) ?_
  refine .head (.acquire (i := 2) rfl rfl rfl) ?_
  refine .head (.exec (i := 2) rfl) ?_
  refine .head (.exec (i := 2) rfl) ?_
  exact .refl

end NetstackSuite.Proxy
