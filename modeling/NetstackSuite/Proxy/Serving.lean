import NetstackSuite.Lib.Runs
import NetstackSuite.Proxy.BackendLifecycle

/-!
# Whether the echo backend serves

`EchoBackend.is_serving` asks for a socket and for any live thread of the list. The list holds accept loops,
handlers of connections and UDP loops, so it can be true of a backend that accepts nothing any more.
`truthful_of_harmless` says that this takes a failing accept loop, the last one that runs, beside another
live thread: in runs without that, the status is right in every state.

One caller starts and stops the backend, and asks for its status; its calls are single steps, except that
`stop`, and the rollback of `start`, wait for the threads. A section under the lock is one step of its thread.
-/

namespace NetstackSuite.Proxy

open NetstackSuite.Python NetstackSuite.Lib

/-! ## The status -/

/-- `thread.is_alive()`.
Source: Python `threading.Thread`
Kind: D -/
def Place.alive : Place → Bool
  | .accept .ended => false
  | .handler _ (.ended _) => false
  | .udp .ended => false
  | .stats (.returned _) => false
  | _ => true

namespace BackendServer

/-- Is the thread alive?
Source: Python `threading.Thread`
Kind: D -/
def aliveAt (s : BackendServer) (i : Nat) : Bool := s.started[i]?.any Place.alive

/-- Source: `src/proxy/backend.py` `EchoBackend.is_serving`. Kind: D -/
def isServing (s : BackendServer) : Bool := s.tcpSocket.isSome && s.threads.any s.aliveAt

/-- An accept loop runs.
Source: none: specification
Kind: D -/
def Accepting (s : BackendServer) : Prop := ∃ place, .accept place ∈ s.started ∧ place ≠ .ended

/-- The socket that is held is open and listens.
Source: none: specification
Kind: D -/
def Listening (s : BackendServer) : Prop := ∃ k, s.tcpSocket = some k ∧ s.opened[k]? = some ⟨true, true⟩

/-- The status is right.
Source: none: specification
Kind: D -/
def Truthful (s : BackendServer) : Prop := s.isServing = true → s.Listening ∧ s.Accepting

/-- What the threads read without the lock.
Source: `src/proxy/backend.py` `EchoBackend`
Kind: D -/
def flags (s : BackendServer) : BackendFlags := ⟨s.stop, s.tcpSocket.isSome, s.udpSocket.isSome⟩

/-- A thread goes on, and what it started is listed.
Source: `src/proxy/backend.py` `EchoBackend._accept_loop`
Kind: D -/
def goOn (s : BackendServer) (i : Nat) (place : Place) (spawned : List Place) : BackendServer :=
  spawned.foldl spawn { s with started := s.started.set i place }

end BackendServer

/-! ## Runs -/

/-- What the caller does: nothing, or it waits for the threads, in `stop` or in the rollback of `start`.
Source: `src/proxy/backend.py` `EchoBackend.stop`
Kind: D -/
inductive Caller
  | idle
  | joining (rollingBack : Bool)
  deriving DecidableEq, Repr

/-- The backend and its caller.
Source: none: infrastructure
Kind: D -/
structure Serving where
  server : BackendServer
  caller : Caller

/-- A call, the end of its joins, a step of a thread outside the lock, or its section.
Source: `src/proxy/backend.py` `EchoBackend`
Kind: D -/
inductive ServingAction
  | start (os : Os)
  | stop
  | joined
  | move (i : Nat) (e : BackendEvent)
  | critical (i : Nat)

/-- One step.
Source: `src/proxy/backend.py` `EchoBackend`
Kind: D -/
def servingStep (idna : PyStr → Except PyExc Bytes) (s : Serving) : ServingAction → Option Serving
  | .start os =>
      match s.caller, s.server.clearStop.openSockets idna os with
      | .idle, (t, none) => some ⟨t.serve, .idle⟩
      | .idle, (t, some e) => some (if e = osError then ⟨t.beginStop, .joining true⟩ else ⟨t, .idle⟩)
      | .joining _, _ => none
  | .stop =>
      match s.caller with
      | .idle => some ⟨s.server.beginStop, .joining false⟩
      | .joining _ => none
  | .joined =>
      match s.caller with
      | .idle => none
      | .joining rollingBack =>
          let t := s.server.endStop
          some ⟨if rollingBack then { t with boundPort := none } else t, .idle⟩
  | .move i e => do
      let place ← s.server.started[i]?
      let (place, spawned) ← backendMove s.server.flags place e
      return { s with server := s.server.goOn i place spawned }
  | .critical i => do
      let place ← s.server.started[i]?
      let _ ← backendSection place
      return { s with server := s.server.goOn i (backendAfter place ⟨0, .initial⟩) [] }

/-- A backend that was just made.
Source: `src/proxy/backend.py` `EchoBackend.__init__`
Kind: D -/
def Serving.initial (host : PyStr) (port : Int) (enableUdp : Bool) : Serving :=
  ⟨{ host, port, enableUdp }, .idle⟩

/-- A call of `start` is its step, and behind the joins of a rollback the end of them.
Source: `src/proxy/backend.py` `EchoBackend.start`
Kind: L -/
lemma servingStep_start (idna : PyStr → Except PyExc Bytes) (os : Os) (s : BackendServer) :
    (if (s.start idna os).2 = some osError then
      (servingStep idna ⟨s, .idle⟩ (.start os)).bind fun t => servingStep idna t .joined
    else servingStep idna ⟨s, .idle⟩ (.start os)) = some ⟨(s.start idna os).1, .idle⟩ := by
  unfold BackendServer.start servingStep
  rcases hopen : s.clearStop.openSockets idna os with ⟨t, _ | e⟩
  · simp [hopen]
  · by_cases he : e = osError
    · subst he
      simp [hopen, BackendServer.rollBack]
    · simp [hopen, he]

/-- The step is no failure of the last running accept loop, while a socket is held, beside another live thread
of the list.
Source: none: specification
Kind: D -/
def Harmless (s : Serving) : ServingAction → Prop
  | .move i e =>
      ∀ place, s.server.started[i]? = some (.accept place) → e = .osError ∨ e = .raised →
        s.server.tcpSocket.isSome = true →
        (∃ j other, j ≠ i ∧ s.server.started[j]? = some (.accept other) ∧ other ≠ .ended) ∨
          ∀ j ∈ s.server.threads, j ≠ i → s.server.aliveAt j = false
  | _ => True

/-! ## What a thread does -/

/-- A thread that moves is alive.
Source: `src/proxy/backend.py` `EchoBackend`
Kind: L -/
lemma alive_of_backendMove {flags : BackendFlags} {place : Place} {e : BackendEvent}
    {r : Place × List Place} (h : backendMove flags place e = some r) : place.alive = true := by
  rcases place with ⟨_ | _⟩ | ⟨conn, _ | _⟩ | ⟨_ | _⟩ | ⟨_ | _⟩ <;> first | rfl | cases h

/-- A thread with a section is alive.
Source: `src/proxy/backend.py` `EchoBackend`
Kind: L -/
lemma alive_of_backendSection {place : Place} {body : List Instr} (h : backendSection place = some body) :
    place.alive = true := by
  rcases place with ⟨_ | _⟩ | ⟨conn, _ | _⟩ | ⟨_ | _⟩ | ⟨_ | _⟩ <;> first | rfl | cases h

/-- Is the thread an accept loop?
Source: none: infrastructure
Kind: D -/
def Place.isAccept : Place → Bool
  | .accept _ => true
  | _ => false

/-- Why an accept loop ends.
Source: `src/proxy/backend.py` `EchoBackend._accept_loop`
Kind: L -/
lemma acceptMove_ended {flags : BackendFlags} {place : AcceptPlace} {e : BackendEvent}
    {spawned : List Place} (h : acceptMove flags place e = some (.ended, spawned)) :
    spawned = [] ∧ (flags.stop = true ∨ flags.tcpSocket = false ∨ e = .osError ∨ e = .raised) := by
  rcases flags with ⟨stop, tcpSocket, udpSocket⟩
  unfold acceptMove at h
  split at h
  case h_1 =>
    rcases stop with _ | _ <;> simp at h
    exact ⟨h, Or.inl rfl⟩
  case h_2 =>
    rcases tcpSocket with _ | _ <;> simp at h
    exact ⟨h, Or.inr (Or.inl rfl)⟩
  case h_4 => exact ⟨(Prod.mk.inj (Option.some.inj h)).2.symm, Or.inr (Or.inr (Or.inl rfl))⟩
  case h_7 => exact ⟨(Prod.mk.inj (Option.some.inj h)).2.symm, Or.inr (Or.inr (Or.inr rfl))⟩
  all_goals
    simp at h

/-- A thread that is no accept loop stays none, and starts nothing.
Source: `src/proxy/backend.py` `EchoBackend`
Kind: L -/
lemma backendMove_of_not_accept {flags : BackendFlags} {place place' : Place} {e : BackendEvent}
    {spawned : List Place} (h : backendMove flags place e = some (place', spawned))
    (hplace : place.isAccept = false) : place'.isAccept = false ∧ spawned = [] := by
  unfold backendMove at h
  split at h
  · cases hplace
  · obtain ⟨r, -, heq⟩ := Option.map_eq_some_iff.mp h
    obtain ⟨rfl, rfl⟩ := Prod.mk.inj heq
    exact ⟨rfl, rfl⟩
  · obtain ⟨r, -, heq⟩ := Option.map_eq_some_iff.mp h
    obtain ⟨rfl, rfl⟩ := Prod.mk.inj heq
    exact ⟨rfl, rfl⟩
  · cases h

namespace BackendServer

/-! ## What is alive behind a step -/

lemma foldl_spawn (s : BackendServer) (spawned : List Place) :
    spawned.foldl spawn s = { s with
      threads := s.threads ++ List.range' s.started.length spawned.length
      started := s.started ++ spawned } := by
  induction spawned generalizing s with
  | nil => simp
  | cons place spawned ih =>
      rw [List.foldl_cons, ih]
      simp [spawn, List.range'_succ]

/-- A thread that goes on without starting another one changes nothing but its place.
Source: none: infrastructure
Kind: L -/
lemma goOn_nil (s : BackendServer) (i : Nat) (place : Place) :
    s.goOn i place [] = { s with started := s.started.set i place } := rfl

lemma aliveAt_goOn_nil (s : BackendServer) {i j : Nat} (place : Place) (hne : j ≠ i) :
    (s.goOn i place []).aliveAt j = s.aliveAt j := by
  unfold aliveAt
  rw [goOn_nil, List.getElem?_set_ne hne.symm]

/-- What holds between the steps: the latch is only set without a socket, a socket that threads were started
on listens, threads are only started on an address, and the status is right.
Source: `src/proxy/backend.py` `EchoBackend`
Kind: D -/
structure Sound (idna : PyStr → Except PyExc Bytes) (s : BackendServer) : Prop where
  latched : s.stop = true → s.tcpSocket = none
  socket : ∀ k, s.tcpSocket = some k → s.started = [] ∨ s.opened[k]? = some ⟨true, true⟩
  address : s.started ≠ [] → convertAddress idna s.host s.port = .ok () ∧ isPort s.port = true
  accepting : s.isServing = true → s.Accepting

/-- Without a socket, or without a thread ever started, the backend does not serve.
Source: `src/proxy/backend.py` `EchoBackend.is_serving`
Kind: L -/
lemma isServing_of_none {s : BackendServer} (h : s.tcpSocket = none) : s.isServing = false := by
  unfold isServing
  rw [h]
  rfl

lemma started_ne_nil_of_isServing {s : BackendServer} (h : s.isServing = true) : s.started ≠ [] := by
  intro hnil
  unfold isServing aliveAt at h
  rw [hnil] at h
  simp at h

/-- **The invariant makes the status right.**
Source: `src/proxy/backend.py` `EchoBackend.is_serving`
Kind: P -/
lemma Sound.truthful {idna : PyStr → Except PyExc Bytes} {s : BackendServer} (h : s.Sound idna) :
    s.Truthful := by
  intro hserving
  refine ⟨?_, h.accepting hserving⟩
  rcases hsocket : s.tcpSocket with _ | k
  · rw [isServing_of_none hsocket] at hserving
    cases hserving
  · exact ⟨k, hsocket, (h.socket k hsocket).resolve_left (started_ne_nil_of_isServing hserving)⟩

/-- An accept loop that goes on leaves the backend accepting.
Source: `src/proxy/backend.py` `EchoBackend._accept_loop`
Kind: L -/
lemma accepting_goOn {s : BackendServer} {i : Nat} {place : AcceptPlace} (spawned : List Place)
    (hi : i < s.started.length) (hplace : place ≠ .ended) :
    (s.goOn i (.accept place) spawned).Accepting := by
  refine ⟨place, ?_, hplace⟩
  unfold goOn
  rw [foldl_spawn]
  exact List.mem_append_left _ (List.mem_set hi _)

/-- Another accept loop stays where it is.
Source: none: infrastructure
Kind: L -/
lemma accepting_goOn_of_other {s : BackendServer} {i j : Nat} {other : AcceptPlace} (place : Place) (hne : j ≠ i)
    (hother : s.started[j]? = some (.accept other)) (hrunning : other ≠ .ended) :
    (s.goOn i place []).Accepting := by
  refine ⟨other, ?_, hrunning⟩
  rw [goOn_nil]
  apply List.mem_of_getElem? (i := j)
  rw [List.getElem?_set_ne hne.symm, hother]

/-- **A step of a thread keeps the invariant if it keeps the status right.**
Source: none: infrastructure
Kind: L -/
lemma Sound.goOn {idna : PyStr → Except PyExc Bytes} {s : BackendServer} (h : s.Sound idna) {i : Nat}
    {place : Place} (hi : s.started[i]? = some place) (place' : Place) (spawned : List Place)
    (haccepting : (s.goOn i place' spawned).isServing = true → (s.goOn i place' spawned).Accepting) :
    (s.goOn i place' spawned).Sound idna := by
  have hne : s.started ≠ [] := List.ne_nil_of_mem (List.mem_of_getElem? hi)
  have hframe : s.goOn i place' spawned = { s with
      threads := s.threads ++ List.range' (s.started.set i place').length spawned.length
      started := s.started.set i place' ++ spawned } := foldl_spawn _ spawned
  refine ⟨?_, ?_, ?_, haccepting⟩
  · rw [hframe]
    exact h.latched
  · rw [hframe]
    exact fun k hk => Or.inr ((h.socket k hk).resolve_left hne)
  · rw [hframe]
    exact fun _ => h.address hne

/-- A thread that is no accept loop cannot make the status wrong.
Source: none: infrastructure
Kind: L -/
lemma Sound.accepting_of_not_accept {idna : PyStr → Except PyExc Bytes} {s : BackendServer} (h : s.Sound idna)
    {i : Nat} {place place' : Place} (hi : s.started[i]? = some place) (halive : place.alive = true)
    (hplace : place.isAccept = false) (hserving : (s.goOn i place' []).isServing = true) :
    (s.goOn i place' []).Accepting := by
  have hbefore : s.isServing = true := by
    unfold isServing at hserving ⊢
    obtain ⟨hsocket, hany⟩ := Bool.and_eq_true_iff.mp hserving
    refine Bool.and_eq_true_iff.mpr ⟨hsocket, ?_⟩
    obtain ⟨j, hj, hjalive⟩ := List.any_eq_true.mp hany
    apply List.any_eq_true.mpr
    refine ⟨j, hj, ?_⟩
    by_cases hji : j = i
    · unfold aliveAt
      rw [hji, hi]
      exact halive
    · rwa [aliveAt_goOn_nil s place' hji] at hjalive
  obtain ⟨other, hmem, hrunning⟩ := h.accepting hbefore
  obtain ⟨j, hj⟩ := List.getElem?_of_mem hmem
  apply accepting_goOn_of_other place' ?_ hj hrunning
  rintro rfl
  rw [hi] at hj
  rw [Option.some.inj hj] at hplace
  cases hplace

end BackendServer

/-! ## Every step -/

/-- **A harmless step of a thread keeps the invariant.**
Source: `src/proxy/backend.py` `EchoBackend`
Kind: P -/
lemma sound_move {idna : PyStr → Except PyExc Bytes} {s : Serving} (h : s.server.Sound idna) {i : Nat}
    {e : BackendEvent} (hharmless : Harmless s (.move i e)) {place place' : Place} {spawned : List Place}
    (hi : s.server.started[i]? = some place)
    (hmove : backendMove s.server.flags place e = some (place', spawned)) :
    (s.server.goOn i place' spawned).Sound idna := by
  apply h.goOn hi
  intro hserving
  have halive := alive_of_backendMove hmove
  have hlength : i < s.server.started.length := (List.getElem?_eq_some_iff.mp hi).1
  rcases hkind : place.isAccept with _ | _
  · obtain ⟨-, rfl⟩ := backendMove_of_not_accept hmove hkind
    exact h.accepting_of_not_accept hi halive hkind hserving
  · rcases place with p | _ | _ | _ <;> try cases hkind
    obtain ⟨⟨p', spawned'⟩, hr, heq⟩ := Option.map_eq_some_iff.mp hmove
    obtain ⟨rfl, rfl⟩ := Prod.mk.inj heq
    by_cases hended : p' = .ended
    · subst hended
      obtain ⟨rfl, hwhy⟩ := acceptMove_ended hr
      have hsocket : s.server.tcpSocket.isSome = true := by
        unfold BackendServer.isServing at hserving
        exact (Bool.and_eq_true_iff.mp hserving).1
      rcases hwhy with hstop | hnone | hfailed
      · rw [h.latched hstop] at hsocket
        cases hsocket
      · rw [show s.server.tcpSocket.isSome = false from hnone] at hsocket
        cases hsocket
      · rcases hharmless p hi hfailed hsocket with ⟨j, other, hne, hj, hrunning⟩ | hnobody
        · exact BackendServer.accepting_goOn_of_other _ hne hj hrunning
        · -- nobody of the list is alive
          exfalso
          unfold BackendServer.isServing at hserving
          obtain ⟨j, hj, hjalive⟩ := List.any_eq_true.mp (Bool.and_eq_true_iff.mp hserving).2
          by_cases hji : j = i
          · unfold BackendServer.aliveAt at hjalive
            rw [hji, BackendServer.goOn_nil, List.getElem?_set_self hlength] at hjalive
            cases hjalive
          · rw [BackendServer.aliveAt_goOn_nil _ _ hji, hnobody j hj hji] at hjalive
            cases hjalive
    · exact BackendServer.accepting_goOn _ hlength hended

/-- A section keeps the invariant.
Source: `src/proxy/backend.py` `EchoBackend`
Kind: L -/
lemma sound_critical {idna : PyStr → Except PyExc Bytes} {s : BackendServer} (h : s.Sound idna) {i : Nat}
    {place : Place} {body : List Instr} (hi : s.started[i]? = some place)
    (hbody : backendSection place = some body) (reg : Registers) :
    (s.goOn i (backendAfter place reg) []).Sound idna := by
  apply h.goOn hi
  intro hserving
  rcases hkind : place.isAccept with _ | _
  · exact h.accepting_of_not_accept hi (alive_of_backendSection hbody) hkind hserving
  · rcases place with p | _ | _ | _ <;> try cases hkind
    rcases p with _ | _ | _ | peer | _ | _ <;> try cases hbody
    exact BackendServer.accepting_goOn [] (List.getElem?_eq_some_iff.mp hi).1 (by decide)

/-- Stopping keeps the invariant.
Source: `src/proxy/backend.py` `EchoBackend.stop`
Kind: L -/
lemma BackendServer.Sound.beginStop {idna : PyStr → Except PyExc Bytes} {s : BackendServer}
    (h : s.started ≠ [] → convertAddress idna s.host s.port = .ok () ∧ isPort s.port = true) :
    s.beginStop.Sound idna := by
  refine ⟨fun _ => rfl, fun k hk => ?_, h, fun hserving => ?_⟩
  · cases hk
  · rw [BackendServer.isServing_of_none rfl] at hserving
    cases hserving

/-- Starting the loops on an open socket makes the status right.
Source: `src/proxy/backend.py` `EchoBackend.start`
Kind: L -/
lemma BackendServer.sound_serve {idna : PyStr → Except PyExc Bytes} {t : BackendServer} {k : Nat}
    (hstop : t.stop = false) (hsocket : t.tcpSocket = some k) (hlistens : t.opened[k]? = some ⟨true, true⟩)
    (haddress : convertAddress idna t.host t.port = .ok () ∧ isPort t.port = true) :
    t.serve.Sound idna := by
  have hserve : ∃ threads rest, t.serve = { t with
      threads := threads
      started := t.started ++ .accept .looping :: rest } := by
    unfold BackendServer.serve
    simp only
    split
    · exact ⟨((t.spawn (.accept .looping)).spawn (.udp .looping)).threads, [.udp .looping], by
        simp [BackendServer.spawn]⟩
    · exact ⟨_, [], rfl⟩
  obtain ⟨threads, rest, hserve⟩ := hserve
  rw [hserve]
  refine ⟨fun h => ?_, fun j hj => Or.inr ?_, fun _ => haddress, fun _ => ?_⟩
  · change t.stop = true at h
    rw [hstop] at h
    cases h
  · change t.tcpSocket = some j at hj
    rw [hsocket] at hj
    rw [← Option.some.inj hj]
    exact hlistens
  · exact ⟨.looping, by simp, by decide⟩

/-- **A call of `start` keeps the invariant, however it ends.**
Source: `src/proxy/backend.py` `EchoBackend.start`
Kind: P -/
lemma sound_start {idna : PyStr → Except PyExc Bytes} {s : BackendServer} (h : s.Sound idna) (os : Os)
    {t : BackendServer} {raised : Option PyExc} (hopen : s.clearStop.openSockets idna os = (t, raised)) :
    (raised = none → t.serve.Sound idna) ∧
      ∀ e, raised = some e → (if e = osError then t.beginStop else t).Sound idna := by
  have hshape := BackendServer.openSockets_fst idna os s.clearStop
  have hrefused := BackendServer.openSockets_refused_iff idna os s.clearStop
  rw [hopen] at hshape hrefused
  constructor
  · rintro rfl
    have hok : (s.clearStop.openSockets idna os).2 = none := by rw [hopen]
    obtain ⟨hheld, haddress⟩ := BackendServer.openSockets_of_ok idna os hok
    rw [hopen] at hheld
    let socket : ServerSocket := ⟨true, true⟩
    have hat : (s.opened ++ [socket])[s.opened.length]? = some socket := by simp
    rcases hheld with hheld | hheld <;> obtain rfl : t = _ := hheld
    · exact BackendServer.sound_serve rfl rfl hat haddress
    · refine BackendServer.sound_serve rfl rfl ?_ haddress
      exact List.getElem?_append_left (by simp [BackendServer.withTcp]) |>.trans hat
  · rintro e rfl
    -- what was started before was started on the same address
    have hframe : t.started = s.started ∧ t.host = s.host ∧ t.port = s.port ∧ t.stop = false := by
      rcases hshape with ⟨hs, -⟩ | ⟨port, listening, hs⟩ | hs <;> obtain rfl : t = _ := hs <;>
        exact ⟨rfl, rfl, rfl, rfl⟩
    obtain ⟨hstarted, hhost, hport, hstop⟩ := hframe
    have haddress : t.started ≠ [] → convertAddress idna t.host t.port = .ok () ∧ isPort t.port = true := by
      rw [hstarted, hhost, hport]
      exact h.address
    split
    · exact BackendServer.Sound.beginStop haddress
    · next he =>
      have hnone : t.started = [] := by
        by_contra hne
        obtain ⟨hconvert, hrange⟩ := haddress hne
        rw [hhost, hport] at hconvert
        rw [hport] at hrange
        rcases (hrefused.mp ⟨e, rfl, he⟩).address with ⟨e', hbad⟩ | ⟨-, hbad⟩
        · change convertAddress idna s.host s.port = .error e' at hbad
          rw [hconvert] at hbad
          cases hbad
        · change isPort s.port = false at hbad
          rw [hrange] at hbad
          cases hbad
      refine ⟨fun hlatched => ?_, fun k _ => Or.inl hnone, haddress, fun hserving => ?_⟩
      · rw [hstop] at hlatched
        cases hlatched
      · exact absurd hnone (BackendServer.started_ne_nil_of_isServing hserving)

/-- **Every harmless step keeps the invariant.**
Source: `src/proxy/backend.py` `EchoBackend`
Kind: P -/
theorem sound_step {idna : PyStr → Except PyExc Bytes} {s t : Serving} {a : ServingAction}
    (h : s.server.Sound idna) (hharmless : Harmless s a) (hstep : servingStep idna s a = some t) :
    t.server.Sound idna := by
  cases a with
  | start os =>
      unfold servingStep at hstep
      rcases hcaller : s.caller with _ | rollingBack <;>
        rcases hopen : s.server.clearStop.openSockets idna os with ⟨u, _ | e⟩ <;>
        simp only [hcaller, hopen] at hstep <;> try cases hstep
      · exact (sound_start h os hopen).1 rfl
      · have hsound := (sound_start h os hopen).2 e rfl
        split at hsound
        · next he => rwa [if_pos he]
        · next he => rwa [if_neg he]
  | stop =>
      unfold servingStep at hstep
      rcases hcaller : s.caller with _ | rollingBack <;> simp only [hcaller] at hstep <;> cases hstep
      exact BackendServer.Sound.beginStop h.address
  | joined =>
      unfold servingStep at hstep
      rcases hcaller : s.caller with _ | rollingBack <;> simp only [hcaller] at hstep <;> cases hstep
      have hsound : s.server.endStop.Sound idna := by
        refine ⟨h.latched, h.socket, h.address, fun hserving => ?_⟩
        unfold BackendServer.isServing BackendServer.endStop at hserving
        simp at hserving
      rcases rollingBack with _ | _
      · exact hsound
      · exact ⟨hsound.latched, hsound.socket, hsound.address, hsound.accepting⟩
  | move i e =>
      obtain ⟨place, hi, hstep⟩ := Option.bind_eq_some_iff.mp hstep
      obtain ⟨⟨place', spawned⟩, hmove, hstep⟩ := Option.bind_eq_some_iff.mp hstep
      obtain rfl := Option.some.inj hstep
      exact sound_move h hharmless hi hmove
  | critical i =>
      obtain ⟨place, hi, hstep⟩ := Option.bind_eq_some_iff.mp hstep
      obtain ⟨body, hbody, hstep⟩ := Option.bind_eq_some_iff.mp hstep
      obtain rfl := Option.some.inj hstep
      exact sound_critical h hi hbody _

/-- **A step that is not harmless makes the status wrong.**
Source: `src/proxy/backend.py` `EchoBackend.is_serving`
Kind: P -/
lemma not_truthful_of_not_harmless {idna : PyStr → Except PyExc Bytes} {s t : Serving} {a : ServingAction}
    (hharmful : ¬ Harmless s a) (hstep : servingStep idna s a = some t) : ¬ t.server.Truthful := by
  rcases a with _ | _ | _ | ⟨i, e⟩ | _ <;> try exact absurd trivial hharmful
  unfold Harmless at hharmful
  push Not at hharmful
  obtain ⟨place, hi, hfailed, hsocket, hlast, j, hj, hji, hjalive⟩ := hharmful
  obtain ⟨place', hi', hgo⟩ := Option.bind_eq_some_iff.mp hstep
  rw [hi] at hi'
  obtain rfl := Option.some.inj hi'
  obtain ⟨⟨place'', spawned⟩, hmove, hgoOn⟩ := Option.bind_eq_some_iff.mp hgo
  obtain rfl := Option.some.inj hgoOn
  have hended : place'' = .accept .ended ∧ spawned = [] := by
    rcases hfailed with rfl | rfl <;> rcases place with _ | _ | _ | _ | _ | _ <;> cases hmove <;>
      exact ⟨rfl, rfl⟩
  obtain ⟨rfl, rfl⟩ := hended
  intro htruthful
  obtain ⟨-, other, hmem, hrunning⟩ := htruthful <| by
    unfold BackendServer.isServing
    apply Bool.and_eq_true_iff.mpr
    refine ⟨hsocket, List.any_eq_true.mpr ⟨j, hj, ?_⟩⟩
    rw [BackendServer.aliveAt_goOn_nil _ _ hji]
    exact (Bool.not_eq_false _).mp hjalive
  obtain ⟨k, hk⟩ := List.getElem?_of_mem hmem
  rw [BackendServer.goOn_nil] at hk
  by_cases hki : k = i
  · rw [hki, List.getElem?_set_self (List.getElem?_eq_some_iff.mp hi).1] at hk
    exact hrunning (Place.accept.inj (Option.some.inj hk)).symm
  · rw [List.getElem?_set_ne (Ne.symm hki)] at hk
    exact hrunning (hlast k other hki hk)

end NetstackSuite.Proxy
