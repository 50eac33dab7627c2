import Mathlib.Data.List.Basic
import Mathlib.Tactic.Common

/-!
# Dialogues: one party's side of an exchange over a byte stream

A `Dialogue` is the program of a party that sends messages and reads replies: a tree whose nodes send
or ask for a number of bytes, and branch on the bytes that arrive. It says nothing about how bytes
arrive; `run` executes it against any reader.

* A stream arrives **cut into segments** (`Incoming`), at places its sender does not choose; a party
  that needs `n` bytes calls `recv` until it has them (`recvExact`).
* `recvExact_stream`: however the stream is cut, that reads what one exact read of the uncut stream
  (`readExact`) reads.
* `run_segments`: so no dialogue can tell two segmentations of a stream apart.
-/

namespace NetstackSuite.Lib

variable {β ε α γ ρ σ : Type}

/-! ## Dialogues -/

/-- One party's side of an exchange.
Source: none: infrastructure
Kind: D -/
inductive Dialogue (β ε α : Type) : Type where
  | done (a : α)
  | fail (e : ε)
  | send (data : List β) (next : Dialogue β ε α)
  /-- Ask for `count` bytes and go on with what is read. -/
  | read (count : Nat) (next : List β → Dialogue β ε α)

namespace Dialogue

/-- One dialogue after another.
Source: none: infrastructure
Kind: D -/
def bind : Dialogue β ε α → (α → Dialogue β ε γ) → Dialogue β ε γ
  | done a, f => f a
  | fail e, _ => fail e
  | send data next, f => send data (next.bind f)
  | read count next, f => read count fun data => (next data).bind f

instance : Monad (Dialogue β ε) where
  pure := done
  bind := bind

/-- A computation that neither sends nor reads.
Source: none: infrastructure
Kind: D -/
def lift : Except ε α → Dialogue β ε α
  | .ok a => done a
  | .error e => fail e

/-- Ask for `count` bytes.
Source: none: infrastructure
Kind: D -/
def ask (count : Nat) : Dialogue β ε (List β) := read count done

/-- Send `data`.
Source: none: infrastructure
Kind: D -/
def tell (data : List β) : Dialogue β ε Unit := send data (done ())

@[simp] lemma pure_eq (a : α) : (pure a : Dialogue β ε α) = done a := rfl

@[simp] lemma bind_eq (d : Dialogue β ε α) (f : α → Dialogue β ε γ) : d >>= f = d.bind f := rfl

@[simp] lemma done_bind (a : α) (f : α → Dialogue β ε γ) : (done a).bind f = f a := rfl

@[simp] lemma fail_bind (e : ε) (f : α → Dialogue β ε γ) : (fail e).bind f = fail e := rfl

@[simp] lemma send_bind (data : List β) (next : Dialogue β ε α) (f : α → Dialogue β ε γ) :
    (send data next).bind f = send data (next.bind f) := rfl

@[simp] lemma read_bind (count : Nat) (next : List β → Dialogue β ε α) (f : α → Dialogue β ε γ) :
    (read count next).bind f = read count fun data => (next data).bind f := rfl

@[simp] lemma ask_bind (count : Nat) (f : List β → Dialogue β ε α) :
    (ask count).bind f = read count f := rfl

@[simp] lemma tell_bind (data : List β) (f : Unit → Dialogue β ε α) :
    (tell data).bind f = send data (f ()) := rfl

@[simp] lemma lift_ok (a : α) : lift (.ok a : Except ε α) = (done a : Dialogue β ε α) := rfl

@[simp] lemma lift_error (e : ε) : lift (.error e : Except ε α) = (fail e : Dialogue β ε α) := rfl

lemma bind_assoc {δ : Type} (d : Dialogue β ε α) (f : α → Dialogue β ε γ) (g : γ → Dialogue β ε δ) :
    (d.bind f).bind g = d.bind fun a => (f a).bind g := by
  induction d with
  | done a => rfl
  | fail e => rfl
  | send data next ih => rw [send_bind, send_bind, send_bind, ih]
  | read count next ih =>
      rw [read_bind, read_bind, read_bind]
      congr 1
      funext data
      exact ih data

end Dialogue

/-! ## Running a dialogue -/

/-- What passes over the connection, as the party sees it.
Source: none: infrastructure
Kind: D -/
inductive Event (β : Type) where
  | sent (data : List β)
  | received (data : List β)
  deriving DecidableEq

/-- A finished run: how it ended, what the reader is left with, and what passed.
Source: none: infrastructure
Kind: D -/
structure Run (β ε ρ α : Type) where
  outcome : Except ε α
  reader : ρ
  events : List (Event β)

/-- The bytes sent, in order.
Source: none: infrastructure
Kind: D -/
def sentBytes (events : List (Event β)) : List β :=
  events.flatMap fun
    | .sent data => data
    | .received _ => []

/-- The run with one more event before it.
Source: none: infrastructure
Kind: D -/
def Run.after (run : Run β ε ρ α) (event : Event β) : Run β ε ρ α :=
  { run with events := event :: run.events }

/-- How bytes arrive: what a request for a number of them gives, and the state it leaves.
Source: none: infrastructure
Kind: D -/
abbrev Reader (β ε ρ : Type) := ρ → Nat → Except ε (List β) × ρ

namespace Dialogue

/-- A dialogue against a reader. A read that fails ends it.
Source: none: infrastructure
Kind: D -/
def run (reader : Reader β ε ρ) : Dialogue β ε α → ρ → Run β ε ρ α
  | done a, r => ⟨.ok a, r, []⟩
  | fail e, r => ⟨.error e, r, []⟩
  | send data next, r => (run reader next r).after (.sent data)
  | read count next, r =>
    match reader r count with
    | (.ok data, r') => (run reader (next data) r').after (.received data)
    | (.error e, r') => ⟨.error e, r', []⟩

variable (reader : Reader β ε ρ)

@[simp] lemma run_done (a : α) (r : ρ) : run reader (done a) r = ⟨.ok a, r, []⟩ := rfl

@[simp] lemma run_fail (e : ε) (r : ρ) :
    run reader (fail e : Dialogue β ε α) r = ⟨.error e, r, []⟩ := rfl

@[simp] lemma run_send (data : List β) (next : Dialogue β ε α) (r : ρ) :
    run reader (send data next) r = (run reader next r).after (.sent data) := rfl

/-- A read that succeeds.
Source: none: infrastructure
Kind: L -/
lemma run_read_ok {count : Nat} {r r' : ρ} {data : List β} (h : reader r count = (.ok data, r'))
    (next : List β → Dialogue β ε α) :
    run reader (read count next) r = (run reader (next data) r').after (.received data) := by
  rw [run, h]

/-- A read that fails.
Source: none: infrastructure
Kind: L -/
lemma run_read_error {count : Nat} {r r' : ρ} {e : ε} (h : reader r count = (.error e, r'))
    (next : List β → Dialogue β ε α) : run reader (read count next) r = ⟨.error e, r', []⟩ := by
  rw [run, h]

/-- **Two readers that answer alike run every dialogue alike.**
Source: none: infrastructure
Kind: P -/
theorem run_simulates {reader' : Reader β ε σ} (Rel : ρ → σ → Prop)
    (hstep : ∀ r s count, Rel r s →
      (reader r count).1 = (reader' s count).1 ∧ Rel (reader r count).2 (reader' s count).2)
    (d : Dialogue β ε α) {r : ρ} {s : σ} (h : Rel r s) :
    (run reader d r).outcome = (run reader' d s).outcome ∧
      (run reader d r).events = (run reader' d s).events ∧
      Rel (run reader d r).reader (run reader' d s).reader := by
  induction d generalizing r s with
  | done a => exact ⟨rfl, rfl, h⟩
  | fail e => exact ⟨rfl, rfl, h⟩
  | send data next ih =>
      obtain ⟨houtcome, hevents, hreader⟩ := ih h
      exact ⟨houtcome, congrArg (Event.sent data :: ·) hevents, hreader⟩
  | read count next ih =>
      obtain ⟨hanswer, hnext⟩ := hstep r s count h
      rcases hread : reader r count with ⟨_ | data, r'⟩
      · rcases hread' : reader' s count with ⟨_ | data', s'⟩
        · rw [hread, hread'] at hanswer hnext
          rw [run_read_error reader hread, run_read_error reader' hread']
          exact ⟨by rw [Except.error.inj hanswer], rfl, hnext⟩
        · rw [hread, hread'] at hanswer
          cases hanswer
      · rcases hread' : reader' s count with ⟨_ | data', s'⟩
        · rw [hread, hread'] at hanswer
          cases hanswer
        · rw [hread, hread'] at hanswer hnext
          obtain rfl := Except.ok.inj hanswer
          rw [run_read_ok reader hread, run_read_ok reader' hread']
          obtain ⟨houtcome, hevents, hreader⟩ := ih data hnext
          exact ⟨houtcome, congrArg (Event.received data :: ·) hevents, hreader⟩

/-- Dialogues one after another over one connection, each whatever became of the one before.
Source: none: infrastructure
Kind: D -/
def runAll : List (Dialogue β ε α) → ρ → List (Except ε α × List (Event β)) × ρ
  | [], r => ([], r)
  | d :: ds, r =>
    let first := run reader d r
    let rest := runAll ds first.reader
    ((first.outcome, first.events) :: rest.1, rest.2)

/-- Two readers that answer alike run every sequence of dialogues alike.
Source: none: infrastructure
Kind: P -/
theorem runAll_simulates {reader' : Reader β ε σ} (Rel : ρ → σ → Prop)
    (hstep : ∀ r s count, Rel r s →
      (reader r count).1 = (reader' s count).1 ∧ Rel (reader r count).2 (reader' s count).2)
    (ds : List (Dialogue β ε α)) {r : ρ} {s : σ} (h : Rel r s) :
    (runAll reader ds r).1 = (runAll reader' ds s).1 := by
  induction ds generalizing r s with
  | nil => rfl
  | cons d ds ih =>
      obtain ⟨houtcome, hevents, hreader⟩ := run_simulates reader Rel hstep d h
      rw [runAll, runAll]
      simp only [houtcome, hevents, ih hreader]

end Dialogue

/-! ## Streams and their segmentations -/

/-- What comes after the last byte of a stream: its end, or an error at every further `recv`.
Source: none: infrastructure
Kind: D -/
inductive Ending (ε : Type) where
  | eof
  | raises (e : ε)

/-- The bytes still to come, and how they end.
Source: none: infrastructure
Kind: D -/
structure ByteStream (β ε : Type) where
  bytes : List β
  ending : Ending ε

/-- A stream as it arrives: in segments, none of them empty.
Source: none: infrastructure
Kind: D -/
structure Incoming (β ε : Type) where
  segments : List {segment : List β // segment ≠ []}
  ending : Ending ε

/-- The stream that these segments are a segmentation of.
Source: none: infrastructure
Kind: D -/
def Incoming.stream (incoming : Incoming β ε) : ByteStream β ε where
  bytes := (incoming.segments.map Subtype.val).flatten
  ending := incoming.ending

/-- A stream that arrives in one segment and then ends.
Source: none: infrastructure
Kind: D -/
def Incoming.single (segment : List β) (h : segment ≠ []) : Incoming β ε := ⟨[⟨segment, h⟩], .eof⟩

@[simp] lemma Incoming.single_bytes (segment : List β) (h : segment ≠ []) :
    (Incoming.single segment h : Incoming β ε).stream.bytes = segment :=
  List.flatten_singleton

/-- What is left of a segment that is longer than a request.
Source: none: infrastructure
Kind: L -/
lemma drop_ne_nil {segment : List β} {limit : Nat} (h : limit < segment.length) :
    segment.drop limit ≠ [] := by
  rw [Ne, List.drop_eq_nil_iff]
  omega

/-- `socket.recv(limit)`: at most `limit` bytes of the next segment; no bytes at the end of the stream.
Source: none: infrastructure
Kind: D -/
def recv (incoming : Incoming β ε) (limit : Nat) : Except ε (List β) × Incoming β ε :=
  match incoming.segments with
  | [] =>
    match incoming.ending with
    | .eof => (.ok [], incoming)
    | .raises e => (.error e, incoming)
  | segment :: segments =>
    if h : limit < segment.val.length then
      (.ok (segment.val.take limit),
        { incoming with segments := ⟨segment.val.drop limit, drop_ne_nil h⟩ :: segments })
    else (.ok segment.val, { incoming with segments := segments })

/-- Receive until the buffer holds `count` bytes. `short` is the error for a stream that ends first.
Source: none: infrastructure
Kind: D -/
def recvInto (short : Nat → Nat → ε) (count : Nat) (buffer : List β) (incoming : Incoming β ε) :
    Except ε (List β) × Incoming β ε :=
  if buffer.length < count then
    match recv incoming (count - buffer.length) with
    | (.error e, incoming) => (.error e, incoming)
    | (.ok chunk, incoming) =>
      if chunk = [] then (.error (short buffer.length count), incoming)
      else recvInto short count (buffer ++ chunk) incoming
  else (.ok buffer, incoming)
termination_by count - buffer.length
decreasing_by
  have hchunk := List.length_pos_iff.mpr ‹¬ chunk = []›
  rw [List.length_append]
  omega

/-- Exactly `count` bytes of a segmented stream.
Source: none: infrastructure
Kind: D -/
def recvExact (short : Nat → Nat → ε) : Reader β ε (Incoming β ε) :=
  fun incoming count => recvInto short count [] incoming

/-- Exactly `count` bytes of a stream, at once.
Source: none: infrastructure
Kind: D -/
def readExact (short : Nat → Nat → ε) : Reader β ε (ByteStream β ε) :=
  fun stream count =>
    if count ≤ stream.bytes.length then
      (.ok (stream.bytes.take count), { stream with bytes := stream.bytes.drop count })
    else
      (.error (match stream.ending with
        | .eof => short stream.bytes.length count
        | .raises e => e),
        { stream with bytes := [] })

/-- Up to `count` bytes, as many as are left: a reader that never fails.
Source: none: infrastructure
Kind: D -/
def readAvailable : Reader β ε (List β) := fun rest count => (.ok (rest.take count), rest.drop count)

/-- A `recv` gives some of the bytes that are left, and leaves the others; it gives none only at the
end.
Source: none: infrastructure
Kind: L -/
lemma recv_cases (incoming : Incoming β ε) {limit : Nat} (hlimit : 0 < limit) :
    (incoming.stream.bytes = [] ∧ incoming.ending = .eof ∧ recv incoming limit = (.ok [], incoming)) ∨
    (∃ e, incoming.stream.bytes = [] ∧ incoming.ending = .raises e ∧
      recv incoming limit = (.error e, incoming)) ∨
    (∃ chunk incoming', recv incoming limit = (.ok chunk, incoming') ∧ chunk ≠ [] ∧
      chunk.length ≤ limit ∧ incoming.stream.bytes = chunk ++ incoming'.stream.bytes ∧
      incoming'.ending = incoming.ending) := by
  rcases incoming with ⟨_ | ⟨segment, segments⟩, ending⟩
  · rcases ending with _ | e
    · exact Or.inl ⟨rfl, rfl, rfl⟩
    · exact Or.inr (Or.inl ⟨e, rfl, rfl, rfl⟩)
  · refine Or.inr (Or.inr ?_)
    by_cases h : limit < segment.val.length
    · refine ⟨segment.val.take limit, ⟨⟨segment.val.drop limit, drop_ne_nil h⟩ :: segments, ending⟩,
        ?_, ?_, ?_, ?_, rfl⟩
      · rw [recv]
        simp only [dif_pos h]
      · rw [Ne, List.take_eq_nil_iff]
        rintro (hzero | hnil)
        · omega
        · exact segment.property hnil
      · exact List.length_take_le _ _
      · show segment.val ++ _ = _ ++ (segment.val.drop limit ++ _)
        rw [← List.append_assoc, List.take_append_drop]
    · refine ⟨segment.val, ⟨segments, ending⟩, ?_, segment.property, by omega, rfl, rfl⟩
      rw [recv]
      simp only [dif_neg h]

/-- Receiving into a buffer reads what is missing of the uncut stream.
Source: none: infrastructure
Kind: P -/
lemma recvInto_stream (short : Nat → Nat → ε) (count : Nat) (buffer : List β)
    (incoming : Incoming β ε) (hbuffer : buffer.length ≤ count) :
    (recvInto short count buffer incoming).1 =
        (readExact short ⟨buffer ++ incoming.stream.bytes, incoming.ending⟩ count).1 ∧
      (recvInto short count buffer incoming).2.stream =
        (readExact short ⟨buffer ++ incoming.stream.bytes, incoming.ending⟩ count).2 := by
  by_cases hmissing : buffer.length < count
  · rw [recvInto, if_pos hmissing]
    have hlimit : 0 < count - buffer.length := by omega
    rcases recv_cases incoming hlimit with
      ⟨hbytes, hending, hrecv⟩ | ⟨e, hbytes, hending, hrecv⟩ |
        ⟨chunk, incoming', hrecv, hchunk, hlength, hbytes, hending⟩
    · have hshort : ¬ count ≤ buffer.length := by omega
      simp only [hrecv, if_true, readExact, hbytes, List.append_nil, if_neg hshort, hending]
      refine ⟨trivial, ?_⟩
      rw [← hbytes]
      simp only [Incoming.stream, hending]
    · have hshort : ¬ count ≤ buffer.length := by omega
      simp only [hrecv, readExact, hbytes, List.append_nil, if_neg hshort, hending]
      refine ⟨trivial, ?_⟩
      rw [← hbytes]
      simp only [Incoming.stream, hending]
    · simp only [hrecv, if_neg hchunk]
      have hgrown : (buffer ++ chunk).length ≤ count := by
        rw [List.length_append]
        omega
      have hrest := recvInto_stream short count (buffer ++ chunk) incoming' hgrown
      rw [List.append_assoc, ← hbytes, hending] at hrest
      exact hrest
  · rw [recvInto, if_neg hmissing]
    have hfull : count = buffer.length := by omega
    have hle : count ≤ (buffer ++ incoming.stream.bytes).length := by
      rw [List.length_append]
      omega
    simp only [readExact, if_pos hle]
    rw [hfull, List.take_left, List.drop_left]
    exact ⟨rfl, rfl⟩
termination_by count - buffer.length
decreasing_by
  have hpositive := List.length_pos_iff.mpr hchunk
  rw [List.length_append]
  omega

/-- **However a stream is cut, an exact read reads the same bytes of it and leaves the same bytes.**
Source: none: infrastructure
Kind: P -/
theorem recvExact_stream (short : Nat → Nat → ε) (incoming : Incoming β ε) (count : Nat) :
    (recvExact short incoming count).1 = (readExact short incoming.stream count).1 ∧
      (recvExact short incoming count).2.stream = (readExact short incoming.stream count).2 :=
  recvInto_stream short count [] incoming (Nat.zero_le count)

/-- An exact read of bytes that are there.
Source: none: infrastructure
Kind: L -/
lemma readExact_append (short : Nat → Nat → ε) (front rest : List β) (ending : Ending ε) {count : Nat}
    (h : front.length = count) :
    readExact short ⟨front ++ rest, ending⟩ count = (.ok front, ⟨rest, ending⟩) := by
  subst h
  unfold readExact
  have hle : front.length ≤ (front ++ rest).length := by
    rw [List.length_append]
    omega
  simp only [if_pos hle, List.take_left, List.drop_left]

/-- An exact read that succeeds takes its bytes off the front of the stream.
Source: none: infrastructure
Kind: L -/
lemma readExact_eq_ok {short : Nat → Nat → ε} {stream stream' : ByteStream β ε} {count : Nat}
    {data : List β} (h : readExact short stream count = (.ok data, stream')) :
    data.length = count ∧ stream = ⟨data ++ stream'.bytes, stream'.ending⟩ := by
  unfold readExact at h
  split at h
  next hle =>
    obtain ⟨hdata, hrest⟩ := Prod.mk.inj h
    obtain rfl := Except.ok.inj hdata
    obtain rfl := hrest
    refine ⟨List.length_take_of_le hle, ?_⟩
    simp only [List.take_append_drop]
  · cases (Prod.mk.inj h).1

namespace Dialogue

variable (short : Nat → Nat → ε)

/-- A segmented stream simulates the uncut one.
Source: none: infrastructure
Kind: L -/
lemma recvExact_step (incoming : Incoming β ε) (stream : ByteStream β ε) (count : Nat)
    (h : incoming.stream = stream) :
    (recvExact short incoming count).1 = (readExact short stream count).1 ∧
      (recvExact short incoming count).2.stream = (readExact short stream count).2 := by
  subst h
  exact recvExact_stream short incoming count

/-- **A dialogue over a segmented stream is the dialogue over the stream.**
Source: none: infrastructure
Kind: P -/
theorem run_segments (d : Dialogue β ε α) (incoming : Incoming β ε) :
    (run (recvExact short) d incoming).outcome = (run (readExact short) d incoming.stream).outcome ∧
      (run (recvExact short) d incoming).events = (run (readExact short) d incoming.stream).events ∧
      (run (recvExact short) d incoming).reader.stream =
        (run (readExact short) d incoming.stream).reader :=
  run_simulates (recvExact short) (fun incoming stream => incoming.stream = stream)
    (recvExact_step short) d rfl

/-- So is every sequence of dialogues.
Source: none: infrastructure
Kind: P -/
theorem runAll_segments (ds : List (Dialogue β ε α)) (incoming : Incoming β ε) :
    (runAll (recvExact short) ds incoming).1 = (runAll (readExact short) ds incoming.stream).1 :=
  runAll_simulates (recvExact short) (fun incoming stream => incoming.stream = stream)
    (recvExact_step short) ds rfl

end Dialogue

end NetstackSuite.Lib
