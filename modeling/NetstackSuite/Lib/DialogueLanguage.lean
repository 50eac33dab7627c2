import NetstackSuite.Lib.Dialogue

/-!
# What a dialogue accepts, how it fails, and what it sends when

Four readings of a dialogue that do not mention a run, each with its rule for sequencing and the
theorem that ties it to every run over a stream:

* the words it **accepts** (`Accepts`; `accepts_of_run`, `run_of_accepts`);
* the words it **rejects**, and with which error (`Rejects`; `rejects_of_run`);
* the **paths** its events can follow, stopped anywhere (`Path`; `path_of_run`);
* what passes when it **completes** (`Completes`; `completes_of_run`).

`Sends` is the form of a law about paths: what may be sent after which events.
-/

namespace NetstackSuite.Lib

namespace Dialogue

variable {β ε α γ : Type} (short : Nat → Nat → ε)

/-! ## The words a dialogue accepts -/

/-- The dialogue ends with `a` after it has read exactly the bytes `word`.
Source: none: specification
Kind: D -/
def Accepts : Dialogue β ε α → List β → α → Prop
  | done b, word, a => word = [] ∧ b = a
  | fail _, _, _ => False
  | send _ next, word, a => Accepts next word a
  | read count next, word, a =>
    ∃ data rest, data.length = count ∧ word = data ++ rest ∧ Accepts (next data) rest a

@[simp] lemma accepts_done {b a : α} {word : List β} :
    Accepts (done b : Dialogue β ε α) word a ↔ word = [] ∧ b = a := Iff.rfl

@[simp] lemma accepts_fail {e : ε} {a : α} {word : List β} :
    Accepts (fail e : Dialogue β ε α) word a ↔ False := Iff.rfl

@[simp] lemma accepts_send {data : List β} {next : Dialogue β ε α} {a : α} {word : List β} :
    Accepts (send data next) word a ↔ Accepts next word a := Iff.rfl

lemma accepts_read {count : Nat} {next : List β → Dialogue β ε α} {a : α} {word : List β} :
    Accepts (read count next) word a ↔
      ∃ data rest, data.length = count ∧ word = data ++ rest ∧ Accepts (next data) rest a := Iff.rfl

@[simp] lemma accepts_lift {x : Except ε α} {a : α} {word : List β} :
    Accepts (lift x : Dialogue β ε α) word a ↔ word = [] ∧ x = .ok a := by
  rcases x with e | b
  · simp
  · simp

@[simp] lemma accepts_lift_bind {x : Except ε α} {f : α → Dialogue β ε γ} {word : List β} {c : γ} :
    Accepts ((lift x).bind f) word c ↔ ∃ a, x = .ok a ∧ Accepts (f a) word c := by
  rcases x with e | b
  · simp
  · simp

/-- **Of two dialogues in sequence, each accepts its part of the word.**
Source: none: specification
Kind: P -/
theorem accepts_bind {d : Dialogue β ε α} {f : α → Dialogue β ε γ} {word : List β} {c : γ} :
    Accepts (d.bind f) word c ↔
      ∃ a front rest, word = front ++ rest ∧ Accepts d front a ∧ Accepts (f a) rest c := by
  induction d generalizing word with
  | done b =>
      simp only [done_bind, accepts_done]
      constructor
      · intro h
        exact ⟨b, [], word, rfl, ⟨rfl, rfl⟩, h⟩
      · rintro ⟨a, front, rest, rfl, ⟨rfl, rfl⟩, h⟩
        exact h
  | fail e =>
      simp
  | send data next ih => exact ih
  | read count next ih =>
      simp only [read_bind, accepts_read]
      constructor
      · rintro ⟨data, rest, hlength, rfl, h⟩
        obtain ⟨a, front, rest', rfl, ha, hc⟩ := (ih data).mp h
        exact ⟨a, data ++ front, rest', by rw [List.append_assoc], ⟨data, front, hlength, rfl, ha⟩, hc⟩
      · rintro ⟨a, front, rest, rfl, ⟨data, front', hlength, rfl, ha⟩, hc⟩
        exact ⟨data, front' ++ rest, hlength, by rw [List.append_assoc],
          (ih data).mpr ⟨a, front', rest, rfl, ha, hc⟩⟩

/-- **What a run that succeeds has read is a word the dialogue accepts.**
Source: none: specification
Kind: P -/
theorem accepts_of_run {d : Dialogue β ε α} {stream : ByteStream β ε} {a : α}
    (h : (run (readExact short) d stream).outcome = .ok a) :
    ∃ word, stream.bytes = word ++ (run (readExact short) d stream).reader.bytes ∧
      (run (readExact short) d stream).reader.ending = stream.ending ∧ Accepts d word a := by
  induction d generalizing stream with
  | done b => exact ⟨[], rfl, rfl, rfl, Except.ok.inj h⟩
  | fail e => cases h
  | send data next ih => exact ih h
  | read count next ih =>
      rcases hread : readExact short stream count with ⟨_ | data, stream'⟩
      · rw [run_read_error _ hread] at h
        cases h
      · rw [run_read_ok _ hread] at h ⊢
        obtain ⟨hlength, rfl⟩ := readExact_eq_ok hread
        obtain ⟨word, hbytes, hending, haccepts⟩ := ih data h
        refine ⟨data ++ word, ?_, hending, data, word, hlength, rfl, haccepts⟩
        rw [List.append_assoc]
        exact congrArg (data ++ ·) hbytes

/-- **A stream that starts with a word the dialogue accepts is read up to the end of that word.**
Source: none: specification
Kind: P -/
theorem run_of_accepts {d : Dialogue β ε α} {word : List β} {a : α} (h : Accepts d word a)
    (rest : List β) (ending : Ending ε) :
    (run (readExact short) d ⟨word ++ rest, ending⟩).outcome = .ok a ∧
      (run (readExact short) d ⟨word ++ rest, ending⟩).reader = ⟨rest, ending⟩ := by
  induction d generalizing word with
  | done b =>
      obtain ⟨rfl, rfl⟩ := h
      exact ⟨rfl, rfl⟩
  | fail e => exact absurd h id
  | send data next ih => exact ih h
  | read count next ih =>
      obtain ⟨data, word', hlength, rfl, haccepts⟩ := h
      have hread := readExact_append short data (word' ++ rest) ending hlength
      rw [List.append_assoc, run_read_ok _ hread]
      exact ih data haccepts

/-- Whether a dialogue succeeds depends only on the words it accepts.
Source: none: specification
Kind: P -/
theorem outcome_eq_ok_iff {d : Dialogue β ε α} {stream : ByteStream β ε} {a : α} :
    (run (readExact short) d stream).outcome = .ok a ↔
      ∃ word rest, stream.bytes = word ++ rest ∧ Accepts d word a := by
  constructor
  · intro h
    obtain ⟨word, hbytes, -, haccepts⟩ := accepts_of_run short h
    exact ⟨word, _, hbytes, haccepts⟩
  · rintro ⟨word, rest, hbytes, haccepts⟩
    have hstream : stream = ⟨word ++ rest, stream.ending⟩ := by rw [← hbytes]
    rw [hstream]
    exact (run_of_accepts short haccepts rest stream.ending).1

/-! ## The words a dialogue rejects -/

/-- The dialogue fails with `e` after it has read exactly the bytes `word`.
Source: none: specification
Kind: D -/
def Rejects : Dialogue β ε α → List β → ε → Prop
  | done _, _, _ => False
  | fail e', word, e => word = [] ∧ e' = e
  | send _ next, word, e => Rejects next word e
  | read count next, word, e =>
    ∃ data rest, data.length = count ∧ word = data ++ rest ∧ Rejects (next data) rest e

@[simp] lemma rejects_done {a : α} {e : ε} {word : List β} :
    Rejects (done a : Dialogue β ε α) word e ↔ False := Iff.rfl

@[simp] lemma rejects_fail {e' e : ε} {word : List β} :
    Rejects (fail e' : Dialogue β ε α) word e ↔ word = [] ∧ e' = e := Iff.rfl

@[simp] lemma rejects_send {data : List β} {next : Dialogue β ε α} {e : ε} {word : List β} :
    Rejects (send data next) word e ↔ Rejects next word e := Iff.rfl

lemma rejects_read {count : Nat} {next : List β → Dialogue β ε α} {e : ε} {word : List β} :
    Rejects (read count next) word e ↔
      ∃ data rest, data.length = count ∧ word = data ++ rest ∧ Rejects (next data) rest e := Iff.rfl

@[simp] lemma rejects_lift {x : Except ε α} {e : ε} {word : List β} :
    Rejects (lift x : Dialogue β ε α) word e ↔ word = [] ∧ x = .error e := by
  rcases x with e' | a
  · simp
  · simp

@[simp] lemma rejects_lift_bind {x : Except ε α} {f : α → Dialogue β ε γ} {word : List β} {e : ε} :
    Rejects ((lift x).bind f) word e ↔
      (word = [] ∧ x = .error e) ∨ ∃ a, x = .ok a ∧ Rejects (f a) word e := by
  rcases x with e' | a
  · simp
  · simp

/-- **Of two dialogues in sequence, the first rejects, or it accepts and the second rejects.**
Source: none: specification
Kind: P -/
theorem rejects_bind {d : Dialogue β ε α} {f : α → Dialogue β ε γ} {word : List β} {e : ε} :
    Rejects (d.bind f) word e ↔ Rejects d word e ∨
      ∃ a front rest, word = front ++ rest ∧ Accepts d front a ∧ Rejects (f a) rest e := by
  induction d generalizing word with
  | done b =>
      simp only [done_bind, rejects_done, accepts_done, false_or]
      constructor
      · intro h
        exact ⟨b, [], word, rfl, ⟨rfl, rfl⟩, h⟩
      · rintro ⟨a, front, rest, rfl, ⟨rfl, rfl⟩, h⟩
        exact h
  | fail e' => simp
  | send data next ih => exact ih
  | read count next ih =>
      simp only [read_bind, rejects_read, accepts_read]
      constructor
      · rintro ⟨data, rest, hlength, rfl, h⟩
        rcases (ih data).mp h with hfirst | ⟨a, front, rest', rfl, ha, hsecond⟩
        · exact Or.inl ⟨data, rest, hlength, rfl, hfirst⟩
        · exact Or.inr ⟨a, data ++ front, rest', by rw [List.append_assoc],
            ⟨data, front, hlength, rfl, ha⟩, hsecond⟩
      · rintro (⟨data, rest, hlength, rfl, hfirst⟩ | ⟨a, front, rest, rfl, ⟨data, front', hlength, rfl, ha⟩, hsecond⟩)
        · exact ⟨data, rest, hlength, rfl, (ih data).mpr (Or.inl hfirst)⟩
        · exact ⟨data, front' ++ rest, hlength, by rw [List.append_assoc],
            (ih data).mpr (Or.inr ⟨a, front', rest, rfl, ha, hsecond⟩)⟩

/-- **A run over a stream that ends fails where the dialogue rejects what it has read, or because the
stream is too short.**
Source: none: specification
Kind: P -/
theorem rejects_of_run {d : Dialogue β ε α} {stream : ByteStream β ε} (hending : stream.ending = .eof)
    {e : ε} (h : (run (readExact short) d stream).outcome = .error e) :
    (∃ word rest, stream.bytes = word ++ rest ∧ Rejects d word e) ∨
      ∃ received count, e = short received count := by
  induction d generalizing stream with
  | done a => cases h
  | fail e' =>
      obtain rfl := Except.error.inj h
      exact Or.inl ⟨[], stream.bytes, rfl, rfl, rfl⟩
  | send data next ih => exact ih hending h
  | read count next ih =>
      rcases hread : readExact short stream count with ⟨e' | data, stream'⟩
      · rw [run_read_error _ hread] at h
        obtain rfl := Except.error.inj h
        unfold readExact at hread
        split at hread
        · cases (Prod.mk.inj hread).1
        · rw [hending] at hread
          obtain rfl := Except.error.inj (Prod.mk.inj hread).1
          exact Or.inr ⟨_, _, rfl⟩
      · rw [run_read_ok _ hread] at h
        obtain ⟨hlength, rfl⟩ := readExact_eq_ok hread
        have hrest : stream'.ending = .eof := hending
        rcases ih data hrest h with ⟨word, rest, hbytes, hrejects⟩ | hshort
        · refine Or.inl ⟨data ++ word, rest, ?_, data, word, hlength, rfl, hrejects⟩
          rw [List.append_assoc]
          exact congrArg (data ++ ·) hbytes
        · exact Or.inr hshort

/-! ## The paths of a dialogue -/

/-- The dialogue can have come as far as these events.
Source: none: specification
Kind: D -/
def Path : Dialogue β ε α → List (Event β) → Prop
  | _, [] => True
  | send data next, .sent data' :: events => data = data' ∧ Path next events
  | read count next, .received data :: events => data.length = count ∧ Path (next data) events
  | _, _ :: _ => False

@[simp] lemma path_nil (d : Dialogue β ε α) : Path d [] := by
  cases d <;> trivial

@[simp] lemma path_done {a : α} {events : List (Event β)} :
    Path (done a : Dialogue β ε α) events ↔ events = [] := by
  rcases events with _ | ⟨_ | _, _⟩ <;> simp [Path]

@[simp] lemma path_fail {e : ε} {events : List (Event β)} :
    Path (fail e : Dialogue β ε α) events ↔ events = [] := by
  rcases events with _ | ⟨_ | _, _⟩ <;> simp [Path]

/-- After a message.
Source: none: specification
Kind: L -/
lemma path_send {data : List β} {next : Dialogue β ε α} {events : List (Event β)} :
    Path (send data next) events ↔
      events = [] ∨ ∃ rest, events = .sent data :: rest ∧ Path next rest := by
  rcases events with _ | ⟨data' | data', rest⟩
  · simp
  · simp only [Path, reduceCtorEq, List.cons.injEq, Event.sent.injEq, false_or]
    constructor
    · rintro ⟨rfl, h⟩
      exact ⟨rest, ⟨rfl, rfl⟩, h⟩
    · rintro ⟨_, ⟨rfl, rfl⟩, h⟩
      exact ⟨rfl, h⟩
  · simp [Path]

/-- After a reply.
Source: none: specification
Kind: L -/
lemma path_read {count : Nat} {next : List β → Dialogue β ε α} {events : List (Event β)} :
    Path (read count next) events ↔
      events = [] ∨ ∃ data rest, events = .received data :: rest ∧ data.length = count ∧
        Path (next data) rest := by
  rcases events with _ | ⟨data' | data', rest⟩
  · simp
  · simp [Path]
  · simp only [Path, reduceCtorEq, List.cons.injEq, Event.received.injEq, false_or]
    constructor
    · rintro ⟨hlength, h⟩
      exact ⟨data', rest, ⟨rfl, rfl⟩, hlength, h⟩
    · rintro ⟨_, _, ⟨rfl, rfl⟩, hlength, h⟩
      exact ⟨hlength, h⟩

/-- **The events of a run, up to any point, are a path of the dialogue.**
Source: none: specification
Kind: P -/
theorem path_of_run {d : Dialogue β ε α} {stream : ByteStream β ε} {events : List (Event β)}
    (h : events <+: (run (readExact short) d stream).events) : Path d events := by
  induction d generalizing stream events with
  | done a =>
      rw [List.prefix_nil.mp h]
      trivial
  | fail e =>
      rw [List.prefix_nil.mp h]
      trivial
  | send data next ih =>
      rw [path_send]
      rcases events with _ | ⟨event, events⟩
      · exact Or.inl rfl
      · obtain ⟨rfl, hrest⟩ := List.cons_prefix_cons.mp h
        exact Or.inr ⟨events, rfl, ih hrest⟩
  | read count next ih =>
      rw [path_read]
      rcases events with _ | ⟨event, events⟩
      · exact Or.inl rfl
      · rcases hread : readExact short stream count with ⟨e | data, stream'⟩
        · rw [run_read_error _ hread] at h
          exact absurd (List.prefix_nil.mp h) (List.cons_ne_nil event events)
        · rw [run_read_ok _ hread] at h
          obtain ⟨rfl, hrest⟩ := List.cons_prefix_cons.mp h
          exact Or.inr ⟨data, events, rfl, (readExact_eq_ok hread).1, ih data hrest⟩

/-- **The same, however the stream is cut.**
Source: none: specification
Kind: P -/
theorem path_of_segments {d : Dialogue β ε α} {incoming : Incoming β ε} {events : List (Event β)}
    (h : events <+: (run (recvExact short) d incoming).events) : Path d events := by
  rw [(run_segments short d incoming).2.1] at h
  exact path_of_run short h

/-! ## What passes in a dialogue that completes -/

/-- The dialogue ends with `a` after just these events.
Source: none: specification
Kind: D -/
def Completes : Dialogue β ε α → List (Event β) → α → Prop
  | done b, events, a => events = [] ∧ b = a
  | fail _, _, _ => False
  | send data next, events, a => ∃ rest, events = .sent data :: rest ∧ Completes next rest a
  | read count next, events, a =>
    ∃ data rest, data.length = count ∧ events = .received data :: rest ∧ Completes (next data) rest a

/-- What passes is a path to the end.
Source: none: specification
Kind: L -/
lemma Completes.path {d : Dialogue β ε α} {events : List (Event β)} {a : α} (h : Completes d events a) :
    Path d events := by
  induction d generalizing events with
  | done b => exact path_done.mpr h.1
  | fail e => exact h.elim
  | send data next ih =>
      obtain ⟨rest, rfl, hrest⟩ := h
      exact path_send.mpr (Or.inr ⟨rest, rfl, ih hrest⟩)
  | read count next ih =>
      obtain ⟨data, rest, hlength, rfl, hrest⟩ := h
      exact path_read.mpr (Or.inr ⟨data, rest, rfl, hlength, ih data hrest⟩)

/-- A sequence completes with its first part and then with its second.
Source: none: specification
Kind: P -/
theorem completes_bind {d : Dialogue β ε α} {f : α → Dialogue β ε γ} {events : List (Event β)} {c : γ}
    (h : Completes (d.bind f) events c) :
    ∃ a front rest, events = front ++ rest ∧ Completes d front a ∧ Completes (f a) rest c := by
  induction d generalizing events with
  | done a => exact ⟨a, [], events, rfl, ⟨rfl, rfl⟩, h⟩
  | fail e => exact h.elim
  | send data next ih =>
      obtain ⟨rest, rfl, hrest⟩ := h
      obtain ⟨a, front, rest', rfl, ha, hc⟩ := ih hrest
      exact ⟨a, .sent data :: front, rest', rfl, ⟨front, rfl, ha⟩, hc⟩
  | read count next ih =>
      obtain ⟨data, rest, hlength, rfl, hrest⟩ := h
      obtain ⟨a, front, rest', rfl, ha, hc⟩ := ih data hrest
      exact ⟨a, .received data :: front, rest', rfl, ⟨data, front, hlength, rfl, ha⟩, hc⟩

/-- **A run that succeeds completes the dialogue.**
Source: none: specification
Kind: P -/
theorem completes_of_run {d : Dialogue β ε α} {stream : ByteStream β ε} {a : α}
    (h : (run (readExact short) d stream).outcome = .ok a) :
    Completes d (run (readExact short) d stream).events a := by
  induction d generalizing stream with
  | done b => exact ⟨rfl, Except.ok.inj h⟩
  | fail e => cases h
  | send data next ih => exact ⟨_, rfl, ih h⟩
  | read count next ih =>
      rcases hread : readExact short stream count with ⟨_ | data, stream'⟩
      · rw [run_read_error _ hread] at h
        cases h
      · rw [run_read_ok _ hread] at h ⊢
        exact ⟨data, _, (readExact_eq_ok hread).1, rfl, ih data h⟩

/-- **The same, however the stream is cut.**
Source: none: specification
Kind: P -/
theorem completes_of_segments {d : Dialogue β ε α} {incoming : Incoming β ε} {a : α}
    (h : (run (recvExact short) d incoming).outcome = .ok a) :
    Completes d (run (recvExact short) d incoming).events a := by
  obtain ⟨houtcome, hevents, -⟩ := run_segments short d incoming
  rw [houtcome] at h
  rw [hevents]
  exact completes_of_run short h

/-! ## Dialogues that only read -/

/-- The dialogue sends nothing.
Source: none: specification
Kind: D -/
def Silent : Dialogue β ε α → Prop
  | done _ => True
  | fail _ => True
  | send _ _ => False
  | read _ next => ∀ data, Silent (next data)

lemma silent_lift (x : Except ε α) : Silent (lift x : Dialogue β ε α) := by
  rcases x with e | a <;> trivial

lemma silent_ask (count : Nat) : Silent (ask count : Dialogue β ε (List β)) := fun _ => trivial

lemma Silent.bind {d : Dialogue β ε α} {f : α → Dialogue β ε γ} (hd : Silent d)
    (hf : ∀ a, Silent (f a)) : Silent (d.bind f) := by
  induction d with
  | done a => exact hf a
  | fail e => trivial
  | send data next ih => exact hd.elim
  | read count next ih => exact fun data => ih data (hd data)

/-- Nothing is sent on a path of such a dialogue.
Source: none: specification
Kind: L -/
lemma Silent.path {d : Dialogue β ε α} (hd : Silent d) {events : List (Event β)} (h : Path d events) :
    ∀ event ∈ events, ∃ data, event = .received data := by
  induction d generalizing events with
  | done a =>
      rw [path_done.mp h]
      exact nofun
  | fail e =>
      rw [path_fail.mp h]
      exact nofun
  | send data next ih => exact hd.elim
  | read count next ih =>
      rcases path_read.mp h with rfl | ⟨data, rest, rfl, -, hrest⟩
      · exact nofun
      · rw [List.forall_mem_cons]
        exact ⟨⟨data, rfl⟩, ih data (hd data) hrest⟩

end Dialogue

/-! ## What is sent after what -/

/-- Every message among `events` is one that `may` permits after everything before it; `past` is
what came before `events`.
Source: none: specification
Kind: D -/
def Sends {β : Type} (may : List (Event β) → List β → Prop) :
    List (Event β) → List (Event β) → Prop
  | _, [] => True
  | past, .sent data :: events => may past data ∧ Sends may (past ++ [.sent data]) events
  | past, .received data :: events => Sends may (past ++ [.received data]) events

section Sends

variable {β : Type} {may : List (Event β) → List β → Prop}

lemma sends_of_received {events : List (Event β)} (h : ∀ event ∈ events, ∃ data, event = .received data)
    (past : List (Event β)) : Sends may past events := by
  induction events generalizing past with
  | nil => trivial
  | cons event events ih =>
      rw [List.forall_mem_cons] at h
      obtain ⟨⟨data, rfl⟩, hrest⟩ := h
      exact ih hrest _

lemma sentBytes_of_received {events : List (Event β)}
    (h : ∀ event ∈ events, ∃ data, event = .received data) : sentBytes events = [] := by
  unfold sentBytes
  rw [List.flatMap_eq_nil_iff]
  intro event hevent
  obtain ⟨data, rfl⟩ := h event hevent
  rfl

/-- **What `Sends` says of each message.**
Source: none: specification
Kind: P -/
theorem Sends.may_send {past events : List (Event β)} (h : Sends may past events)
    {before after : List (Event β)} {data : List β} (hevents : events = before ++ .sent data :: after) :
    may (past ++ before) data := by
  induction before generalizing past events with
  | nil =>
      subst hevents
      rw [List.append_nil]
      exact h.1
  | cons event before ih =>
      subst hevents
      rcases event with data' | data'
      · rw [List.append_cons]
        exact ih h.2 rfl
      · rw [List.append_cons]
        exact ih h rfl

end Sends

end NetstackSuite.Lib
