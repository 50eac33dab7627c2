import Mathlib.Data.List.Chain
import Mathlib.Data.List.DropRight
import NetstackSuite.Lib.Loop

/-!
# Tailing a growing, delimited file

A reader polls a file that only grows. Each poll takes what follows its offset, up to the last
delimiter (`completePart`), processes it and moves the offset past it; a tail without a delimiter
stays for the next poll.

`polls_eq` is the correctness of the scheme for **every** schedule of polls: if processing respects
cuts just after a delimiter (`Incremental`), then polling any chain of growing snapshots gives the
state, and raises the exception, of processing the complete part of the last snapshot at once.
-/

namespace NetstackSuite.Lib

variable {α σ ε : Type} [DecidableEq α]

/-! ## The complete part of a file -/

/-- The file up to and including its last delimiter.
Source: none: infrastructure
Kind: D -/
def completePart (d : α) (l : List α) : List α := l.rdropWhile fun a => a ≠ d

/-- Nothing follows the last delimiter.
Source: none: infrastructure
Kind: D -/
def Framed (d : α) (l : List α) : Prop := l = [] ∨ ∃ a, l = a ++ [d]

variable {d : α}

@[simp] lemma completePart_nil : completePart d [] = [] := rfl

lemma completePart_isPrefix (l : List α) : completePart d l <+: l := List.rdropWhile_prefix _ l

/-- Appending a character that is no delimiter completes nothing.
Source: none: infrastructure
Kind: L -/
lemma completePart_concat_of_ne {x : α} (l : List α) (hx : x ≠ d) :
    completePart d (l ++ [x]) = completePart d l := by
  simp [completePart, hx]

/-- Appending the delimiter completes everything.
Source: none: infrastructure
Kind: L -/
@[simp] lemma completePart_concat_self (l : List α) : completePart d (l ++ [d]) = l ++ [d] := by
  simp [completePart]

/-- The complete part ends with a delimiter, if it is not empty.
Source: none: infrastructure
Kind: L -/
lemma framed_completePart (l : List α) : Framed d (completePart d l) := by
  induction l using List.reverseRecOn with
  | nil => exact .inl rfl
  | append_singleton l x ih =>
      by_cases hx : x = d
      · subst hx
        exact .inr ⟨l, completePart_concat_self l⟩
      · rwa [completePart_concat_of_ne l hx]

/-- A framed part in front does not change what is complete behind it.
Source: none: infrastructure
Kind: P -/
lemma completePart_append {a : List α} (ha : Framed d a) (b : List α) :
    completePart d (a ++ b) = a ++ completePart d b := by
  induction b using List.reverseRecOn with
  | nil =>
      obtain rfl | ⟨a, rfl⟩ := ha
      · rfl
      · simp
  | append_singleton b x ih =>
      rw [← List.append_assoc]
      by_cases hx : x = d
      · subst hx
        rw [completePart_concat_self, completePart_concat_self, List.append_assoc]
      · rw [completePart_concat_of_ne _ hx, completePart_concat_of_ne _ hx, ih]

/-- **Growth appends to the complete part**: the complete part of a longer snapshot is the earlier
one followed by the complete part of what lies behind it.
Source: none: infrastructure
Kind: P -/
lemma completePart_of_isPrefix {p q : List α} (h : p <+: q) :
    completePart d q =
      completePart d p ++ completePart d (q.drop (completePart d p).length) := by
  obtain ⟨t, rfl⟩ := (completePart_isPrefix (d := d) p).trans h
  rw [completePart_append (framed_completePart p), List.drop_left]

/-! ## Delimited lines -/

/-- The lines that have their delimiter, each with it, given the start of the first.
Source: none: infrastructure
Kind: D -/
def terminatedFrom (d : α) : List α → List α → List (List α)
  | _, [] => []
  | cur, a :: l =>
      if a = d then (cur ++ [d]) :: terminatedFrom d [] l else terminatedFrom d (cur ++ [a]) l

/-- The lines that have their delimiter, each with it.
Source: none: infrastructure
Kind: D -/
def terminated (d : α) (l : List α) : List (List α) := terminatedFrom d [] l

lemma terminatedFrom_flatten (cur l : List α) (hcur : d ∉ cur) :
    (terminatedFrom d cur l).flatten = completePart d (cur ++ l) := by
  induction l generalizing cur with
  | nil =>
      have : completePart d cur = [] := by
        rw [completePart, List.rdropWhile_eq_nil_iff]
        intro x hx
        have : x ≠ d := fun h => hcur (h ▸ hx)
        simpa using this
      simp [terminatedFrom, this]
  | cons a l ih =>
      by_cases ha : a = d
      · subst ha
        have hcut := completePart_append (d := a) (a := cur ++ [a]) (.inr ⟨cur, rfl⟩) l
        have htail := ih [] (by simp)
        rw [List.nil_append] at htail
        simp only [terminatedFrom, if_true, List.flatten_cons, htail, ← hcut, List.append_assoc,
          List.singleton_append]
      · have hcur' : d ∉ cur ++ [a] := by simp [hcur, Ne.symm ha]
        simp only [terminatedFrom, ha, if_false, ih _ hcur', List.append_assoc,
          List.singleton_append]

/-- **The complete part of a file is its terminated lines, in order, each once.**
Source: none: infrastructure
Kind: P -/
theorem terminated_flatten (l : List α) : (terminated d l).flatten = completePart d l :=
  terminatedFrom_flatten [] l (by simp)

/-- One line, with its delimiter.
Source: none: infrastructure
Kind: D -/
def IsLine (d : α) (l : List α) : Prop := ∃ a, d ∉ a ∧ l = a ++ [d]

omit [DecidableEq α] in
lemma IsLine.framed {l : List α} (h : IsLine d l) : Framed d l := by
  obtain ⟨a, -, rfl⟩ := h
  exact .inr ⟨a, rfl⟩

omit [DecidableEq α] in
lemma Framed.append {a b : List α} (ha : Framed d a) (hb : Framed d b) : Framed d (a ++ b) := by
  obtain rfl | ⟨b, rfl⟩ := hb
  · rwa [List.append_nil]
  · exact .inr ⟨a ++ b, by rw [List.append_assoc]⟩

/-- A framed file is complete.
Source: none: infrastructure
Kind: L -/
lemma completePart_of_framed {l : List α} (h : Framed d l) : completePart d l = l := by
  obtain rfl | ⟨a, rfl⟩ := h
  · rfl
  · exact completePart_concat_self a

lemma isLine_of_mem_terminatedFrom {cur l x : List α} (hcur : d ∉ cur)
    (hx : x ∈ terminatedFrom d cur l) : IsLine d x := by
  induction l generalizing cur with
  | nil => cases hx
  | cons a l ih =>
      rw [terminatedFrom] at hx
      split at hx
      · rcases List.mem_cons.mp hx with rfl | hx
        · exact ⟨cur, hcur, rfl⟩
        · exact ih (by simp) hx
      · next ha => exact ih (by simp [hcur, Ne.symm ha]) hx

/-- Every terminated line is a line.
Source: none: infrastructure
Kind: L -/
lemma isLine_of_mem_terminated {l x : List α} (hx : x ∈ terminated d l) : IsLine d x :=
  isLine_of_mem_terminatedFrom (by simp) hx

/-- **Induction on a framed file, line by line from the front.**
Source: none: infrastructure
Kind: P -/
theorem Framed.induction {P : List α → Prop} (nil : P [])
    (line : ∀ p b, Framed d p → IsLine d b → P p → P (p ++ b)) {l : List α} (hl : Framed d l) :
    P l := by
  have hlines : ∀ lines : List (List α), (∀ x ∈ lines, IsLine d x) →
      Framed d lines.flatten ∧ P lines.flatten := by
    intro lines
    induction lines using List.reverseRecOn with
    | nil => exact fun _ => ⟨.inl rfl, nil⟩
    | append_singleton lines b ih =>
        intro h
        obtain ⟨hframed, hP⟩ := ih fun x hx => h x (List.mem_append_left _ hx)
        have hb := h b (by simp)
        rw [List.flatten_append, List.flatten_singleton]
        exact ⟨hframed.append hb.framed, line _ b hframed hb hP⟩
  have h := (hlines (terminated d l) fun x hx => isLine_of_mem_terminated hx).2
  rwa [terminated_flatten, completePart_of_framed hl] at h

omit [DecidableEq α] in
lemma framed_flatten {lines : List (List α)} (h : ∀ x ∈ lines, IsLine d x) :
    Framed d lines.flatten := by
  induction lines using List.reverseRecOn with
  | nil => exact .inl rfl
  | append_singleton lines b ih =>
      rw [List.flatten_append, List.flatten_singleton]
      exact (ih fun x hx => h x (List.mem_append_left _ hx)).append (h b (by simp)).framed

/-- **Of a file that is written line by line, the lines written so far are complete**: the complete part
of a prefix of some lines is the first few of them.
Source: none: infrastructure
Kind: P -/
theorem completePart_of_isPrefix_flatten {lines : List (List α)} (h : ∀ x ∈ lines, IsLine d x)
    {file : List α} (hfile : file <+: lines.flatten) :
    ∃ k, completePart d file = (lines.take k).flatten := by
  induction lines generalizing file with
  | nil =>
      rw [List.flatten_nil, List.prefix_nil] at hfile
      exact ⟨0, by simp [hfile]⟩
  | cons x lines ih =>
      obtain ⟨hx, hlines⟩ := List.forall_mem_cons.mp h
      rw [List.flatten_cons] at hfile
      rcases List.prefix_or_prefix_of_prefix hfile (List.prefix_append x _) with hle | ⟨rest, rfl⟩
      · obtain ⟨a, ha, rfl⟩ := hx
        rcases List.prefix_concat_iff.mp hle with rfl | hle
        · exact ⟨1, by simp⟩
        · -- no delimiter yet
          refine ⟨0, ?_⟩
          rw [completePart, List.take_zero, List.flatten_nil, List.rdropWhile_eq_nil_iff]
          intro y hy
          have hne : y ≠ d := fun he => ha (he ▸ hle.subset hy)
          simpa using hne
      · obtain ⟨k, hk⟩ := ih hlines ((List.prefix_append_right_inj x).mp hfile)
        refine ⟨k + 1, ?_⟩
        rw [completePart_append hx.framed, hk, List.take_succ_cons, List.flatten_cons]

/-! ## Offsets just behind a delimiter -/

/-- An offset a reader can have: within the file, and just behind a delimiter or at its start.
Source: none: infrastructure
Kind: D -/
structure AtBoundary (d : α) (file : List α) (offset : Nat) : Prop where
  framed : Framed d (file.take offset)
  le : offset ≤ file.length

omit [DecidableEq α] in
lemma AtBoundary.zero (file : List α) : AtBoundary d file 0 := ⟨.inl rfl, Nat.zero_le _⟩

omit [DecidableEq α] in
/-- Growth leaves the offset, and what lies before it, alone.
Source: none: infrastructure
Kind: L -/
lemma AtBoundary.append {file : List α} {offset : Nat} (h : AtBoundary d file offset)
    (more : List α) :
    AtBoundary d (file ++ more) offset ∧ (file ++ more).take offset = file.take offset := by
  have htake : (file ++ more).take offset = file.take offset := List.take_append_of_le_length h.le
  exact ⟨⟨htake ▸ h.framed, h.le.trans (by simp)⟩, htake⟩

/-- Consuming what is complete behind the offset leads to the end of the complete part.
Source: none: infrastructure
Kind: P -/
lemma AtBoundary.consume {file : List α} {offset : Nat} (h : AtBoundary d file offset) :
    let chunk := completePart d (file.drop offset)
    AtBoundary d file (offset + chunk.length) ∧
      file.take (offset + chunk.length) = file.take offset ++ chunk ∧
      completePart d file = file.take (offset + chunk.length) := by
  intro chunk
  have hwhole : completePart d file = file.take offset ++ chunk := by
    calc completePart d file
        = completePart d (file.take offset ++ file.drop offset) := by rw [List.take_append_drop]
      _ = file.take offset ++ chunk := completePart_append h.framed _
  have hle := (completePart_isPrefix (d := d) file).length_le
  have hlen : (completePart d file).length = offset + chunk.length := by
    rw [hwhole, List.length_append, List.length_take_of_le h.le]
  have htake : file.take (offset + chunk.length) = completePart d file := by
    rw [← hlen]
    exact (List.prefix_iff_eq_take.mp (completePart_isPrefix file)).symm
  refine ⟨⟨?_, hlen ▸ hle⟩, htake.trans hwhole, htake.symm⟩
  rw [htake]
  exact framed_completePart file

/-! ## Polling -/

/-- One poll: process what is complete behind the offset, and advance the offset unless that raised.
Source: none: infrastructure
Kind: D -/
def poll (d : α) (process : List α → σ → Outcome σ ε) (st : Nat × σ) (file : List α) :
    Outcome (Nat × σ) ε :=
  let chunk := completePart d (file.drop st.1)
  match process chunk st.2 with
  | (s, none) => ((st.1 + chunk.length, s), none)
  | (s, some e) => ((st.1, s), some e)

/-- Processing respects cuts just after a delimiter, on the states that occur.
Source: none: infrastructure
Kind: D -/
structure Incremental (d : α) (Valid : σ → Prop) (process : List α → σ → Outcome σ ε) : Prop where
  /-- Nothing to process. -/
  nil : ∀ s, Valid s → process [] s = (s, none)
  /-- Two chunks at once are the two in sequence. -/
  append : ∀ a b s, Framed d a → Valid s →
    process (a ++ b) s = andThen (process a s) (process b)
  /-- The states that occur are closed under processing. -/
  valid : ∀ a s, Valid s → Valid (process a s).1

/-- The snapshots a reader sees of a file that ends up as `content`: each extends the one before,
and the last is the whole.
Source: none: infrastructure
Kind: D -/
structure Schedule (content : List α) where
  /-- The snapshots before the last. -/
  snapshots : List (List α)
  /-- The file only grows. -/
  grows : (snapshots ++ [content]).IsChain (· <+: ·)

omit [DecidableEq α] in
/-- In a chain of growing snapshots the first is a prefix of the last.
Source: none: infrastructure
Kind: L -/
lemma isPrefix_last {p content : List α} {files : List (List α)}
    (h : (p :: (files ++ [content])).IsChain (· <+: ·)) : p <+: content := by
  induction files generalizing p with
  | nil =>
      rw [List.nil_append, List.isChain_cons_cons] at h
      exact h.1
  | cons q files ih =>
      rw [List.cons_append, List.isChain_cons_cons] at h
      exact h.1.trans (ih h.2)

/-- Everything the reader sees.
Source: none: infrastructure
Kind: D -/
def Schedule.all {content : List α} (sch : Schedule content) : List (List α) :=
  sch.snapshots ++ [content]

section

variable {Valid : σ → Prop} {process : List α → σ → Outcome σ ε}

/-- A poll of a longer snapshot brings the state from that of the earlier complete part to that of
the later one.
Source: none: infrastructure
Kind: P -/
lemma poll_of_isPrefix (hp : Incremental d Valid process) {s₀ s : σ} (hs₀ : Valid s₀)
    {p q : List α} (hpq : p <+: q) (hs : process (completePart d p) s₀ = (s, none)) :
    (poll d process ((completePart d p).length, s) q).1.2 = (process (completePart d q) s₀).1 ∧
      (poll d process ((completePart d p).length, s) q).2 = (process (completePart d q) s₀).2 ∧
      ((process (completePart d q) s₀).2 = none →
        (poll d process ((completePart d p).length, s) q).1.1 = (completePart d q).length) := by
  have hcut := completePart_of_isPrefix (d := d) hpq
  have hproc : process (completePart d q) s₀ =
      process (completePart d (q.drop (completePart d p).length)) s := by
    rw [hcut, hp.append _ _ s₀ (framed_completePart p) hs₀, hs, andThen_none]
  rw [hproc]
  simp only [poll]
  rcases process (completePart d (q.drop (completePart d p).length)) s with ⟨t, _ | e⟩
  · refine ⟨rfl, rfl, ?_⟩
    intro _
    rw [hcut, List.length_append]
  · exact ⟨rfl, rfl, nofun⟩

/-- A poll that went through, followed by one of a longer snapshot, is the one poll of the longer
snapshot.
Source: none: infrastructure
Kind: P -/
lemma poll_poll (hp : Incremental d Valid process) {st st' : Nat × σ} (hst : Valid st.2)
    {p q : List α} (hpq : p <+: q) (h : poll d process st p = (st', none)) :
    (poll d process st' q).1.2 = (poll d process st q).1.2 ∧
      (poll d process st' q).2 = (poll d process st q).2 := by
  have hdrop : p.drop st.1 <+: q.drop st.1 := by
    obtain ⟨t, rfl⟩ := hpq
    rw [List.drop_append]
    exact List.prefix_append _ _
  have hcut := completePart_of_isPrefix (d := d) hdrop
  rw [List.drop_drop] at hcut
  simp only [poll] at h ⊢
  rw [hcut, hp.append _ _ st.2 (framed_completePart _) hst]
  rcases hs : process (completePart d (p.drop st.1)) st.2 with ⟨s, _ | e⟩ <;> rw [hs] at h
  · cases h
    rw [andThen_none]
    rcases process (completePart d (q.drop (st.1 + (completePart d (p.drop st.1)).length))) s with
      ⟨t, _ | e⟩ <;> exact ⟨rfl, rfl⟩
  · cases h

/-- **Polling equals reading once**, from any earlier snapshot on.
Source: none: infrastructure
Kind: P -/
lemma polls_from (hp : Incremental d Valid process) {s₀ : σ} (hs₀ : Valid s₀) (files : List (List α))
    {s : σ} {p content : List α} (hchain : (p :: (files ++ [content])).IsChain (· <+: ·))
    (hs : process (completePart d p) s₀ = (s, none)) :
    let r := run (poll d process) (files ++ [content]) ((completePart d p).length, s)
    r.1.2 = (process (completePart d content) s₀).1 ∧
      r.2 = (process (completePart d content) s₀).2 ∧
      (r.2 = none → r.1.1 = (completePart d content).length) := by
  induction files generalizing p s with
  | nil =>
      rw [List.nil_append, List.isChain_cons_cons] at hchain
      obtain ⟨h₁, h₂, h₃⟩ := poll_of_isPrefix hp hs₀ hchain.1 hs
      simp only [List.nil_append, run_cons]
      rcases hpoll : poll d process ((completePart d p).length, s) content with ⟨⟨o, t⟩, _ | e⟩
      · rw [hpoll] at h₁ h₂ h₃
        exact ⟨h₁, h₂, fun _ => h₃ h₂.symm⟩
      · rw [hpoll] at h₁ h₂ h₃
        exact ⟨h₁, h₂, nofun⟩
  | cons q files ih =>
      rw [List.cons_append, List.isChain_cons_cons] at hchain
      obtain ⟨h₁, h₂, h₃⟩ := poll_of_isPrefix hp hs₀ hchain.1 hs
      simp only [List.cons_append, run_cons]
      rcases hq : process (completePart d q) s₀ with ⟨t, _ | e⟩
      · -- the poll of `q` went through: continue from `q`
        rw [hq] at h₁ h₂ h₃
        have hpoll : poll d process ((completePart d p).length, s) q =
            (((completePart d q).length, t), none) :=
          Prod.ext (Prod.ext (h₃ rfl) h₁) h₂
        rw [hpoll, andThen_none]
        exact ih hchain.2 hq
      · -- the poll of `q` raised, and so does reading everything at once
        rw [hq] at h₁ h₂
        have hqc : q <+: content := isPrefix_last hchain.2
        have hall : process (completePart d content) s₀ = (t, some e) := by
          rw [completePart_of_isPrefix (d := d) hqc, hp.append _ _ s₀ (framed_completePart q) hs₀, hq,
            andThen_some]
        rcases hpoll : poll d process ((completePart d p).length, s) q with ⟨⟨o, t'⟩, r⟩
        rw [hpoll] at h₁ h₂
        simp only at h₁ h₂
        subst h₁ h₂
        rw [hall, andThen_some]
        exact ⟨rfl, rfl, nofun⟩

/-- **Polling equals reading once**, for every schedule, starting at offset `0`: the same state, the
same exception if any, and, if none, an offset just past the last delimiter.
Source: none: infrastructure
Kind: P -/
theorem polls_eq (hp : Incremental d Valid process) {s₀ : σ} (hs₀ : Valid s₀) {content : List α}
    (sch : Schedule content) :
    let r := run (poll d process) sch.all (0, s₀)
    r.1.2 = (process (completePart d content) s₀).1 ∧
      r.2 = (process (completePart d content) s₀).2 ∧
      (r.2 = none → r.1.1 = (completePart d content).length) :=
  polls_from hp hs₀ sch.snapshots (p := []) (sch.grows.cons fun _ _ => List.nil_prefix) (hp.nil s₀ hs₀)

end

end NetstackSuite.Lib
