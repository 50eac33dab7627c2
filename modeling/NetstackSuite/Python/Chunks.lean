import NetstackSuite.Python.Utf8Cut

/-!
# Decoding and splitting in pieces

What becomes of `data.decode("utf-8", errors="replace").splitlines()` when the bytes arrive in pieces and each is
decoded and split on its own. A text leaves the splitter in a state that the next piece does not see (`SplitsAt`), as
bytes leave the decoder. `flatMap_decodedLines_iff` says what it takes for nothing to be lost: every piece that more
follows ends with a line boundary, and not inside a `\r\n`. That there is no other way is a count of lines: pieces
never give fewer than the whole, and a piece cut off inside a line gives one more.
-/

namespace NetstackSuite.Python

/-! ## Splitting -/

/-- The text ends with a line boundary.
Source: Python `str.splitlines`
Kind: D -/
def endsLine (t : PyStr) : Bool := t.getLast?.any isLineBreak

/-- Where a text leaves the splitter: with these lines, a line begun, and maybe just after a `\r`.
Source: Python `str.splitlines`
Kind: D -/
structure SplitsAt (t : PyStr) (lines : List PyStr) (begun : PyStr) (afterCR : Bool) : Prop where
  splits : ∀ v, splitlines (t ++ v) = lines ++ splitlinesFrom begun afterCR v
  begun_iff : begun = [] ↔ t = [] ∨ endsLine t = true
  afterCR_iff : afterCR = true ↔ t.getLast? = some CR

/-- Source: Python `str.splitlines`. Kind: L -/
lemma exists_splitsAt (t : PyStr) : ∃ lines begun afterCR, SplitsAt t lines begun afterCR := by
  induction t using List.reverseRecOn with
  | nil => exact ⟨[], [], false, fun v => rfl, by simp, by simp⟩
  | append_singleton t c ih =>
      obtain ⟨lines, begun, afterCR, hsplits, hbegun, hafter⟩ := ih
      have hnext (v : PyStr) : splitlines (t ++ [c] ++ v) = lines ++ splitlinesFrom begun afterCR (c :: v) := by
        rw [List.append_assoc, hsplits]
        rfl
      by_cases hLF : afterCR = true ∧ c = LF
      · refine ⟨lines, [], false, fun v => ?_, by simp [endsLine, hLF.2], ?_⟩
        · rw [hnext, splitlinesFrom, if_pos hLF]
        · simp [hLF.2, LF, CR]
      · by_cases hbreak : isLineBreak c = true
        · refine ⟨lines ++ [begun], [], decide (c = CR), fun v => ?_, by simp [endsLine, hbreak], by simp⟩
          rw [hnext, splitlinesFrom, if_neg hLF, if_pos hbreak, List.append_assoc]
          rfl
        · have hCR : c ≠ CR := by
            rintro rfl
            exact hbreak (by decide)
          refine ⟨lines, begun ++ [c], false, fun v => ?_, by simp [endsLine, hbreak], by simp [hCR]⟩
          rw [hnext, splitlinesFrom, if_neg hLF, if_neg hbreak]

/-- What a line begun holds does not matter for how many lines there are.
Source: Python `str.splitlines`
Kind: L -/
lemma length_splitlinesFrom_begun {a b : PyStr} (ha : a ≠ []) (hb : b ≠ []) (v : PyStr) :
    (splitlinesFrom a false v).length = (splitlinesFrom b false v).length := by
  induction v generalizing a b with
  | nil => simp [splitlinesFrom, ha, hb]
  | cons c v ih =>
      simp only [splitlinesFrom, Bool.false_eq_true, false_and, if_false]
      split
      · rfl
      · exact ih (by simp) (by simp)

/-- Nor does whether there is one, if there is text to come.
Source: Python `str.splitlines`
Kind: L -/
lemma length_splitlinesFrom_of_ne_nil (begun : PyStr) {v : PyStr} (hv : v ≠ []) :
    (splitlinesFrom begun false v).length = (splitlines v).length := by
  cases v with
  | nil => exact absurd rfl hv
  | cons c v =>
      simp only [splitlines, splitlinesFrom, Bool.false_eq_true, false_and, if_false]
      split
      · rfl
      · exact length_splitlinesFrom_begun (by simp) (by simp) v

/-- Only a `\n` sees that a `\r` came before.
Source: Python `str.splitlines`
Kind: L -/
lemma splitlinesFrom_afterCR {v : PyStr} (hv : v.head? ≠ some LF) (afterCR : Bool) :
    splitlinesFrom [] afterCR v = splitlines v := by
  cases v with
  | nil => rfl
  | cons c v =>
      have hc : c ≠ LF := fun h => hv (by rw [h]; rfl)
      simp [splitlines, splitlinesFrom, hc]

/-- Nothing is lost at the end of a line.
Source: Python `str.splitlines`
Kind: P -/
theorem splitlines_append {t v : PyStr} (ht : endsLine t = true)
    (hCR : t.getLast? = some CR → v.head? ≠ some LF) : splitlines (t ++ v) = splitlines t ++ splitlines v := by
  obtain ⟨lines, begun, afterCR, hsplits, hbegun, hafter⟩ := exists_splitsAt t
  obtain rfl := hbegun.2 (Or.inr ht)
  have hwhole : splitlines t = lines := by simpa [splitlinesFrom] using hsplits []
  rw [hsplits, hwhole]
  cases afterCR with
  | false => rfl
  | true => rw [splitlinesFrom_afterCR (hCR (hafter.1 rfl))]

/-- Inside a line, one line is lost.
Source: Python `str.splitlines`
Kind: L -/
lemma length_splitlines_append_inLine {t v : PyStr} (ht : t ≠ []) (hopen : endsLine t = false) (hv : v ≠ []) :
    (splitlines (t ++ v)).length + 1 = (splitlines t).length + (splitlines v).length := by
  obtain ⟨lines, begun, afterCR, hsplits, hbegun, hafter⟩ := exists_splitsAt t
  have hne : begun ≠ [] := fun h => (hbegun.1 h).elim ht (by simp [hopen])
  have hCR : afterCR = false := by
    rw [← Bool.not_eq_true, hafter]
    intro hlast
    rw [endsLine, hlast] at hopen
    exact absurd hopen (by decide)
  subst hCR
  have hwhole : splitlines t = lines ++ [begun] := by simpa [splitlinesFrom, hne] using hsplits []
  rw [hsplits, hwhole, List.length_append, length_splitlinesFrom_of_ne_nil begun hv]
  simp only [List.length_append, List.length_singleton]
  omega

/-- Inside a `\r\n` too.
Source: Python `str.splitlines`
Kind: L -/
lemma length_splitlines_append_inCRLF {t v : PyStr} (ht : t.getLast? = some CR) (hv : v.head? = some LF) :
    (splitlines (t ++ v)).length + 1 = (splitlines t).length + (splitlines v).length := by
  obtain ⟨lines, begun, afterCR, hsplits, hbegun, hafter⟩ := exists_splitsAt t
  obtain rfl := hafter.2 ht
  have hends : endsLine t = true := by
    rw [endsLine, ht]
    decide
  obtain rfl := hbegun.2 (Or.inr hends)
  have hwhole : splitlines t = lines := by simpa [splitlinesFrom] using hsplits []
  obtain ⟨w, rfl⟩ := List.head?_eq_some_iff.1 hv
  rw [hsplits, hwhole, List.length_append]
  simp [splitlines, splitlinesFrom, show (LF = CR) = False by decide]
  omega

/-- A character inside a line adds no line to a text that it is put in front of.
Source: Python `str.splitlines`
Kind: L -/
lemma length_splitlines_cons {c : CodePoint} (hc : isLineBreak c = false) {v : PyStr} (hv : v ≠ []) :
    (splitlines (c :: v)).length = (splitlines v).length := by
  rw [splitlines, splitlinesFrom, if_neg (by simp), if_neg (by simp [hc])]
  exact length_splitlinesFrom_of_ne_nil _ hv

/-- A line begun comes out.
Source: Python `str.splitlines`
Kind: L -/
lemma splitlinesFrom_pos {begun : PyStr} (hbegun : begun ≠ []) (v : PyStr) :
    0 < (splitlinesFrom begun false v).length := by
  induction v generalizing begun with
  | nil => simp [splitlinesFrom, hbegun]
  | cons c v ih =>
      rw [splitlinesFrom, if_neg (by simp)]
      split
      · exact Nat.succ_pos _
      · exact ih (by simp)

/-- Source: Python `str.splitlines`. Kind: L -/
lemma length_splitlines_pos {v : PyStr} (hv : v ≠ []) : 0 < (splitlines v).length := by
  rw [← length_splitlinesFrom_of_ne_nil [LF] hv]
  exact splitlinesFrom_pos (by simp) v

/-- Source: Python `str.splitlines`. Kind: L -/
lemma length_splitlines_le_cons {c : CodePoint} (hc : isLineBreak c = false) (v : PyStr) :
    (splitlines v).length ≤ (splitlines (c :: v)).length := by
  by_cases hv : v = []
  · simp [hv]
  · exact (length_splitlines_cons hc hv).ge

/-! ## Decoding and splitting -/

/-- The lines of decoded bytes.
Source: Python `bytes.decode`, `str.splitlines`
Kind: D -/
def decodedLines (data : Bytes) : List PyStr := splitlines (decodeReplace data)

/-- The bytes end with those of a line boundary.
Source: Python `str.splitlines`
Kind: D -/
def EndsWithBoundary (data : Bytes) : Prop :=
  ∃ c boundary, isLineBreak c = true ∧ encodeChar c = .ok boundary ∧ boundary <:+ data

/-- The bytes can be cut here: after a line boundary, and not inside a `\r\n`.
Source: Python `str.splitlines`
Kind: D -/
def CutsBetweenLines (data rest : Bytes) : Prop :=
  EndsWithBoundary data ∧ ¬ ([0x0D] <:+ data ∧ rest.head? = some 0x0A)

/-- A line boundary has an encoding.
Source: Python `str.splitlines`, `str.encode`
Kind: L -/
lemma encodeChar_of_isLineBreak {c : CodePoint} (h : isLineBreak c = true) :
    ∃ boundary, encodeChar c = .ok boundary := by
  simp only [isLineBreak, Bool.or_eq_true, decide_eq_true_eq] at h
  rcases h with ((((((((rfl | rfl) | rfl) | rfl) | rfl) | rfl) | rfl) | rfl) | rfl) | rfl <;> exact ⟨_, rfl⟩

/-- Source: Python `str.splitlines`. Kind: L -/
lemma ne_replacement_of_isLineBreak {c : CodePoint} (h : isLineBreak c = true) : c ≠ REPLACEMENT := by
  rintro rfl
  exact absurd h (by decide)

/-- Source: Python `bytes.decode`, `str.splitlines`. Kind: L -/
lemma endsLine_decodeReplace (data : Bytes) : endsLine (decodeReplace data) = true ↔ EndsWithBoundary data := by
  rw [endsLine, Option.any_eq_true]
  constructor
  · rintro ⟨c, hlast, hc⟩
    obtain ⟨boundary, hboundary⟩ := encodeChar_of_isLineBreak hc
    exact ⟨c, boundary, hc, hboundary,
      (getLast?_decodeReplace (ne_replacement_of_isLineBreak hc) hboundary data).1 hlast⟩
  · rintro ⟨c, boundary, hc, hboundary, hsuffix⟩
    exact ⟨c, (getLast?_decodeReplace (ne_replacement_of_isLineBreak hc) hboundary data).2 hsuffix, hc⟩

/-- Whether bytes can be cut, in terms of what they decode to.
Source: Python `bytes.decode`, `str.splitlines`
Kind: L -/
lemma cutsBetweenLines_iff (data rest : Bytes) :
    CutsBetweenLines data rest ↔ endsLine (decodeReplace data) = true ∧
      ((decodeReplace data).getLast? = some CR → (decodeReplace rest).head? ≠ some LF) := by
  rw [CutsBetweenLines, ← endsLine_decodeReplace, ← head?_decodeReplace_LF,
    ← getLast?_decodeReplace (by decide) (show encodeChar CR = .ok [0x0D] from rfl), not_and]

/-- Source: Python `str.splitlines`. Kind: L -/
lemma length_splitlines_le_replicate (k : Nat) (v : PyStr) :
    (splitlines v).length ≤ (splitlines (List.replicate k REPLACEMENT ++ v)).length := by
  induction k with
  | zero => exact Nat.le_refl _
  | succ k ih =>
      rw [List.replicate_succ, List.cons_append]
      exact ih.trans (length_splitlines_le_cons (by decide) _)

/-- A text, a character inside a line, and what follows.
Source: Python `str.splitlines`
Kind: L -/
lemma SplitsAt.inLine {t begun : PyStr} {lines : List PyStr} {afterCR : Bool} (h : SplitsAt t lines begun afterCR)
    {c : CodePoint} (hc : isLineBreak c = false) (v : PyStr) :
    splitlines (t ++ c :: v) = lines ++ splitlinesFrom (begun ++ [c]) false v := by
  have hLF : c ≠ LF := by
    rintro rfl
    cases hc
  rw [h.splits, splitlinesFrom, if_neg fun hboth => hLF hboth.2, if_neg (by simp [hc])]

/-- **A cut inside a character**, of bytes that go on: the decoder makes one character of what the pieces make
replacement characters of. There are no more lines than those of the pieces, and if there are as many, not the same.
Source: Python `bytes.decode`, `str.splitlines`
Kind: L -/
lemma splitlines_inCharacter (t v : PyStr) {x : CodePoint} {k : Nat} (hx : 0x80 ≤ x.val)
    (hrest : List.replicate k REPLACEMENT ++ v ≠ []) :
    (splitlines (t ++ x :: v)).length ≤
        (splitlines (t ++ [REPLACEMENT])).length + (splitlines (List.replicate k REPLACEMENT ++ v)).length ∧
      ∀ later, (splitlines (List.replicate k REPLACEMENT ++ v)).length ≤ later.length →
        splitlines (t ++ x :: v) ≠ splitlines (t ++ [REPLACEMENT]) ++ later := by
  obtain ⟨lines, begun, afterCR, h⟩ := exists_splitsAt t
  have hpiece : splitlines (t ++ [REPLACEMENT]) = lines ++ [begun ++ [REPLACEMENT]] := by
    rw [h.inLine (by decide)]
    simp [splitlinesFrom]
  rw [hpiece]
  cases hbreak : isLineBreak x with
  | false =>
      have hlength : (splitlinesFrom (begun ++ [x]) false v).length ≤
          (splitlines (List.replicate k REPLACEMENT ++ v)).length := by
        by_cases hv : v = []
        · subst hv
          have hpos := length_splitlines_pos hrest
          simpa [splitlinesFrom] using Nat.succ_le_of_lt hpos
        · rw [length_splitlinesFrom_of_ne_nil _ hv]
          exact length_splitlines_le_replicate k v
      rw [h.inLine hbreak]
      constructor
      · simp only [List.length_append, List.length_singleton]
        omega
      · intro later hlater heq
        have hcount := congrArg List.length heq
        simp only [List.length_append, List.length_singleton] at hcount
        omega
  | true =>
      have hLF : x ≠ LF := by
        rintro rfl
        exact absurd hx (by decide)
      have hCR : x ≠ CR := by
        rintro rfl
        exact absurd hx (by decide)
      have hwhole : splitlines (t ++ x :: v) = lines ++ begun :: splitlines v := by
        rw [h.splits, splitlinesFrom, if_neg fun hboth => hLF hboth.2, if_pos hbreak, decide_eq_false hCR]
        rfl
      rw [hwhole]
      constructor
      · have hlength := length_splitlines_le_replicate k v
        simp only [List.length_append, List.length_cons]
        omega
      · intro later _ heq
        rw [List.append_assoc] at heq
        have hline := (List.cons.inj (List.append_cancel_left heq)).1
        simp at hline

/-- Source: Python `bytes.decode`. Kind: L -/
lemma decodeReplace_ne_nil {data : Bytes} (h : data ≠ []) : decodeReplace data ≠ [] := decodeFrom_ne_nil none h

/-- Source: Python `str.splitlines`. Kind: L -/
lemma length_splitlines_append {t v : PyStr} (ht : t ≠ []) (hv : v ≠ [])
    (hcut : ¬ (endsLine t = true ∧ (t.getLast? = some CR → v.head? ≠ some LF))) :
    (splitlines (t ++ v)).length + 1 = (splitlines t).length + (splitlines v).length := by
  cases hends : endsLine t with
  | false => exact length_splitlines_append_inLine ht hends hv
  | true =>
      obtain ⟨hCR, hLF⟩ : t.getLast? = some CR ∧ v.head? = some LF := by simpa [hends] using hcut
      exact length_splitlines_append_inCRLF hCR hLF

/-- **Two pieces**: together they have no more lines than each for itself has, and the same lines, with others than the
second's own even, only if they are cut between lines.
Source: Python `bytes.decode`, `str.splitlines`
Kind: L -/
lemma decodedLines_append {data rest : Bytes} (hdata : data ≠ []) (hrest : rest ≠ []) :
    (decodedLines (data ++ rest)).length ≤ (decodedLines data).length + (decodedLines rest).length ∧
      ∀ later, (decodedLines rest).length ≤ later.length →
        (decodedLines (data ++ rest) = decodedLines data ++ later ↔
          CutsBetweenLines data rest ∧ decodedLines rest = later) := by
  obtain ⟨t, state, read, hdecodes, hheld, -⟩ := exists_decodesAt data
  have hpiece := hdecodes []
  rw [List.append_nil] at hpiece
  have hmore := decodeReplace_ne_nil hrest
  rw [cutsBetweenLines_iff]
  unfold decodedLines
  rw [hdecodes]
  cases state with
  | none =>
      obtain rfl : decodeReplace data = t := by rw [hpiece, show decodeFrom none [] = [] from rfl, List.append_nil]
      rw [show decodeFrom none rest = decodeReplace rest from rfl]
      by_cases hbetween : endsLine (decodeReplace data) = true ∧
          ((decodeReplace data).getLast? = some CR → (decodeReplace rest).head? ≠ some LF)
      · rw [splitlines_append hbetween.1 hbetween.2]
        constructor
        · rw [List.length_append]
        · intro later _
          rw [List.append_cancel_left_eq]
          exact ⟨fun heq => ⟨hbetween, heq⟩, And.right⟩
      · have hlost := length_splitlines_append (decodeReplace_ne_nil hdata) hmore hbetween
        constructor
        · omega
        · intro later hlater
          constructor
          · intro heq
            have hcount := congrArg List.length heq
            rw [List.length_append] at hcount
            omega
          · rintro ⟨hcut, -⟩
            exact absurd hcut hbetween
  | some p =>
      obtain ⟨x, k, v, hread, hreplaced, hx⟩ := decodeFrom_some hheld rest
      rw [hreplaced] at hmore ⊢
      rw [hread, hpiece, show decodeFrom (some p) [] = [REPLACEMENT] from rfl]
      obtain ⟨hlength, hother⟩ := splitlines_inCharacter t v hx hmore
      refine ⟨hlength, fun later hlater => ⟨fun heq => absurd heq (hother later hlater), ?_⟩⟩
      rintro ⟨⟨hends, -⟩, -⟩
      rw [show endsLine (t ++ [REPLACEMENT]) = false by simp [endsLine, show isLineBreak REPLACEMENT = false by decide]]
        at hends
      cases hends

/-! ## Any number of pieces -/

/-- Every piece that more follows is cut off between lines.
Source: Python `str.splitlines`
Kind: D -/
def CutBetweenLines : List Bytes → Prop
  | [] => True
  | data :: rest => (data ≠ [] → rest.flatten ≠ [] → CutsBetweenLines data rest.flatten) ∧ CutBetweenLines rest

/-- Source: Python `bytes.decode`, `str.splitlines`. Kind: L -/
lemma length_decodedLines_flatten (pieces : List Bytes) :
    (decodedLines pieces.flatten).length ≤ (pieces.flatMap decodedLines).length := by
  induction pieces with
  | nil => exact Nat.le_refl _
  | cons data rest ih =>
      rw [List.flatten_cons, List.flatMap_cons, List.length_append]
      by_cases hdata : data = []
      · subst hdata
        exact ih.trans (Nat.le_add_left _ _)
      · by_cases hrest : rest.flatten = []
        · rw [hrest, List.append_nil]
          exact Nat.le_add_right _ _
        · exact (decodedLines_append hdata hrest).1.trans (Nat.add_le_add_left ih _)

/-- **Bytes decoded and split piece by piece give their lines exactly if every piece is cut off between lines.**
Source: Python `bytes.decode`, `str.splitlines`
Kind: P -/
theorem flatMap_decodedLines_iff (pieces : List Bytes) :
    pieces.flatMap decodedLines = decodedLines pieces.flatten ↔ CutBetweenLines pieces := by
  induction pieces with
  | nil => exact ⟨fun _ => trivial, fun _ => rfl⟩
  | cons data rest ih =>
      have hcount := length_decodedLines_flatten rest
      rw [List.flatten_cons, List.flatMap_cons, CutBetweenLines, ← ih]
      by_cases hdata : data = []
      · subst hdata
        exact ⟨fun heq => ⟨fun h => absurd rfl h, heq⟩, And.right⟩
      · by_cases hrest : rest.flatten = []
        · have hnone : rest.flatMap decodedLines = [] := by
            apply List.flatMap_eq_nil_iff.2
            intro piece hpiece
            rw [List.flatten_eq_nil_iff.1 hrest piece hpiece]
            rfl
          rw [hrest, hnone, List.append_nil, List.append_nil]
          exact ⟨fun _ => ⟨fun _ h => absurd rfl h, rfl⟩, fun _ => rfl⟩
        · rw [eq_comm, (decodedLines_append hdata hrest).2 _ hcount, eq_comm]
          exact and_congr_left' ⟨fun hcut _ _ => hcut, fun hcut => hcut hdata hrest⟩

end NetstackSuite.Python
