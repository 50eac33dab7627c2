import NetstackSuite.Python.Utf8
import NetstackSuite.Runner.Tailing

/-!
# Records and lines

A writer ends each record with one newline byte. `read_new_lines` of `src/runner.py` cuts a log there, but
splits what it has cut with `str.splitlines`, which knows nine more boundaries. `framing_iff` says for which
records the lines are the records.
-/

namespace NetstackSuite.Runner

open NetstackSuite.Python NetstackSuite.Lib

/-! ## The log of some records -/

/-- A record: a text that can be encoded, without newlines and carriage returns.
Source: none: specification
Kind: D -/
structure Record where
  text : PyStr
  data : Bytes
  encoded : encode text = .ok data
  noLF : LF ∉ text
  noCR : CR ∉ text

/-- The record and its terminator.
Source: none: specification
Kind: D -/
def Record.line (r : Record) : Bytes := r.data ++ [NEWLINE]

/-- The log, one record per line.
Source: none: specification
Kind: D -/
def logOf (records : List Record) : Bytes := records.flatMap Record.line

/-- `not ln.strip()`.
Source: `src/runner.py` `read_new_lines`
Kind: D -/
def blank (s : PyStr) : Bool := (strip s).isEmpty

/-- The records that are not blank.
Source: none: specification
Kind: D -/
def nonBlank (records : List Record) : List PyStr :=
  (records.map Record.text).filter fun text => !blank text

/-! ## What `splitlines` makes of a line -/

/-- A text is blank exactly if it consists of whitespace.
Source: Python `str.strip`
Kind: L -/
lemma blank_iff (s : PyStr) : blank s = true ↔ ∀ c ∈ s, isSpace c = true := by
  unfold blank strip
  rw [List.isEmpty_iff, List.rdropWhile_eq_nil_iff]
  constructor
  · intro h
    have hall : s.dropWhile isSpace = [] := by
      rcases hdrop : s.dropWhile isSpace with _ | ⟨c, rest⟩
      · rfl
      · have hhead := List.head?_dropWhile_not isSpace s
        rw [hdrop] at h hhead
        simp [h c List.mem_cons_self] at hhead
    exact List.dropWhile_eq_nil_iff.mp hall
  · intro h c hc
    exact h c ((List.dropWhile_suffix isSpace).subset hc)

/-- The lines of a text consist of its other characters.
Source: Python `str.splitlines`
Kind: L -/
lemma mem_splitlinesFrom {cur s ln : PyStr} {afterCR : Bool} {c : CodePoint}
    (hcur : ∀ d ∈ cur, isLineBreak d = false) (hln : ln ∈ splitlinesFrom cur afterCR s) (hc : c ∈ ln) :
    isLineBreak c = false ∧ c ∈ cur ++ s := by
  induction s generalizing cur afterCR with
  | nil =>
      rw [splitlinesFrom] at hln
      split at hln
      · cases hln
      · rw [List.mem_singleton.mp hln] at hc
        exact ⟨hcur c hc, List.mem_append_left _ hc⟩
  | cons d s ih =>
      have hnil : ∀ x ∈ ([] : PyStr), isLineBreak x = false := List.forall_mem_nil _
      rw [splitlinesFrom] at hln
      split at hln
      · obtain ⟨hplain, hmem⟩ := ih hnil hln
        exact ⟨hplain, List.mem_append_right _ (List.mem_cons_of_mem _ hmem)⟩
      · split at hln
        · rcases List.mem_cons.mp hln with rfl | hln
          · exact ⟨hcur c hc, List.mem_append_left _ hc⟩
          · obtain ⟨hplain, hmem⟩ := ih hnil hln
            exact ⟨hplain, List.mem_append_right _ (List.mem_cons_of_mem _ hmem)⟩
        · next hbreak =>
          have hcur' : ∀ x ∈ cur ++ [d], isLineBreak x = false := by
            intro x hx
            rcases List.mem_append.mp hx with hx | hx
            · exact hcur x hx
            · rw [List.mem_singleton.mp hx]
              simpa using hbreak
          have h := ih hcur' hln
          rwa [List.append_assoc, List.singleton_append] at h

/-- Source: Python `str.splitlines`. Kind: L -/
lemma mem_splitlines {s ln : PyStr} {c : CodePoint} (hln : ln ∈ splitlines s) (hc : c ∈ ln) :
    isLineBreak c = false ∧ c ∈ s :=
  mem_splitlinesFrom (List.forall_mem_nil _) hln hc

/-- The text of a line of the log.
Source: Python `bytes.decode`
Kind: L -/
lemma Record.decode_line (r : Record) : decodeReplace r.line = r.text ++ [LF] := by
  apply decodeReplace_encode
  have hascii : encode [LF] = .ok [NEWLINE] := by decide
  have happend : ∀ (s : PyStr) (data : Bytes), encode s = .ok data →
      encode (s ++ [LF]) = .ok (data ++ [NEWLINE]) := by
    intro s
    induction s with
    | nil =>
        intro data h
        obtain rfl := Except.ok.inj h
        exact hascii
    | cons c s ih =>
        intro data h
        rw [encode] at h
        obtain ⟨front, hfront, h⟩ := bind_eq_ok.mp h
        obtain ⟨rest, hrest, h⟩ := bind_eq_ok.mp h
        obtain rfl := Except.ok.inj h
        rw [List.cons_append, encode, hfront, ih rest hrest, List.append_assoc]
        rfl
  exact happend _ _ r.encoded

/-- The lines made of one record.
Source: `src/runner.py` `read_new_lines`
Kind: D -/
def Record.lines (r : Record) : List PyStr := logLines r.line

/-- A record without other line boundaries is one line, unless it is blank.
Source: `src/runner.py` `read_new_lines`
Kind: L -/
lemma Record.lines_of_unbroken {r : Record} (h : ∀ c ∈ r.text, isLineBreak c = false) :
    r.lines = if blank r.text then [] else [r.text] := by
  have hsplit : splitlines (r.text ++ [LF]) = [r.text] := splitlinesFrom_line [] h
  unfold lines logLines
  rw [r.decode_line, hsplit]
  rcases hblank : blank r.text with _ | _ <;> unfold blank at hblank <;> simp [hblank]

/-- A blank record makes no line, whatever it consists of.
Source: `src/runner.py` `read_new_lines`
Kind: L -/
lemma Record.lines_of_blank {r : Record} (h : blank r.text = true) : r.lines = [] := by
  unfold lines logLines
  rw [r.decode_line, List.filter_eq_nil_iff]
  intro ln hln
  have hspace : blank ln = true := by
    apply (blank_iff ln).mpr
    intro c hc
    obtain ⟨hplain, hmem⟩ := mem_splitlines hln hc
    rcases List.mem_append.mp hmem with hmem | hmem
    · exact (blank_iff r.text).mp h c hmem
    · rw [List.mem_singleton.mp hmem] at hplain
      cases hplain
  unfold blank at hspace
  simp [hspace]

/-- No line has a line boundary in it.
Source: `src/runner.py` `read_new_lines`
Kind: L -/
lemma Record.unbroken_of_mem_lines {r : Record} {ln : PyStr} (h : ln ∈ r.lines) :
    ∀ c ∈ ln, isLineBreak c = false :=
  fun _ hc => (mem_splitlines (List.mem_of_mem_filter h) hc).1

/-! ## The lines of a log -/

/-- The lines of the log are those of its records.
Source: `src/runner.py` `read_new_lines`
Kind: L -/
lemma logLines_logOf (records : List Record) : logLines (logOf records) = records.flatMap Record.lines := by
  induction records with
  | nil => rfl
  | cons r records ih =>
      have hframed : Framed NEWLINE r.line := .inr ⟨r.data, rfl⟩
      unfold logOf at ih ⊢
      rw [List.flatMap_cons, List.flatMap_cons, logLines_append hframed, ih]
      rfl

lemma framed_logOf (records : List Record) : Framed NEWLINE (logOf records) := by
  induction records with
  | nil => exact .inl rfl
  | cons r records ih => exact Framed.append (.inr ⟨r.data, rfl⟩) ih

/-- The lines of unbroken records are the records.
Source: `src/runner.py` `read_new_lines`
Kind: L -/
lemma flatMap_lines_of_unbroken {records : List Record}
    (h : ∀ r ∈ records, blank r.text = false → ∀ c ∈ r.text, isLineBreak c = false) :
    records.flatMap Record.lines = nonBlank records := by
  have hcons : ∀ (r : Record) (rest : List Record),
      nonBlank (r :: rest) = (if blank r.text then [] else [r.text]) ++ nonBlank rest := by
    intro r rest
    unfold nonBlank
    rw [List.map_cons, List.filter_cons]
    rcases blank r.text with _ | _ <;> rfl
  induction records with
  | nil => rfl
  | cons r records ih =>
      obtain ⟨hr, hrest⟩ := List.forall_mem_cons.mp h
      rw [List.flatMap_cons, ih hrest, hcons]
      rcases hblank : blank r.text with _ | _
      · rw [Record.lines_of_unbroken (hr hblank), hblank]
      · rw [Record.lines_of_blank hblank]
        rfl

/-- **When the lines are the records.** Over every schedule of polls, the lines returned are exactly the
non-blank records, in order, if and only if no record that is not blank has one of the other boundaries of
`str.splitlines` in it.
Source: `src/runner.py` `read_new_lines`
Kind: P -/
theorem framing_iff (records : List Record) (polls : Schedule (logOf records)) :
    (run pollLines polls.all (0, [])).1.2 = nonBlank records ↔
      ∀ r ∈ records, blank r.text = false → ∀ c ∈ r.text, isLineBreak c = false := by
  have hlines : (run pollLines polls.all (0, [])).1.2 = records.flatMap Record.lines := by
    rw [run_pollLines, ← logLines_completePart, completePart_of_framed (framed_logOf records)]
    exact logLines_logOf records
  rw [hlines]
  constructor
  · intro h r hr hblank
    -- the record is one of the lines
    have hmem : r.text ∈ nonBlank records := by
      apply List.mem_filter.mpr
      exact ⟨List.mem_map_of_mem hr, by rw [hblank]; rfl⟩
    rw [← h] at hmem
    obtain ⟨r', -, hline⟩ := List.mem_flatMap.mp hmem
    exact r'.unbroken_of_mem_lines hline
  · exact flatMap_lines_of_unbroken

/-- A record with a line separator in it.
Source: none: infrastructure
Kind: D -/
def separatedRecord : Record where
  text := [0x61, 0x2028, 0x62]
  data := [0x61, 0xE2, 0x80, 0xA8, 0x62]
  encoded := by decide +kernel
  noLF := by decide
  noCR := by decide

/-- **A line separator cuts the record in two**, in a single poll of the finished log.
Source: `src/runner.py` `read_new_lines`
Kind: P -/
theorem separator_cuts_record :
    (run pollLines ({ snapshots := [], grows := .singleton _ } : Schedule (logOf [separatedRecord])).all
      (0, [])).1.2 = [[0x61], [0x62]] ∧ nonBlank [separatedRecord] = [[0x61, 0x2028, 0x62]] := by
  constructor
  · decide +kernel
  · decide +kernel

end NetstackSuite.Runner
