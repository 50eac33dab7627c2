import NetstackSuite.Python.Exception
import NetstackSuite.Python.Text

/-!
# Shell words

`shlex.split`: a command line cut into words at blanks, in which quotes protect what is between them and a
backslash the character behind it. A plain word is read back as it is (`shlexSplit_cons`); and a text that is not
plain is never read back, because its protection is gone (`marks_lt_of_mem`).
-/

namespace NetstackSuite.Python

/-! ## The splitter -/

/-- Source: Python `shlex.shlex` (`escape`). Kind: D -/
def BACKSLASH : CodePoint := 0x5C

/-- Source: Python `shlex.shlex` (`escapedquotes`). Kind: D -/
def DOUBLE_QUOTE : CodePoint := 0x22

/-- Source: Python `shlex.shlex`. Kind: D -/
def SINGLE_QUOTE : CodePoint := 0x27

/-- Source: Python `shlex.shlex` (`whitespace`). Kind: D -/
def isShellBlank (c : CodePoint) : Bool := c = 0x20 || c = 0x09 || c = CR || c = LF

/-- Source: Python `shlex.shlex` (`quotes`). Kind: D -/
def isShellQuote (c : CodePoint) : Bool := c = SINGLE_QUOTE || c = DOUBLE_QUOTE

/-- A quote or the backslash.
Source: Python `shlex.shlex` (`quotes`, `escape`)
Kind: D -/
def isShellMark (c : CodePoint) : Bool := isShellQuote c || c = BACKSLASH

/-- What the next character is read as: itself, one inside quotes, or one behind a backslash, in quotes or not.
Source: Python `shlex.shlex` (`state`, `escapedstate`)
Kind: D -/
inductive Quoting where
  | unquoted
  | quoted (quote : CodePoint)
  | escaped (inside : Option CodePoint)
  deriving DecidableEq, Repr

/-- The state of the splitter: how it reads the next character, and the word begun, if one is.
Source: Python `shlex.shlex` (`state`, `token`)
Kind: D -/
structure ShlexState where
  quoting : Quoting := .unquoted
  word : Option PyStr := none
  deriving DecidableEq, Repr

namespace ShlexState

/-- The word begun, as far as it goes.
Source: Python `shlex.shlex` (`token`)
Kind: D -/
def begun (state : ShlexState) : PyStr := state.word.getD []

/-- The word goes on with some text.
Source: Python `shlex.shlex.read_token`
Kind: D -/
def extend (state : ShlexState) (quoting : Quoting) (s : PyStr) : ShlexState where
  quoting := quoting
  word := some (state.begun ++ s)

@[simp] lemma begun_extend (state : ShlexState) (quoting : Quoting) (s : PyStr) :
    (state.extend quoting s).begun = state.begun ++ s := rfl

@[simp] lemma quoting_extend (state : ShlexState) (quoting : Quoting) (s : PyStr) :
    (state.extend quoting s).quoting = quoting := rfl

/-- Reads a character: the words it ends, and the state behind it.
Source: Python `shlex.shlex.read_token` (`posix`, `whitespace_split`)
Kind: D -/
def next (state : ShlexState) (c : CodePoint) : List PyStr × ShlexState :=
  match state.quoting with
  | .unquoted =>
      if isShellBlank c then (state.word.toList, {})
      else if c = BACKSLASH then ([], state.extend (.escaped none) [])
      else if isShellQuote c then ([], state.extend (.quoted c) [])
      else ([], state.extend .unquoted [c])
  | .quoted quote =>
      if c = quote then ([], state.extend .unquoted [])
      else if c = BACKSLASH ∧ quote = DOUBLE_QUOTE then ([], state.extend (.escaped (some quote)) [])
      else ([], state.extend (.quoted quote) [c])
  | .escaped none => ([], state.extend .unquoted [c])
  | .escaped (some quote) =>
      -- only the quote and the backslash itself can be escaped inside quotes
      if c ≠ BACKSLASH ∧ c ≠ quote then ([], state.extend (.quoted quote) [BACKSLASH, c])
      else ([], state.extend (.quoted quote) [c])

end ShlexState

/-- The words of what is left.
Source: Python `shlex.shlex.read_token`
Kind: D -/
def shlexFrom (state : ShlexState) : PyStr → Except PyExc (List PyStr)
  | [] =>
      match state.quoting with
      | .unquoted => .ok state.word.toList
      | _ => .error .valueError
  | c :: rest => (shlexFrom (state.next c).2 rest).map ((state.next c).1 ++ ·)

/-- Source: Python `shlex.split`. Kind: D -/
def shlexSplit (s : PyStr) : Except PyExc (List PyStr) := shlexFrom {} s

/-! ## Plain words -/

/-- Neither a blank nor a mark.
Source: none: infrastructure
Kind: D -/
def isPlainChar (c : CodePoint) : Bool := !isShellBlank c && !isShellMark c

/-- A text that stands for itself on a command line.
Source: none: specification
Kind: D -/
def PlainWord (s : PyStr) : Prop := s ≠ [] ∧ s.all isPlainChar = true

instance (s : PyStr) : Decidable (PlainWord s) := inferInstanceAs (Decidable (_ ∧ _))

lemma isPlainChar_iff {c : CodePoint} :
    isPlainChar c = true ↔ isShellBlank c = false ∧ isShellQuote c = false ∧ c ≠ BACKSLASH := by
  simp [isPlainChar, isShellMark]

/-- A plain character is added to the word as it is.
Source: Python `shlex.shlex.read_token`
Kind: L -/
lemma next_plain {c : CodePoint} (hplain : isPlainChar c = true) (word : Option PyStr) :
    ShlexState.next { word := word } c = ([], { word := some (word.getD [] ++ [c]) }) := by
  obtain ⟨hblank, hquote, hescape⟩ := isPlainChar_iff.mp hplain
  simp [ShlexState.next, ShlexState.extend, ShlexState.begun, hblank, hquote, hescape]

lemma shlexFrom_plain {s : PyStr} (hplain : s.all isPlainChar = true) (word rest : PyStr) :
    shlexFrom { word := some word } (s ++ rest) = shlexFrom { word := some (word ++ s) } rest := by
  induction s generalizing word with
  | nil => rw [List.nil_append, List.append_nil]
  | cons c s ih =>
      rw [List.all_cons, Bool.and_eq_true] at hplain
      rw [List.cons_append, shlexFrom, next_plain hplain.1, Option.getD_some, ih hplain.2, List.append_assoc,
        List.singleton_append]
      rcases shlexFrom { word := some (word ++ c :: s) } rest with e | words <;> rfl

/-- Plain characters begin a word.
Source: Python `shlex.shlex.read_token`
Kind: L -/
lemma shlexFrom_plainWord {s : PyStr} (hplain : PlainWord s) (rest : PyStr) :
    shlexFrom {} (s ++ rest) = shlexFrom { word := some s } rest := by
  obtain ⟨hne, hall⟩ := hplain
  rcases s with _ | ⟨c, s⟩
  · exact absurd rfl hne
  · rw [List.all_cons, Bool.and_eq_true] at hall
    rw [List.cons_append, shlexFrom, next_plain hall.1, Option.getD_none, List.nil_append, shlexFrom_plain hall.2,
      List.singleton_append]
    rcases shlexFrom { word := some (c :: s) } rest with e | words <;> rfl

/-- **A plain word is the first of the words.**
Source: Python `shlex.split`
Kind: P -/
theorem shlexSplit_cons {s : PyStr} (hplain : PlainWord s) (rest : PyStr) :
    shlexSplit (s ++ 0x20 :: rest) = (shlexSplit rest).map (s :: ·) := by
  rw [shlexSplit, shlexFrom_plainWord hplain]
  rfl

/-- A blank before the first word does not count.
Source: Python `shlex.split`
Kind: L -/
lemma shlexSplit_blank (rest : PyStr) : shlexSplit (0x20 :: rest) = shlexSplit rest := by
  rw [shlexSplit, shlexFrom, show ShlexState.next {} 0x20 = ([], {}) from rfl, shlexSplit]
  rcases shlexFrom {} rest with e | words <;> rfl

/-! ## Other texts -/

/-- How many quotes and backslashes there are.
Source: none: infrastructure
Kind: D -/
def marks (s : PyStr) : Nat := s.countP isShellMark

/-- The marks it takes to have a text as a word: its own, and one more to protect it if it is not plain.
Source: none: infrastructure
Kind: D -/
def cost (s : PyStr) : Nat := marks s + if s.all isPlainChar then 0 else 1

lemma marks_nil : marks [] = 0 := rfl

lemma marks_cons (c : CodePoint) (s : PyStr) :
    marks (c :: s) = marks s + if isShellMark c then 1 else 0 := List.countP_cons

lemma marks_append (s t : PyStr) : marks (s ++ t) = marks s + marks t := List.countP_append

lemma marks_le_cost (s : PyStr) : marks s ≤ cost s := Nat.le_add_right _ _

lemma cost_le (s : PyStr) : cost s ≤ marks s + 1 := by
  unfold cost
  split <;> omega

/-- A plain character costs nothing.
Source: none: infrastructure
Kind: L -/
lemma cost_append_plain {c : CodePoint} (hplain : isPlainChar c = true) (s : PyStr) :
    cost (s ++ [c]) = cost s := by
  have hmark : isShellMark c = false := by
    unfold isPlainChar at hplain
    simp_all
  simp [cost, marks, hmark, hplain]

namespace ShlexState

/-- The marks read so far are enough for the word begun.
Source: none: infrastructure
Kind: D -/
def Paid (state : ShlexState) (read : Nat) : Prop :=
  match state.quoting with
  | .unquoted => cost state.begun ≤ read
  | .quoted _ => marks state.begun + 1 ≤ read
  | .escaped none => marks state.begun + 1 ≤ read
  | .escaped (some _) => marks state.begun + 2 ≤ read

/-- A character that ends no word.
Source: none: infrastructure
Kind: L -/
lemma paid_of_next_eq {state after : ShlexState} {c : CodePoint} {read read' : Nat}
    (hnext : state.next c = ([], after)) (hpaid : after.Paid read') :
    (∀ w ∈ (state.next c).1, cost w ≤ read) ∧ (state.next c).2.Paid read' := by
  rw [hnext]
  exact ⟨fun w hw => absurd hw List.not_mem_nil, hpaid⟩

lemma marks_begun_append (state : ShlexState) (c : CodePoint) :
    marks (state.begun ++ [c]) = marks state.begun + if isShellMark c then 1 else 0 := by
  rw [marks_append, marks_cons, marks_nil, Nat.zero_add]

/-- Between the words, or in one outside quotes: a plain character is free, a mark pays for the protection.
Source: Python `shlex.shlex.read_token`
Kind: L -/
lemma paid_next_unquoted {state : ShlexState} {read : Nat} (hquoting : state.quoting = .unquoted)
    (hread : cost state.begun ≤ read) (c : CodePoint) :
    (∀ w ∈ (state.next c).1, cost w ≤ read) ∧
      (state.next c).2.Paid (read + if isShellMark c then 1 else 0) := by
  have hmarks := marks_le_cost state.begun
  by_cases hblank : isShellBlank c = true
  · have hnext : state.next c = (state.word.toList, {}) := by simp [next, hquoting, hblank]
    rw [hnext]
    constructor
    · intro w hw
      have hword : state.word = some w := Option.mem_toList.mp hw
      simpa [begun, hword] using hread
    · exact Nat.zero_le _
  by_cases hescape : c = BACKSLASH
  · have hmark : isShellMark c = true := by simp [isShellMark, hescape]
    have hnext : state.next c = ([], state.extend (.escaped none) []) := by
      rw [next, hquoting]
      simp only [if_neg hblank, if_pos hescape]
    apply paid_of_next_eq hnext
    simp only [Paid, quoting_extend, begun_extend, List.append_nil, hmark, if_true]
    omega
  by_cases hquote : isShellQuote c = true
  · have hmark : isShellMark c = true := by simp [isShellMark, hquote]
    have hnext : state.next c = ([], state.extend (.quoted c) []) := by
      rw [next, hquoting]
      simp only [if_neg hblank, if_neg hescape, if_pos hquote]
    apply paid_of_next_eq hnext
    simp only [Paid, quoting_extend, begun_extend, List.append_nil, hmark, if_true]
    omega
  · have hplain : isPlainChar c = true :=
      isPlainChar_iff.mpr ⟨Bool.eq_false_iff.mpr hblank, Bool.eq_false_iff.mpr hquote, hescape⟩
    have hnext : state.next c = ([], state.extend .unquoted [c]) := by
      rw [next, hquoting]
      simp only [if_neg hblank, if_neg hescape, if_neg hquote]
    apply paid_of_next_eq hnext
    simp only [Paid, quoting_extend, begun_extend, cost_append_plain hplain]
    omega

/-- Inside quotes: the quote that opened them has paid.
Source: Python `shlex.shlex.read_token`
Kind: L -/
lemma paid_next_quoted {state : ShlexState} {read : Nat} {quote : CodePoint}
    (hquoting : state.quoting = .quoted quote) (hread : marks state.begun + 1 ≤ read) (c : CodePoint) :
    (∀ w ∈ (state.next c).1, cost w ≤ read) ∧
      (state.next c).2.Paid (read + if isShellMark c then 1 else 0) := by
  have hcost := cost_le state.begun
  by_cases hclose : c = quote
  · have hnext : state.next c = ([], state.extend .unquoted []) := by
      rw [next, hquoting]
      simp only [if_pos hclose]
    apply paid_of_next_eq hnext
    simp only [Paid, quoting_extend, begun_extend, List.append_nil]
    omega
  by_cases hescape : c = BACKSLASH ∧ quote = DOUBLE_QUOTE
  · have hmark : isShellMark c = true := by simp [isShellMark, hescape.1]
    have hnext : state.next c = ([], state.extend (.escaped (some quote)) []) := by
      rw [next, hquoting]
      simp only [if_neg hclose, if_pos hescape]
    apply paid_of_next_eq hnext
    simp only [Paid, quoting_extend, begun_extend, List.append_nil, hmark, if_true]
    omega
  · have hnext : state.next c = ([], state.extend (.quoted quote) [c]) := by
      rw [next, hquoting]
      simp only [if_neg hclose, if_neg hescape]
    apply paid_of_next_eq hnext
    simp only [Paid, quoting_extend, begun_extend, marks_begun_append]
    omega

/-- Behind a backslash inside quotes: the backslash pays for itself where it stays.
Source: Python `shlex.shlex.read_token`
Kind: L -/
lemma paid_next_escaped {state : ShlexState} {read : Nat} {quote : CodePoint}
    (hquoting : state.quoting = .escaped (some quote)) (hread : marks state.begun + 2 ≤ read) (c : CodePoint) :
    (∀ w ∈ (state.next c).1, cost w ≤ read) ∧
      (state.next c).2.Paid (read + if isShellMark c then 1 else 0) := by
  by_cases hescape : c ≠ BACKSLASH ∧ c ≠ quote
  · have hboth : marks (state.begun ++ [BACKSLASH, c]) = marks (state.begun ++ [c]) + 1 := by
      rw [marks_begun_append, marks_append, marks_cons, marks_cons, marks_nil,
        if_pos (by decide : isShellMark BACKSLASH = true)]
      omega
    have hnext : state.next c = ([], state.extend (.quoted quote) [BACKSLASH, c]) := by
      rw [next, hquoting]
      simp only [if_pos hescape]
    apply paid_of_next_eq hnext
    simp only [Paid, quoting_extend, begun_extend, hboth, marks_begun_append]
    omega
  · have hnext : state.next c = ([], state.extend (.quoted quote) [c]) := by
      rw [next, hquoting]
      simp only [if_neg hescape]
    apply paid_of_next_eq hnext
    simp only [Paid, quoting_extend, begun_extend, marks_begun_append]
    omega

/-- **Each word has been paid for**, one character after another.
Source: Python `shlex.shlex.read_token`
Kind: L -/
lemma paid_next {state : ShlexState} {read : Nat} (hpaid : state.Paid read) (c : CodePoint) :
    (∀ w ∈ (state.next c).1, cost w ≤ read) ∧
      (state.next c).2.Paid (read + if isShellMark c then 1 else 0) := by
  unfold Paid at hpaid
  rcases hquoting : state.quoting with _ | quote | _ | quote
  all_goals rw [hquoting] at hpaid
  · exact paid_next_unquoted hquoting hpaid c
  · exact paid_next_quoted hquoting hpaid c
  · -- outside quotes a character behind a backslash costs no more than the protection that is paid
    have hcost := cost_le (state.begun ++ [c])
    have hadd := marks_begun_append state c
    have hmarks : marks state.begun + 1 ≤ read := hpaid
    have hnext : state.next c = ([], state.extend .unquoted [c]) := by rw [next, hquoting]
    apply paid_of_next_eq hnext
    simp only [Paid, quoting_extend, begun_extend]
    omega
  · exact paid_next_escaped hquoting hpaid c

end ShlexState

/-- Every word of a line has been paid for by it.
Source: Python `shlex.shlex.read_token`
Kind: L -/
lemma cost_le_of_mem_shlexFrom {state : ShlexState} {read : Nat} {s : PyStr} {words : List PyStr}
    (hpaid : state.Paid read) (h : shlexFrom state s = .ok words) : ∀ w ∈ words, cost w ≤ read + marks s := by
  induction s generalizing state read words with
  | nil =>
      rw [shlexFrom] at h
      rcases hquoting : state.quoting with _ | quote | inside
      · rw [hquoting] at h
        obtain rfl := Except.ok.inj h
        intro w hw
        have hword : state.word = some w := Option.mem_toList.mp hw
        rw [ShlexState.Paid, hquoting] at hpaid
        simpa [ShlexState.begun, hword, marks_nil] using hpaid
      · rw [hquoting] at h
        cases h
      · rw [hquoting] at h
        cases h
  | cons c s ih =>
      obtain ⟨hdone, hpaid⟩ := ShlexState.paid_next hpaid c
      rw [shlexFrom] at h
      obtain ⟨later, hlater, rfl⟩ := map_eq_ok.mp h
      intro w hw
      rw [marks_cons]
      rcases List.mem_append.mp hw with hw | hw
      · have hless := hdone w hw
        omega
      · have hless := ih hpaid hlater w hw
        omega

/-- **A word of a line that is not plain has fewer marks than the line.**
Source: Python `shlex.split`
Kind: P -/
theorem marks_lt_of_mem {s w : PyStr} {words : List PyStr} (h : shlexSplit s = .ok words) (hw : w ∈ words)
    (hplain : w.all isPlainChar = false) : marks w < marks s := by
  have hpaid : ShlexState.Paid {} 0 := Nat.le_refl 0
  have hcost := cost_le_of_mem_shlexFrom hpaid h w hw
  rw [cost, hplain] at hcost
  simp only [Bool.false_eq_true, if_false] at hcost
  omega

end NetstackSuite.Python
