import Mathlib.Data.List.DropRight
import Mathlib.Data.List.Lex
import Mathlib.Order.Fin.Basic
import Mathlib.Tactic.Common
import NetstackSuite.Python.Exception

/-!
# Python text: code points, UTF-8, `splitlines`, `strip`

The operations of Python's built-in `str` and `bytes` types that a log reader rests on.

* A `str` is a list of **code points**, lone surrogates included (`json.loads` makes them), so it
  is `List (Fin 0x110000)` and not Lean's `String`.
* `decodeReplace` is `bytes.decode("utf-8", errors="replace")`: each maximal ill-formed piece
  becomes one U+FFFD. It is one pass with an explicit state (`Pending`: the continuation bytes a
  character still owes), which is what makes a cut of the input easy to reason about.
* `splitlines` breaks at all ten line boundaries of `str.splitlines`, not only at `\n`.

The two results the readers use are `decodeReplace_append_ascii` and
`splitlines_append_newline`: neither function looks across a newline, so both commute with
cutting their input just after one.
-/

namespace NetstackSuite.Python

/-! ## Code points and strings -/

/-- A Unicode code point, surrogates included.
Source: Python `str`
Kind: D -/
abbrev CodePoint := Fin 0x110000

instance instNeZeroCodePoint : @NeZero Nat Zero.ofOfNat0 0x110000 := ⟨by decide⟩

/-- A Python `str`.
Source: Python `str`
Kind: D -/
abbrev PyStr := List CodePoint

-- membership in a string or in a list of strings, decided the same way everywhere
instance instLawfulBEqCodePoint : LawfulBEq CodePoint := inferInstance

instance instLawfulBEqPyStr : LawfulBEq PyStr := inferInstance

/-- A Python `bytes`.
Source: Python `bytes`
Kind: D -/
abbrev Bytes := List UInt8

/-- The code point with the given number (numbers above U+10FFFF do not occur).
Source: Python `chr`
Kind: D -/
def chr (n : Nat) : CodePoint := Fin.ofNat 0x110000 n

/-- A string literal.
Source: none: infrastructure
Kind: D -/
def text (s : String) : PyStr := s.toList.map fun c => chr c.toNat

/-- Different literals are different strings.
Source: Python `str.__eq__`
Kind: L -/
@[simp] lemma text_inj {s t : String} : text s = text t ↔ s = t := by
  unfold text
  rw [List.map_inj_right, String.toList_inj]
  intro c d hcd
  have hval : c.toNat % 0x110000 = d.toNat % 0x110000 := congrArg Fin.val hcd
  have hc := c.valid
  have hd := d.valid
  have hnat : c.toNat = d.toNat := by
    unfold UInt32.isValidChar Nat.isValidChar at hc hd
    unfold Char.toNat at hval ⊢
    omega
  exact Char.toNat_inj.mp hnat

/-- A literal by its characters: closed facts about them are decided without decoding the string.
Source: none: infrastructure
Kind: L -/
lemma text_spelled {s : String} {cs : List Char} (hs : s = String.ofList cs) :
    text s = cs.map fun c => chr c.toNat := by
  rw [hs, text, String.toList_ofList]

/-- An ASCII bytes literal.
Source: none: infrastructure
Kind: D -/
def bytes (s : String) : Bytes := s.toList.map fun c => UInt8.ofNat c.toNat

/-- The same for bytes.
Source: none: infrastructure
Kind: L -/
lemma bytes_spelled {s : String} {cs : List Char} (hs : s = String.ofList cs) :
    bytes s = cs.map fun c => UInt8.ofNat c.toNat := by
  rw [hs, bytes, String.toList_ofList]

/-- The value of a byte below 256.
Source: none: infrastructure
Kind: L -/
lemma toNat_ofNat_of_lt {n : Nat} (h : n < 256) : (UInt8.ofNat n).toNat = n := by
  rw [UInt8.toNat_ofNat']
  omega

/-- U+000A.
Source: none: infrastructure
Kind: D -/
def LF : CodePoint := 0x0A

/-- U+000D.
Source: none: infrastructure
Kind: D -/
def CR : CodePoint := 0x0D

/-- U+FFFD, what `errors="replace"` puts for undecodable bytes.
Source: none: infrastructure
Kind: D -/
def REPLACEMENT : CodePoint := 0xFFFD

/-! ## `bytes.decode("utf-8", errors="replace")` -/

/-- The decoder between two bytes of one character: the bits read so far, how many continuation
bytes are owed after the next one, and the range the next byte must lie in. The range never
reaches ASCII, which is why an ASCII byte always resynchronises the decoder.
Source: Python `bytes.decode`
Kind: D -/
structure Pending where
  /-- The payload bits of the bytes read. -/
  bits : Nat
  /-- Continuation bytes owed after the next one. -/
  owed : Nat
  /-- Least admissible next byte. -/
  lo : UInt8
  /-- Greatest admissible next byte. -/
  hi : UInt8
  /-- The range lies above ASCII. -/
  lo_ge : 0x80 ≤ lo

/-- What a byte means between two characters.
Source: Python `bytes.decode`
Kind: D -/
inductive Lead where
  /-- A whole character. -/
  | char (c : CodePoint)
  /-- The first byte of a longer character. -/
  | more (p : Pending)
  /-- No character starts with this byte. -/
  | bad

/-- The lead-byte table of well-formed UTF-8 (overlong forms, surrogates and values above
U+10FFFF are excluded through the range of the second byte).
Source: Python `bytes.decode`
Kind: D -/
def lead (b : UInt8) : Lead :=
  if b < 0x80 then .char (chr b.toNat)
  else if b < 0xC2 then .bad
  else if b < 0xE0 then .more ⟨b.toNat - 0xC0, 0, 0x80, 0xBF, by decide⟩
  else if b = 0xE0 then .more ⟨0, 1, 0xA0, 0xBF, by decide⟩
  else if b = 0xED then .more ⟨0xD, 1, 0x80, 0x9F, by decide⟩
  else if b < 0xF0 then .more ⟨b.toNat - 0xE0, 1, 0x80, 0xBF, by decide⟩
  else if b = 0xF0 then .more ⟨0, 2, 0x90, 0xBF, by decide⟩
  else if b < 0xF4 then .more ⟨b.toNat - 0xF0, 2, 0x80, 0xBF, by decide⟩
  else if b = 0xF4 then .more ⟨4, 2, 0x80, 0x8F, by decide⟩
  else .bad

/-- The decoder from a given state. A byte outside the range a pending character asks for ends
that character with one U+FFFD and is then read afresh; so does the end of the input.
Source: Python `bytes.decode`
Kind: D -/
def decodeFrom : Option Pending → Bytes → PyStr
  | none, [] => []
  | some _, [] => [REPLACEMENT]
  | none, b :: bs =>
      match lead b with
      | .char c => c :: decodeFrom none bs
      | .more p => decodeFrom (some p) bs
      | .bad => REPLACEMENT :: decodeFrom none bs
  | some p, b :: bs =>
      if p.lo ≤ b ∧ b ≤ p.hi then
        let bits := p.bits * 64 + (b.toNat - 0x80)
        match p.owed with
        | 0 => chr bits :: decodeFrom none bs
        | n + 1 => decodeFrom (some ⟨bits, n, 0x80, 0xBF, by decide⟩) bs
      else
        REPLACEMENT :: match lead b with
          | .char c => c :: decodeFrom none bs
          | .more q => decodeFrom (some q) bs
          | .bad => REPLACEMENT :: decodeFrom none bs

/-- `data.decode("utf-8", errors="replace")`.
Source: Python `bytes.decode`
Kind: D -/
def decodeReplace (data : Bytes) : PyStr := decodeFrom none data

@[simp] lemma decodeReplace_nil : decodeReplace [] = [] := rfl

/-- An ASCII byte is a whole character.
Source: none: infrastructure
Kind: L -/
lemma lead_of_ascii {b : UInt8} (hb : b < 0x80) : lead b = .char (chr b.toNat) := by
  simp [lead, hb]

/-- An ASCII byte lies outside the range of every pending character.
Source: none: infrastructure
Kind: L -/
lemma Pending.not_mem_of_ascii (p : Pending) {b : UInt8} (hb : b < 0x80) :
    ¬ (p.lo ≤ b ∧ b ≤ p.hi) := by
  rintro ⟨hlo, -⟩
  exact absurd (UInt8.lt_of_le_of_lt (UInt8.le_trans p.lo_ge hlo) hb) (UInt8.lt_irrefl _)

/-- **The decoder resynchronises at an ASCII byte**: what it produces after one does not depend
on what came before.
Source: Python `bytes.decode`
Kind: P -/
lemma decodeFrom_append_ascii (s : Option Pending) (a b : Bytes) {c : UInt8} (hc : c < 0x80) :
    decodeFrom s (a ++ c :: b) = decodeFrom s (a ++ [c]) ++ decodeReplace b := by
  induction a generalizing s with
  | nil =>
      cases s with
      | none => simp [decodeFrom, lead_of_ascii hc, decodeReplace]
      | some p => simp [decodeFrom, p.not_mem_of_ascii hc, lead_of_ascii hc, decodeReplace]
  | cons x a ih =>
      cases s with
      | none =>
          simp only [List.cons_append, decodeFrom]
          cases lead x <;> simp [ih]
      | some p =>
          simp only [List.cons_append, decodeFrom]
          split
          · cases p.owed <;> simp [ih]
          · cases lead x <;> simp [ih]

/-- Lossy decoding commutes with a cut just after an ASCII byte.
Source: Python `bytes.decode`
Kind: P -/
theorem decodeReplace_append_ascii (a b : Bytes) {c : UInt8} (hc : c < 0x80) :
    decodeReplace (a ++ c :: b) = decodeReplace (a ++ [c]) ++ decodeReplace b :=
  decodeFrom_append_ascii none a b hc

/-- A text that ends with an ASCII byte decodes to one that ends with its character.
Source: Python `bytes.decode`
Kind: L -/
lemma decodeReplace_concat_ascii (a : Bytes) {c : UInt8} (hc : c < 0x80) :
    ∃ t, decodeReplace (a ++ [c]) = t ++ [chr c.toNat] := by
  suffices h : ∀ s, ∃ t, decodeFrom s (a ++ [c]) = t ++ [chr c.toNat] from h none
  induction a with
  | nil =>
      intro s
      cases s with
      | none => exact ⟨[], by simp [decodeFrom, lead_of_ascii hc]⟩
      | some p => exact ⟨[REPLACEMENT], by simp [decodeFrom, p.not_mem_of_ascii hc, lead_of_ascii hc]⟩
  | cons x a ih =>
      -- every step of the decoder emits a few characters and goes on
      have step : ∀ (u : PyStr) (s : Option Pending),
          ∃ t, u ++ decodeFrom s (a ++ [c]) = t ++ [chr c.toNat] := by
        intro u s
        obtain ⟨t, ht⟩ := ih s
        exact ⟨u ++ t, by rw [ht, List.append_assoc]⟩
      intro s
      cases s with
      | none =>
          simp only [List.cons_append, decodeFrom]
          cases lead x with
          | char d => exact step [d] none
          | more p => exact step [] (some p)
          | bad => exact step [REPLACEMENT] none
      | some p =>
          simp only [List.cons_append, decodeFrom]
          split
          · cases p.owed with
            | zero => exact step [_] none
            | succ n => exact step [] (some _)
          · cases lead x with
            | char d => exact step [REPLACEMENT, d] none
            | more q => exact step [REPLACEMENT] (some q)
            | bad => exact step [REPLACEMENT, REPLACEMENT] none

/-- On ASCII bytes the decoder is the identity on numbers.
Source: Python `bytes.decode`
Kind: L -/
lemma decodeReplace_of_ascii {a : Bytes} (ha : ∀ b ∈ a, b < 0x80) :
    decodeReplace a = a.map fun b => chr b.toNat := by
  induction a with
  | nil => rfl
  | cons b a ih =>
      have hb := ha b List.mem_cons_self
      have ih' := ih fun x hx => ha x (List.mem_cons_of_mem _ hx)
      simp only [decodeReplace, decodeFrom, lead_of_ascii hb, List.map_cons]
      rw [← ih']
      rfl

/-! ## `str.encode("utf-8")` -/

/-- The bytes of one character; a surrogate has none (`UnicodeEncodeError`, a `ValueError`).
Source: Python `str.encode`
Kind: D -/
def encodeChar (c : CodePoint) : Except PyExc Bytes :=
  let n := c.val
  let byte := fun base bits : Nat => UInt8.ofNat (base + bits % 64)
  if n < 0x80 then .ok [UInt8.ofNat n]
  else if n < 0x800 then .ok [UInt8.ofNat (0xC0 + n / 64), byte 0x80 n]
  else if 0xD800 ≤ n ∧ n ≤ 0xDFFF then .error .valueError
  else if n < 0x10000 then .ok [UInt8.ofNat (0xE0 + n / 4096), byte 0x80 (n / 64), byte 0x80 n]
  else .ok [UInt8.ofNat (0xF0 + n / 262144), byte 0x80 (n / 4096), byte 0x80 (n / 64), byte 0x80 n]

/-- `s.encode("utf-8")`.
Source: Python `str.encode`
Kind: D -/
def encode : PyStr → Except PyExc Bytes
  | [] => .ok []
  | c :: s => do
      let b ← encodeChar c
      let bs ← encode s
      return b ++ bs

/-- ASCII text has one byte for each character, and is read back.
Source: Python `str.encode`
Kind: L -/
lemma encode_of_ascii {s : PyStr} (hs : ∀ c ∈ s, c < 0x80) :
    ∃ b : Bytes, encode s = .ok b ∧ (∀ x ∈ b, x < 0x80) ∧ decodeReplace b = s ∧
      b = s.map fun c => UInt8.ofNat c.val := by
  induction s with
  | nil => exact ⟨[], rfl, nofun, rfl, rfl⟩
  | cons c s ih =>
      obtain ⟨hc, hrest⟩ := List.forall_mem_cons.mp hs
      obtain ⟨b, hb, hascii, hdecode, hmap⟩ := ih hrest
      have hval : c.val < 0x80 := hc
      have hbyte : UInt8.ofNat c.val < 0x80 := by
        rw [UInt8.lt_iff_toNat_lt, UInt8.toNat_ofNat']
        show c.val % 256 < 0x80
        omega
      have hchr : chr (UInt8.ofNat c.val).toNat = c := by
        rw [UInt8.toNat_ofNat']
        ext
        show c.val % 256 % 0x110000 = c.val
        omega
      refine ⟨UInt8.ofNat c.val :: b, ?_, List.forall_mem_cons.mpr ⟨hbyte, hascii⟩, ?_, ?_⟩
      · rw [encode, encodeChar, if_pos hval, hb]
        rfl
      · rw [decodeReplace, decodeFrom, lead_of_ascii hbyte, hchr]
        show c :: decodeReplace b = c :: s
        rw [hdecode]
      · rw [List.map_cons, hmap]

/-! ## `str.splitlines` -/

/-- The line boundaries of `str.splitlines`.
Source: Python `str.splitlines`
Kind: D -/
def isLineBreak (c : CodePoint) : Bool :=
  c = LF || c = CR || c = 0x0B || c = 0x0C || c = 0x1C || c = 0x1D || c = 0x1E || c = 0x85
    || c = 0x2028 || c = 0x2029

/-- `splitlines` with the line read so far and whether the last character was a `\r` (whose `\n`,
if it follows, belongs to the same boundary).
Source: Python `str.splitlines`
Kind: D -/
def splitlinesFrom : PyStr → Bool → PyStr → List PyStr
  | cur, _, [] => if cur = [] then [] else [cur]
  | cur, afterCR, c :: cs =>
      if afterCR = true ∧ c = LF then splitlinesFrom [] false cs
      else if isLineBreak c then cur :: splitlinesFrom [] (c = CR) cs
      else splitlinesFrom (cur ++ [c]) false cs

/-- `s.splitlines()`.
Source: Python `str.splitlines`
Kind: D -/
def splitlines (s : PyStr) : List PyStr := splitlinesFrom [] false s

@[simp] lemma splitlines_nil : splitlines [] = [] := rfl

@[simp] lemma isLineBreak_LF : isLineBreak LF = true := by decide

/-- The splitter forgets its state at a `\n`.
Source: Python `str.splitlines`
Kind: P -/
lemma splitlinesFrom_append_newline (cur : PyStr) (r : Bool) (a b : PyStr) :
    splitlinesFrom cur r (a ++ LF :: b) = splitlinesFrom cur r (a ++ [LF]) ++ splitlines b := by
  have hLF : (decide (LF = CR)) = false := by decide
  induction a generalizing cur r with
  | nil =>
      by_cases hr : r = true
      · simp [splitlinesFrom, hr, splitlines]
      · simp [splitlinesFrom, hr, splitlines, hLF]
  | cons x a ih =>
      simp only [List.cons_append, splitlinesFrom]
      split
      · exact ih _ _
      · split
        · simp [ih]
        · exact ih _ _

/-- `splitlines` commutes with a cut just after a `\n`.
Source: Python `str.splitlines`
Kind: P -/
theorem splitlines_append_newline (a b : PyStr) :
    splitlines (a ++ LF :: b) = splitlines (a ++ [LF]) ++ splitlines b :=
  splitlinesFrom_append_newline [] false a b

/-- A text without line boundaries, ended by `\n`, is one line.
Source: Python `str.splitlines`
Kind: L -/
lemma splitlinesFrom_line (cur : PyStr) {a : PyStr} (ha : ∀ c ∈ a, isLineBreak c = false) :
    splitlinesFrom cur false (a ++ [LF]) = [cur ++ a] := by
  induction a generalizing cur with
  | nil => simp [splitlinesFrom]
  | cons x a ih =>
      have hx := ha x List.mem_cons_self
      have ih' := ih (cur ++ [x]) fun c hc => ha c (List.mem_cons_of_mem _ hc)
      simpa [splitlinesFrom, hx] using ih'

/-- Ended by `\r\n`, it is the same line.
Source: Python `str.splitlines`
Kind: L -/
lemma splitlinesFrom_line_crlf (cur : PyStr) {a : PyStr} (ha : ∀ c ∈ a, isLineBreak c = false) :
    splitlinesFrom cur false (a ++ [CR, LF]) = [cur ++ a] := by
  induction a generalizing cur with
  | nil =>
      have hCR : isLineBreak CR = true := by decide
      simp [splitlinesFrom, hCR]
  | cons x a ih =>
      have hx := ha x List.mem_cons_self
      have ih' := ih (cur ++ [x]) fun c hc => ha c (List.mem_cons_of_mem _ hc)
      simpa [splitlinesFrom, hx] using ih'

/-! ## `str.strip` -/

/-- `str.isspace` of one character.
Source: Python `str.isspace`
Kind: D -/
def isSpace (c : CodePoint) : Bool :=
  (0x09 ≤ c && c ≤ 0x0D) || (0x1C ≤ c && c ≤ 0x20) || c = 0x85 || c = 0xA0 || c = 0x1680
    || (0x2000 ≤ c && c ≤ 0x200A) || c = 0x2028 || c = 0x2029 || c = 0x202F || c = 0x205F
    || c = 0x3000

/-- `s.strip()`.
Source: Python `str.strip`
Kind: D -/
def strip (s : PyStr) : PyStr := (s.dropWhile isSpace).rdropWhile isSpace

/-- A string whose first character is no whitespace does not strip to nothing.
Source: Python `str.strip`
Kind: L -/
lemma strip_ne_nil_of_head {c : CodePoint} {s : PyStr} (hc : isSpace c = false) :
    strip (c :: s) ≠ [] := by
  intro h
  have hdrop : (c :: s).dropWhile isSpace = c :: s := by simp [hc]
  rw [strip, hdrop, List.rdropWhile_eq_nil_iff] at h
  have := h c List.mem_cons_self
  simp [hc] at this

/-! ## `partition` -/

/-- What stands before and after the first occurrence of a character.
Source: Python `str.partition`
Kind: D -/
def partition (sep : CodePoint) : PyStr → Option (PyStr × PyStr)
  | [] => none
  | c :: cs =>
    if c = sep then some ([], cs)
    else (partition sep cs).map fun (before, after) => (c :: before, after)

/-- What stands before and after the last occurrence of a character.
Source: Python `str.rpartition`
Kind: D -/
def rpartition (sep : CodePoint) (s : PyStr) : Option (PyStr × PyStr) :=
  (partition sep s.reverse).map fun (after, before) => (before.reverse, after.reverse)

/-- The first occurrence, when nothing before it is one.
Source: Python `str.partition`
Kind: L -/
lemma partition_append {sep : CodePoint} {before : PyStr} (h : sep ∉ before) (after : PyStr) :
    partition sep (before ++ sep :: after) = some (before, after) := by
  induction before with
  | nil =>
      rw [List.nil_append, partition, if_pos rfl]
  | cons c before ih =>
      have hc : c ≠ sep := fun hc => h (hc ▸ List.mem_cons_self)
      have hrest := ih fun hmem => h (List.mem_cons_of_mem c hmem)
      rw [List.cons_append, partition, if_neg hc, hrest]
      rfl

/-- The first occurrence of a character, or none.
Source: Python `str.partition`
Kind: L -/
lemma partition_eq_some {sep : CodePoint} {s before after : PyStr}
    (h : partition sep s = some (before, after)) : s = before ++ sep :: after ∧ sep ∉ before := by
  induction s generalizing before with
  | nil => cases h
  | cons c s ih =>
      rw [partition] at h
      split at h
      · next hc =>
        obtain ⟨rfl, rfl⟩ := Prod.mk.inj (Option.some.inj h)
        exact ⟨congrArg (· :: s) hc, List.not_mem_nil⟩
      · next hc =>
        obtain ⟨⟨before', after'⟩, hrest, heq⟩ := Option.map_eq_some_iff.mp h
        obtain ⟨rfl, rfl⟩ := Prod.mk.inj heq
        obtain ⟨rfl, hmem⟩ := ih hrest
        exact ⟨rfl, List.not_mem_cons_of_ne_of_not_mem (fun h => hc h.symm) hmem⟩

lemma partition_eq_none {sep : CodePoint} {s : PyStr} : partition sep s = none ↔ sep ∉ s := by
  induction s with
  | nil => exact iff_of_true rfl List.not_mem_nil
  | cons c s ih =>
      rw [partition, List.mem_cons, not_or]
      split
      · next hc => exact iff_of_false (Option.some_ne_none _) fun h => h.1 hc.symm
      · next hc => rw [Option.map_eq_none_iff, ih, and_iff_right fun h => hc h.symm]

/-- The last occurrence, when nothing behind it is one.
Source: Python `str.rpartition`
Kind: L -/
lemma rpartition_append {sep : CodePoint} {after : PyStr} (h : sep ∉ after) (before : PyStr) :
    rpartition sep (before ++ sep :: after) = some (before, after) := by
  have hreverse : (before ++ sep :: after).reverse = after.reverse ++ sep :: before.reverse := by simp
  have hmem : sep ∉ after.reverse := fun hmem => h (List.mem_reverse.mp hmem)
  rw [rpartition, hreverse, partition_append hmem, Option.map_some]
  simp only [List.reverse_reverse]

lemma rpartition_eq_none {sep : CodePoint} {s : PyStr} (h : sep ∉ s) : rpartition sep s = none := by
  rw [rpartition, partition_eq_none.mpr fun hmem => h (List.mem_reverse.mp hmem), Option.map_none]

/-- A character occurs last somewhere, or nowhere.
Source: Python `str.rpartition`
Kind: L -/
lemma exists_last_or_not_mem (sep : CodePoint) (s : PyStr) :
    (∃ before after, s = before ++ sep :: after ∧ sep ∉ after) ∨ sep ∉ s := by
  rcases hparts : partition sep s.reverse with _ | ⟨after, before⟩
  · exact Or.inr fun hmem => partition_eq_none.mp hparts (List.mem_reverse.mpr hmem)
  · obtain ⟨hs, hmem⟩ := partition_eq_some hparts
    refine Or.inl ⟨before.reverse, after.reverse, ?_, fun h => hmem (List.mem_reverse.mp h)⟩
    rw [← List.reverse_reverse s, hs]
    simp

end NetstackSuite.Python
