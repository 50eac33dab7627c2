import Mathlib.Data.List.Basic
import Mathlib.Tactic.Common

/-!
# The tags of an HTML text

A scanner that finds the tags of an HTML text much as a browser does: quoted attribute values may hold a `>`, comments
end with `-->`, and in elements of raw text (`<style>`, `<title>` and their like) nothing but their own end tag is a
tag. A tag is given as it is written, name and attributes.

`Aligned` relates two texts that the scanner reads from one state to another with the same tags. It is built up piece
by piece (`Aligned.append`); text without a `<` adds nothing (`Aligned.plain`).
-/

namespace NetstackSuite.Lib.HtmlTags

/-- Source: none: specification (HTML). Kind: D -/
abbrev Chars := List (Fin 0x110000)

/-- Source: none: specification (HTML). Kind: D -/
def isBlank (c : Fin 0x110000) : Bool := c = 0x20 || c = 0x09 || c = 0x0A || c = 0x0C || c = 0x0D

/-- Source: none: specification (HTML). Kind: D -/
def isLetter (c : Fin 0x110000) : Bool := (0x41 ≤ c && c ≤ 0x5A) || (0x61 ≤ c && c ≤ 0x7A)

/-- Source: none: specification (HTML). Kind: D -/
def lower (c : Fin 0x110000) : Fin 0x110000 := if 0x41 ≤ c ∧ c ≤ 0x5A then c + 0x20 else c

/-- `<`.
Source: none: specification (HTML)
Kind: D -/
def LESS : Fin 0x110000 := 0x3C

/-- Source: none: infrastructure. Kind: D -/
def chars (word : List Char) : Chars := word.map fun c => Fin.ofNat 0x110000 c.toNat

/-- The elements whose content is text up to their end tag.
Source: none: specification (HTML)
Kind: D -/
def rawElements : List Chars :=
  List.map chars [
    ['t', 'i', 't', 'l', 'e'], ['s', 't', 'y', 'l', 'e'],
    ['s', 'c', 'r', 'i', 'p', 't'], ['x', 'm', 'p'],
    ['t', 'e', 'x', 't', 'a', 'r', 'e', 'a'],
    ['i', 'f', 'r', 'a', 'm', 'e'], ['n', 'o', 'e', 'm', 'b', 'e', 'd'],
    ['n', 'o', 'f', 'r', 'a', 'm', 'e', 's']]

/-- The name of the element that a start tag opens.
Source: none: specification (HTML)
Kind: D -/
def elementName (tag : Chars) : Chars := (tag.takeWhile fun c => !isBlank c && c ≠ 0x2F).map lower

/-- Where the scanner is.
Source: none: specification (HTML)
Kind: D -/
inductive Scanner where
  | text
  /-- Just behind a `<`. -/
  | opened
  | tag (written : Chars)
  /-- In a quoted attribute value. -/
  | value (written : Chars) (quote : Fin 0x110000)
  /-- In an element of raw text, with what is read since the last `<`. -/
  | raw (element recent : Chars)
  deriving DecidableEq

namespace Scanner

/-- Behind a tag.
Source: none: specification (HTML)
Kind: D -/
def afterTag (tag : Chars) : Scanner :=
  if rawElements.contains (elementName tag) then .raw (elementName tag) [] else .text

/-- A comment that goes on.
Source: none: specification (HTML)
Kind: D -/
def inComment (written : Chars) : Bool :=
  (chars ['!', '-', '-']).isPrefixOf written && !((chars ['-', '-']).isSuffixOf written && 5 ≤ written.length)

/-- A quote here starts an attribute value.
Source: none: specification (HTML)
Kind: D -/
def beforeValue (written : Chars) : Bool :=
  (written.reverse.dropWhile isBlank).head? = some 0x3D && written.head? ≠ some 0x21 && written.head? ≠ some 0x3F

/-- One character, and the tag that it ends, if it ends one.
Source: none: specification (HTML)
Kind: D -/
def step (s : Scanner) (c : Fin 0x110000) : Scanner × Option Chars :=
  match s with
  | .text => (if c = LESS then .opened else .text, none)
  | .opened =>
      if isLetter c || c = 0x2F || c = 0x21 || c = 0x3F then (.tag [c], none)
      else (if c = LESS then .opened else .text, none)
  | .tag written =>
      if c = 0x3E && !inComment written then (afterTag written, some written)
      else if (c = 0x22 || c = 0x27) && beforeValue written then (.value (written ++ [c]) c, none)
      else (.tag (written ++ [c]), none)
  | .value written quote =>
      (if c = quote then .tag (written ++ [c]) else .value (written ++ [c]) quote, none)
  | .raw element recent =>
      if c = LESS then (.raw element [c], none)
      else if recent = [] then (.raw element [], none)
      else if recent.map lower = chars ['<', '/'] ++ element then
        if c = 0x3E then (.text, some recent.tail)
        else if isBlank c || c = 0x2F then (.tag (recent.tail ++ [c]), none)
        else (.raw element [], none)
      else (.raw element (recent ++ [c]), none)

end Scanner

/-- The tags that the scanner finds from a state, and where it ends.
Source: none: specification (HTML)
Kind: D -/
def scan : Scanner → Chars → List Chars × Scanner
  | s, [] => ([], s)
  | s, c :: cs => ((s.step c).2.toList ++ (scan (s.step c).1 cs).1, (scan (s.step c).1 cs).2)

/-- The tags of a document.
Source: none: specification (HTML)
Kind: D -/
def tags (document : Chars) : List Chars := (scan .text document).1

/-! ## Pieces -/

/-- A text in two pieces.
Source: none: infrastructure
Kind: L -/
lemma scan_append (s : Scanner) (a b : Chars) :
    scan s (a ++ b) = ((scan s a).1 ++ (scan (scan s a).2 b).1, (scan (scan s a).2 b).2) := by
  induction a generalizing s with
  | nil => rfl
  | cons c a ih =>
      rw [List.cons_append, scan, ih, scan, List.append_assoc]

/-- Where text goes on: between tags, or in an element of raw text.
Source: none: specification
Kind: D -/
def Scanner.InText : Scanner → Prop
  | .text => True
  | .raw _ recent => recent = []
  | _ => False

/-- Text without a `<` is no tag, nor the start of one.
Source: none: infrastructure
Kind: L -/
lemma scan_plain {s : Scanner} (hs : s.InText) {a : Chars} (ha : LESS ∉ a) : scan s a = ([], s) := by
  induction a with
  | nil => rfl
  | cons c a ih =>
      obtain ⟨hc, hrest⟩ := not_or.1 (mt List.mem_cons.2 ha)
      have hstep : s.step c = (s, none) := by
        cases s with
        | text => rw [Scanner.step, if_neg (Ne.symm hc)]
        | raw element recent =>
            obtain rfl : recent = [] := hs
            rw [Scanner.step, if_neg (Ne.symm hc), if_pos rfl]
        | opened => exact hs.elim
        | tag written => exact hs.elim
        | value written quote => exact hs.elim
      rw [scan, hstep, ih hrest]
      rfl

/-! ## Two texts -/

/-- Two texts, read from one state, with the same tags, to the same state.
Source: none: specification
Kind: D -/
def Aligned (s : Scanner) (a b : Chars) (t : Scanner) : Prop :=
  (scan s a).1 = (scan s b).1 ∧ (scan s a).2 = t ∧ (scan s b).2 = t

namespace Aligned

variable {s t u : Scanner} {a a' b b' : Chars}

/-- Source: none: infrastructure. Kind: L -/
lemma refl (h : (scan s a).2 = t) : Aligned s a a t := ⟨rfl, h, h⟩

/-- **Pieces make a whole.**
Source: none: infrastructure
Kind: L -/
lemma append (ha : Aligned s a b t) (hb : Aligned t a' b' u) : Aligned s (a ++ a') (b ++ b') u := by
  obtain ⟨htags, hend, hend'⟩ := ha
  obtain ⟨htags', hlast, hlast'⟩ := hb
  refine ⟨?_, ?_, ?_⟩
  · rw [scan_append, scan_append, hend, hend', htags, htags']
  · rw [scan_append, hend, hlast]
  · rw [scan_append, hend', hlast']

/-- Source: none: infrastructure. Kind: L -/
lemma plain (hs : s.InText) (ha : LESS ∉ a) (hb : LESS ∉ b) : Aligned s a b s := by
  rw [Aligned, scan_plain hs ha, scan_plain hs hb]
  exact ⟨rfl, rfl, rfl⟩

/-- Source: none: infrastructure. Kind: L -/
lemma tags_eq (h : Aligned .text a b t) : tags a = tags b := h.1

end Aligned

end NetstackSuite.Lib.HtmlTags
