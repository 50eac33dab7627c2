import Mathlib.Data.List.DropRight
import Mathlib.Tactic.Common

/-!
# HTTP/1.1 request heads

The head of a request by the grammar of RFC 9112 and RFC 9110: a request line, field lines, and an empty
line, each ended by CRLF. `parse` reads one off the front of a text; `render` writes one. The request
target is an authority, as it is in a CONNECT request, which has no content: what follows its head is no
part of it.

What is read is well formed (`wellFormed_of_parse`), and what is written of a well-formed head is read back,
with nothing missing and nothing left over (`parse_render`).
-/

namespace NetstackSuite.Lib.Http1

/-! ## Lines -/

/-- Source: none: specification (RFC 9112 §2.1). Kind: D -/
def CR : UInt8 := 0x0D

/-- Source: none: specification (RFC 9112 §2.1). Kind: D -/
def LF : UInt8 := 0x0A

/-- A line, without the CRLF that ends it, and what follows.
Source: none: specification (RFC 9112 §2.1)
Kind: D -/
def takeLine : List UInt8 → Option (List UInt8 × List UInt8)
  | [] => none
  | b :: rest =>
    if b = CR ∧ rest.head? = some LF then some ([], rest.tail)
    else (takeLine rest).map fun (line, rest) => (b :: line, rest)

/-- A line without a CR in it is taken whole.
Source: none: specification (RFC 9112 §2.1)
Kind: L -/
lemma takeLine_append {line : List UInt8} (h : CR ∉ line) (rest : List UInt8) :
    takeLine (line ++ CR :: LF :: rest) = some (line, rest) := by
  induction line with
  | nil => rfl
  | cons b line ih =>
      have hb : ¬ (b = CR ∧ (line ++ CR :: LF :: rest).head? = some LF) :=
        fun hcr => h (hcr.1 ▸ List.mem_cons_self)
      rw [List.cons_append, takeLine, if_neg hb, ih fun hmem => h (List.mem_cons_of_mem b hmem)]
      rfl

/-! ## Characters -/

/-- Source: none: specification (RFC 5234). Kind: D -/
def isDigit (b : UInt8) : Bool := 0x30 ≤ b && b ≤ 0x39

/-- Source: none: specification (RFC 5234). Kind: D -/
def isAlpha (b : UInt8) : Bool := (0x41 ≤ b && b ≤ 0x5A) || (0x61 ≤ b && b ≤ 0x7A)

/-- Source: none: specification (RFC 5234). Kind: D -/
def isHexDigit (b : UInt8) : Bool := isDigit b || (0x41 ≤ b && b ≤ 0x46) || (0x61 ≤ b && b ≤ 0x66)

/-- `! # $ % & ' * + - . ^ _` and backquote, `|`, `~`, digits and letters.
Source: none: specification (RFC 9110 §5.6.2)
Kind: D -/
def isTokenChar (b : UInt8) : Bool :=
  isDigit b || isAlpha b ||
    [0x21, 0x23, 0x24, 0x25, 0x26, 0x27, 0x2A, 0x2B, 0x2D, 0x2E, 0x5E, 0x5F, 0x60, 0x7C, 0x7E].contains b

/-- Source: none: specification (RFC 9110 §5.6.2). Kind: D -/
def isToken (s : List UInt8) : Bool := s ≠ [] && s.all isTokenChar

/-- Source: none: specification (RFC 9110 §5.6.3). Kind: D -/
def isOws (b : UInt8) : Bool := b = 0x20 || b = 0x09

/-- What a field value is made of: visible characters, blanks, and bytes above ASCII.
Source: none: specification (RFC 9110 §5.5)
Kind: D -/
def isFieldChar (b : UInt8) : Bool := isOws b || (0x21 ≤ b && b ≠ 0x7F)

/-- A text without the blanks around it.
Source: none: specification (RFC 9112 §5.1)
Kind: D -/
def trim (s : List UInt8) : List UInt8 := (s.dropWhile isOws).rdropWhile isOws

/-- A field value, without blanks around it.
Source: none: specification (RFC 9110 §5.5)
Kind: D -/
def isFieldValue (s : List UInt8) : Bool := s.all isFieldChar && trim s = s

/-- Letters, digits, `- . _ ~` and `! $ & ' ( ) * + , ; =`.
Source: none: specification (RFC 3986 §2.2, §2.3)
Kind: D -/
def isNameChar (b : UInt8) : Bool :=
  isDigit b || isAlpha b ||
    [0x2D, 0x2E, 0x5F, 0x7E, 0x21, 0x24, 0x26, 0x27, 0x28, 0x29, 0x2A, 0x2B, 0x2C, 0x3B, 0x3D].contains b

/-- A registered name or an IPv4 address: such characters, and bytes in percent-encoding.
Source: none: specification (RFC 3986 §3.2.2)
Kind: D -/
def isRegName : List UInt8 → Bool
  | [] => true
  | 0x25 :: h :: l :: s => isHexDigit h && isHexDigit l && isRegName s
  | b :: s => isNameChar b && isRegName s

/-- Sixteen bits of an address.
Source: none: specification (RFC 3986 §3.2.2, `h16`)
Kind: D -/
def isH16 (s : List UInt8) : Bool := s ≠ [] && s.length ≤ 4 && s.all isHexDigit

/-- `0` to `255`, without a leading zero.
Source: none: specification (RFC 3986 §3.2.2, `dec-octet`)
Kind: D -/
def isDecOctet (s : List UInt8) : Bool :=
  s ≠ [] && s.length ≤ 3 && s.all isDigit && (s.length = 1 || s.head? ≠ some 0x30) &&
    s.foldl (fun n b => 10 * n + (b.toNat - 0x30)) 0 ≤ 255

/-- Four octets with a dot between them.
Source: none: specification (RFC 3986 §3.2.2, `IPv4address`)
Kind: D -/
def isIpv4Address (s : List UInt8) : Bool :=
  (s.splitOn 0x2E).length = 4 && (s.splitOn 0x2E).all isDecOctet

/-- How many groups of sixteen bits there are, with colons between them.
Source: none: specification (RFC 3986 §3.2.2, `IPv6address`)
Kind: D -/
def groups (s : List UInt8) : Option Nat :=
  if s = [] then some 0
  else if (s.splitOn 0x3A).all isH16 then some (s.splitOn 0x3A).length
  else none

/-- The same at the end of an address, where the last two can be an IPv4 address.
Source: none: specification (RFC 3986 §3.2.2, `ls32`)
Kind: D -/
def lastGroups (s : List UInt8) : Option Nat :=
  if isIpv4Address ((s.splitOn 0x3A).getLastD []) && (s.splitOn 0x3A).dropLast.all isH16 then
    some ((s.splitOn 0x3A).length + 1)
  else groups s

/-- Eight groups, or seven at most around one `::`.
Source: none: specification (RFC 3986 §3.2.2, `IPv6address`)
Kind: D -/
def isIpv6Address (s : List UInt8) : Bool :=
  lastGroups s = some 8 ||
    (List.range s.length).any fun n =>
      (s.drop n).take 2 = [0x3A, 0x3A] &&
        ((groups (s.take n)).any fun left => (lastGroups (s.drop (n + 2))).any fun right => left + right ≤ 7)

/-- `v`, a version in hexadecimal digits, a dot, and an address of that version.
Source: none: specification (RFC 3986 §3.2.2, `IPvFuture`)
Kind: D -/
def isIpvFuture (s : List UInt8) : Bool :=
  let rest := s.tail.dropWhile isHexDigit
  (s.head? = some 0x76 || s.head? = some 0x56) && s.tail.takeWhile isHexDigit ≠ [] &&
    rest.head? = some 0x2E && rest.tail ≠ [] && rest.tail.all fun b => isNameChar b || b = 0x3A

/-- An address in brackets.
Source: none: specification (RFC 3986 §3.2.2)
Kind: D -/
def isIpLiteral (s : List UInt8) : Bool :=
  s.head? = some 0x5B && s.getLast? = some 0x5D &&
    (isIpv6Address s.tail.dropLast || isIpvFuture s.tail.dropLast)

/-- A host, `:`, and a port.
Source: none: specification (RFC 9112 §3.2.3)
Kind: D -/
def isAuthority (s : List UInt8) : Bool :=
  let host := (s.rdropWhile fun b => b ≠ 0x3A).dropLast
  let port := s.rtakeWhile fun b => b ≠ 0x3A
  s.contains 0x3A && port ≠ [] && port.all isDigit && (isRegName host || isIpLiteral host)

/-! ## Heads -/

/-- A request line and the fields, as they are read.
Source: none: specification (RFC 9112 §2.1)
Kind: D -/
structure RequestHead where
  method : List UInt8
  target : List UInt8
  fields : List (List UInt8 × List UInt8)
  deriving DecidableEq

/-- Source: none: specification (RFC 9112 §2.3). Kind: D -/
def VERSION : List UInt8 := [0x48, 0x54, 0x54, 0x50, 0x2F, 0x31, 0x2E, 0x31]

/-- The name is `Host`, in any case.
Source: none: specification (RFC 9110 §7.2)
Kind: D -/
def isHost (name : List UInt8) : Bool :=
  name.map (fun b => if 0x41 ≤ b && b ≤ 0x5A then b + 0x20 else b) = [0x68, 0x6F, 0x73, 0x74]

/-- The parts are of their grammars, and there is exactly one Host.
Source: none: specification (RFC 9112 §3, §3.2, §5)
Kind: D -/
structure RequestHead.WellFormed (head : RequestHead) : Prop where
  method : isToken head.method = true
  target : isAuthority head.target = true
  fields : ∀ field ∈ head.fields, isToken field.1 = true ∧ isFieldValue field.2 = true
  host : (head.fields.filter fun field => isHost field.1).length = 1

/-! ## Reading -/

/-- method SP request-target SP HTTP-version.
Source: none: specification (RFC 9112 §3)
Kind: D -/
def parseRequestLine (line : List UInt8) : Option (List UInt8 × List UInt8) :=
  let method := line.takeWhile fun b => b ≠ 0x20
  let rest := (line.dropWhile fun b => b ≠ 0x20).tail
  let target := rest.takeWhile fun b => b ≠ 0x20
  let version := (rest.dropWhile fun b => b ≠ 0x20).tail
  if isToken method ∧ isAuthority target ∧ version = VERSION then some (method, target) else none

/-- field-name `:` OWS field-value OWS.
Source: none: specification (RFC 9112 §5)
Kind: D -/
def parseField (line : List UInt8) : Option (List UInt8 × List UInt8) :=
  let name := line.takeWhile fun b => b ≠ 0x3A
  let value := trim (line.dropWhile fun b => b ≠ 0x3A).tail
  if 0x3A ∈ line ∧ isToken name ∧ isFieldValue value then some (name, value) else none

/-- Field lines up to the empty line, and what follows; there are at most `fuel` lines.
Source: none: specification (RFC 9112 §2.1)
Kind: D -/
def parseFields : Nat → List UInt8 → Option (List (List UInt8 × List UInt8) × List UInt8)
  | 0, _ => none
  | fuel + 1, s =>
    match takeLine s with
    | none => none
    | some (line, rest) =>
      if line = [] then some ([], rest)
      else
        (parseField line).bind fun field =>
          (parseFields fuel rest).map fun (fields, rest) => (field :: fields, rest)

/-- A request head, and what follows it.
Source: none: specification (RFC 9112 §2.1, §3.2)
Kind: D -/
def parse (s : List UInt8) : Option (RequestHead × List UInt8) :=
  (takeLine s).bind fun (line, rest) =>
    (parseRequestLine line).bind fun (method, target) =>
      (parseFields rest.length rest).bind fun (fields, rest) =>
        if (fields.filter fun field => isHost field.1).length = 1 then
          some (⟨method, target, fields⟩, rest)
        else none

/-! ## Writing -/

/-- Source: none: specification (RFC 9112 §5). Kind: D -/
def renderField (field : List UInt8 × List UInt8) : List UInt8 := field.1 ++ 0x3A :: 0x20 :: field.2

/-- Source: none: specification (RFC 9112 §3). Kind: D -/
def renderRequestLine (method target : List UInt8) : List UInt8 :=
  method ++ 0x20 :: (target ++ 0x20 :: VERSION)

/-- Field lines and the empty line.
Source: none: specification (RFC 9112 §2.1)
Kind: D -/
def renderFields : List (List UInt8 × List UInt8) → List UInt8
  | [] => [CR, LF]
  | field :: fields => renderField field ++ CR :: LF :: renderFields fields

/-- Source: none: specification (RFC 9112 §2.1). Kind: D -/
def render (head : RequestHead) : List UInt8 :=
  renderRequestLine head.method head.target ++ CR :: LF :: renderFields head.fields

/-! ## What is read is well formed -/

lemma wellFormed_of_parseField {line : List UInt8} {field : List UInt8 × List UInt8}
    (h : parseField line = some field) : isToken field.1 = true ∧ isFieldValue field.2 = true := by
  unfold parseField at h
  simp only at h
  split at h
  next hparts =>
    obtain rfl := Option.some.inj h
    exact hparts.2
  · cases h

lemma wellFormed_of_parseFields {fuel : Nat} {s rest : List UInt8}
    {fields : List (List UInt8 × List UInt8)} (h : parseFields fuel s = some (fields, rest)) :
    ∀ field ∈ fields, isToken field.1 = true ∧ isFieldValue field.2 = true := by
  induction fuel generalizing s fields with
  | zero => cases h
  | succ fuel ih =>
      rw [parseFields] at h
      split at h
      · cases h
      · split at h
        · obtain ⟨rfl, -⟩ := Prod.mk.inj (Option.some.inj h)
          exact List.forall_mem_nil _
        · obtain ⟨field, hfield, hrest⟩ := Option.bind_eq_some_iff.mp h
          obtain ⟨⟨fields', rest'⟩, hfields, hpair⟩ := Option.map_eq_some_iff.mp hrest
          obtain ⟨rfl, rfl⟩ := Prod.mk.inj hpair
          rw [List.forall_mem_cons]
          exact ⟨wellFormed_of_parseField hfield, ih hfields⟩

/-- **A head that is read is well formed.**
Source: none: specification (RFC 9112)
Kind: P -/
theorem wellFormed_of_parse {s rest : List UInt8} {head : RequestHead} (h : parse s = some (head, rest)) :
    head.WellFormed := by
  unfold parse at h
  obtain ⟨⟨line, after⟩, -, h⟩ := Option.bind_eq_some_iff.mp h
  obtain ⟨⟨method, target⟩, hline, h⟩ := Option.bind_eq_some_iff.mp h
  obtain ⟨⟨fields, after⟩, hfields, h⟩ := Option.bind_eq_some_iff.mp h
  simp only at h
  split at h
  next hhost =>
    obtain ⟨rfl, -⟩ := Prod.mk.inj (Option.some.inj h)
    unfold parseRequestLine at hline
    simp only at hline
    split at hline
    next hparts =>
      obtain ⟨rfl, rfl⟩ := Prod.mk.inj (Option.some.inj hline)
      exact ⟨hparts.1, hparts.2.1, wellFormed_of_parseFields hfields, hhost⟩
    · cases hline
  · cases h

/-! ## What is well formed is read back -/

section Separators

variable {c : UInt8}

lemma not_mem_of_isToken (hc : isTokenChar c = false) {s : List UInt8} (h : isToken s = true) : c ∉ s := by
  intro hmem
  rw [isToken, Bool.and_eq_true, List.all_eq_true] at h
  rw [h.2 c hmem] at hc
  cases hc

lemma not_mem_of_isFieldValue (hc : isFieldChar c = false) {s : List UInt8} (h : isFieldValue s = true) :
    c ∉ s := by
  intro hmem
  rw [isFieldValue, Bool.and_eq_true, List.all_eq_true] at h
  rw [h.1 c hmem] at hc
  cases hc

lemma not_mem_of_isRegName (hc : isNameChar c = false) (hhex : isHexDigit c = false) (hpercent : c ≠ 0x25)
    {s : List UInt8} (h : isRegName s = true) : c ∉ s := by
  induction s using isRegName.induct with
  | case1 => exact List.not_mem_nil
  | case2 hi lo s ih =>
      rw [isRegName, Bool.and_eq_true, Bool.and_eq_true] at h
      simp only [List.mem_cons, not_or]
      refine ⟨hpercent, ?_, ?_, ih h.2⟩
      · rintro rfl
        rw [h.1.1] at hhex
        cases hhex
      · rintro rfl
        rw [h.1.2] at hhex
        cases hhex
  | case3 b s hencoded ih =>
      rw [isRegName, Bool.and_eq_true] at h
      · simp only [List.mem_cons, not_or]
        refine ⟨?_, ih h.2⟩
        rintro rfl
        rw [h.1] at hc
        cases hc
      · exact hencoded

/-- The characters between the brackets of an address.
Source: none: specification (RFC 3986 §3.2.2)
Kind: D -/
def IsAddressText (s : List UInt8) : Prop := ∀ b ∈ s, isNameChar b = true ∨ b = 0x3A

lemma isNameChar_of_isHexDigit {b : UInt8} (h : isHexDigit b = true) : isNameChar b = true := by
  simp only [isHexDigit, isNameChar, isDigit, isAlpha, Bool.or_eq_true, Bool.and_eq_true, decide_eq_true_eq,
    UInt8.le_iff_toNat_le, UInt8.reduceToNat] at h ⊢
  omega

/-- The characters of a text are those of its parts, and what separates them.
Source: none: infrastructure
Kind: L -/
lemma mem_of_splitOn {x b : UInt8} {s : List UInt8} (h : b ∈ s) : b = x ∨ ∃ part ∈ s.splitOn x, b ∈ part := by
  have hjoin : ∀ parts : List (List UInt8), b ∈ [x].intercalate parts → b = x ∨ ∃ part ∈ parts, b ∈ part := by
    intro parts
    induction parts with
    | nil => exact fun hmem => absurd hmem List.not_mem_nil
    | cons part parts ih =>
        intro hmem
        rcases parts with _ | ⟨next, parts⟩
        · rw [List.intercalate_singleton] at hmem
          exact Or.inr ⟨part, List.mem_cons_self, hmem⟩
        · rw [List.intercalate_cons_cons, List.mem_append, List.mem_append, List.mem_singleton] at hmem
          rcases hmem with (hpart | hsep) | hrest
          · exact Or.inr ⟨part, List.mem_cons_self, hpart⟩
          · exact Or.inl hsep
          · rcases ih hrest with hsep | ⟨other, hother, hmem⟩
            · exact Or.inl hsep
            · exact Or.inr ⟨other, List.mem_cons_of_mem part hother, hmem⟩
  have hsplit : [x].intercalate (s.splitOn x) = s := List.intercalate_splitOn x
  rw [← hsplit] at h
  exact hjoin _ h

lemma isAddressText_of_isH16 {s : List UInt8} (h : isH16 s = true) : IsAddressText s := by
  simp only [isH16, Bool.and_eq_true, List.all_eq_true] at h
  exact fun b hb => Or.inl (isNameChar_of_isHexDigit (h.2 b hb))

lemma isAddressText_of_isIpv4Address {s : List UInt8} (h : isIpv4Address s = true) : IsAddressText s := by
  simp only [isIpv4Address, isDecOctet, Bool.and_eq_true, List.all_eq_true] at h
  intro b hb
  rcases mem_of_splitOn (x := 0x2E) hb with rfl | ⟨octet, hoctet, hmem⟩
  · exact Or.inl (by decide)
  · have hdigit := (h.2 octet hoctet).1.1.2 b hmem
    exact Or.inl (isNameChar_of_isHexDigit (by simp [isHexDigit, hdigit]))

lemma isAddressText_of_groups {s : List UInt8} {n : Nat} (h : groups s = some n) : IsAddressText s := by
  unfold groups at h
  split at h
  next hnil =>
    rw [hnil]
    exact List.forall_mem_nil _
  · split at h
    next hall =>
      rw [List.all_eq_true] at hall
      intro b hb
      rcases mem_of_splitOn (x := 0x3A) hb with hcolon | ⟨part, hpart, hmem⟩
      · exact Or.inr hcolon
      · exact isAddressText_of_isH16 (hall part hpart) b hmem
    · cases h

lemma isAddressText_of_lastGroups {s : List UInt8} {n : Nat} (h : lastGroups s = some n) :
    IsAddressText s := by
  unfold lastGroups at h
  split at h
  next hlast =>
    rw [Bool.and_eq_true, List.all_eq_true] at hlast
    intro b hb
    rcases mem_of_splitOn (x := 0x3A) hb with hcolon | ⟨part, hpart, hmem⟩
    · exact Or.inr hcolon
    · have hne := List.ne_nil_of_mem hpart
      rw [← List.dropLast_append_getLast hne, List.mem_append, List.mem_singleton] at hpart
      rcases hpart with hfront | rfl
      · exact isAddressText_of_isH16 (hlast.2 part hfront) b hmem
      · rw [List.getLastD_eq_getLast?, List.getLast?_eq_some_getLast hne, Option.getD_some] at hlast
        exact isAddressText_of_isIpv4Address hlast.1 b hmem
  · exact isAddressText_of_groups h

lemma isAddressText_of_isIpv6Address {s : List UInt8} (h : isIpv6Address s = true) : IsAddressText s := by
  rw [isIpv6Address, Bool.or_eq_true, decide_eq_true_eq, List.any_eq_true] at h
  rcases h with hfull | ⟨n, -, hcut⟩
  · exact isAddressText_of_lastGroups hfull
  · rw [Bool.and_eq_true, decide_eq_true_eq, Option.any_eq_true] at hcut
    obtain ⟨hcolons, left, hleft, hright⟩ := hcut
    obtain ⟨right, hright, -⟩ := (Option.any_eq_true _ _).mp hright
    have hsplit : s = s.take n ++ ([0x3A, 0x3A] ++ s.drop (n + 2)) := by
      rw [← hcolons, ← List.drop_drop, List.take_append_drop, List.take_append_drop]
    intro b hb
    rw [hsplit, List.mem_append, List.mem_append] at hb
    rcases hb with hfront | hmiddle | hback
    · exact isAddressText_of_groups hleft b hfront
    · simp only [List.mem_cons, List.not_mem_nil, or_false, or_self] at hmiddle
      exact Or.inr hmiddle
    · exact isAddressText_of_lastGroups hright b hback

lemma isAddressText_of_isIpvFuture {s : List UInt8} (h : isIpvFuture s = true) : IsAddressText s := by
  simp only [isIpvFuture, Bool.and_eq_true, Bool.or_eq_true, decide_eq_true_eq, List.all_eq_true] at h
  obtain ⟨⟨⟨⟨hv, -⟩, hdot⟩, -⟩, hrest⟩ := h
  intro b hb
  rcases s with _ | ⟨v, s⟩
  · exact absurd hb List.not_mem_nil
  · rcases List.mem_cons.mp hb with rfl | hmem
    · rcases hv with hv | hv
      · obtain rfl := Option.some.inj hv
        exact Or.inl (by decide)
      · obtain rfl := Option.some.inj hv
        exact Or.inl (by decide)
    · rw [← List.takeWhile_append_dropWhile (p := isHexDigit) (l := s), List.mem_append] at hmem
      rcases hmem with hversion | hback
      · exact Or.inl (isNameChar_of_isHexDigit (List.mem_takeWhile_imp hversion))
      · rw [List.tail_cons] at hdot hrest
        rcases hdropped : s.dropWhile isHexDigit with _ | ⟨dot, rest⟩
        · rw [hdropped] at hback
          exact absurd hback List.not_mem_nil
        · rw [hdropped] at hback hdot hrest
          rcases List.mem_cons.mp hback with rfl | hmem
          · obtain rfl := Option.some.inj hdot
            exact Or.inl (by decide)
          · exact hrest b hmem

lemma not_mem_of_isIpLiteral (hc : isNameChar c = false) (hother : c ≠ 0x3A ∧ c ≠ 0x5B ∧ c ≠ 0x5D)
    {s : List UInt8} (h : isIpLiteral s = true) : c ∉ s := by
  simp only [isIpLiteral, Bool.and_eq_true, decide_eq_true_eq, Bool.or_eq_true] at h
  obtain ⟨⟨hopen, hclose⟩, haddress⟩ := h
  have hinner : IsAddressText s.tail.dropLast := by
    rcases haddress with hsix | hfuture
    · exact isAddressText_of_isIpv6Address hsix
    · exact isAddressText_of_isIpvFuture hfuture
  intro hmem
  rcases s with _ | ⟨a, s⟩
  · exact List.not_mem_nil hmem
  · rcases List.mem_cons.mp hmem with rfl | htail
    · exact hother.2.1 (Option.some.inj hopen)
    · have hne : s ≠ [] := List.ne_nil_of_mem htail
      rw [List.getLast?_cons, List.getLast?_eq_some_getLast hne] at hclose
      rw [← List.dropLast_append_getLast hne, List.mem_append, List.mem_singleton] at htail
      rcases htail with hmiddle | hlast
      · rcases hinner c hmiddle with hname | hcolon
        · rw [hname] at hc
          cases hc
        · exact hother.1 hcolon
      · exact hother.2.2 (hlast.trans (Option.some.inj hclose))

lemma not_mem_of_isAuthority (hc : isNameChar c = false) (hhex : isHexDigit c = false)
    (hother : c ≠ 0x3A ∧ c ≠ 0x5B ∧ c ≠ 0x5D ∧ c ≠ 0x25) {s : List UInt8} (h : isAuthority s = true) :
    c ∉ s := by
  simp only [isAuthority, Bool.and_eq_true, decide_eq_true_eq, List.all_eq_true, Bool.or_eq_true] at h
  obtain ⟨⟨-, hport⟩, hhost⟩ := h
  intro hmem
  have hsplit := List.rdropWhile_append_rtakeWhile (p := fun b : UInt8 => b ≠ 0x3A) (l := s)
  rw [← hsplit, List.mem_append] at hmem
  rcases hmem with hfront | hdigits
  · -- the host, and the colon after it
    have hne := List.ne_nil_of_mem hfront
    have hlast := List.rdropWhile_last_not (fun b : UInt8 => b ≠ 0x3A) s hne
    rw [decide_eq_true_eq, ne_eq, not_not] at hlast
    rw [← List.dropLast_append_getLast hne, List.mem_append, List.mem_singleton, hlast] at hfront
    rcases hfront with hmem | hcolon
    · rcases hhost with hname | hliteral
      · exact not_mem_of_isRegName hc hhex hother.2.2.2 hname hmem
      · exact not_mem_of_isIpLiteral hc ⟨hother.1, hother.2.1, hother.2.2.1⟩ hliteral hmem
    · exact hother.1 hcolon
  · have hdigit := hport c hdigits
    rw [isHexDigit, hdigit] at hhex
    cases hhex

end Separators

/-- A text without blanks has none around it.
Source: none: specification (RFC 9112 §5.1)
Kind: L -/
lemma trim_of_not_isOws {s : List UInt8} (h : ∀ b ∈ s, isOws b = false) : trim s = s := by
  have hfront : s.dropWhile isOws = s := by
    rcases s with _ | ⟨b, s⟩
    · rfl
    · rw [List.dropWhile_cons_of_neg]
      rw [h b List.mem_cons_self]
      exact Bool.false_ne_true
  rw [trim, hfront, List.rdropWhile_eq_self_iff]
  intro hne
  rw [h _ (List.getLast_mem hne)]
  exact Bool.false_ne_true

lemma isFieldChar_of_isNameChar {b : UInt8} (h : isNameChar b = true ∨ isHexDigit b = true) :
    isFieldChar b = true ∧ isOws b = false := by
  have hrange : 0x21 ≤ b ∧ b < 0x7F := by
    simp only [isNameChar, isHexDigit, isDigit, isAlpha, Bool.or_eq_true, Bool.and_eq_true,
      decide_eq_true_eq, List.contains_cons, List.contains_nil, beq_iff_eq, Bool.or_false,
      UInt8.le_iff_toNat_le, ← UInt8.toNat_inj, UInt8.reduceToNat] at h
    simp only [UInt8.le_iff_toNat_le, UInt8.lt_iff_toNat_lt, UInt8.reduceToNat]
    omega
  constructor
  · rw [isFieldChar, Bool.or_eq_true, Bool.and_eq_true, decide_eq_true_eq, decide_eq_true_eq]
    refine Or.inr ⟨hrange.1, ?_⟩
    rintro rfl
    exact absurd hrange.2 (by decide)
  · rw [isOws, Bool.or_eq_false_iff, decide_eq_false_iff_not, decide_eq_false_iff_not]
    constructor
    · rintro rfl
      exact absurd hrange.1 (by decide)
    · rintro rfl
      exact absurd hrange.1 (by decide)

/-- An authority can be a field value.
Source: none: specification (RFC 9110 §7.2)
Kind: L -/
lemma isFieldValue_of_isAuthority {s : List UInt8} (h : isAuthority s = true) : isFieldValue s = true := by
  have hchars : ∀ b ∈ s, isFieldChar b = true ∧ isOws b = false := by
    intro b hb
    by_cases hspecial : b = 0x3A ∨ b = 0x5B ∨ b = 0x5D ∨ b = 0x25
    · rcases hspecial with rfl | rfl | rfl | rfl <;> decide
    · apply isFieldChar_of_isNameChar
      by_contra hother
      rw [not_or, Bool.not_eq_true, Bool.not_eq_true] at hother
      simp only [not_or] at hspecial
      exact not_mem_of_isAuthority hother.1 hother.2 hspecial h hb
  rw [isFieldValue, Bool.and_eq_true, List.all_eq_true, decide_eq_true_eq]
  exact ⟨fun b hb => (hchars b hb).1, trim_of_not_isOws fun b hb => (hchars b hb).2⟩

lemma takeWhile_append_cons {a : UInt8} {front : List UInt8} (h : a ∉ front) (rest : List UInt8) :
    (front ++ a :: rest).takeWhile (fun b => b ≠ a) = front ∧
      (front ++ a :: rest).dropWhile (fun b => b ≠ a) = a :: rest := by
  have hall : ∀ b ∈ front, decide (b ≠ a) = true := by
    intro b hb
    rw [decide_eq_true_eq]
    rintro rfl
    exact h hb
  rw [List.takeWhile_append_of_pos hall, List.dropWhile_append_of_pos hall]
  simp

lemma parseRequestLine_render {method target : List UInt8} (hmethod : isToken method = true)
    (htarget : isAuthority target = true) :
    parseRequestLine (renderRequestLine method target) = some (method, target) := by
  have hspace : (0x20 : UInt8) ∉ method := not_mem_of_isToken (by decide) hmethod
  have hspace' : (0x20 : UInt8) ∉ target :=
    not_mem_of_isAuthority (by decide) (by decide) (by decide) htarget
  unfold parseRequestLine renderRequestLine
  simp only [(takeWhile_append_cons hspace _).1, (takeWhile_append_cons hspace _).2, List.tail_cons,
    (takeWhile_append_cons hspace' _).1, (takeWhile_append_cons hspace' _).2]
  rw [if_pos ⟨hmethod, htarget, trivial⟩]

lemma parseField_render {field : List UInt8 × List UInt8} (hname : isToken field.1 = true)
    (hvalue : isFieldValue field.2 = true) : parseField (renderField field) = some field := by
  have hcolon : (0x3A : UInt8) ∉ field.1 := not_mem_of_isToken (by decide) hname
  have htrim : trim (0x20 :: field.2) = field.2 := by
    rw [isFieldValue, Bool.and_eq_true, decide_eq_true_eq] at hvalue
    exact hvalue.2
  unfold parseField renderField
  simp only [(takeWhile_append_cons hcolon _).1, (takeWhile_append_cons hcolon _).2, List.tail_cons,
    htrim]
  rw [if_pos ⟨List.mem_append_right _ List.mem_cons_self, hname, hvalue⟩]

lemma parseFields_render {fields : List (List UInt8 × List UInt8)}
    (h : ∀ field ∈ fields, isToken field.1 = true ∧ isFieldValue field.2 = true) {fuel : Nat}
    (hfuel : fields.length < fuel) (rest : List UInt8) :
    parseFields fuel (renderFields fields ++ rest) = some (fields, rest) := by
  induction fields generalizing fuel with
  | nil =>
      obtain ⟨fuel, rfl⟩ := Nat.exists_eq_add_of_le' hfuel
      rfl
  | cons field fields ih =>
      obtain ⟨fuel, rfl⟩ := Nat.exists_eq_add_of_le' (Nat.zero_lt_of_lt hfuel)
      rw [List.forall_mem_cons] at h
      obtain ⟨⟨hname, hvalue⟩, hfields⟩ := h
      have hline : CR ∉ renderField field := by
        unfold renderField
        rw [List.mem_append, List.mem_cons, List.mem_cons]
        rintro (hmem | hcolon | hspace | hmem)
        · exact not_mem_of_isToken (by decide) hname hmem
        · cases hcolon
        · cases hspace
        · exact not_mem_of_isFieldValue (by decide) hvalue hmem
      have hne : renderField field ≠ [] :=
        List.append_ne_nil_of_right_ne_nil _ (List.cons_ne_nil _ _)
      rw [renderFields, List.append_assoc, List.cons_append, List.cons_append, parseFields,
        takeLine_append hline]
      simp only
      rw [if_neg hne, parseField_render hname hvalue, Option.bind_some, ih hfields (by simpa using hfuel)]
      rfl

lemma length_lt_renderFields (fields : List (List UInt8 × List UInt8)) (rest : List UInt8) :
    fields.length < (renderFields fields ++ rest).length := by
  induction fields with
  | nil =>
      simp only [renderFields, List.length_append, List.length_cons, List.length_nil]
      omega
  | cons field fields ih =>
      rw [List.length_append] at ih
      simp only [renderFields, List.length_cons, List.length_append]
      omega

/-- **A well-formed head is read back**, and nothing after it is taken.
Source: none: specification (RFC 9112)
Kind: P -/
theorem parse_render {head : RequestHead} (h : head.WellFormed) (rest : List UInt8) :
    parse (render head ++ rest) = some (head, rest) := by
  have hline : CR ∉ renderRequestLine head.method head.target := by
    unfold renderRequestLine
    rw [List.mem_append, List.mem_cons, List.mem_append, List.mem_cons]
    rintro (hmem | hspace | hmem | hspace | hmem)
    · exact not_mem_of_isToken (by decide) h.method hmem
    · cases hspace
    · exact not_mem_of_isAuthority (by decide) (by decide) (by decide) h.target hmem
    · cases hspace
    · exact absurd hmem (by decide)
  unfold parse render
  rw [List.append_assoc, List.cons_append, List.cons_append, takeLine_append hline, Option.bind_some]
  simp only
  rw [parseRequestLine_render h.method h.target, Option.bind_some]
  simp only
  rw [parseFields_render h.fields (length_lt_renderFields _ _), Option.bind_some]
  simp only
  rw [if_pos h.host]

end NetstackSuite.Lib.Http1
