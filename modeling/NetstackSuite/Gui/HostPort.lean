import NetstackSuite.Gui.DutForm
import NetstackSuite.Proxy.Encoders

/-!
# `host:port` fields

What `_split_host_port` of `src/gui/main_window.py` makes of a text. `Form` are the texts that name a host,
with or without a port. The function splits at the last colon, so it takes a whole IPv6 literal apart; and it
raises only if `int` rejects what it takes for the port, so it accepts whatever `int` accepts there, and any
text in which it finds no port at all. `hostPort_iff` says that these are the only ways in which it errs.
-/

namespace NetstackSuite.Gui

open NetstackSuite.Config NetstackSuite.Proxy NetstackSuite.Python

/-! ## Authorities and what they split into -/

/-- Source: ASCII. Kind: D -/
def OPENING : CodePoint := 0x5B

/-- Source: ASCII. Kind: D -/
def CLOSING : CodePoint := 0x5D

/-- An IPv6 literal, with or without a zone; there is no bracket in one.
Source: none: specification
Kind: D -/
def isIpv6Literal (s : PyStr) : Bool :=
  (ipv6Address s).isSome && s.all fun c => c ≠ OPENING ∧ c ≠ CLOSING

/-- One to five ASCII digits for a number up to 65535.
Source: none: specification
Kind: D -/
structure PortText (s : PyStr) : Prop where
  digits : IsDecimal s
  short : s.length ≤ 5
  fits : decimalValue s ≤ 65535

/-- What may follow a host: nothing, a colon, or a colon and a port.
Source: none: specification
Kind: D -/
inductive PortPart : PyStr → Option Int → Prop where
  | absent : PortPart [] none
  | empty : PortPart [COLON] none
  | port {s : PyStr} (text : PortText s) : PortPart (COLON :: s) (some (decimalValue s))

/-- The texts that name a host, with the host and the port.
Source: none: specification
Kind: D -/
inductive Form : PyStr → PyStr → Option Int → Prop where
  | plain {host rest : PyStr} {port : Option Int} (ne : host ≠ []) (bare : host.head? ≠ some OPENING)
      (colon : COLON ∉ host) (part : PortPart rest port) : Form (host ++ rest) host port
  | bracketed {host rest : PyStr} {port : Option Int} (literal : isIpv6Literal host = true)
      (part : PortPart rest port) : Form (OPENING :: (host ++ CLOSING :: rest)) host port
  | literal {host : PyStr} (literal : isIpv6Literal host = true) : Form host host none

/-- The field is read as it should be: a blank one is unset, a form gives its host and port, and anything else
raises.
Source: none: specification
Kind: D -/
structure ReadRight (field : PyStr) : Prop where
  blank : strip field = [] → splitHostPort field = .ok (none, none)
  form : ∀ host port, Form (strip field) host port → splitHostPort field = .ok (some host, port)
  other : strip field ≠ [] → (¬ ∃ host port, Form (strip field) host port) →
    splitHostPort field = .error configurationError

/-- A port that is there, and that `int` rejects.
Source: none: specification
Kind: D -/
def IntRejects (port : PyStr) : Prop := port ≠ [] ∧ ∀ i, pyInt port ≠ .ok i

/-- What follows the last colon behind a host, or the bracket and its colons, is there and is rejected.
Source: none: specification
Kind: D -/
inductive BadPort : PyStr → Prop where
  | plain {host port : PyStr} (ne : host ≠ []) (bare : host.head? ≠ some OPENING) (colon : COLON ∉ port)
      (bad : IntRejects port) : BadPort (host ++ COLON :: port)
  | bracketed {host colons port : PyStr} (bracket : CLOSING ∉ host) (colons_eq : ∀ c ∈ colons, c = COLON)
      (head : port.head? ≠ some COLON) (bad : IntRejects port) :
      BadPort (OPENING :: (host ++ CLOSING :: (colons ++ port)))

/-- A host: a text without colons that begins with neither a bracket nor whitespace, or an IPv6 literal.
Source: none: specification
Kind: D -/
inductive IsHost : PyStr → Prop where
  | name {c : CodePoint} {host : PyStr} (bare : c ≠ OPENING) (solid : isSpace c = false)
      (colon : COLON ∉ c :: host) : IsHost (c :: host)
  | literal {host : PyStr} (literal : isIpv6Literal host = true) : IsHost host

/-! ## What the function does -/

lemma splitField_plain {host port : PyStr} (hne : host ≠ []) (hbare : host.head? ≠ some OPENING)
    (hport : COLON ∉ port) : splitField (host ++ COLON :: port) = (host, port) := by
  rcases host with _ | ⟨c, host⟩
  · contradiction
  · have hhead : ((c :: host) ++ COLON :: port).head? ≠ some 0x5B := hbare
    unfold splitField
    rw [if_neg hhead, rpartition_append hport]

/-- Without a colon, or with one only at the start, the whole text is the host.
Source: `src/gui/main_window.py` `_split_host_port`
Kind: L -/
lemma splitField_whole {value : PyStr} (hbare : value.head? ≠ some OPENING)
    (hcolon : COLON ∉ value ∨ ∃ port, value = COLON :: port ∧ COLON ∉ port) :
    splitField value = (value, []) := by
  have hhead : value.head? ≠ some 0x5B := hbare
  unfold splitField
  rw [if_neg hhead]
  rcases hcolon with hnone | ⟨port, rfl, hport⟩
  · rw [rpartition_eq_none hnone]
  · have hsplit := rpartition_append hport []
    rw [List.nil_append] at hsplit
    rw [hsplit]

lemma splitField_bracketed {host colons port : PyStr} (hbracket : CLOSING ∉ host)
    (hcolons : ∀ c ∈ colons, c = COLON) (hhead : port.head? ≠ some COLON) :
    splitField (OPENING :: (host ++ CLOSING :: (colons ++ port))) =
      (host.dropWhile (· = OPENING), port) := by
  have hmem : CLOSING ∉ OPENING :: host := List.not_mem_cons_of_ne_of_not_mem (by decide) hbracket
  have hsplit := partition_append hmem (colons ++ port)
  have hrest : (colons ++ port).dropWhile (· = COLON) = port := by
    rw [List.dropWhile_append_of_pos fun c hc => decide_eq_true (hcolons c hc)]
    rcases port with _ | ⟨c, port⟩
    · rfl
    · exact List.dropWhile_cons_of_neg fun hc => hhead (congrArg some (of_decide_eq_true hc))
  unfold splitField
  rw [if_pos (by rfl)]
  rw [List.cons_append] at hsplit
  simp only
  change ((((partition CLOSING _).getD _).1).dropWhile _, (((partition CLOSING _).getD _).2).dropWhile _) = _
  rw [hsplit]
  simp only [Option.getD_some]
  rw [hrest]
  rfl

/-- Without a closing bracket there is no port.
Source: `src/gui/main_window.py` `_split_host_port`
Kind: L -/
lemma splitField_open {value : PyStr} (hopen : value.head? = some OPENING) (hbracket : CLOSING ∉ value) :
    splitField value = (value.dropWhile (· = OPENING), []) := by
  have hhead : value.head? = some 0x5B := hopen
  unfold splitField
  rw [if_pos hhead]
  change ((((partition CLOSING _).getD _).1).dropWhile _, (((partition CLOSING _).getD _).2).dropWhile _) = _
  rw [partition_eq_none.mpr hbracket]
  rfl

section

variable {field host port : PyStr} (hne : strip field ≠ []) (h : splitField (strip field) = (host, port))

include hne h

lemma splitHostPort_portless (hport : port = []) :
    splitHostPort field = .ok (orNone (some host), none) := by
  unfold splitHostPort
  simp only [if_neg hne, h, if_pos hport]

lemma splitHostPort_port (hport : port ≠ []) {i : Int} (hi : pyInt port = .ok i) :
    splitHostPort field = .ok (orNone (some host), some i) := by
  unfold splitHostPort
  simp only [if_neg hne, h, if_neg hport, hi]

lemma splitHostPort_rejects (hbad : IntRejects port) : splitHostPort field = .error configurationError := by
  unfold splitHostPort
  simp only [if_neg hne, h, if_neg hbad.1]
  rcases hi : pyInt port with e | i
  · rfl
  · exact absurd hi (hbad.2 i)

/-- It raises only if `int` rejects the port.
Source: `src/gui/main_window.py` `_split_host_port`
Kind: L -/
lemma intRejects_of_error (herror : splitHostPort field = .error configurationError) : IntRejects port := by
  constructor
  · intro hport
    rw [splitHostPort_portless hne h hport] at herror
    cases herror
  · intro i hi
    by_cases hport : port = []
    · rw [splitHostPort_portless hne h hport] at herror
      cases herror
    · rw [splitHostPort_port hne h hport hi] at herror
      cases herror

end

/-! ## Literals and ports -/

/-- The address in front of a zone.
Source: Python `ipaddress` `_BaseV6._split_scope_id`
Kind: L -/
lemma splitScopeId_fst {s address : PyStr} {scopeId : Option PyStr}
    (h : splitScopeId s = some (address, scopeId)) : address = s.takeWhile (· ≠ PERCENT) := by
  unfold splitScopeId at h
  simp only at h
  split at h
  · exact (Prod.mk.inj (Option.some.inj h)).1.symm
  · split at h
    · cases h
    · exact (Prod.mk.inj (Option.some.inj h)).1.symm

/-- An address has at least three parts.
Source: Python `ipaddress` `_BaseV6._ip_int_from_string`
Kind: L -/
lemma two_colons_of_ipv6OfText {address : PyStr} {ip : BitVec 128} (h : ipv6OfText address = some ip) :
    ∃ a b c, address = a ++ COLON :: (b ++ COLON :: c) := by
  have hjoin : List.intercalate [COLON] (address.splitOn COLON) = address := List.intercalate_splitOn COLON
  unfold ipv6OfText at h
  simp only at h
  split at h
  · cases h
  · next hlength =>
    rcases hparts : address.splitOn COLON with _ | ⟨a, _ | ⟨b, _ | ⟨c, rest⟩⟩⟩
    · rw [hparts] at hlength
      exact absurd (by simp) hlength
    · rw [hparts] at hlength
      exact absurd (by simp) hlength
    · rw [hparts] at hlength
      exact absurd (by simp) hlength
    · refine ⟨a, b, List.intercalate [COLON] (c :: rest), ?_⟩
      rw [hparts] at hjoin
      rw [← hjoin]
      simp [List.intercalate, List.intersperse]

/-- An IPv6 literal has two colons, and no brackets.
Source: Python `ipaddress` `IPv6Address`
Kind: L -/
lemma ipv6Literal_spec {s : PyStr} (h : isIpv6Literal s = true) :
    (∃ a b c, s = a ++ COLON :: (b ++ COLON :: c)) ∧ OPENING ∉ s ∧ CLOSING ∉ s := by
  obtain ⟨haddress, hbrackets⟩ := Bool.and_eq_true_iff.mp h
  have hnone : ∀ c ∈ s, c ≠ OPENING ∧ c ≠ CLOSING :=
    fun c hc => of_decide_eq_true (List.all_eq_true.mp hbrackets c hc)
  refine ⟨?_, fun hmem => (hnone _ hmem).1 rfl, fun hmem => (hnone _ hmem).2 rfl⟩
  obtain ⟨ip, hip⟩ := Option.isSome_iff_exists.mp haddress
  unfold ipv6Address at hip
  split at hip
  · cases hip
  · obtain ⟨⟨address, scopeId⟩, hscope, hmap⟩ := Option.bind_eq_some_iff.mp hip
    obtain ⟨ip', hparse, -⟩ := Option.map_eq_some_iff.mp hmap
    obtain ⟨a, b, c, hsplit⟩ := two_colons_of_ipv6OfText hparse
    refine ⟨a, b, c ++ s.dropWhile (· ≠ PERCENT), ?_⟩
    have hwhole := List.takeWhile_append_dropWhile (p := (· ≠ PERCENT)) (l := s)
    rw [← splitScopeId_fst hscope, hsplit] at hwhole
    exact hwhole.symm.trans (by simp)

lemma PortText.spec {s : PyStr} (h : PortText s) : s ≠ [] ∧ COLON ∉ s ∧ pyInt s = .ok (decimalValue s) := by
  have hlength : s.length ≤ 4300 := h.short.trans (by decide)
  have hread : pyInt s = .ok (decimalValue s) := by
    simpa using pyInt_of_isDecimal h.digits hlength false
  exact ⟨h.digits.1, not_mem_of_isDecimal h.digits (by decide), hread⟩

/-! ## Exactly which fields are read right -/

/-- What the digits behind the colon give.
Source: `src/gui/main_window.py` `_split_host_port`
Kind: D -/
inductive PortRead : PyStr → Option Int → Prop where
  | absent : PortRead [] none
  | port {digits : PyStr} {port : Int} (ne : digits ≠ []) (read : pyInt digits = .ok port) :
      PortRead digits (some port)

lemma splitHostPort_of_read {field host digits : PyStr} {port : Option Int} (hfield : strip field ≠ [])
    (hsplit : splitField (strip field) = (host, digits)) (hhost : host ≠ []) (hport : PortRead digits port) :
    splitHostPort field = .ok (some host, port) := by
  have hsome : orNone (some host) = some host := by
    rcases host with _ | ⟨c, host⟩
    · contradiction
    · rfl
  rw [← hsome]
  rcases hport with _ | ⟨hne, hread⟩
  · exact splitHostPort_portless hfield hsplit rfl
  · exact splitHostPort_port hfield hsplit hne hread

/-- The host of an answer is the host of the split.
Source: `src/gui/main_window.py` `_split_host_port`
Kind: L -/
lemma host_of_ok {field host digits : PyStr} {answer : Option PyStr × Option Int} (hfield : strip field ≠ [])
    (hsplit : splitField (strip field) = (host, digits)) (hok : splitHostPort field = .ok answer) :
    answer.1 = orNone (some host) ∧ (digits = [] → answer.2 = none) := by
  by_cases hdigits : digits = []
  · rw [splitHostPort_portless hfield hsplit hdigits] at hok
    obtain rfl := Except.ok.inj hok
    exact ⟨rfl, fun _ => rfl⟩
  · refine ⟨?_, fun h => absurd h hdigits⟩
    by_cases hbad : IntRejects digits
    · rw [splitHostPort_rejects hfield hsplit hbad] at hok
      cases hok
    · obtain ⟨i, hi⟩ := not_forall_not.mp fun h => hbad ⟨hdigits, h⟩
      rw [splitHostPort_port hfield hsplit hdigits hi] at hok
      obtain rfl := Except.ok.inj hok
      rfl

/-- The three ways a field is split.
Source: `src/gui/main_window.py` `_split_host_port`
Kind: L -/
lemma splitField_cases (value : PyStr) :
    (splitField value).2 = [] ∨
    (∃ host port, value = host ++ COLON :: port ∧ host ≠ [] ∧ host.head? ≠ some OPENING ∧ COLON ∉ port ∧
      splitField value = (host, port)) ∨
    ∃ host colons port, value = OPENING :: (host ++ CLOSING :: (colons ++ port)) ∧ CLOSING ∉ host ∧
      (∀ c ∈ colons, c = COLON) ∧ port.head? ≠ some COLON ∧
      splitField value = (host.dropWhile (· = OPENING), port) := by
  by_cases hhead : value.head? = some OPENING
  · rcases hparts : partition CLOSING value with _ | ⟨before, after⟩
    · have hbracket := partition_eq_none.mp hparts
      exact Or.inl (by rw [splitField_open hhead hbracket])
    · obtain ⟨hvalue, hbracket⟩ := partition_eq_some hparts
      rcases before with _ | ⟨c, host⟩
      · rw [hvalue] at hhead
        exact absurd (Option.some.inj hhead) (by decide)
      · rw [hvalue] at hhead
        obtain rfl : c = OPENING := Option.some.inj hhead
        have hhost : CLOSING ∉ host := fun hmem => hbracket (List.mem_cons_of_mem _ hmem)
        have hcolons : ∀ c ∈ after.takeWhile (· = COLON), c = COLON :=
          fun c hc => by simpa using List.mem_takeWhile_imp hc
        have hport : (after.dropWhile (· = COLON)).head? ≠ some COLON := by
          intro h
          have hnot := List.head?_dropWhile_not (· = COLON) after
          rw [h] at hnot
          simp at hnot
        have hafter : after.takeWhile (· = COLON) ++ after.dropWhile (· = COLON) = after :=
          List.takeWhile_append_dropWhile
        have hvalue' : value =
            OPENING :: (host ++ CLOSING :: (after.takeWhile (· = COLON) ++ after.dropWhile (· = COLON))) := by
          rw [hafter, hvalue]
          rfl
        refine Or.inr (Or.inr ⟨host, _, _, hvalue', hhost, hcolons, hport, ?_⟩)
        rw [hvalue']
        exact splitField_bracketed hhost hcolons hport
  · rcases exists_last_or_not_mem COLON value with ⟨host, port, hvalue, hport⟩ | hcolon
    · by_cases hhost : host = []
      · have hstart : value = COLON :: port := by rw [hvalue, hhost, List.nil_append]
        exact Or.inl (by rw [splitField_whole hhead (Or.inr ⟨port, hstart, hport⟩)])
      · have hbare : host.head? ≠ some OPENING := by
          rw [hvalue, List.head?_append_of_ne_nil _ hhost] at hhead
          exact hhead
        refine Or.inr (Or.inl ⟨host, port, hvalue, hhost, hbare, hport, ?_⟩)
        rw [hvalue]
        exact splitField_plain hhost hbare hport
    · exact Or.inl (by rw [splitField_whole hhead (Or.inl hcolon)])

/-- The error is raised for a rejected port and for nothing else.
Source: `src/gui/main_window.py` `_split_host_port`
Kind: P -/
theorem splitHostPort_error_iff {field : PyStr} (hfield : strip field ≠ []) :
    splitHostPort field = .error configurationError ↔ BadPort (strip field) := by
  constructor
  · intro herror
    have hbad : IntRejects (splitField (strip field)).2 := intRejects_of_error hfield rfl herror
    rcases splitField_cases (strip field) with
      hport | ⟨host, port, hvalue, hhost, hbare, hport, hsplit⟩ |
      ⟨host, colons, port, hvalue, hbracket, hcolons, hhead, hsplit⟩
    · exact absurd hport hbad.1
    · rw [hsplit] at hbad
      rw [hvalue]
      exact BadPort.plain hhost hbare hport hbad
    · rw [hsplit] at hbad
      rw [hvalue]
      exact BadPort.bracketed hbracket hcolons hhead hbad
  · intro hbad
    generalize hvalue : strip field = value at hbad
    rcases hbad with ⟨hhost, hbare, hport, hbad⟩ | ⟨hbracket, hcolons, hhead, hbad⟩
    · exact splitHostPort_rejects hfield (hvalue ▸ splitField_plain hhost hbare hport) hbad
    · exact splitHostPort_rejects hfield (hvalue ▸ splitField_bracketed hbracket hcolons hhead) hbad

/-- A whole literal without brackets is taken apart at its last colon.
Source: `src/gui/main_window.py` `_split_host_port`
Kind: L -/
lemma literal_misread {field : PyStr} (h : isIpv6Literal (strip field) = true) :
    splitHostPort field ≠ .ok (some (strip field), none) := by
  obtain ⟨⟨a, b, c, hvalue⟩, hopening, -⟩ := ipv6Literal_spec h
  have hhead : (strip field).head? ≠ some OPENING := fun hhead => hopening (List.mem_of_mem_head? hhead)
  have hlast : ∃ host port, strip field = host ++ COLON :: port ∧ host ≠ [] ∧ COLON ∉ port := by
    rcases exists_last_or_not_mem COLON c with ⟨before, after, rfl, hafter⟩ | hnone
    · exact ⟨a ++ COLON :: (b ++ COLON :: before), after, by rw [hvalue]; simp, by simp, hafter⟩
    · exact ⟨a ++ COLON :: b, c, by rw [hvalue]; simp, by simp, hnone⟩
  obtain ⟨host, port, hsplit, hhost, hport⟩ := hlast
  have hfield : strip field ≠ [] := by
    rw [hsplit]
    simp
  have hbare : host.head? ≠ some OPENING := by
    rw [hsplit, List.head?_append_of_ne_nil _ hhost] at hhead
    exact hhead
  intro hok
  have hread := host_of_ok hfield (hsplit ▸ splitField_plain hhost hbare hport) hok
  have heq : strip field = host := Option.some.inj (eq_of_orNone hread.1.symm).symm
  have hlength := congrArg List.length (heq.symm.trans hsplit)
  simp at hlength

lemma PortPart.read {rest : PyStr} {port : Option Int} (h : PortPart rest port) :
    (rest = [] ∧ port = none) ∨ ∃ digits, rest = COLON :: digits ∧ COLON ∉ digits ∧ PortRead digits port := by
  rcases h with _ | _ | htext
  · exact Or.inl ⟨rfl, rfl⟩
  · exact Or.inr ⟨[], rfl, List.not_mem_nil, PortRead.absent⟩
  · obtain ⟨hne, hcolon, hread⟩ := htext.spec
    exact Or.inr ⟨_, rfl, hcolon, PortRead.port hne hread⟩

lemma ipv6Literal_ne_nil {s : PyStr} (h : isIpv6Literal s = true) : s ≠ [] := by
  rintro rfl
  exact absurd h (by decide)

lemma read_bracketed {field host colons digits : PyStr} {port : Option Int}
    (hliteral : isIpv6Literal host = true)
    (hfield : strip field = OPENING :: (host ++ CLOSING :: (colons ++ digits)))
    (hcolons : ∀ c ∈ colons, c = COLON) (hhead : digits.head? ≠ some COLON) (hport : PortRead digits port) :
    splitHostPort field = .ok (some host, port) := by
  obtain ⟨-, hopening, hclosing⟩ := ipv6Literal_spec hliteral
  have hkeep : host.dropWhile (· = OPENING) = host := by
    rcases host with _ | ⟨c, host⟩
    · rfl
    · have hc : c ≠ OPENING := fun hc => hopening (hc ▸ List.mem_cons_self)
      exact List.dropWhile_cons_of_neg fun h => hc (of_decide_eq_true h)
  have hne : strip field ≠ [] := by
    rw [hfield]
    exact List.cons_ne_nil _ _
  have hsplit : splitField (strip field) = (host, digits) := by
    rw [hfield, splitField_bracketed hclosing hcolons hhead, hkeep]
  exact splitHostPort_of_read hne hsplit (ipv6Literal_ne_nil hliteral) hport

lemma read_plain {field host digits : PyStr} {port : Option Int} (hhost : host ≠ [])
    (hbare : host.head? ≠ some OPENING) (hfield : strip field = host ++ COLON :: digits)
    (hcolon : COLON ∉ digits) (hport : PortRead digits port) :
    splitHostPort field = .ok (some host, port) := by
  have hne : strip field ≠ [] := by
    rw [hfield]
    simp
  have hsplit : splitField (strip field) = (host, digits) := by
    rw [hfield]
    exact splitField_plain hhost hbare hcolon
  exact splitHostPort_of_read hne hsplit hhost hport

/-- Every form but the bare literal is read.
Source: `src/gui/main_window.py` `_split_host_port`
Kind: L -/
lemma Form.read {field host : PyStr} {port : Option Int} (h : Form (strip field) host port)
    (hliteral : isIpv6Literal (strip field) = false) : splitHostPort field = .ok (some host, port) := by
  generalize hvalue : strip field = value at h
  rcases h with ⟨hhost, hbare, hcolon, hpart⟩ | ⟨hhost, hpart⟩ | hhost
  · rcases hpart.read with ⟨rfl, rfl⟩ | ⟨digits, rfl, hdigits, hread⟩
    · rw [List.append_nil] at hvalue
      have hsplit : splitField (strip field) = (host, []) := by
        rw [hvalue]
        exact splitField_whole hbare (Or.inl hcolon)
      exact splitHostPort_of_read (hvalue ▸ hhost) hsplit hhost PortRead.absent
    · exact read_plain hhost hbare hvalue hdigits hread
  · rcases hpart.read with ⟨rfl, rfl⟩ | ⟨digits, rfl, hdigits, hread⟩
    · have hfield : strip field = OPENING :: (host ++ CLOSING :: ([] ++ [])) := hvalue
      apply read_bracketed hhost hfield
      · intro c hc
        cases hc
      · exact fun hhead => Option.some_ne_none COLON hhead.symm
      · exact PortRead.absent
    · have hfield : strip field = OPENING :: (host ++ CLOSING :: ([COLON] ++ digits)) := hvalue
      apply read_bracketed hhost hfield
      · intro c hc
        exact List.mem_singleton.mp hc
      · exact fun hhead => hdigits (List.mem_of_mem_head? hhead)
      · exact hread
  · rw [hvalue, hhost] at hliteral
    cases hliteral

lemma Form.ne_nil {value host : PyStr} {port : Option Int} (h : Form value host port) : value ≠ [] := by
  rcases h with ⟨hhost, -, -, -⟩ | ⟨-, -⟩ | hhost
  · exact List.append_ne_nil_of_left_ne_nil hhost _
  · exact List.cons_ne_nil _ _
  · exact ipv6Literal_ne_nil hhost

/-! ## Authorities -/

/-- A text is left alone if neither its first character nor any of its last ones is whitespace.
Source: Python `str.strip`
Kind: L -/
lemma strip_append {c : CodePoint} {s t : PyStr} (hc : isSpace c = false) (ht : t ≠ [])
    (hspace : ∀ d ∈ t, isSpace d = false) : strip (c :: s ++ t) = c :: s ++ t := by
  have hdrop : (c :: s ++ t).dropWhile isSpace = c :: s ++ t :=
    List.dropWhile_cons_of_neg (by rw [hc]; exact Bool.false_ne_true)
  rw [strip, hdrop, List.rdropWhile_eq_self_iff]
  intro hne
  rw [List.getLast_append_of_ne_nil hne ht, hspace _ (List.getLast_mem ht)]
  exact Bool.false_ne_true

lemma head_strip {c : CodePoint} {s t : PyStr} (h : strip s = c :: t) : isSpace c = false := by
  have hhead : (s.dropWhile isSpace).head? = some c := by
    obtain ⟨rest, hrest⟩ : strip s <+: s.dropWhile isSpace := List.rdropWhile_prefix isSpace _
    rw [← hrest, h]
    rfl
  have hnot := List.head?_dropWhile_not isSpace s
  rw [hhead] at hnot
  simpa using hnot

lemma mem_of_mem_strip {c : CodePoint} {s : PyStr} (h : c ∈ strip s) : c ∈ s :=
  (List.dropWhile_sublist isSpace).subset ((List.rdropWhile_prefix isSpace _).subset h)

lemma isSpace_of_isDigit {c : CodePoint} (hc : Json.isDigit c = true) : isSpace c = false := by
  obtain ⟨hlow, hhigh⟩ := isDigit_iff.mp hc
  rw [Bool.eq_false_iff]
  intro hspace
  unfold isSpace at hspace
  simp [Fin.le_def, Fin.ext_iff] at hspace
  omega

lemma formatAuthority_cases {host authority : PyStr} {port : Int} (h : formatAuthority host port = .ok authority) :
    ∃ digits, intRepr port = .ok digits ∧
      ((COLON ∈ host ∧ host.head? ≠ some OPENING ∧
          authority = OPENING :: (host ++ CLOSING :: ([COLON] ++ digits))) ∨
        (¬ (COLON ∈ host ∧ host.head? ≠ some OPENING) ∧ authority = host ++ COLON :: digits)) := by
  obtain ⟨digits, hdigits, hrest⟩ := bind_eq_ok.mp h
  refine ⟨digits, hdigits, ?_⟩
  split at hrest
  · next hbrackets =>
    refine Or.inl ⟨hbrackets.1, hbrackets.2, ?_⟩
    obtain rfl := Except.ok.inj hrest
    simp [text, OPENING, CLOSING, COLON, chr]
  · next hbrackets =>
    refine Or.inr ⟨hbrackets, ?_⟩
    obtain rfl := Except.ok.inj hrest
    simp [text, COLON, chr]

/-- A host is read back from its authority.
Source: `src/gui/main_window.py` `_split_host_port`, `src/proxy/tunnel.py` `format_authority`
Kind: L -/
lemma read_authority {host authority : PyStr} {port : Int} (hhost : IsHost host) (hport : PortFits port)
    (h : formatAuthority host port = .ok authority) : splitHostPort authority = .ok (some host, some port) := by
  obtain ⟨digits, hdigits, hauthority⟩ := formatAuthority_cases h
  have hdecimal := isDecimal_of_intRepr hport.1 hdigits
  have hcolon : COLON ∉ digits := not_mem_of_isDecimal hdecimal (by decide)
  have hread : PortRead digits (some port) := PortRead.port hdecimal.1 (pyInt_intRepr hdigits)
  have hsolid : ∀ d ∈ digits, isSpace d = false := fun d hd => isSpace_of_isDigit (hdecimal.2 d hd)
  have hhead : digits.head? ≠ some COLON := fun hhead => hcolon (List.mem_of_mem_head? hhead)
  rcases hhost with @⟨c, host, hbare, hspace, hname⟩ | hliteral
  · rcases hauthority with ⟨hmem, -, -⟩ | ⟨-, rfl⟩
    · contradiction
    · have hstrip : strip (c :: host ++ COLON :: digits) = c :: host ++ COLON :: digits := by
        have hleft := strip_append (s := host ++ [COLON]) hspace hdecimal.1 hsolid
        simpa using hleft
      exact read_plain (List.cons_ne_nil c host) (fun h => hbare (Option.some.inj h)) hstrip hcolon hread
  · obtain ⟨⟨a, b, c, hcolons⟩, hopening, -⟩ := ipv6Literal_spec hliteral
    rcases hauthority with ⟨-, -, rfl⟩ | ⟨hnot, -⟩
    · have hstrip : strip (OPENING :: (host ++ CLOSING :: ([COLON] ++ digits))) =
          OPENING :: (host ++ CLOSING :: ([COLON] ++ digits)) := by
        have hleft := strip_append (c := OPENING) (s := host ++ CLOSING :: [COLON]) (by decide) hdecimal.1 hsolid
        simpa using hleft
      apply read_bracketed hliteral hstrip
      · intro c hc
        exact List.mem_singleton.mp hc
      · exact hhead
      · exact hread
    · refine absurd ⟨?_, fun hhead => hopening (List.mem_of_mem_head? hhead)⟩ hnot
      rw [hcolons]
      simp

/-- Only a host is read back from its authority.
Source: `src/gui/main_window.py` `_split_host_port`, `src/proxy/tunnel.py` `format_authority`
Kind: L -/
lemma isHost_of_read {host authority : PyStr} {port : Int} (hname : COLON ∉ host) (hport : PortFits port)
    (h : formatAuthority host port = .ok authority) (hread : splitHostPort authority = .ok (some host, some port)) :
    IsHost host := by
  obtain ⟨digits, hdigits, hauthority⟩ := formatAuthority_cases h
  have hdecimal := isDecimal_of_intRepr hport.1 hdigits
  rcases hauthority with ⟨hmem, -, -⟩ | ⟨-, rfl⟩
  · contradiction
  · have hfield : strip (host ++ COLON :: digits) ≠ [] := by
      intro hblank
      unfold splitHostPort at hread
      simp only [if_pos hblank] at hread
      cases hread
    have hsome := host_of_ok hfield rfl hread
    have hhost : (splitField (strip (host ++ COLON :: digits))).1 = host :=
      Option.some.inj (eq_of_orNone hsome.1.symm)
    rcases splitField_cases (strip (host ++ COLON :: digits)) with
      hnone | ⟨front, back, hvalue, hfront, hbare, -, hsplit⟩ | ⟨front, colons, back, hvalue, hbracket, -, -, hsplit⟩
    · exact absurd (hsome.2 hnone) (Option.some_ne_none port)
    · rw [hsplit] at hhost
      obtain rfl : front = host := hhost
      obtain ⟨c, rest, rfl⟩ := List.exists_cons_of_ne_nil hfront
      exact IsHost.name (fun hc => hbare (congrArg some hc)) (head_strip hvalue) hname
    · rw [hsplit] at hhost
      -- the bracket that ends the host is in the authority, hence in the host itself
      have hmem : CLOSING ∈ host ++ COLON :: digits := by
        apply mem_of_mem_strip
        rw [hvalue]
        simp
      have hdigit : CLOSING ∉ digits := not_mem_of_isDecimal hdecimal (by decide)
      have hclosing : CLOSING ∈ host := by
        rcases List.mem_append.mp hmem with hmem | hmem
        · exact hmem
        · rcases List.mem_cons.mp hmem with hcolon | hmem
          · exact absurd hcolon (by decide)
          · contradiction
      refine absurd ((List.dropWhile_sublist (· = OPENING)).subset ?_) hbracket
      rw [← hhost] at hclosing
      exact hclosing

/-- **Exactly these fields are read right**: the blank ones; of the others, all but a bare IPv6 literal that
are forms, and those with a port that `int` rejects. Of the hosts that authorities are made of, exactly those
that begin with neither a bracket nor whitespace are read back.
Source: `src/gui/main_window.py` `_split_host_port`, `src/proxy/tunnel.py` `format_authority`
Kind: P -/
theorem hostPort_iff (field host authority : PyStr) (port : Int) :
    (ReadRight field ↔ strip field = [] ∨ (isIpv6Literal (strip field) = false ∧
      ((∃ host port, Form (strip field) host port) ∨ BadPort (strip field)))) ∧
    (COLON ∉ host ∨ isIpv6Literal host = true → PortFits port → formatAuthority host port = .ok authority →
      (splitHostPort authority = .ok (some host, some port) ↔ IsHost host)) := by
  refine ⟨⟨fun h => ?_, fun h => ?_⟩, fun hhost hport hauthority => ?_⟩
  · by_cases hblank : strip field = []
    · exact Or.inl hblank
    · refine Or.inr ⟨?_, ?_⟩
      · rw [Bool.eq_false_iff]
        intro hliteral
        exact literal_misread hliteral (h.form _ _ (Form.literal hliteral))
      · by_cases hform : ∃ host port, Form (strip field) host port
        · exact Or.inl hform
        · exact Or.inr ((splitHostPort_error_iff hblank).mp (h.other hblank hform))
  · constructor
    · intro hblank
      unfold splitHostPort
      simp only [if_pos hblank]
    · intro host port hform
      rcases h with hblank | ⟨hliteral, -⟩
      · exact absurd hblank hform.ne_nil
      · exact hform.read hliteral
    · intro hne hnone
      rcases h with hblank | ⟨-, hform | hbad⟩
      · contradiction
      · contradiction
      · exact (splitHostPort_error_iff hne).mpr hbad
  · refine ⟨fun hread => ?_, fun hhost => read_authority hhost hport hauthority⟩
    rcases hhost with hname | hliteral
    · exact isHost_of_read hname hport hauthority hread
    · exact IsHost.literal hliteral

theorem loopback_authority_read : splitHostPort (text "[::1]:9099") = .ok (some (text "::1"), some 9099) := by
  have hliteral : isIpv6Literal (text "::1") = true := by decide +kernel
  have hfits : PortFits 9099 := by
    unfold PortFits
    omega
  have hauthority : formatAuthority (text "::1") 9099 = .ok (text "[::1]:9099") := by decide +kernel
  have hiff := (hostPort_iff [] (text "::1") _ 9099).2 (Or.inr hliteral) hfits hauthority
  exact hiff.mpr (IsHost.literal hliteral)

/-- The whole of `::1` is a host, but it is read as the host `:` and the port 1.
Source: `src/gui/main_window.py` `_split_host_port`
Kind: P -/
theorem bare_literal_misread :
    ¬ ReadRight (text "::1") ∧ splitHostPort (text "::1") = .ok (some (text ":"), some 1) := by
  have hread : splitHostPort (text "::1") = .ok (some (text ":"), some 1) := by decide +kernel
  refine ⟨fun h => ?_, hread⟩
  have hform := h.form _ _ (Form.literal (by decide +kernel))
  rw [hread] at hform
  cases hform

end NetstackSuite.Gui
