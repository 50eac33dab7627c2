import NetstackSuite.Proxy.HttpHead

/-!
# The status line of a CONNECT response

Which response heads are read as an established tunnel, against the grammar of RFC 9112: HTTP-version SP
status-code, and SP reason if there is one.

The code cuts the line where the grammar does, but takes every text that starts with `HTTP/`, in any
case, for a version, and for a status code a literal of `int`: white space, a sign, any number of digits
with underscores between them (`Tolerated`). `statusGrammar_iff` says that nothing else is amiss.
-/

namespace NetstackSuite.Proxy

open NetstackSuite.Lib NetstackSuite.Python

/-! ## The grammar -/

/-- The space between the parts of a status line.
Source: none: specification (RFC 9112)
Kind: D -/
def SP : CodePoint := 0x20

/-- The line is a version, a code and perhaps a reason, with single spaces between them.
Source: none: specification (RFC 9112)
Kind: D -/
structure StatusLine (line version code : PyStr) : Prop where
  version_spaceless : SP ∉ version
  code_spaceless : SP ∉ code
  spelled : line = version ++ SP :: code ∨ ∃ reason, line = version ++ SP :: (code ++ SP :: reason)

/-- `HTTP/` DIGIT `.` DIGIT.
Source: none: specification (RFC 9112)
Kind: D -/
def IsHttpVersion (version : PyStr) : Prop :=
  ∃ major minor, Json.isDigit major = true ∧ Json.isDigit minor = true ∧
    version = text "HTTP/" ++ [major, 0x2E, minor]

/-- Three ASCII digits.
Source: none: specification (RFC 9112)
Kind: D -/
def IsStatusCode (code : PyStr) : Prop := code.length = 3 ∧ IsDecimal code

/-- The first line of a response, one character for each byte.
Source: none: specification (RFC 9112)
Kind: D -/
def firstLine (raw : Bytes) : PyStr := decodeLatin1 (before CRLF raw)

/-- The code reads an established tunnel exactly in the heads whose status line is of the grammar with a
code that starts with 2, and refuses what is not of the grammar.
Source: none: specification
Kind: D -/
structure StatusGrammar (raw : Bytes) : Prop where
  established : (∃ response, parseHttpConnectResponse raw = .ok response ∧
      response.tunnelEstablished = true) ↔
    ∃ version code, StatusLine (firstLine raw) version code ∧ IsHttpVersion version ∧
      IsStatusCode code ∧ code.head? = some 0x32
  refused : (¬ ∃ version code, StatusLine (firstLine raw) version code ∧ IsHttpVersion version ∧
      IsStatusCode code) → ∃ message, parseHttpConnectResponse raw = .error (.protocolViolation message)

/-- The version starts with `HTTP/` in any case, and the code is white space, a sign or none, at most 4300 decimal
digits with single underscores between them, and white space.
Source: none: specification
Kind: D -/
def Tolerated (version code : PyStr) : Prop :=
  List.Forall₂ IsCaseOf (version.take 5) (text "HTTP/") ∧ IsIntLiteral code

/-- That is what the code takes for a version and a status code.
Source: `src/proxy/tunnel.py` `parse_http_connect_response`
Kind: L -/
lemma tolerated_iff {version code : PyStr} :
    Tolerated version code ↔
      (text "HTTP/").isPrefixOf (upperLatin1 version) = true ∧ ∃ status, pyInt code = .ok status := by
  have hcapital : ∀ u ∈ text "HTTP/", u.val < 0x61 ∧ u.val ≠ 0x53 :=
    List.forall_iff_forall_mem.mp (by decide +kernel)
  have hlength : (text "HTTP/").length = 5 := rfl
  rw [Tolerated, exists_pyInt_iff, List.isPrefixOf_iff_prefix, prefix_upperLatin1_iff hcapital, hlength]

/-! ## Cutting the line -/

/-- A list is what comes before the first of an element, and what comes after it.
Source: none: infrastructure
Kind: L -/
lemma append_cons_inj {α : Type} {a : α} {front front' rest rest' : List α} (h : a ∉ front)
    (h' : a ∉ front') (heq : front ++ a :: rest = front' ++ a :: rest') : front = front' ∧ rest = rest' := by
  induction front generalizing front' with
  | nil =>
      rcases front' with _ | ⟨b, front'⟩
      · exact ⟨rfl, (List.cons.inj heq).2⟩
      · exact absurd ((List.cons.inj heq).1 ▸ List.mem_cons_self) h'
  | cons b front ih =>
      rcases front' with _ | ⟨b', front'⟩
      · exact absurd ((List.cons.inj heq).1 ▸ List.mem_cons_self) h
      · obtain ⟨rfl, htail⟩ := List.cons.inj heq
        obtain ⟨rfl, hrest⟩ := ih (fun hmem => h (List.mem_cons_of_mem b hmem))
          (fun hmem => h' (List.mem_cons_of_mem b hmem)) htail
        exact ⟨rfl, hrest⟩

/-- A status line is cut in one way.
Source: none: specification (RFC 9112)
Kind: L -/
lemma StatusLine.unique {line version code version' code' : PyStr} (h : StatusLine line version code)
    (h' : StatusLine line version' code') : version = version' ∧ code = code' := by
  have hsame : ∃ rest rest', line = version ++ SP :: rest ∧ line = version' ++ SP :: rest' ∧
      (rest = code ∨ ∃ reason, rest = code ++ SP :: reason) ∧
      (rest' = code' ∨ ∃ reason, rest' = code' ++ SP :: reason) := by
    rcases h.spelled with hline | ⟨reason, hline⟩ <;> rcases h'.spelled with hline' | ⟨reason', hline'⟩
    · exact ⟨_, _, hline, hline', Or.inl rfl, Or.inl rfl⟩
    · exact ⟨_, _, hline, hline', Or.inl rfl, Or.inr ⟨_, rfl⟩⟩
    · exact ⟨_, _, hline, hline', Or.inr ⟨_, rfl⟩, Or.inl rfl⟩
    · exact ⟨_, _, hline, hline', Or.inr ⟨_, rfl⟩, Or.inr ⟨_, rfl⟩⟩
  obtain ⟨rest, rest', hline, hline', hrest, hrest'⟩ := hsame
  obtain ⟨rfl, rfl⟩ := append_cons_inj h.version_spaceless h'.version_spaceless (hline.symm.trans hline')
  refine ⟨rfl, ?_⟩
  rcases hrest with rfl | ⟨reason, hcode⟩ <;> rcases hrest' with hcode' | ⟨reason', hcode'⟩
  · exact hcode'
  · exact absurd (hcode' ▸ List.mem_append_right _ List.mem_cons_self) h.code_spaceless
  · rw [hcode] at hcode'
    exact absurd (hcode' ▸ List.mem_append_right _ List.mem_cons_self) h'.code_spaceless
  · rw [hcode] at hcode'
    exact (append_cons_inj h.code_spaceless h'.code_spaceless hcode').1

/-- `line.split(" ", 2)`: a version and a code, if there is a space at all.
Source: `src/proxy/tunnel.py` `parse_http_connect_response`
Kind: L -/
lemma splitAtMost_line (line : PyStr) :
    (splitAtMost (text " ") 2 line = [line] ∧ ∀ version code, ¬ StatusLine line version code) ∨
      ∃ version code reason, splitAtMost (text " ") 2 line = version :: code :: reason ∧
        StatusLine line version code := by
  have hsep : text " " = [SP] := rfl
  rw [hsep]
  by_cases hspace : SP ∈ line
  · obtain ⟨version, rest, rfl, hversion⟩ := List.eq_append_cons_of_mem hspace
    have hfirst : splitAtMost [SP] 2 (version ++ SP :: rest) = version :: splitAtMost [SP] 1 rest := by
      rw [splitAtMost, cut_append_cons hversion]
    apply Or.inr
    by_cases hmore : SP ∈ rest
    · obtain ⟨code, reason, rfl, hcode⟩ := List.eq_append_cons_of_mem hmore
      have hsecond : splitAtMost [SP] 1 (code ++ SP :: reason) = [code, reason] := by
        rw [splitAtMost, cut_append_cons hcode]
        rfl
      exact ⟨version, code, [reason], by rw [hfirst, hsecond], hversion, hcode, Or.inr ⟨reason, rfl⟩⟩
    · have hsecond : splitAtMost [SP] 1 rest = [rest] := by
        rw [splitAtMost, cut_of_not_mem hmore]
      exact ⟨version, rest, [], by rw [hfirst, hsecond], hversion, hmore, Or.inl rfl⟩
  · refine Or.inl ⟨?_, fun version code h => hspace ?_⟩
    · rw [splitAtMost, cut_of_not_mem hspace]
    · rcases h.spelled with rfl | ⟨reason, rfl⟩
      · exact List.mem_append_right _ List.mem_cons_self
      · exact List.mem_append_right _ List.mem_cons_self

/-- The first line of the head is the first line of the response.
Source: `src/proxy/tunnel.py` `parse_http_connect_response`
Kind: L -/
lemma before_head (raw : Bytes) : before CRLF (before HEADER_TERMINATOR raw) = before CRLF raw := by
  have hshort : CRLF <+: HEADER_TERMINATOR := ⟨CRLF, rfl⟩
  induction raw with
  | nil => rfl
  | cons a s ih =>
      by_cases hhead : HEADER_TERMINATOR <+: a :: s
      · rw [before_of_isPrefix hhead (List.cons_ne_nil a s),
          before_of_isPrefix (hshort.trans hhead) (List.cons_ne_nil a s)]
        rfl
      · rw [before_cons_of_not_isPrefix hhead]
        by_cases hline : CRLF <+: a :: s
        · -- the line ends here; the head goes on, for a line feed starts no terminator
          obtain ⟨rest, hrest⟩ := hline
          obtain ⟨rfl, htail⟩ := List.cons.inj hrest
          have hs : 0x0A :: rest = s := htail
          have hfeed : ¬ HEADER_TERMINATOR <+: 0x0A :: rest := by
            rw [HEADER_TERMINATOR, List.cons_prefix_cons]
            exact fun h => absurd h.1 (by decide)
          rw [← hs, before_cons_of_not_isPrefix hfeed,
            before_of_isPrefix (s := 0x0D :: 0x0A :: rest) ⟨rest, rfl⟩ (List.cons_ne_nil _ _)]
          exact before_of_isPrefix (s := 0x0D :: 0x0A :: _) ⟨_, rfl⟩ (List.cons_ne_nil _ _)
        · have hother : ¬ CRLF <+: a :: before HEADER_TERMINATOR s := by
            intro h
            apply hline
            apply h.trans
            rw [List.cons_prefix_cons]
            exact ⟨rfl, before_isPrefix HEADER_TERMINATOR s⟩
          rw [before_cons_of_not_isPrefix hother, before_cons_of_not_isPrefix hline, ih]

/-- The first part of a text that is split.
Source: Python `bytes.split`
Kind: L -/
lemma split_eq_before {α : Type} [DecidableEq α] (sep s : List α) :
    ∃ rest, split sep s = before sep s :: rest := by
  unfold split before
  rcases s with _ | ⟨a, s⟩
  · refine ⟨[], ?_⟩
    rw [List.length_nil, splitAtMost, cut]
    split
    · rfl
    · rfl
  · rw [List.length_cons, splitAtMost]
    rcases cut sep (a :: s) with _ | ⟨front, rest⟩
    · exact ⟨[], rfl⟩
    · exact ⟨_, rfl⟩

/-! ## What the parser makes of the line -/

/-- **A head is parsed if its first line has what is tolerated**, and refused otherwise.
Source: `src/proxy/tunnel.py` `parse_http_connect_response`
Kind: P -/
lemma parseHttpConnectResponse_cases (raw : Bytes) :
    (∃ version code response, StatusLine (firstLine raw) version code ∧ Tolerated version code ∧
      parseHttpConnectResponse raw = .ok response ∧ pyInt code = .ok response.status) ∨
    ((∃ message, parseHttpConnectResponse raw = .error (.protocolViolation message)) ∧
      ∀ version code, StatusLine (firstLine raw) version code → ¬ Tolerated version code) := by
  obtain ⟨lines, hlines⟩ := split_eq_before CRLF (before HEADER_TERMINATOR raw)
  rw [before_head] at hlines
  have hhead : split CRLF (((cut HEADER_TERMINATOR raw).map Prod.fst).getD raw) =
      before CRLF raw :: lines := hlines
  unfold parseHttpConnectResponse
  simp only [hhead]
  unfold firstLine
  rcases before CRLF raw with _ | ⟨b, line⟩
  · refine Or.inr ⟨⟨_, rfl⟩, fun version code h => ?_⟩
    rcases h.spelled with hline | ⟨reason, hline⟩
    · exact absurd hline.symm (List.append_ne_nil_of_right_ne_nil _ (List.cons_ne_nil _ _))
    · exact absurd hline.symm (List.append_ne_nil_of_right_ne_nil _ (List.cons_ne_nil _ _))
  · simp only
    obtain ⟨hsplit, hnone⟩ | ⟨version, code, reason, hsplit, hline⟩ :=
      splitAtMost_line (decodeLatin1 (b :: line))
    · rw [hsplit]
      exact Or.inr ⟨⟨_, rfl⟩, fun version code h => absurd h (hnone version code)⟩
    · have hother : ¬ Tolerated version code →
          ∀ version' code', StatusLine (decodeLatin1 (b :: line)) version' code' →
            ¬ Tolerated version' code' := by
        intro hnot version' code' h'
        obtain ⟨rfl, rfl⟩ := hline.unique h'
        exact hnot
      rw [hsplit]
      simp only
      by_cases hversion : (text "HTTP/").isPrefixOf (upperLatin1 version) = true
      · rw [if_neg (not_not.mpr hversion)]
        rcases hcode : pyInt code with e | status
        · obtain rfl := pyInt_eq_error hcode
          refine Or.inr ⟨⟨_, rfl⟩, hother fun h => ?_⟩
          obtain ⟨-, status, hstatus⟩ := tolerated_iff.mp h
          rw [hcode] at hstatus
          cases hstatus
        · exact Or.inl ⟨version, code, _, hline, tolerated_iff.mpr ⟨hversion, status, hcode⟩, rfl, hcode⟩
      · rw [if_pos hversion]
        exact Or.inr ⟨⟨_, rfl⟩, hother fun h => hversion (tolerated_iff.mp h).1⟩

/-- What the grammar has for a version is tolerated.
Source: none: specification (RFC 9112)
Kind: L -/
lemma IsHttpVersion.tolerated {version : PyStr} (h : IsHttpVersion version) :
    (text "HTTP/").isPrefixOf (upperLatin1 version) = true := by
  obtain ⟨major, minor, -, -, rfl⟩ := h
  rw [List.isPrefixOf_iff_prefix, upperLatin1, List.flatMap_append]
  have hname : (text "HTTP/").flatMap upperLatin1Char = text "HTTP/" := by decide +kernel
  rw [hname]
  exact List.prefix_append _ _

/-- A status code of the grammar is its number, which is a success exactly if it starts with 2.
Source: none: specification (RFC 9112)
Kind: L -/
lemma IsStatusCode.pyInt_eq {code : PyStr} (h : IsStatusCode code) :
    ∃ status : Int, pyInt code = .ok status ∧
      ((200 ≤ status ∧ status < 300) ↔ code.head? = some 0x32) := by
  obtain ⟨hthree, hdecimal⟩ := h
  have hread := pyInt_of_isDecimal hdecimal (by omega) false
  refine ⟨_, hread, ?_⟩
  obtain ⟨x, y, z, rfl⟩ := List.length_eq_three.mp hthree
  obtain ⟨hx, hx'⟩ := isDigit_iff.mp (hdecimal.2 x (by simp))
  obtain ⟨hy, hy'⟩ := isDigit_iff.mp (hdecimal.2 y (by simp))
  obtain ⟨hz, hz'⟩ := isDigit_iff.mp (hdecimal.2 z (by simp))
  have hvalue : decimalValue [x, y, z] =
      ((x.val - 0x30) * 10 + (y.val - 0x30)) * 10 + (z.val - 0x30) := by
    simp [decimalValue, Json.ofDigits]
  have hhead : ([x, y, z].head? = some (0x32 : CodePoint)) ↔ x.val = 0x32 := by
    rw [List.head?_cons, Option.some_inj, Fin.ext_iff]
    rfl
  rw [hhead, hvalue, if_neg Bool.false_ne_true]
  omega

/-- **When the code reads the grammar of the status line**: unless it tolerates a version or a status
code of another spelling.
Source: `src/proxy/tunnel.py` `parse_http_connect_response`, `HttpConnectResponse.tunnel_established`
Kind: P -/
theorem statusGrammar_iff (raw : Bytes) :
    StatusGrammar raw ↔ ∀ version code, StatusLine (firstLine raw) version code →
      Tolerated version code → IsHttpVersion version ∧ IsStatusCode code := by
  have hstrict : ∀ version code, IsHttpVersion version → IsStatusCode code → Tolerated version code :=
    fun version code hversion hcode => tolerated_iff.mpr ⟨hversion.tolerated, hcode.pyInt_eq.imp fun _ h => h.1⟩
  obtain ⟨version, code, response, hline, htolerated, hparse, hstatus⟩ | ⟨⟨message, hparse⟩, hnone⟩ :=
    parseHttpConnectResponse_cases raw
  · constructor
    · intro h version' code' hline' _
      obtain ⟨rfl, rfl⟩ := hline.unique hline'
      by_contra hnot
      obtain ⟨message, herror⟩ := h.refused fun ⟨version', code', hline', hversion, hcode⟩ => by
        obtain ⟨rfl, rfl⟩ := hline.unique hline'
        exact hnot ⟨hversion, hcode⟩
      rw [hparse] at herror
      cases herror
    · intro h
      obtain ⟨hversion, hcode⟩ := h version code hline htolerated
      obtain ⟨status, hread, htwo⟩ := hcode.pyInt_eq
      obtain rfl := Except.ok.inj (hread.symm.trans hstatus)
      have hestablished : response.tunnelEstablished = true ↔ code.head? = some 0x32 := by
        rw [← htwo, HttpConnectResponse.tunnelEstablished, Bool.and_eq_true, decide_eq_true_eq,
          decide_eq_true_eq]
      refine ⟨⟨?_, ?_⟩, fun hnot => absurd ⟨version, code, hline, hversion, hcode⟩ hnot⟩
      · rintro ⟨response', hparse', htunnel⟩
        obtain rfl := Except.ok.inj (hparse.symm.trans hparse')
        exact ⟨version, code, hline, hversion, hcode, hestablished.mp htunnel⟩
      · rintro ⟨version', code', hline', -, -, hhead⟩
        obtain ⟨rfl, rfl⟩ := hline.unique hline'
        exact ⟨response, hparse, hestablished.mpr hhead⟩
  · refine iff_of_true ⟨⟨?_, ?_⟩, fun _ => ⟨message, hparse⟩⟩ ?_
    · rintro ⟨response, hparse', -⟩
      rw [hparse] at hparse'
      cases hparse'
    · rintro ⟨version, code, hline, hversion, hcode, -⟩
      exact absurd (hstrict version code hversion hcode) (hnone version code hline)
    · intro version code hline htolerated
      exact absurd htolerated (hnone version code hline)

/-- A signed code with an underscore is an established tunnel.
Source: `src/proxy/tunnel.py` `parse_http_connect_response`
Kind: L -/
theorem signed_status_code_established :
    (∃ response, parseHttpConnectResponse (bytes "HTTP/1.1 +2_00 OK\x0d\x0a\x0d\x0a") = .ok response ∧
      response.tunnelEstablished = true) ∧
    ¬ StatusGrammar (bytes "HTTP/1.1 +2_00 OK\x0d\x0a\x0d\x0a") := by
  have hline : StatusLine (firstLine (bytes "HTTP/1.1 +2_00 OK\x0d\x0a\x0d\x0a")) (text "HTTP/1.1")
      (text "+2_00") := ⟨by decide +kernel, by decide +kernel, Or.inr ⟨text "OK", by decide +kernel⟩⟩
  have hestablished : ∃ response,
      parseHttpConnectResponse (bytes "HTTP/1.1 +2_00 OK\x0d\x0a\x0d\x0a") = .ok response ∧
        response.tunnelEstablished = true := ⟨⟨200, text "OK", []⟩, by decide +kernel, by decide⟩
  refine ⟨hestablished, ?_⟩
  intro h
  obtain ⟨version, code, hline', -, ⟨hthree, -⟩, -⟩ := h.established.mp hestablished
  rw [← (hline.unique hline').2] at hthree
  exact absurd hthree (by decide +kernel)

end NetstackSuite.Proxy
