import NetstackSuite.Python.JsonIndent
import NetstackSuite.Python.JsonLoads

/-!
# `json.loads` reads back what `json.dumps` wrote

A scalar reads back if `loads` gives it for the text that `dumps` writes. From this alone,
`loads_dumpsWith` shows that arrays and objects built of such scalars read back in either layout: the
scanner takes a scalar from the front of a longer text as it takes it from a text of its own
(`scanOnce_append`), as long as what follows cannot continue a number (`Stops`).

Which strings read back is known exactly enough for every use here: all in which no high surrogate is
followed by a low one (`readsBack_str`), since two such escapes would be read as one character.
-/

namespace NetstackSuite.Python

namespace Json

/-! ## White space -/

lemma skipWs_append_of_ne_nil {s : PyStr} (h : skipWs s ≠ []) (x : PyStr) :
    skipWs (s ++ x) = skipWs s ++ x := by
  unfold skipWs at h ⊢
  rw [List.dropWhile_append, if_neg]
  simpa using h

lemma skipWs_append_of_eq_nil {s : PyStr} (h : skipWs s = []) (x : PyStr) :
    skipWs (s ++ x) = skipWs x := by
  unfold skipWs at h ⊢
  rw [List.dropWhile_append, if_pos]
  simpa using h

lemma skipWs_cons {c : CodePoint} (hc : isWs c = false) (x : PyStr) : skipWs (c :: x) = c :: x :=
  List.dropWhile_cons_of_neg (by simp [hc])

/-- An indentation is white space.
Source: Python `json.encoder._make_iterencode`
Kind: L -/
lemma skipWs_newlineIndent (indent : Option Nat) (level : Nat) (x : PyStr) :
    skipWs (newlineIndent indent level ++ x) = skipWs x := by
  apply skipWs_append_of_eq_nil
  unfold newlineIndent skipWs
  rcases indent with _ | width
  · rfl
  · rw [List.dropWhile_eq_nil_iff]
    intro c hc
    rcases List.mem_cons.mp hc with rfl | hblank
    · decide
    · rw [List.eq_of_mem_replicate hblank]
      decide

/-! ## Numbers in a longer text -/

/-- A character that may stand inside a number literal after its first digit.
Source: Python `_json.c` `_match_number_unicode`
Kind: D -/
def continuesNumber (c : CodePoint) : Bool := isDigit c || c = 0x2E || c = 0x65 || c = 0x45

/-- What follows does not continue a number.
Source: none: infrastructure
Kind: D -/
def Stops (x : PyStr) : Prop := ∀ c ∈ x.head?, continuesNumber c = false

lemma stops_nil : Stops [] := nofun

lemma stops_cons {c : CodePoint} (hc : continuesNumber c = false) (x : PyStr) : Stops (c :: x) := by
  intro d hd
  rwa [← Option.some.inj hd]

/-- A run of characters is not longer in a longer text, if something ends it or what follows does.
Source: none: infrastructure
Kind: L -/
lemma takeWhile_dropWhile_append (p : CodePoint → Bool) (s : PyStr) {x : PyStr}
    (h : s.dropWhile p = [] → ∀ c ∈ x.head?, p c = false) :
    (s ++ x).takeWhile p = s.takeWhile p ∧ (s ++ x).dropWhile p = s.dropWhile p ++ x := by
  induction s with
  | nil =>
      rcases x with _ | ⟨c, x⟩
      · exact ⟨rfl, rfl⟩
      · have hc : p c = false := h rfl c rfl
        rw [List.nil_append, List.takeWhile_cons_of_neg (by simp [hc]),
          List.dropWhile_cons_of_neg (by simp [hc])]
        exact ⟨rfl, rfl⟩
  | cons d s ih =>
      rw [List.cons_append]
      by_cases hd : p d = true
      · rw [List.dropWhile_cons_of_pos hd] at h
        rw [List.takeWhile_cons_of_pos hd, List.takeWhile_cons_of_pos hd,
          List.dropWhile_cons_of_pos hd, List.dropWhile_cons_of_pos hd, (ih h).1, (ih h).2]
        exact ⟨rfl, rfl⟩
      · rw [List.takeWhile_cons_of_neg hd, List.takeWhile_cons_of_neg hd,
          List.dropWhile_cons_of_neg hd, List.dropWhile_cons_of_neg hd]
        exact ⟨rfl, rfl⟩

lemma Stops.not_digit {x : PyStr} (h : Stops x) : ∀ c ∈ x.head?, isDigit c = false := by
  intro c hc
  have hcont := h c hc
  unfold continuesNumber at hcont
  simp only [Bool.or_eq_false_iff] at hcont
  exact hcont.1.1.1

lemma Stops.ne_dot {c : CodePoint} {x : PyStr} (h : Stops (c :: x)) : c ≠ 0x2E := by
  rintro rfl
  have hcont := h 0x2E rfl
  revert hcont
  decide

lemma Stops.ne_exponent {c : CodePoint} {x : PyStr} (h : Stops (c :: x)) : ¬ (c = 0x65 ∨ c = 0x45) := by
  have hcont := h c rfl
  rintro (rfl | rfl) <;> revert hcont <;> decide

lemma skipSign_append {s : PyStr} (hs : s ≠ []) (x : PyStr) :
    skipSign (s ++ x) = ((skipSign s).1, (skipSign s).2 ++ x) := by
  obtain ⟨c, s, rfl⟩ := List.exists_cons_of_ne_nil hs
  simp only [List.cons_append, skipSign]
  split
  · rfl
  · split <;> rfl

/-- An exponent, or its absence, in a longer text.
Source: Python `_json.c` `_match_number_unicode`
Kind: L -/
lemma scanExponent_append {s r x : PyStr} {exp : Option Int} (h : scanExponent s = (exp, r))
    (hx : Stops (r ++ x)) : scanExponent (s ++ x) = (exp, r ++ x) := by
  have absent : ∀ y, Stops y → scanExponent y = (none, y) := by
    intro y hy
    rcases y with _ | ⟨c, y⟩
    · rfl
    · rw [scanExponent, if_neg fun hc => hy.ne_exponent hc.1]
  rcases s with _ | ⟨e, s⟩
  · obtain ⟨rfl, rfl⟩ := Prod.mk.inj h
    exact absent x hx
  · rw [scanExponent] at h
    by_cases hexp : (e = 0x65 ∨ e = 0x45) ∧ (skipSign s).2.takeWhile isDigit ≠ []
    · rw [if_pos hexp] at h
      obtain ⟨rfl, rfl⟩ := Prod.mk.inj h
      have hs : s ≠ [] := by
        rintro rfl
        exact hexp.2 rfl
      have hrun := takeWhile_dropWhile_append isDigit (skipSign s).2 (x := x) (by
        intro hnil
        rw [hnil, List.nil_append] at hx
        exact hx.not_digit)
      rw [List.cons_append, scanExponent, skipSign_append hs]
      simp only
      rw [hrun.1, hrun.2, if_pos hexp]
    · rw [if_neg hexp] at h
      obtain ⟨rfl, rfl⟩ := Prod.mk.inj h
      exact absent _ hx

/-- A number whose sign and integer digits have been read, in a longer text.
Source: Python `_json.c` `_match_number_unicode`
Kind: L -/
lemma finishNumber_append {neg : Bool} {digits s r x : PyStr} {v : Json}
    (h : finishNumber neg digits s = .ok (v, r)) (hx : Stops (r ++ x)) :
    finishNumber neg digits (s ++ x) = .ok (v, r ++ x) := by
  have hrest : (scanExponent (scanFraction s).2).2 = r := by
    unfold finishNumber at h
    simp only at h
    split at h
    · split at h
      · cases h
      · exact (Prod.mk.inj (Except.ok.inj h)).2
    · exact (Prod.mk.inj (Except.ok.inj h)).2
  have hexp : scanExponent ((scanFraction s).2 ++ x) =
      ((scanExponent (scanFraction s).2).1, r ++ x) :=
    scanExponent_append (Prod.ext rfl hrest) hx
  have hfrac : scanFraction (s ++ x) = ((scanFraction s).1, (scanFraction s).2 ++ x) := by
    have hnot : ∀ y z, Stops (y :: z) → scanFraction (y :: z) = ([], y :: z) := by
      intro y z hyz
      unfold scanFraction
      split
      · next dot d cs heq =>
          obtain ⟨rfl, rfl⟩ := List.cons.inj heq
          exact if_neg fun hdot => hyz.ne_dot hdot.1
      · rfl
    rcases s with _ | ⟨dot, _ | ⟨d, s⟩⟩
    · obtain rfl : r = [] := hrest.symm
      rcases x with _ | ⟨c, x⟩
      · rfl
      · exact hnot c x hx
    · have hdot : (scanExponent [dot]).2 = [dot] := by
        rw [scanExponent]
        split
        · next hcond => exact absurd rfl hcond.2
        · rfl
      have hr : r = [dot] := hrest.symm.trans hdot
      rw [hr] at hx
      exact hnot dot x hx
    · simp only [List.cons_append, scanFraction]
      by_cases hdot : dot = 0x2E ∧ isDigit d = true
      · rw [if_pos hdot, if_pos hdot]
        have hrun := takeWhile_dropWhile_append isDigit s (x := x) (by
          intro hnil
          have hr : r = [] := by
            rw [← hrest, scanFraction, if_pos hdot]
            simp only
            rw [hnil]
            rfl
          rw [hr, List.nil_append] at hx
          exact hx.not_digit)
        rw [hrun.1, hrun.2]
      · rw [if_neg hdot, if_neg hdot]
        rfl
  unfold finishNumber at h ⊢
  simp only [hfrac, hexp] at h ⊢
  split at h
  · next hint =>
      rw [if_pos hint]
      split at h
      · cases h
      · next hlen =>
          rw [if_neg hlen, (Prod.mk.inj (Except.ok.inj h)).1]
  · next hint => rw [if_neg hint, (Prod.mk.inj (Except.ok.inj h)).1]

/-- A number without its sign.
Source: Python `_json.c` `_match_number_unicode`
Kind: D -/
def scanUnsigned (neg : Bool) : PyStr → Scan Json
  | [] => .error .jsonDecodeError
  | c :: cs =>
      if c = 0x30 then finishNumber neg [c] cs
      else if isDigit c then finishNumber neg (c :: cs.takeWhile isDigit) (cs.dropWhile isDigit)
      else .error .jsonDecodeError

lemma scanNumber_eq (s : PyStr) :
    scanNumber s = scanUnsigned (decide (s.head? = some 0x2D))
      (if decide (s.head? = some 0x2D) then s.tail else s) := rfl

/-- A number in a longer text.
Source: Python `_json.c` `_match_number_unicode`
Kind: L -/
lemma scanNumber_append {s r x : PyStr} {v : Json} (h : scanNumber s = .ok (v, r))
    (hx : Stops (r ++ x)) : scanNumber (s ++ x) = .ok (v, r ++ x) := by
  have unsigned : ∀ (neg : Bool) (t : PyStr), scanUnsigned neg t = .ok (v, r) →
      scanUnsigned neg (t ++ x) = .ok (v, r ++ x) := by
    intro neg t ht
    rcases t with _ | ⟨c, cs⟩
    · cases ht
    · rw [List.cons_append]
      unfold scanUnsigned at ht ⊢
      by_cases hzero : c = 0x30
      · simp only [if_pos hzero] at ht ⊢
        exact finishNumber_append ht hx
      · simp only [if_neg hzero] at ht ⊢
        by_cases hdigit : isDigit c = true
        · rw [if_pos hdigit] at ht ⊢
          have hrun := takeWhile_dropWhile_append isDigit cs (x := x) (by
            intro hnil
            rw [hnil, finishNumber] at ht
            have hr : r = [] := by
              simp only [scanFraction, scanExponent] at ht
              split at ht
              · split at ht
                · cases ht
                · exact (Prod.mk.inj (Except.ok.inj ht)).2.symm
              · exact (Prod.mk.inj (Except.ok.inj ht)).2.symm
            rw [hr, List.nil_append] at hx
            exact hx.not_digit)
          rw [hrun.1, hrun.2]
          exact finishNumber_append ht hx
        · rw [if_neg hdigit] at ht
          cases ht
  rcases s with _ | ⟨c, s⟩
  · cases h
  · have hneg : ((c :: s ++ x).head? = some 0x2D) = ((c :: s).head? = some 0x2D) := rfl
    rw [scanNumber_eq] at h ⊢
    simp only [hneg] at h ⊢
    by_cases hminus : (c :: s).head? = some 0x2D
    · simp only [hminus, decide_true, if_true] at h ⊢
      exact unsigned true s h
    · simp only [hminus, decide_false, Bool.false_eq_true, if_false] at h ⊢
      exact unsigned false (c :: s) h

/-! ## Words and strings in a longer text -/

/-- A word in a longer text.
Source: Python `_json.c` `scan_once_unicode`
Kind: L -/
lemma scanWord_append {s r : PyStr} {v : Json} (h : scanWord s = some (v, r)) (x : PyStr) :
    scanWord (s ++ x) = some (v, r ++ x) := by
  have front : ∀ w ∈ words, ∀ y, scanWord (w.1 ++ y) = some (w.2, y) := by
    intro w hw y
    simp only [words, List.mem_cons, List.not_mem_nil, or_false] at hw
    rcases hw with rfl | rfl | rfl | rfl | rfl | rfl <;> rfl
  have found := h
  unfold scanWord at found
  obtain ⟨w, hw, hfound⟩ := List.exists_of_findSome?_eq_some found
  split at hfound
  · next hprefix =>
      obtain ⟨y, rfl⟩ := List.isPrefixOf_iff_prefix.mp hprefix
      rw [front w hw y] at h
      obtain ⟨rfl, rfl⟩ := Prod.mk.inj (Option.some.inj h)
      rw [List.append_assoc]
      exact front w hw _
  · cases hfound

/-- A word starts with its own letter.
Source: Python `_json.c` `scan_once_unicode`
Kind: L -/
lemma scanWord_eq_none {c : CodePoint} {s : PyStr}
    (h : isDigit c = true ∨ c = 0x2D ∧ ∀ d ∈ s.head?, d ≠ chr 0x49) : scanWord (c :: s) = none := by
  unfold scanWord
  rw [List.findSome?_eq_none_iff]
  intro w hw
  rw [if_neg]
  intro hprefix
  obtain ⟨y, hy⟩ := List.isPrefixOf_iff_prefix.mp hprefix
  simp only [words, List.mem_cons, List.not_mem_nil, or_false] at hw
  rcases h with hdigit | ⟨rfl, hnext⟩
  · rcases hw with rfl | rfl | rfl | rfl | rfl | rfl <;>
      (rw [← (List.cons.inj hy).1] at hdigit; revert hdigit; decide)
  · rcases hw with rfl | rfl | rfl | rfl | rfl | rfl
    · exact absurd (List.cons.inj hy).1 (by decide)
    · exact absurd (List.cons.inj hy).1 (by decide)
    · exact absurd (List.cons.inj hy).1 (by decide)
    · exact absurd (List.cons.inj hy).1 (by decide)
    · exact absurd (List.cons.inj hy).1 (by decide)
    · have hs := (List.cons.inj hy).2
      rw [← hs] at hnext
      exact hnext (chr 0x49) rfl rfl

/-- A number is no word, in whatever text.
Source: Python `_json.c` `scan_once_unicode`
Kind: L -/
lemma scanWord_append_of_number {s r : PyStr} {v : Json} (h : scanNumber s = .ok (v, r)) (x : PyStr) :
    scanWord (s ++ x) = none := by
  have digit : ∀ {c : CodePoint} {t : Scan Json} {u : Scan Json},
      (if c = 0x30 then t else if isDigit c then u else .error .jsonDecodeError : Scan Json) =
        .ok (v, r) → isDigit c = true := by
    intro c t u hif
    by_cases hzero : c = 0x30
    · rw [hzero]
      decide
    · rw [if_neg hzero] at hif
      by_contra hdigit
      rw [if_neg hdigit] at hif
      cases hif
  rcases s with _ | ⟨c, s⟩
  · cases h
  · unfold scanNumber at h
    by_cases hminus : (c :: s).head? = some 0x2D
    · simp only [hminus, decide_true, if_true, List.tail_cons] at h
      rcases s with _ | ⟨d, s⟩
      · cases h
      · refine scanWord_eq_none (Or.inr ⟨Option.some.inj hminus, ?_⟩)
        intro e he
        obtain rfl := Option.some.inj he
        rintro rfl
        exact absurd (digit h) (by decide)
    · simp only [hminus, decide_false, Bool.false_eq_true, if_false] at h
      exact scanWord_eq_none (Or.inl (digit h))

lemma scanString_quote (high : Option Nat) (s : PyStr) :
    scanString high (QUOTE :: s) = emitHigh high (.ok ([], s)) := by
  rw [scanString.eq_def]
  exact if_pos rfl

/-- A simple escape at the front of a string literal.
Source: Python `_json.c` `scanstring_unicode`
Kind: L -/
lemma scanString_escape {e c : CodePoint} (he : e ≠ 0x75) (hc : simpleEscape e = some c)
    (high : Option Nat) (s : PyStr) :
    scanString high (BACKSLASH :: e :: s) = emitHigh high (emit c (scanString none s)) := by
  rw [scanString.eq_def]
  simp only
  rw [if_neg (by decide), if_pos trivial, if_neg he, hc]

/-- A numeric escape at the front of a string literal.
Source: Python `_json.c` `scanstring_unicode`
Kind: L -/
lemma scanString_unicode {a b c d : CodePoint} {n : Nat} (hn : hex4 a b c d = some n)
    (high : Option Nat) (s : PyStr) :
    scanString high (BACKSLASH :: 0x75 :: a :: b :: c :: d :: s) =
      match high with
      | some hi =>
          if isLow n then emit (joinSurrogates hi n) (scanString none s)
          else if isHigh n then emit (chr hi) (scanString (some n) s)
          else emit (chr hi) (emit (chr n) (scanString none s))
      | none => if isHigh n then scanString (some n) s else emit (chr n) (scanString none s) := by
  rw [scanString.eq_def]
  simp only
  rw [if_neg (by decide), if_pos trivial, if_pos trivial, hn]
  rcases high with _ | hi <;> rfl

/-- A character that stands for itself.
Source: Python `_json.c` `scanstring_unicode`
Kind: L -/
lemma scanString_plain {c : CodePoint} (hquote : c ≠ QUOTE) (hback : c ≠ BACKSLASH) (hlow : ¬ c < 0x20)
    (high : Option Nat) (s : PyStr) :
    scanString high (c :: s) = emitHigh high (emit c (scanString none s)) := by
  rw [scanString.eq_def]
  simp only
  rw [if_neg hquote, if_neg hback, if_neg hlow]

lemma emit_ok {c : CodePoint} {u : Scan PyStr} {t r : PyStr} (h : emit c u = .ok (t, r)) :
    ∃ t', t = c :: t' ∧ u = .ok (t', r) := by
  rcases u with e | ⟨t', r'⟩
  · cases h
  · obtain ⟨rfl, rfl⟩ := Prod.mk.inj (Except.ok.inj h)
    exact ⟨t', rfl, rfl⟩

lemma emitHigh_ok {high : Option Nat} {u : Scan PyStr} {t r : PyStr}
    (h : emitHigh high u = .ok (t, r)) :
    ∃ t', u = .ok (t', r) ∧ ∀ y, emitHigh high (.ok (t', y)) = .ok (t, y) := by
  rcases high with _ | hi
  · exact ⟨t, h, fun _ => rfl⟩
  · obtain ⟨t', rfl, hu⟩ := emit_ok h
    exact ⟨t', hu, fun _ => rfl⟩

/-- The rest of a string literal in a longer text.
Source: Python `_json.c` `scanstring_unicode`
Kind: L -/
lemma scanString_append {high : Option Nat} {s t r : PyStr} (h : scanString high s = .ok (t, r))
    (x : PyStr) : scanString high (s ++ x) = .ok (t, r ++ x) := by
  fun_induction scanString high s generalizing t r with
  | case1 | case3 | case4 | case10 | case12 | case13 => cases h
  | case2 high cs =>
      obtain ⟨t', hu, hback⟩ := emitHigh_ok h
      obtain ⟨rfl, rfl⟩ := Prod.mk.inj (Except.ok.inj hu)
      rw [List.cons_append, scanString_quote]
      exact hback _
  | case5 a b c d rest n hi hn hlow _ ih =>
      obtain ⟨t', rfl, hu⟩ := emit_ok h
      simp only [List.cons_append]
      rw [scanString_unicode hn]
      simp only
      rw [if_pos hlow, ih hu]
      rfl
  | case6 a b c d rest n hi hn hlow hhigh _ ih =>
      obtain ⟨t', rfl, hu⟩ := emit_ok h
      simp only [List.cons_append]
      rw [scanString_unicode hn]
      simp only
      rw [if_neg hlow, if_pos hhigh, ih hu]
      rfl
  | case7 a b c d rest n hi hn hlow hhigh _ ih =>
      obtain ⟨t', rfl, hu⟩ := emit_ok h
      obtain ⟨t'', rfl, hrest⟩ := emit_ok hu
      simp only [List.cons_append]
      rw [scanString_unicode hn]
      simp only
      rw [if_neg hlow, if_neg hhigh, ih hrest]
      rfl
  | case8 a b c d rest n hn hhigh _ ih =>
      simp only [List.cons_append]
      rw [scanString_unicode hn]
      simp only
      rw [if_pos hhigh]
      exact ih h
  | case9 a b c d rest n hn hhigh _ ih =>
      obtain ⟨t', rfl, hu⟩ := emit_ok h
      simp only [List.cons_append]
      rw [scanString_unicode hn]
      simp only
      rw [if_neg hhigh, ih hu]
      rfl
  | case11 high e es he c hc _ ih =>
      obtain ⟨t', hu, hback⟩ := emitHigh_ok h
      obtain ⟨t'', rfl, hrest⟩ := emit_ok hu
      simp only [List.cons_append]
      rw [scanString_escape he hc, ih hrest]
      exact hback _
  | case14 high c cs hquote hslash hlow ih =>
      obtain ⟨t', hu, hback⟩ := emitHigh_ok h
      obtain ⟨t'', rfl, hrest⟩ := emit_ok hu
      rw [List.cons_append, scanString_plain hquote hslash hlow, ih hrest]
      exact hback _

/-- **A scalar in a longer text.** The scanner takes from the front of a longer text what it takes from
a text of its own, if what follows cannot continue a number.
Source: Python `_json.c` `scan_once_unicode`
Kind: P -/
lemma scanOnce_append {fuel : Nat} {s r x : PyStr} {v : Json}
    (h : scanOnce (fuel + 1) 0 s = .ok (v, r)) (hx : Stops (r ++ x)) (fuel' depth : Nat) :
    scanOnce (fuel' + 1) depth (s ++ x) = .ok (v, r ++ x) := by
  rcases s with _ | ⟨c, s⟩
  · cases h
  · rw [List.cons_append]
    rw [scanOnce, withHead] at h ⊢
    by_cases hquote : c = QUOTE
    · rw [if_pos hquote] at h ⊢
      rcases hs : scanString none s with e | ⟨t, rest⟩
      · rw [hs] at h
        cases h
      · rw [hs] at h
        obtain ⟨rfl, rfl⟩ := Prod.mk.inj (Except.ok.inj h)
        rw [scanString_append hs]
        rfl
    · rw [if_neg hquote] at h ⊢
      by_cases hbrace : c = LBRACE
      · rw [if_pos hbrace] at h
        cases h
      · rw [if_neg hbrace] at h ⊢
        by_cases hbracket : c = LBRACKET
        · rw [if_pos hbracket] at h
          cases h
        · rw [if_neg hbracket] at h ⊢
          rcases hword : scanWord (c :: s) with _ | ⟨w, rest⟩
          · rw [hword] at h
            have hnumber := scanWord_append_of_number h x
            rw [List.cons_append] at hnumber
            rw [hnumber]
            exact scanNumber_append h hx
          · rw [hword] at h
            obtain ⟨rfl, rfl⟩ := Prod.mk.inj (Except.ok.inj h)
            have hlonger := scanWord_append hword x
            rw [List.cons_append] at hlonger
            rw [hlonger]

/-! ## Values in a longer text -/

/-- The scanner takes `v` from a text that starts with `s`, up to white space, if what follows cannot
continue a number. Any amount of fuel from some amount on will do.
Source: none: specification
Kind: D -/
def ScansBack (depth : Nat) (v : Json) (s : PyStr) : Prop :=
  ∃ least, ∀ fuel x, least ≤ fuel → Stops x →
    ∃ r, skipWs r = [] ∧ scanOnce fuel depth (skipWs (s ++ x)) = .ok (v, r ++ x)

/-- White space does not continue a number.
Source: none: infrastructure
Kind: L -/
lemma stops_append_of_ws {r x : PyStr} (hr : skipWs r = []) (hx : Stops x) : Stops (r ++ x) := by
  rcases r with _ | ⟨c, r⟩
  · exact hx
  · apply stops_cons
    have hc : isWs c = true := List.dropWhile_eq_nil_iff.mp hr c List.mem_cons_self
    simp only [isWs, Bool.or_eq_true, decide_eq_true_eq] at hc
    rcases hc with ((rfl | rfl) | rfl) | rfl <;> decide

/-- A text that `loads` reads as a scalar is read as it in a longer text.
Source: Python `json.loads`
Kind: L -/
lemma scansBack_of_loads {v : Json} {s : PyStr} (h : loads 0 s = .ok v) (depth : Nat) :
    ScansBack depth v s := by
  unfold loads at h
  split at h
  · cases h
  · split at h
    · cases h
    · next w r hscan =>
        split at h
        · next hr =>
            obtain rfl := Except.ok.inj h
            have hne : skipWs s ≠ [] := by
              intro hnil
              rw [hnil] at hscan
              cases hscan
            refine ⟨1, fun fuel x hfuel hx => ⟨r, hr, ?_⟩⟩
            obtain ⟨fuel, rfl⟩ := Nat.exists_eq_add_of_le' hfuel
            rw [skipWs_append_of_ne_nil hne]
            exact scanOnce_append hscan (stops_append_of_ws hr hx) fuel depth
        · cases h

lemma stops_newlineIndent (indent : Option Nat) (level : Nat) {c : CodePoint}
    (hc : continuesNumber c = false) (x : PyStr) : Stops (newlineIndent indent level ++ c :: x) := by
  rcases indent with _ | width
  · exact stops_cons hc x
  · exact stops_cons (by decide) _

/-- A separator is a comma and perhaps a blank.
Source: Python `json.JSONEncoder`
Kind: L -/
lemma itemSeparator_eq (indent : Option Nat) :
    ∃ blank, itemSeparator indent = COMMA :: blank ∧ skipWs blank = [] := by
  rcases indent with _ | width
  · exact ⟨text " ", by decide, by decide⟩
  · exact ⟨[], rfl, rfl⟩

/-- What stands between two elements is skipped after its comma.
Source: Python `_json.c` `_parse_array_unicode`
Kind: L -/
lemma exists_separator (indent : Option Nat) (level : Nat) :
    ∃ blank, itemSeparator indent ++ newlineIndent indent level = COMMA :: blank ∧
      ∀ y, skipWs (blank ++ y) = skipWs y := by
  obtain ⟨blank, hblank, hskip⟩ := itemSeparator_eq indent
  refine ⟨blank ++ newlineIndent indent level, by rw [hblank, List.cons_append], ?_⟩
  intro y
  rw [List.append_assoc, skipWs_append_of_eq_nil hskip, skipWs_newlineIndent]

section Containers

variable {indent : Option Nat} {scanDepth : Nat}

/-- One element of an array, and what comes after it.
Source: Python `_json.c` `_parse_array_unicode`
Kind: L -/
lemma scanElements_element {v : Json} {s : PyStr} (hv : ScansBack scanDepth v s) :
    ∃ least, ∀ fuel acc y, least ≤ fuel → Stops y →
      scanElements (fuel + 1) scanDepth acc (skipWs (s ++ y)) =
        withHead (skipWs y) fun d rest =>
          if d = RBRACKET then .ok (.list (acc ++ [v]), rest)
          else if d = COMMA then scanElements fuel scanDepth (acc ++ [v]) (skipWs rest)
          else .error .jsonDecodeError := by
  obtain ⟨least, hscan⟩ := hv
  refine ⟨least, ?_⟩
  intro fuel acc y hfuel hy
  obtain ⟨r, hr, hone⟩ := hscan fuel y hfuel hy
  rw [scanElements, hone, andThen, skipWs_append_of_eq_nil hr]

/-- The elements of an array are scanned one by one.
Source: Python `_json.c` `_parse_array_unicode`
Kind: L -/
lemma scanElements_dumps {level depth : Nat} {vs : List Json} {s : PyStr} (hne : vs ≠ [])
    (helems : ∀ v ∈ vs, ∀ s, dumpsWith indent level depth v = .ok s → ScansBack scanDepth v s)
    (h : dumpsElementsWith indent level depth vs = .ok s) (outer : Nat) :
    ∃ least, ∀ fuel acc x, least ≤ fuel →
      scanElements fuel scanDepth acc
          (skipWs (s ++ (newlineIndent indent outer ++ RBRACKET :: x))) =
        .ok (.list (acc ++ vs), x) := by
  induction vs generalizing s with
  | nil => exact absurd rfl hne
  | cons v vs ih =>
      rw [dumpsElementsWith] at h
      obtain ⟨first, hfirst, h⟩ := bind_eq_ok.mp h
      obtain ⟨rest, hrest, h⟩ := bind_eq_ok.mp h
      have hs := Except.ok.inj h
      obtain ⟨least, hone⟩ := scanElements_element (helems v List.mem_cons_self first hfirst)
      rcases vs with _ | ⟨w, vs⟩
      · refine ⟨least + 1, ?_⟩
        intro fuel acc x hfuel
        obtain ⟨fuel, rfl⟩ := Nat.exists_eq_add_of_le' (show 1 ≤ fuel by omega)
        rw [← hs, List.isEmpty_nil, if_pos rfl,
          hone fuel acc _ (by omega) (stops_newlineIndent indent outer (by decide) x),
          skipWs_newlineIndent, skipWs_cons (by decide), withHead, if_pos rfl]
      · obtain ⟨least', hmore⟩ := ih (by simp) (fun v hv => helems v (List.mem_cons_of_mem _ hv)) hrest
        obtain ⟨blank, hblank, hskip⟩ := exists_separator indent level
        refine ⟨max least least' + 1, ?_⟩
        intro fuel acc x hfuel
        obtain ⟨fuel, rfl⟩ := Nat.exists_eq_add_of_le' (show 1 ≤ fuel by omega)
        have htext : s ++ (newlineIndent indent outer ++ RBRACKET :: x) =
            first ++ (COMMA :: (blank ++ (rest ++ (newlineIndent indent outer ++ RBRACKET :: x)))) := by
          rw [← hs, List.isEmpty_cons, if_neg (by decide), List.append_assoc first, hblank]
          simp only [List.append_assoc, List.cons_append]
        rw [htext, hone fuel acc _ (by omega) (stops_cons (by decide) _), skipWs_cons (by decide),
          withHead, if_neg (by decide), if_pos rfl, hskip, hmore fuel (acc ++ [v]) x (by omega),
          List.append_assoc, List.singleton_append]

lemma set_of_not_mem {acc : Dict PyStr Json} {k : PyStr} (h : k ∉ Dict.keys acc) (v : Json) :
    Dict.set acc k v = acc ++ [(k, v)] := by
  induction acc with
  | nil => rfl
  | cons kv acc ih =>
      obtain ⟨k', v'⟩ := kv
      have hne : k' ≠ k := fun heq => h (by rw [heq]; exact List.mem_cons_self)
      rw [Dict.set, if_neg hne, ih fun hmem => h (List.mem_cons_of_mem _ hmem), List.cons_append]

/-- A key is scanned up to its colon.
Source: Python `_json.c` `_parse_object_unicode`
Kind: L -/
lemma scanString_key {k : PyStr} (h : loads 0 (quoted k) = .ok (.str k)) (y : PyStr) :
    ∃ s r, quoted k = QUOTE :: s ∧ skipWs r = [] ∧ scanString none (s ++ y) = .ok (k, r ++ y) := by
  have hquoted : quoted k = QUOTE :: (k.flatMap escapeChar ++ text "\"") := rfl
  obtain ⟨least, hscan⟩ := scansBack_of_loads h 0
  obtain ⟨r, hr, hone⟩ := hscan (least + 1) [] (by omega) stops_nil
  rw [hquoted, List.append_nil, List.append_nil, skipWs_cons (by decide), scanOnce, withHead,
    if_pos rfl] at hone
  rcases hs : scanString none (k.flatMap escapeChar ++ text "\"") with e | ⟨t, rest⟩
  · rw [hs] at hone
    cases hone
  · rw [hs] at hone
    obtain ⟨ht, rfl⟩ := Prod.mk.inj (Except.ok.inj hone)
    obtain rfl := Json.str.inj ht
    exact ⟨_, rest, rfl, hr, scanString_append hs y⟩

/-- One member of an object, and what comes after it.
Source: Python `_json.c` `_parse_object_unicode`
Kind: L -/
lemma scanMembers_member {k : PyStr} {v : Json} {s : PyStr}
    (hkey : loads 0 (quoted k) = .ok (.str k)) (hv : ScansBack scanDepth v s) :
    ∃ least, ∀ fuel acc y, least ≤ fuel → Stops y →
      scanMembers (fuel + 1) scanDepth acc (skipWs (quoted k ++ text ": " ++ s ++ y)) =
        withHead (skipWs y) fun d rest =>
          if d = RBRACE then .ok (.dict (Dict.set acc k v), rest)
          else if d = COMMA then scanMembers fuel scanDepth (Dict.set acc k v) (skipWs rest)
          else .error .jsonDecodeError := by
  obtain ⟨least, hscan⟩ := hv
  refine ⟨least, ?_⟩
  intro fuel acc y hfuel hy
  obtain ⟨r, hr, hone⟩ := hscan fuel y hfuel hy
  obtain ⟨q, r', hq, hr', hstring⟩ := scanString_key hkey (COLON :: (text " " ++ (s ++ y)))
  have hcolon : text ": " = COLON :: text " " := rfl
  have htext : quoted k ++ text ": " ++ s ++ y = QUOTE :: (q ++ (COLON :: (text " " ++ (s ++ y)))) := by
    rw [hcolon, hq]
    simp only [List.append_assoc, List.cons_append]
  rw [htext, skipWs_cons (by decide), scanMembers, withHead, if_pos rfl, hstring, andThen,
    skipWs_append_of_eq_nil hr', skipWs_cons (by decide), withHead, if_pos rfl,
    skipWs_append_of_eq_nil (show skipWs (text " ") = [] by decide), hone, andThen,
    skipWs_append_of_eq_nil hr]

/-- The members of an object are scanned one by one.
Source: Python `_json.c` `_parse_object_unicode`
Kind: L -/
lemma scanMembers_dumps {level depth : Nat} {kvs : List (PyStr × Json)} {s : PyStr} (hne : kvs ≠ [])
    (hkeys : ∀ kv ∈ kvs, loads 0 (quoted kv.1) = .ok (.str kv.1))
    (hvalues : ∀ kv ∈ kvs, ∀ s, dumpsWith indent level depth kv.2 = .ok s →
      ScansBack scanDepth kv.2 s)
    (h : dumpsMembersWith indent level depth kvs = .ok s) (outer : Nat) :
    ∃ least, ∀ fuel acc x, least ≤ fuel → (Dict.keys (acc ++ kvs)).Nodup →
      scanMembers fuel scanDepth acc
          (skipWs (s ++ (newlineIndent indent outer ++ RBRACE :: x))) =
        .ok (.dict (acc ++ kvs), x) := by
  induction kvs generalizing s with
  | nil => exact absurd rfl hne
  | cons kv kvs ih =>
      obtain ⟨k, v⟩ := kv
      rw [dumpsMembersWith] at h
      obtain ⟨first, hfirst, h⟩ := bind_eq_ok.mp h
      obtain ⟨rest, hrest, h⟩ := bind_eq_ok.mp h
      have hs := Except.ok.inj h
      obtain ⟨least, hone⟩ := scanMembers_member (hkeys (k, v) List.mem_cons_self)
        (hvalues (k, v) List.mem_cons_self first hfirst)
      -- the key is new, so it goes to the end of the dictionary
      have hset : ∀ acc : Dict PyStr Json, (Dict.keys (acc ++ (k, v) :: kvs)).Nodup →
          Dict.set acc k v = acc ++ [(k, v)] := by
        intro acc hnodup
        apply set_of_not_mem
        unfold Dict.keys at hnodup ⊢
        rw [List.map_append, List.map_cons, List.nodup_append] at hnodup
        exact fun hmem => hnodup.2.2 k hmem k List.mem_cons_self rfl
      rcases kvs with _ | ⟨kv, kvs⟩
      · refine ⟨least + 1, ?_⟩
        intro fuel acc x hfuel hnodup
        obtain ⟨fuel, rfl⟩ := Nat.exists_eq_add_of_le' (show 1 ≤ fuel by omega)
        rw [← hs, List.isEmpty_nil, if_pos rfl,
          hone fuel acc _ (by omega) (stops_newlineIndent indent outer (by decide) x),
          skipWs_newlineIndent, skipWs_cons (by decide), withHead, if_pos rfl, hset acc hnodup]
      · obtain ⟨least', hmore⟩ := ih (by simp) (fun kv hkv => hkeys kv (List.mem_cons_of_mem _ hkv))
          (fun kv hkv => hvalues kv (List.mem_cons_of_mem _ hkv)) hrest
        obtain ⟨blank, hblank, hskip⟩ := exists_separator indent level
        refine ⟨max least least' + 1, ?_⟩
        intro fuel acc x hfuel hnodup
        obtain ⟨fuel, rfl⟩ := Nat.exists_eq_add_of_le' (show 1 ≤ fuel by omega)
        have htext : s ++ (newlineIndent indent outer ++ RBRACE :: x) =
            quoted k ++ text ": " ++ first ++
              (COMMA :: (blank ++ (rest ++ (newlineIndent indent outer ++ RBRACE :: x)))) := by
          rw [← hs, List.isEmpty_cons, if_neg (by decide), List.append_assoc _ (itemSeparator indent),
            hblank]
          simp only [List.append_assoc, List.cons_append]
        have hnodup' : (Dict.keys ((acc ++ [(k, v)]) ++ kv :: kvs)).Nodup := by
          rwa [List.append_assoc, List.singleton_append]
        rw [htext, hone fuel acc _ (by omega) (stops_cons (by decide) _), skipWs_cons (by decide),
          withHead, if_neg (by decide), if_pos rfl, hskip, hset acc hnodup,
          hmore fuel (acc ++ [(k, v)]) x (by omega) hnodup', List.append_assoc, List.singleton_append]

end Containers

/-! ## Values that read back -/

/-- The value is built of scalars that read back, in at most `n` nested containers; the keys of an
object differ and read back too.
Source: none: specification
Kind: D -/
inductive ReadsBack : Nat → Json → Prop
  | scalar {n : Nat} {v : Json} {s : PyStr} (hdumps : dumps 0 v = .ok s) (hloads : loads 0 s = .ok v) :
      ReadsBack n v
  | list {n : Nat} {xs : List Json} (elements : ∀ x ∈ xs, ReadsBack n x) : ReadsBack (n + 1) (.list xs)
  | dict {n : Nat} {kvs : List (PyStr × Json)} (nodup : (Dict.keys kvs).Nodup)
      (keys : ∀ kv ∈ kvs, loads 0 (quoted kv.1) = .ok (.str kv.1))
      (values : ∀ kv ∈ kvs, ReadsBack n kv.2) : ReadsBack (n + 1) (.dict kvs)

/-- More room does no harm.
Source: none: infrastructure
Kind: L -/
lemma ReadsBack.mono {n m : Nat} {v : Json} (h : ReadsBack n v) (hnm : n ≤ m) : ReadsBack m v := by
  induction h generalizing m with
  | scalar hdumps hloads => exact .scalar hdumps hloads
  | list _ ih =>
      obtain ⟨m, rfl⟩ := Nat.exists_eq_add_of_le' (show 1 ≤ m by omega)
      exact .list fun x hx => ih x hx (by omega)
  | dict hnodup hkeys _ ih =>
      obtain ⟨m, rfl⟩ := Nat.exists_eq_add_of_le' (show 1 ≤ m by omega)
      exact .dict hnodup hkeys fun kv hkv => ih kv hkv (by omega)

/-- What reads back is no deeper than its bound, so a limit that admits so many containers admits its copy.
Source: Python `dataclasses.asdict`
Kind: L -/
lemma ReadsBack.copyFrames_le {limit : CopyLimit} {n : Nat} {v : Json} (h : ReadsBack n v) :
    v.copyFrames limit ≤ n * limit.container + limit.scalar := by
  have hsucc (n : Nat) : (n + 1) * limit.container + limit.scalar =
      limit.container + (n * limit.container + limit.scalar) := by
    rw [Nat.succ_mul]
    omega
  induction h with
  | @scalar n v s hdumps hloads =>
      cases v with
      | list xs => cases hdumps
      | dict kvs => cases hdumps
      | _ => exact Nat.le_add_left _ _
  | @list n xs _ ih =>
      rw [copyFrames, hsucc]
      exact Nat.add_le_add_left (copyFramesElements_le ih) _
  | @dict n kvs _ _ _ ih =>
      rw [copyFrames, hsucc]
      exact Nat.add_le_add_left (copyFramesMembers_le (Nat.le_add_left _ _) ih) _

/-- A scalar is written the same way everywhere.
Source: Python `json.dumps`
Kind: L -/
lemma dumpsWith_of_scalar {v : Json} {s : PyStr} (h : dumps 0 v = .ok s) (indent : Option Nat)
    (level depth : Nat) : dumpsWith indent level depth v = .ok s := by
  cases v with
  | null | bool _ | int _ | float _ | str _ =>
      rw [dumpsWith, ← h]
      rfl
  | list _ | dict _ => cases h

/-- A value that reads back is written.
Source: Python `json.dumps`
Kind: L -/
lemma ReadsBack.exists_dumpsWith {n : Nat} {v : Json} (h : ReadsBack n v) (indent : Option Nat)
    (level : Nat) {depth : Nat} (hdepth : n ≤ depth) : ∃ s, dumpsWith indent level depth v = .ok s := by
  induction h generalizing level depth with
  | scalar hdumps _ => exact ⟨_, dumpsWith_of_scalar hdumps indent level depth⟩
  | list _ ih =>
      obtain ⟨depth, rfl⟩ := Nat.exists_eq_add_of_le' (show 1 ≤ depth by omega)
      apply exists_dumpsWith_list
      intro v hv
      exact ih v hv (level + 1) (by omega)
  | dict _ _ _ ih =>
      obtain ⟨depth, rfl⟩ := Nat.exists_eq_add_of_le' (show 1 ≤ depth by omega)
      apply exists_dumpsWith_dict
      intro kv hkv
      exact ih kv hkv (level + 1) (by omega)

/-- No value starts with a closing bracket or brace.
Source: Python `_json.c` `scan_once_unicode`
Kind: L -/
lemma scanOnce_ne_ok_of_close {c : CodePoint} (hc : c = RBRACKET ∨ c = RBRACE) (fuel depth : Nat)
    (x : PyStr) : scanOnce fuel depth (c :: x) = .error .jsonDecodeError := by
  rcases fuel with _ | fuel
  · rfl
  · rcases hc with rfl | rfl <;> rfl

/-- Elements that are scanned do not start with the closing bracket.
Source: Python `_json.c` `_parse_array_unicode`
Kind: L -/
lemma head_of_scanElements {fuel depth : Nat} {acc : List Json} {s : PyStr} {r : Json × PyStr}
    (h : scanElements fuel depth acc s = .ok r) : ∃ d ds, s = d :: ds ∧ d ≠ RBRACKET := by
  rcases fuel with _ | fuel
  · cases h
  · rw [scanElements] at h
    rcases s with _ | ⟨d, ds⟩
    · rcases fuel with _ | fuel <;> cases h
    · refine ⟨d, ds, rfl, ?_⟩
      rintro rfl
      rw [scanOnce_ne_ok_of_close (Or.inl rfl)] at h
      cases h

/-- Members that are scanned do not start with the closing brace.
Source: Python `_json.c` `_parse_object_unicode`
Kind: L -/
lemma head_of_scanMembers {fuel depth : Nat} {acc : List (PyStr × Json)} {s : PyStr} {r : Json × PyStr}
    (h : scanMembers fuel depth acc s = .ok r) : ∃ d ds, s = d :: ds ∧ d ≠ RBRACE := by
  rcases fuel with _ | fuel
  · cases h
  · rcases s with _ | ⟨d, ds⟩
    · cases h
    · refine ⟨d, ds, rfl, ?_⟩
      rintro rfl
      cases h

section Brackets

variable {indent : Option Nat} {level depth scanDepth : Nat} {t : PyStr}

/-- An array is scanned if its elements are.
Source: Python `_json.c` `_parse_array_unicode`
Kind: L -/
lemma scansBack_list {vs : List Json} (hne : vs ≠ [])
    (helement : ∀ v ∈ vs, ∀ s, dumpsWith indent (level + 1) depth v = .ok s → ScansBack scanDepth v s)
    (ht : dumpsElementsWith indent (level + 1) depth vs = .ok t) :
    ScansBack (scanDepth + 1) (.list vs) (text "[" ++ newlineIndent indent (level + 1) ++ t ++
      newlineIndent indent level ++ text "]") := by
  obtain ⟨least, helements⟩ := scanElements_dumps hne helement ht level
  refine ⟨least + 1, ?_⟩
  intro fuel x hfuel _
  refine ⟨[], rfl, ?_⟩
  obtain ⟨fuel, rfl⟩ := Nat.exists_eq_add_of_le' (show 1 ≤ fuel by omega)
  have hall := helements fuel [] x (by omega)
  have htext : text "[" ++ newlineIndent indent (level + 1) ++ t ++
      newlineIndent indent level ++ text "]" ++ x = LBRACKET :: (newlineIndent indent
        (level + 1) ++ (t ++ (newlineIndent indent level ++ RBRACKET :: x))) := by
    rw [show text "[" = [LBRACKET] from rfl, show text "]" = [RBRACKET] from rfl]
    simp only [List.append_assoc, List.cons_append, List.nil_append]
  obtain ⟨d, ds, hrest, hd⟩ := head_of_scanElements hall
  rw [htext, skipWs_cons (by decide), scanOnce, withHead, if_neg (by decide), if_neg (by decide),
    if_pos rfl]
  simp only
  rw [skipWs_newlineIndent, List.nil_append, hrest, withHead, if_neg hd, ← hrest, hall, List.nil_append]

/-- An object is scanned if its members are.
Source: Python `_json.c` `_parse_object_unicode`
Kind: L -/
lemma scansBack_dict {kvs : List (PyStr × Json)} (hne : kvs ≠ []) (hnodup : (Dict.keys kvs).Nodup)
    (hkeys : ∀ kv ∈ kvs, loads 0 (quoted kv.1) = .ok (.str kv.1))
    (hvalue : ∀ kv ∈ kvs, ∀ s, dumpsWith indent (level + 1) depth kv.2 = .ok s →
      ScansBack scanDepth kv.2 s)
    (ht : dumpsMembersWith indent (level + 1) depth kvs = .ok t) :
    ScansBack (scanDepth + 1) (.dict kvs) (text "\x7b" ++ newlineIndent indent (level + 1) ++ t ++
      newlineIndent indent level ++ text "\x7d") := by
  obtain ⟨least, hmembers⟩ := scanMembers_dumps hne hkeys hvalue ht level
  refine ⟨least + 1, ?_⟩
  intro fuel x hfuel _
  refine ⟨[], rfl, ?_⟩
  obtain ⟨fuel, rfl⟩ := Nat.exists_eq_add_of_le' (show 1 ≤ fuel by omega)
  have hall := hmembers fuel [] x (by omega) hnodup
  have htext : text "\x7b" ++ newlineIndent indent (level + 1) ++ t ++
      newlineIndent indent level ++ text "\x7d" ++ x = LBRACE :: (newlineIndent indent
        (level + 1) ++ (t ++ (newlineIndent indent level ++ RBRACE :: x))) := by
    rw [show text "\x7b" = [LBRACE] from rfl, show text "\x7d" = [RBRACE] from rfl]
    simp only [List.append_assoc, List.cons_append, List.nil_append]
  obtain ⟨d, ds, hrest, hd⟩ := head_of_scanMembers hall
  rw [htext, skipWs_cons (by decide), scanOnce, withHead, if_neg (by decide), if_pos rfl]
  simp only
  rw [skipWs_newlineIndent, List.nil_append, hrest, withHead, if_neg hd, ← hrest, hall, List.nil_append]

end Brackets

/-- An empty container is scanned.
Source: Python `_json.c` `scan_once_unicode`
Kind: L -/
lemma scansBack_empty (scanDepth : Nat) :
    ScansBack (scanDepth + 1) (.list []) (text "[]") ∧
      ScansBack (scanDepth + 1) (.dict []) (text "\x7b\x7d") := by
  constructor
  · refine ⟨1, fun fuel x hfuel _ => ⟨[], rfl, ?_⟩⟩
    obtain ⟨fuel, rfl⟩ := Nat.exists_eq_add_of_le' hfuel
    rfl
  · refine ⟨1, fun fuel x hfuel _ => ⟨[], rfl, ?_⟩⟩
    obtain ⟨fuel, rfl⟩ := Nat.exists_eq_add_of_le' hfuel
    rfl

/-- **A value that reads back is scanned from any text that starts with its own.**
Source: Python `json.loads`
Kind: P -/
lemma ReadsBack.scansBack {n : Nat} {v : Json} (h : ReadsBack n v) (indent : Option Nat)
    (level depth : Nat) {scanDepth : Nat} (hscan : n ≤ scanDepth) {s : PyStr}
    (hs : dumpsWith indent level depth v = .ok s) : ScansBack scanDepth v s := by
  induction h generalizing level depth scanDepth s with
  | scalar hdumps hloads =>
      rw [dumpsWith_of_scalar hdumps] at hs
      obtain rfl := Except.ok.inj hs
      exact scansBack_of_loads hloads _
  | list _ ih =>
      obtain ⟨scanDepth, rfl⟩ := Nat.exists_eq_add_of_le' (show 1 ≤ scanDepth by omega)
      rcases depth with _ | depth
      · cases hs
      · rw [dumpsWith] at hs
        split at hs
        · next hnil =>
            obtain rfl := List.isEmpty_iff.mp hnil
            obtain rfl := Except.ok.inj hs
            exact (scansBack_empty scanDepth).1
        · next hne =>
            obtain ⟨t, ht, rfl⟩ := map_eq_ok.mp hs
            apply scansBack_list (fun hnil => hne (List.isEmpty_iff.mpr hnil)) _ ht
            intro v hv s hs
            exact ih v hv (level + 1) depth (by omega) hs
  | dict hnodup hkeys _ ih =>
      obtain ⟨scanDepth, rfl⟩ := Nat.exists_eq_add_of_le' (show 1 ≤ scanDepth by omega)
      rcases depth with _ | depth
      · cases hs
      · rw [dumpsWith] at hs
        split at hs
        · next hnil =>
            obtain rfl := List.isEmpty_iff.mp hnil
            obtain rfl := Except.ok.inj hs
            exact (scansBack_empty scanDepth).2
        · next hne =>
            obtain ⟨t, ht, rfl⟩ := map_eq_ok.mp hs
            apply scansBack_dict (fun hnil => hne (List.isEmpty_iff.mpr hnil)) hnodup hkeys _ ht
            intro kv hkv s hs
            exact ih kv hkv (level + 1) depth (by omega) hs

/-- **`json.loads` reads back what `json.dumps` wrote**, in either layout, for every value built of
scalars that read back, as long as the recursion limit admits its containers.
Source: Python `json.dumps`, `json.loads`
Kind: P -/
theorem loads_dumpsWith {n : Nat} {v : Json} (h : ReadsBack n v) (indent : Option Nat)
    {depth limit : Nat} (hdepth : n ≤ depth) (hlimit : n ≤ limit) :
    ∃ s, dumpsWith indent 0 depth v = .ok s ∧ loads limit s = .ok v := by
  obtain ⟨s, hs⟩ := h.exists_dumpsWith indent 0 hdepth
  refine ⟨s, hs, ?_⟩
  obtain ⟨least, hscan⟩ := h.scansBack indent 0 depth hlimit hs
  obtain ⟨r, hr, hone⟩ := hscan (max least (2 * s.length + 1)) [] (le_max_left _ _) stops_nil
  have hmark : s.head? ≠ some 0xFEFF := by
    intro hhead
    rcases plainText_dumpsWith indent 0 depth v s hs 0xFEFF (List.mem_of_mem_head? hhead) with hlf | hlow
    · exact absurd hlf (by decide)
    · exact absurd hlow.2 (by decide)
  have hfuel : 2 * s.length < max least (2 * s.length + 1) := lt_of_lt_of_le (by omega) (le_max_right _ _)
  rw [loads_eq hfuel, if_neg hmark]
  rw [List.append_nil, List.append_nil] at hone
  rw [hone]
  exact if_pos hr

/-! ## Strings that read back -/

/-- No high surrogate is followed by a low one.
Source: none: specification
Kind: D -/
def NoSplitPair (s : PyStr) : Prop := s.IsChain fun a b => ¬ (isHigh a.val = true ∧ isLow b.val = true)

/-- Source: none: infrastructure. Kind: D -/
instance (s : PyStr) : Decidable (NoSplitPair s) := by
  unfold NoSplitPair
  infer_instance

lemma chr_val (c : CodePoint) : chr c.val = c := by
  ext
  unfold chr
  rw [Fin.val_ofNat]
  exact Nat.mod_eq_of_lt c.isLt

/-- A hexadecimal digit is read as the remainder it stands for.
Source: Python `json.encoder`, `_json.c`
Kind: L -/
lemma hexVal_hexDigit (n : Nat) : hexVal (hexDigit n) = some (n % 16) := by
  have hall : ∀ d < 16, hexVal (hexDigit d) = some d := by decide
  have hmod : hexDigit n = hexDigit (n % 16) := by
    unfold hexDigit
    rw [Nat.mod_mod]
  rw [hmod]
  exact hall (n % 16) (Nat.mod_lt n (by decide))

/-- The four digits of an escape are read as its code unit.
Source: Python `json.encoder`, `_json.c`
Kind: L -/
lemma hex4_unicodeEscape {n : Nat} (h : n < 0x10000) :
    hex4 (hexDigit (n / 4096)) (hexDigit (n / 256)) (hexDigit (n / 16)) (hexDigit n) = some n := by
  unfold hex4
  rw [hexVal_hexDigit, hexVal_hexDigit, hexVal_hexDigit, hexVal_hexDigit]
  show some (((n / 4096 % 16 * 16 + n / 256 % 16) * 16 + n / 16 % 16) * 16 + n % 16) = some n
  congr 1
  omega

lemma unicodeEscape_append (n : Nat) (y : PyStr) :
    unicodeEscape n ++ y = BACKSLASH :: 0x75 :: hexDigit (n / 4096) :: hexDigit (n / 256) ::
      hexDigit (n / 16) :: hexDigit n :: y := rfl

/-- The code point that a scanned high surrogate puts in front.
Source: none: infrastructure
Kind: D -/
def pendingHigh (high : Option Nat) : PyStr := (high.map chr).toList

lemma emitHigh_emit_ok (high : Option Nat) (c : CodePoint) (t x : PyStr) :
    emitHigh high (emit c (.ok (t, x))) = .ok (pendingHigh high ++ c :: t, x) := by
  rcases high with _ | hi <;> rfl

/-- How a character is written: by a simple escape, as itself, by one numeric escape, or by two.
Source: Python `json.encoder.py_encode_basestring_ascii`
Kind: L -/
lemma escapeChar_cases (c : CodePoint) :
    (∃ e, e ≠ 0x75 ∧ simpleEscape e = some c ∧ escapeChar c = [BACKSLASH, e]) ∨
    (c ≠ QUOTE ∧ c ≠ BACKSLASH ∧ ¬ c < 0x20 ∧ escapeChar c = [c]) ∨
    (c.val < 0x10000 ∧ escapeChar c = unicodeEscape c.val) ∨
    (0x10000 ≤ c.val ∧ escapeChar c = unicodeEscape (0xD800 + (c.val - 0x10000) / 0x400) ++
      unicodeEscape (0xDC00 + (c.val - 0x10000) % 0x400)) := by
  unfold escapeChar
  by_cases h₁ : c = 0x22
  · exact Or.inl ⟨0x22, by decide, by rw [h₁]; decide, if_pos h₁⟩
  rw [if_neg h₁]
  by_cases h₂ : c = 0x5C
  · exact Or.inl ⟨0x5C, by decide, by rw [h₂]; decide, if_pos h₂⟩
  rw [if_neg h₂]
  by_cases h₃ : c = LF
  · exact Or.inl ⟨0x6E, by decide, by rw [h₃]; decide, if_pos h₃⟩
  rw [if_neg h₃]
  by_cases h₄ : c = CR
  · exact Or.inl ⟨0x72, by decide, by rw [h₄]; decide, if_pos h₄⟩
  rw [if_neg h₄]
  by_cases h₅ : c = 0x09
  · exact Or.inl ⟨0x74, by decide, by rw [h₅]; decide, if_pos h₅⟩
  rw [if_neg h₅]
  by_cases h₆ : c = 0x0C
  · exact Or.inl ⟨0x66, by decide, by rw [h₆]; decide, if_pos h₆⟩
  rw [if_neg h₆]
  by_cases h₇ : c = 0x08
  · exact Or.inl ⟨0x62, by decide, by rw [h₇]; decide, if_pos h₇⟩
  rw [if_neg h₇]
  by_cases h₈ : 0x20 ≤ c ∧ c ≤ 0x7E
  · exact Or.inr (Or.inl ⟨h₁, h₂, not_lt.mpr h₈.1, if_pos h₈⟩)
  rw [if_neg h₈]
  by_cases h₉ : c < 0x10000
  · exact Or.inr (Or.inr (Or.inl ⟨h₉, if_pos h₉⟩))
  · exact Or.inr (Or.inr (Or.inr ⟨not_lt.mp h₉, if_neg h₉⟩))

/-- A character beyond U+FFFF is read back from its two escapes, behind a pending high surrogate.
Source: Python `json.encoder.py_encode_basestring_ascii`, `_json.c` `scanstring_unicode`
Kind: L -/
lemma scanString_pair {c : CodePoint} (hc : 0x10000 ≤ c.val) {t x y : PyStr}
    (hrest : scanString none y = .ok (t, x)) (high : Option Nat) :
    scanString high (unicodeEscape (0xD800 + (c.val - 0x10000) / 0x400) ++
      (unicodeEscape (0xDC00 + (c.val - 0x10000) % 0x400) ++ y)) =
      .ok (pendingHigh high ++ c :: t, x) := by
  have hmax := c.isLt
  have hhi : hex4 _ _ _ _ = some (0xD800 + (c.val - 0x10000) / 0x400) :=
    hex4_unicodeEscape (by omega)
  have hlo : hex4 _ _ _ _ = some (0xDC00 + (c.val - 0x10000) % 0x400) :=
    hex4_unicodeEscape (by omega)
  have hishigh : isHigh (0xD800 + (c.val - 0x10000) / 0x400) = true := by
    simp only [isHigh, Bool.and_eq_true, decide_eq_true_eq]
    omega
  have hnotlow : ¬ isLow (0xD800 + (c.val - 0x10000) / 0x400) = true := by
    simp only [isLow, Bool.and_eq_true, decide_eq_true_eq]
    omega
  have hislow : isLow (0xDC00 + (c.val - 0x10000) % 0x400) = true := by
    simp only [isLow, Bool.and_eq_true, decide_eq_true_eq]
    omega
  have hjoin : joinSurrogates (0xD800 + (c.val - 0x10000) / 0x400)
      (0xDC00 + (c.val - 0x10000) % 0x400) = c := by
    unfold joinSurrogates
    rw [show 0x10000 + (0xD800 + (c.val - 0x10000) / 0x400 - 0xD800) * 0x400 +
      (0xDC00 + (c.val - 0x10000) % 0x400 - 0xDC00) = c.val by omega, chr_val]
  have hsecond : scanString (some (0xD800 + (c.val - 0x10000) / 0x400))
      (unicodeEscape (0xDC00 + (c.val - 0x10000) % 0x400) ++ y) = .ok (c :: t, x) := by
    rw [unicodeEscape_append, scanString_unicode hlo]
    simp only
    rw [if_pos hislow, hjoin, hrest]
    rfl
  rw [unicodeEscape_append, scanString_unicode hhi]
  rcases high with _ | hi
  · simp only
    rw [if_pos hishigh]
    exact hsecond
  · simp only
    rw [if_neg hnotlow, if_pos hishigh, hsecond]
    rfl

/-- The escapes of a string are scanned as the string, behind a pending high surrogate that they do not
complete.
Source: Python `json.encoder.py_encode_basestring_ascii`, `_json.c` `scanstring_unicode`
Kind: L -/
lemma scanString_escapes {s : PyStr} (hs : NoSplitPair s) (high : Option Nat)
    (hhigh : ∀ hi ∈ high, ∀ c ∈ s.head?, ¬ isLow c.val = true) (x : PyStr) :
    scanString high (s.flatMap escapeChar ++ QUOTE :: x) = .ok (pendingHigh high ++ s, x) := by
  induction s generalizing high with
  | nil =>
      rw [List.flatMap_nil, List.nil_append, scanString_quote, List.append_nil]
      rcases high with _ | hi <;> rfl
  | cons c s ih =>
      have hrest : NoSplitPair s := List.IsChain.of_cons hs
      have hnone := ih hrest none nofun
      rw [List.flatMap_cons, List.append_assoc]
      rcases escapeChar_cases c with ⟨e, he, hc, htext⟩ | ⟨hquote, hslash, hlow, htext⟩ |
        ⟨hsmall, htext⟩ | ⟨hbig, htext⟩
      · rw [htext, List.cons_append, List.singleton_append, scanString_escape he hc, hnone]
        exact emitHigh_emit_ok high c s x
      · rw [htext, List.singleton_append, scanString_plain hquote hslash hlow, hnone]
        exact emitHigh_emit_ok high c s x
      · have hhex := hex4_unicodeEscape hsmall
        rw [htext, unicodeEscape_append, scanString_unicode hhex]
        by_cases hc : isHigh c.val = true
        · -- a high surrogate stays pending, and what follows does not complete it
          have hfollow : ∀ d ∈ s.head?, ¬ isLow d.val = true := by
            intro d hd hlow
            rcases s with _ | ⟨e, s⟩
            · cases hd
            · obtain rfl := Option.some.inj hd
              exact (List.isChain_cons_cons.mp hs).1 ⟨hc, hlow⟩
          have hpending : scanString (some c.val) (s.flatMap escapeChar ++ QUOTE :: x) =
              .ok (c :: s, x) := by
            have hscan := ih hrest (some c.val) fun _ _ => hfollow
            rwa [show pendingHigh (some c.val) ++ s = chr c.val :: s from rfl, chr_val] at hscan
          rcases high with _ | hi
          · simp only
            rw [if_pos hc]
            exact hpending
          · simp only
            rw [if_neg (hhigh hi rfl c rfl), if_pos hc, hpending]
            rfl
        · rcases high with _ | hi
          · simp only
            rw [if_neg hc, hnone, chr_val]
            rfl
          · simp only
            rw [if_neg (hhigh hi rfl c rfl), if_neg hc, hnone, chr_val]
            rfl
      · rw [htext, List.append_assoc]
        exact scanString_pair hbig hnone high

/-- **A string without a split surrogate pair reads back.**
Source: Python `json.dumps`, `json.loads`
Kind: P -/
theorem loads_quoted {s : PyStr} (hs : NoSplitPair s) : loads 0 (quoted s) = .ok (.str s) := by
  have hscan : scanString none (s.flatMap escapeChar ++ QUOTE :: []) = .ok (s, []) :=
    scanString_escapes hs none nofun []
  have hquoted : quoted s = QUOTE :: (s.flatMap escapeChar ++ QUOTE :: []) := rfl
  rw [loads_eq (Nat.lt_succ_self _), hquoted, if_neg (by simp [QUOTE]), skipWs_cons (by decide), scanOnce,
    withHead, if_pos rfl, hscan]
  rfl

/-- Source: Python `json.dumps`, `json.loads`. Kind: L -/
lemma readsBack_str {s : PyStr} (hs : NoSplitPair s) (n : Nat) : ReadsBack n (.str s) :=
  .scalar (s := quoted s) rfl (loads_quoted hs)

/-- Source: Python `json.dumps`, `json.loads`. Kind: L -/
lemma readsBack_null (n : Nat) : ReadsBack n .null := .scalar (s := text "null") rfl (by decide +kernel)

end Json

end NetstackSuite.Python
