import NetstackSuite.Lib.HtmlTags
import NetstackSuite.Reporting.CatalogLookup
import NetstackSuite.Reporting.HtmlReport

/-!
# The pieces of the HTML report

Two documents are compared piece by piece (`Alike`): the template is the same in both, and what a run brings in has no
`<` once it is escaped. Here are the pieces that no outcome changes.
-/

namespace NetstackSuite.Reporting

open NetstackSuite.Python NetstackSuite.Lib.HtmlTags

/-! ## Text without markup -/

/-- The characters of a text, which compare without decoding a string.
Source: none: infrastructure
Kind: D -/
def SpelledAs (t : PyStr) (cs : List Char) : Prop := t = cs.map fun c => chr c.toNat

/-- Source: none: infrastructure. Kind: L -/
lemma spelledAs_text {s : String} {cs : List Char} (hs : s = String.ofList cs) : SpelledAs (text s) cs :=
  text_spelled hs

/-- Source: none: infrastructure. Kind: L -/
lemma SpelledAs.append {t u : PyStr} {cs ds : List Char} (ht : SpelledAs t cs) (hu : SpelledAs u ds) :
    SpelledAs (t ++ u) (cs ++ ds) := by
  rw [SpelledAs, ht, hu, List.map_append]

/-- Source: none: infrastructure. Kind: L -/
lemma spelledAs_LF : SpelledAs [LF] ['\n'] := rfl

/-- Source: Python `str.join`. Kind: L -/
lemma SpelledAs.join {sep : PyStr} {ds : List Char} {ts : List PyStr} {css : List (List Char)} (hsep : SpelledAs sep ds)
    (h : List.Forall₂ SpelledAs ts css) : SpelledAs (join sep ts) (ds.intercalate css) := by
  induction h with
  | nil => rfl
  | @cons t cs ts css ht hts ih =>
      by_cases hlast : ts = []
      · subst hlast
        obtain rfl := List.forall₂_nil_left_iff.1 hts
        rw [Python.join, List.intercalate_singleton, List.intercalate_singleton]
        exact ht
      · have hmore : css ≠ [] := by
          rintro rfl
          exact hlast (List.forall₂_nil_right_iff.1 hts)
        rw [Python.join, List.intercalate_cons_of_ne_nil hlast, List.intercalate_cons_of_ne_nil hmore]
        exact (ht.append hsep).append ih

/-- Text without a `<`.
Source: none: specification
Kind: D -/
def Plain (t : PyStr) : Prop := LESS ∉ t

/-- Source: none: infrastructure. Kind: L -/
lemma less_mem_text (s : String) : LESS ∈ text s ↔ '<' ∈ s.toList := by
  rw [text, show LESS = (fun c : Char => chr c.toNat) '<' from rfl]
  exact List.mem_map_of_injective chr_toNat_injective

/-- Source: none: infrastructure. Kind: L -/
lemma plain_of_spelled {t : PyStr} (h : ∃ cs, SpelledAs t cs ∧ '<' ∉ cs) : Plain t := by
  obtain ⟨cs, ht, hless⟩ := h
  rw [Plain, ht, show LESS = (fun c : Char => chr c.toNat) '<' from rfl,
    List.mem_map_of_injective chr_toNat_injective]
  exact hless

/-- Source: none: infrastructure. Kind: L -/
lemma plain_text {s : String} {cs : List Char} (hs : s = String.ofList cs) (h : '<' ∉ cs) : Plain (text s) :=
  plain_of_spelled ⟨cs, spelledAs_text hs, h⟩

/-- Source: none: infrastructure. Kind: L -/
lemma plain_append {a b : PyStr} (ha : Plain a) (hb : Plain b) : Plain (a ++ b) := by
  rw [Plain, List.mem_append]
  exact not_or.2 ⟨ha, hb⟩

/-- **Escaped text has no `<`.**
Source: Python `html.escape`
Kind: L -/
lemma plain_htmlEscape (s : PyStr) : Plain (htmlEscape s) := by
  intro hmem
  obtain ⟨c, -, hc⟩ := List.mem_flatMap.1 hmem
  split at hc
  · exact plain_text rfl (by decide) hc
  · split at hc
    · exact plain_text rfl (by decide) hc
    · next hless =>
      split at hc
      · exact plain_text rfl (by decide) hc
      · split at hc
        · exact plain_text rfl (by decide) hc
        · split at hc
          · exact plain_text rfl (by decide) hc
          · exact hless (List.mem_singleton.1 hc).symm

/-- Source: Python `int.__repr__`. Kind: L -/
lemma plain_decimal (n : Nat) : Plain (decimal n) := by
  intro hmem
  exact absurd ((decimal_spec n).1.2 LESS hmem) (by decide)

/-- Source: Python `float.__format__`. Kind: L -/
lemma plain_fixed3 (x : PyFloat) : Plain (text x.fixed3) := by
  have hdigits (n : Nat) : '<' ∉ (toString n).toList := by
    intro hmem
    rw [Nat.toString_eq_ofList_toDigits, String.toList_ofList] at hmem
    exact absurd (Nat.isDigit_of_mem_toDigits (by decide) (by decide) hmem) (by decide)
  have hpad (n : Nat) : '<' ∉ ("".pushn '0' n).toList := by
    induction n with
    | zero => exact List.not_mem_nil
    | succ n ih =>
        show '<' ∉ (("".pushn '0' n).push '0').toList
        rw [String.toList_push, List.mem_append]
        exact not_or.2 ⟨ih, by decide⟩
  rw [Plain, less_mem_text]
  cases x with
  | nan => decide
  | inf neg => cases neg <;> decide
  | finite neg m e =>
      have hsign : '<' ∉ (if neg = true then "-" else "").toList := by cases neg <;> decide
      have hpoint : '<' ∉ ".".toList := by decide
      simp only [PyFloat.fixed3, String.toList_append, List.mem_append, not_or]
      exact ⟨⟨⟨⟨hsign, hdigits _⟩, hpoint⟩, hpad _⟩, hdigits _⟩

/-- Source: Python `os.linesep`. Kind: L -/
lemma plain_translateNewlines {windows : Bool} {s : PyStr} (hs : Plain s) :
    Plain (translateNewlines windows s) := by
  intro hmem
  obtain ⟨c, hc, hless⟩ := List.mem_flatMap.1 hmem
  split at hless
  · exact absurd hless (by decide)
  · obtain rfl := List.mem_singleton.1 hless
    exact hs hc

/-! ## Pieces of two documents -/

/-- Two pieces of a document, as the file holds them, that start and end between tags and have the same tags.
Source: none: specification
Kind: D -/
def Alike (windows : Bool) (a b : PyStr) : Prop :=
  Aligned .text (translateNewlines windows a) (translateNewlines windows b) .text

/-- Where a piece of the template leads, with either line separator.
Source: none: infrastructure
Kind: D -/
def leads (s t : Scanner) (cs : List Char) : Bool :=
  [true, false].all fun windows => (scan s (translateNewlines windows (cs.map fun c => chr c.toNat))).2 = t

/-- Source: none: infrastructure. Kind: L -/
lemma aligned_spelled {windows : Bool} {s t : Scanner} {a : PyStr} {cs : List Char} (ha : SpelledAs a cs)
    (h : leads s t cs = true) : Aligned s (translateNewlines windows a) (translateNewlines windows a) t := by
  rw [SpelledAs] at ha
  subst ha
  apply Aligned.refl
  have hboth := List.all_eq_true.1 h windows (by cases windows <;> simp)
  exact of_decide_eq_true hboth

/-- Source: Python `os.linesep`. Kind: L -/
lemma translateNewlines_append (windows : Bool) (a b : PyStr) :
    translateNewlines windows (a ++ b) = translateNewlines windows a ++ translateNewlines windows b :=
  List.flatMap_append

namespace Alike

variable {windows : Bool} {a a' b b' : PyStr}

/-- Source: none: infrastructure. Kind: L -/
lemma append (ha : Alike windows a b) (hb : Alike windows a' b') : Alike windows (a ++ a') (b ++ b') := by
  unfold Alike
  rw [translateNewlines_append, translateNewlines_append]
  exact Aligned.append ha hb

/-- Source: none: infrastructure. Kind: L -/
lemma plain (ha : Plain a) (hb : Plain b) : Alike windows a b :=
  Aligned.plain trivial (plain_translateNewlines ha) (plain_translateNewlines hb)

/-- **What a run brings in, escaped.**
Source: Python `html.escape`
Kind: L -/
lemma escaped (s t : PyStr) : Alike windows (htmlEscape s) (htmlEscape t) :=
  plain (plain_htmlEscape s) (plain_htmlEscape t)

/-- Source: none: infrastructure. Kind: L -/
lemma counted (m n : Nat) : Alike windows (decimal m) (decimal n) :=
  plain (plain_decimal m) (plain_decimal n)

/-- Pieces that are alike one by one.
Source: none: infrastructure
Kind: L -/
lemma flatten {as bs : List PyStr} (h : List.Forall₂ (Alike windows) as bs) :
    Alike windows as.flatten bs.flatten := by
  induction h with
  | nil => exact Aligned.refl rfl
  | cons hhead _ ih =>
      rw [List.flatten_cons, List.flatten_cons]
      exact hhead.append ih

/-- Source: none: infrastructure. Kind: L -/
lemma flatten_map {α : Type} {f : α → PyStr} (h : ∀ x, Alike windows (f x) (f x)) (xs : List α) :
    Alike windows (xs.map f).flatten (xs.map f).flatten := by
  apply flatten
  rw [List.forall₂_map_left_iff, List.forall₂_map_right_iff, List.forall₂_same]
  exact fun x _ => h x

end Alike

/-- The pieces are alike if the template between the interpolations, of which these are the characters, starts and ends
between tags; so that a section's template is checked at once.
Source: none: infrastructure
Kind: D -/
def AlikeIf (windows : Bool) (css : List (List Char)) (a b : PyStr) : Prop :=
  css.all (leads .text .text) = true → Alike windows a b

namespace AlikeIf

variable {windows : Bool} {css ds : List (List Char)} {a a' b b' : PyStr}

/-- Source: none: infrastructure. Kind: L -/
lemma append (ha : AlikeIf windows css a b) (hb : AlikeIf windows ds a' b') :
    AlikeIf windows (css ++ ds) (a ++ a') (b ++ b') := by
  intro h
  rw [List.all_append, Bool.and_eq_true] at h
  exact (ha h.1).append (hb h.2)

/-- A piece of the template.
Source: none: infrastructure
Kind: L -/
lemma template {s : String} {cs : List Char} (hs : s = String.ofList cs) : AlikeIf windows [cs] (text s) (text s) := by
  intro h
  rw [List.all_cons, List.all_nil, Bool.and_true] at h
  exact aligned_spelled (spelledAs_text hs) h

/-- Source: none: infrastructure. Kind: L -/
lemma hole (h : Alike windows a b) : AlikeIf windows [] a b := fun _ => h

/-- Source: none: infrastructure. Kind: L -/
lemma alike (h : AlikeIf windows css a b) (hcss : css.all (leads .text .text) = true) : Alike windows a b := h hcss

end AlikeIf

/-! ## The sections -/

section Sections

variable {windows : Bool}

/-- Source: `src/reporting/html_report.py` `_findings_section`. Kind: L -/
lemma alike_findingStart (outcome : TestOutcome) : Alike windows (findingStart outcome) (findingStart outcome) := by
  cases outcome
  all_goals
    apply aligned_spelled
    · repeat' apply SpelledAs.append
      all_goals exact spelledAs_text rfl
    · decide +kernel

/-- Source: `src/reporting/html_report.py` `_detail_section`. Kind: L -/
lemma alike_rowStart (outcome : TestOutcome) : Alike windows (rowStart outcome) (rowStart outcome) := by
  cases outcome
  all_goals
    apply aligned_spelled
    · repeat' apply SpelledAs.append
      all_goals exact spelledAs_text rfl
    · decide

/-- Source: `src/reporting/html_report.py` `_detail_section`. Kind: L -/
lemma alike_outcomeCell (outcome : TestOutcome) : Alike windows (outcomeCell outcome) (outcomeCell outcome) := by
  cases outcome
  all_goals
    apply aligned_spelled
    · repeat' apply SpelledAs.append
      all_goals exact spelledAs_text rfl
    · decide

/-- Source: `src/reporting/html_report.py` `_summary_section`. Kind: L -/
lemma alike_summarySection (iso₁ iso₂ : IsoFormat) (r₁ r₂ : TestRunResult) :
    Alike windows (summarySection iso₁ r₁) (summarySection iso₂ r₂) := by
  unfold summarySection
  dsimp only
  apply AlikeIf.alike
  · repeat' with_reducible apply AlikeIf.append
    all_goals first
      | with_reducible apply AlikeIf.hole (Alike.escaped _ _)
      | with_reducible apply AlikeIf.hole (Alike.counted _ _)
      | exact AlikeIf.template rfl
  · decide

/-- Source: `src/reporting/html_report.py` `_artifact_items`. Kind: L -/
lemma alike_artifactItems : Alike windows artifactItems artifactItems := by
  apply Alike.flatten_map
  intro artifact
  apply AlikeIf.alike
  · repeat' with_reducible apply AlikeIf.append
    all_goals first
      | with_reducible apply AlikeIf.hole (Alike.escaped _ _)
      | exact AlikeIf.template rfl
  · decide

/-- Source: `src/reporting/html_report.py` `_artifacts_section`. Kind: L -/
lemma alike_artifactsSection (r₁ r₂ : TestRunResult) :
    Alike windows (artifactsSection r₁) (artifactsSection r₂) := by
  unfold artifactsSection
  apply AlikeIf.alike
  · repeat' with_reducible apply AlikeIf.append
    all_goals first
      | with_reducible apply AlikeIf.hole (Alike.escaped _ _)
      | with_reducible apply AlikeIf.hole alike_artifactItems
      | exact AlikeIf.template rfl
  · decide +kernel

/-- Source: `src/reporting/html_report.py` `_appendix_catalog`. Kind: L -/
lemma alike_specRow (spec : MarkedSpec) : Alike windows (specRow spec) (specRow spec) := by
  unfold specRow
  apply AlikeIf.alike
  · repeat' with_reducible apply AlikeIf.append
    all_goals first
      | with_reducible apply AlikeIf.hole (Alike.escaped _ _)
      | exact AlikeIf.template rfl
  · decide

/-- Source: `src/reporting/html_report.py` `_appendix_catalog`. Kind: L -/
lemma alike_groupBlock (group : PyStr × List MarkedSpec) : Alike windows (groupBlock group) (groupBlock group) := by
  unfold groupBlock
  apply AlikeIf.alike
  · repeat' with_reducible apply AlikeIf.append
    all_goals first
      | with_reducible apply AlikeIf.hole (Alike.escaped _ _)
      | with_reducible apply AlikeIf.hole (Alike.flatten_map alike_specRow _)
      | exact AlikeIf.template rfl
  · decide

/-- Source: `src/reporting/html_report.py` `_appendix_catalog`. Kind: L -/
lemma alike_appendixCatalog (catalog : List MarkedSpec) :
    Alike windows (appendixCatalog catalog) (appendixCatalog catalog) := by
  unfold appendixCatalog
  apply AlikeIf.alike
  · repeat' with_reducible apply AlikeIf.append
    all_goals first
      | with_reducible apply AlikeIf.hole (Alike.escaped _ _)
      | with_reducible apply AlikeIf.hole (Alike.flatten_map alike_groupBlock _)
      | exact AlikeIf.template rfl
  · decide

/-- Source: `src/reporting/html_report.py` `_appendix_rfcs`. Kind: L -/
lemma alike_rfcItem (rfc : PyStr × PyStr) : Alike windows (rfcItem rfc) (rfcItem rfc) := by
  have hdash : Plain (text " — ") := plain_text rfl (by decide)
  have htitle : Plain (if rfc.2 = [] then [] else text " — " ++ htmlEscape rfc.2) := by
    split
    · exact List.not_mem_nil
    · exact plain_append hdash (plain_htmlEscape _)
  unfold rfcItem
  apply AlikeIf.alike
  · repeat' with_reducible apply AlikeIf.append
    all_goals first
      | with_reducible apply AlikeIf.hole (Alike.escaped _ _)
      | with_reducible apply AlikeIf.hole (Alike.plain htitle htitle)
      | exact AlikeIf.template rfl
  · decide

/-- Source: `src/reporting/html_report.py` `_appendix_rfcs`. Kind: L -/
lemma alike_appendixRfcs {catalog : List MarkedSpec} {x : PyStr} (h : appendixRfcs catalog = .ok x) :
    Alike windows x x := by
  obtain ⟨rfcs, -, hx⟩ := bind_eq_ok.1 h
  obtain rfl := Except.ok.inj hx
  apply AlikeIf.alike
  · repeat' with_reducible apply AlikeIf.append
    all_goals first
      | with_reducible apply AlikeIf.hole (Alike.escaped _ _)
      | with_reducible apply AlikeIf.hole (Alike.flatten_map alike_rfcItem _)
      | exact AlikeIf.template rfl
  · decide

/-! ## The head -/

/-- Source: `src/reporting/html_report.py` `_root_css`, `src/design_tokens.py` `css_variables`. Kind: L -/
lemma spelled_rootCss : ∃ cs, SpelledAs rootCss cs ∧ '<' ∉ cs := by
  unfold rootCss cssVariables cssTokens
  simp only [List.map_cons, List.map_nil]
  apply Exists.intro
  apply And.intro
  · repeat' with_reducible first
      | apply SpelledAs.append
      | apply SpelledAs.join
      | apply List.Forall₂.cons
    all_goals first
      | with_reducible exact List.Forall₂.nil
      | with_reducible exact spelledAs_LF
      | exact spelledAs_text rfl
  · decide

/-- Source: `src/reporting/html_report.py` `_STYLE`. Kind: L -/
lemma spelled_STYLE : ∃ cs, SpelledAs STYLE cs ∧ '<' ∉ cs := by
  unfold STYLE
  dsimp only
  apply Exists.intro
  apply And.intro
  · apply SpelledAs.join spelledAs_LF
    repeat' with_reducible apply List.Forall₂.cons
    all_goals first
      | with_reducible exact List.Forall₂.nil
      | exact spelledAs_text rfl
  · decide +kernel

/-- Source: `src/reporting/html_report.py` `_palette_css`. Kind: L -/
lemma spelled_paletteCss : ∃ cs, SpelledAs paletteCss cs ∧ '<' ∉ cs := by
  simp only [paletteCss, paletteOrder, List.flatMap_cons, List.flatMap_nil, outcomeRules, OUTCOME_STYLE, reduceCtorEq,
    or_self, or_true, true_or, if_true, if_false, List.append_nil, List.cons_append, List.nil_append]
  apply Exists.intro
  apply And.intro
  · repeat' with_reducible first
      | apply SpelledAs.join
      | apply SpelledAs.append
      | apply List.Forall₂.cons
    all_goals first
      | with_reducible exact List.Forall₂.nil
      | with_reducible exact spelledAs_LF
      | exact spelledAs_text rfl
  · decide +kernel

/-- The title and the style sheet are text up to their end tags.
Source: `src/reporting/html_report.py` `generate_html_report`
Kind: L -/
lemma alike_htmlHead (runId₁ runId₂ : PyStr) : Alike windows (htmlHead runId₁) (htmlHead runId₂) := by
  have hinside {element : Chars} {a b : PyStr} (ha : Plain a) (hb : Plain b) :
      Aligned (.raw element []) (translateNewlines windows a) (translateNewlines windows b) (.raw element []) :=
    .plain rfl (plain_translateNewlines ha) (plain_translateNewlines hb)
  have hnewline : Plain (text "\n") := plain_text rfl (by decide)
  have hroot : Plain rootCss := plain_of_spelled spelled_rootCss
  have hstyle : Plain STYLE := plain_of_spelled spelled_STYLE
  have hpalette : Plain paletteCss := plain_of_spelled spelled_paletteCss
  unfold Alike htmlHead
  simp only [translateNewlines_append]
  apply Aligned.append (t := .raw (chars ['s', 't', 'y', 'l', 'e']) [])
  · apply Aligned.append _ (hinside hpalette hpalette)
    apply Aligned.append _ (hinside hnewline hnewline)
    apply Aligned.append _ (hinside hstyle hstyle)
    apply Aligned.append _ (hinside hnewline hnewline)
    apply Aligned.append _ (hinside hroot hroot)
    apply Aligned.append (t := .text)
    · apply Aligned.append (t := .raw (chars ['t', 'i', 't', 'l', 'e']) [])
      · apply Aligned.append _ (hinside (plain_htmlEscape _) (plain_htmlEscape _))
        apply Aligned.append (t := .text)
        · exact aligned_spelled (spelledAs_text rfl) (by decide)
        · exact aligned_spelled (spelledAs_text rfl) (by decide)
      · exact aligned_spelled (spelledAs_text rfl) (by decide)
    · exact aligned_spelled (spelledAs_text rfl) (by decide)
  · exact aligned_spelled (spelledAs_text rfl) (by decide)

end Sections

end NetstackSuite.Reporting
