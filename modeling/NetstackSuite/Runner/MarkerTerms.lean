import NetstackSuite.Lib.BoolExpr
import NetstackSuite.Runner.Args

/-!
# Marker terms

What the one `-m` expression of `build_pytest_args` selects, against what the terms select that it is
made of. Pytest reads an expression as tokens (`lex`) of the grammar of `Lib.BoolExpr`, and selects an
item where it holds of the item's markers.

The terms are joined by ` and ` as they are, without parentheses, so that an `or` at the top of a term
reaches into its neighbours. The expression then holds of an item exactly if one of the runs of conjuncts
between the `or`s does (`conjoins_iff_runsEntail`). `marker_terms_conjoin` says which terms that leaves alone:
those without such an `or`, and of terms that have nothing to do with each other no others.
-/

namespace NetstackSuite.Runner

open NetstackSuite.Lib.BoolExpr NetstackSuite.Python

/-! ## Expressions as text -/

section

variable (alnum : CodePoint → Bool)

/-- What an identifier is made of: `\w`, of which `alnum` is the part above ASCII, and `: + - . [ ] \ /`.
Source: pytest `-m` expressions
Kind: D -/
def isNameChar (c : CodePoint) : Bool :=
  if c < 0x80 then
    (0x30 ≤ c && c ≤ 0x39) || (0x41 ≤ c && c ≤ 0x5A) || (0x61 ≤ c && c ≤ 0x7A) ||
      (text "_:+-.[]\\/").contains c
  else alnum c

/-- The token of a word.
Source: pytest `-m` expressions
Kind: D -/
def wordTokens (word : PyStr) : List (Token PyStr) :=
  if word = [] then []
  else if word = text "not" then [.not]
  else if word = text "and" then [.and]
  else if word = text "or" then [.or]
  else [.ident word]

/-- The tokens of a text, after the characters of a word that may go on.
Source: pytest `-m` expressions
Kind: D -/
def lexFrom (word : PyStr) : PyStr → Option (List (Token PyStr))
  | [] => some (wordTokens word)
  | c :: cs =>
    if isNameChar alnum c then lexFrom (word ++ [c]) cs
    else if c = 0x20 ∨ c = 0x09 then (lexFrom [] cs).map fun ts => wordTokens word ++ ts
    else if c = 0x28 then (lexFrom [] cs).map fun ts => wordTokens word ++ .lparen :: ts
    else if c = 0x29 then (lexFrom [] cs).map fun ts => wordTokens word ++ .rparen :: ts
    else none

/-- The tokens of a text.
Source: pytest `-m` expressions
Kind: D -/
def lex (s : PyStr) : Option (List (Token PyStr)) := lexFrom alnum [] s

/-- The alternatives of an expression.
Source: pytest `-m` expressions
Kind: D -/
def compileMarkers (s : PyStr) : Option (List (List (Expr PyStr))) := (lex alnum s).bind parse

/-- Whether an item with these markers is selected: pytest deselects nothing without an expression, and
stops at one that it cannot read.
Source: pytest `-m`
Kind: D -/
def selected (marks : PyStr → Bool) (request : RunRequest) : Option Bool :=
  if request.markers = [] then some true
  else (compileMarkers alnum (markerExpression request)).map (evalAlternatives (Expr.eval marks))

/-- A term: a text that is an expression.
Source: `src/runner.py` `RunRequest.markers`
Kind: D -/
structure MarkerTerm where
  text : PyStr
  alternatives : List (List (Expr PyStr))
  compiles : compileMarkers alnum text = some alternatives

/-- Whether the term on its own selects an item.
Source: pytest `-m`
Kind: D -/
def MarkerTerm.selects {alnum : CodePoint → Bool} (term : MarkerTerm alnum) (marks : PyStr → Bool) : Bool :=
  evalAlternatives (Expr.eval marks) term.alternatives

end

/-! ## The tokens of joined terms -/

section

variable {alnum : CodePoint → Bool}

/-- A space ends a word.
Source: pytest `-m` expressions
Kind: L -/
lemma lexFrom_append_space (word s t : PyStr) :
    lexFrom alnum word (s ++ 0x20 :: t) =
      (lexFrom alnum word s).bind fun ts => (lex alnum t).map fun us => ts ++ us := by
  have hspace : isNameChar alnum 0x20 = false := rfl
  induction s generalizing word with
  | nil =>
      have hread : lexFrom alnum word (0x20 :: t) =
          (lexFrom alnum [] t).map fun ts => wordTokens word ++ ts := by
        rw [lexFrom, hspace, if_neg Bool.false_ne_true, if_pos (Or.inl rfl)]
      exact hread
  | cons c s ih =>
      rw [List.cons_append, lexFrom, lexFrom, ih, ih]
      rcases lexFrom alnum [] s with _ | ts
      · split_ifs <;> rfl
      · rcases lex alnum t with _ | us
        · split_ifs <;> simp
        · split_ifs <;> simp

/-- Terms are joined token by token.
Source: `src/runner.py` `build_pytest_args`
Kind: L -/
lemma lex_join (texts : List (PyStr × List (Token PyStr))) (hne : texts ≠ [])
    (h : ∀ t ∈ texts, lex alnum t.1 = some t.2) :
    lex alnum (join (text " and ") (texts.map Prod.fst)) =
      some ([.and].intercalate (texts.map Prod.snd)) := by
  induction texts with
  | nil => exact absurd rfl hne
  | cons t texts ih =>
      rw [List.forall_mem_cons] at h
      rcases texts with _ | ⟨t', texts⟩
      · simpa [join] using h.1
      · have hrest := ih (List.cons_ne_nil t' texts) h.2
        have hand : lex alnum (text "and") = some [.and] := rfl
        unfold join at hrest ⊢
        rw [List.map_cons, List.map_cons] at hrest
        rw [List.map_cons, List.map_cons, List.map_cons, List.map_cons, List.intercalate_cons_cons,
          List.intercalate_cons_cons]
        have hspaces : t.1 ++ text " and " ++ (text " and ").intercalate (t'.1 :: texts.map Prod.fst) =
            t.1 ++ 0x20 :: (text "and" ++
              0x20 :: (text " and ").intercalate (t'.1 :: texts.map Prod.fst)) := by
          rw [List.append_assoc]
          rfl
        rw [hspaces]
        unfold lex at *
        rw [lexFrom_append_space, h.1, Option.bind_some]
        unfold lex
        rw [lexFrom_append_space, hand, Option.bind_some]
        unfold lex
        rw [hrest]
        simp only [Option.map_some, List.append_assoc]

/-- **The joined expression is read as the alternatives of the terms in a row.**
Source: `src/runner.py` `build_pytest_args`
Kind: P -/
lemma compileMarkers_markerExpression {request : RunRequest} {terms : List (MarkerTerm alnum)}
    (hne : terms ≠ []) (hmarkers : request.markers = terms.map MarkerTerm.text) :
    compileMarkers alnum (markerExpression request) = some (runs (terms.map MarkerTerm.alternatives)) := by
  let tokens (term : MarkerTerm alnum) : List (Token PyStr) := (lex alnum term.text).getD []
  have hterm : ∀ term : MarkerTerm alnum, lex alnum term.text = some (tokens term) ∧
      Reads .alternatives (tokens term) term.alternatives := by
    intro term
    obtain ⟨ts, hlex, hparse⟩ := Option.bind_eq_some_iff.mp term.compiles
    have htokens : tokens term = ts := by
      show (lex alnum term.text).getD [] = ts
      rw [hlex, Option.getD_some]
    rw [htokens]
    exact ⟨hlex, parse_eq_some_iff.mp hparse⟩
  have hlexed := lex_join (terms.map fun term => (term.text, tokens term))
    (by simpa using hne) (List.forall_mem_map.mpr fun term _ => (hterm term).1)
  have hread := reads_join (terms.map fun term => (tokens term, term.alternatives))
    (by simpa using hne) (List.forall_mem_map.mpr fun term _ => (hterm term).2)
  rw [List.map_map, List.map_map] at hlexed hread
  unfold compileMarkers markerExpression
  rw [hmarkers]
  exact (congrArg (Option.bind · parse) hlexed).trans (parse_eq_some_iff.mpr hread)

end

/-! ## Joined terms -/

section

variable {alnum : CodePoint → Bool} (request : RunRequest) (terms : List (MarkerTerm alnum))
  (marks : PyStr → Bool)

/-- The request with these terms.
Source: `src/runner.py` `RunRequest.markers`
Kind: D -/
def withTerms : RunRequest := { request with markers := terms.map MarkerTerm.text }

/-- An item with these markers is selected if each term on its own selects it, and only then.
Source: none: specification
Kind: D -/
def Conjoins : Prop :=
  selected alnum marks (withTerms request terms) = some (terms.all fun term => term.selects marks)

/-- Of the runs of conjuncts between the top-level `or`s of the terms in a row, those that hold make
every term hold.
Source: none: specification
Kind: D -/
def RunsEntail : Prop :=
  ∀ run ∈ runs (terms.map MarkerTerm.alternatives), (run.all fun e => e.eval marks) = true →
    ∀ term ∈ terms, term.selects marks = true

/-- What the joined expression selects.
Source: `src/runner.py` `build_pytest_args`
Kind: L -/
lemma conjoins_iff_runsEntail : Conjoins request terms marks ↔ RunsEntail terms marks := by
  by_cases hne : terms = []
  · subst hne
    apply iff_of_true rfl
    exact List.forall_mem_nil _
  · have hmarkers : (withTerms request terms).markers ≠ [] := by
      unfold withTerms
      simpa using hne
    have halternatives : terms.map MarkerTerm.alternatives ≠ [] := by simpa using hne
    unfold Conjoins selected RunsEntail
    rw [if_neg hmarkers, compileMarkers_markerExpression hne rfl, Option.map_some, Option.some_inj]
    have hrow := eval_runs_iff (Expr.eval marks) halternatives
    simp only [List.all_map, List.forall_mem_map] at hrow
    exact hrow

/-- No `or` at the top of a term has another term beside it: there is one term at most, or none with an `or`.
Source: `src/runner.py` `RunRequest.markers`
Kind: D -/
def JoinsPlainly : Prop :=
  terms.length ≤ 1 ∨ ∀ term ∈ terms, ∃ conjuncts, term.alternatives = [conjuncts]

/-- Terms without an `or` at their top compose by conjunction.
Source: `src/runner.py` `build_pytest_args`
Kind: L -/
lemma runsEntail_of_conjuncts (h : ∀ term ∈ terms, ∃ conjuncts, term.alternatives = [conjuncts]) :
    RunsEntail terms marks := by
  rcases terms with _ | ⟨first, terms⟩
  · exact List.forall_mem_nil _
  · have hconjuncts : ∀ term ∈ first :: terms, term.alternatives = [term.alternatives.headD []] := by
      intro term hterm
      obtain ⟨conjuncts, hterm⟩ := h term hterm
      rw [hterm]
      rfl
    have halternatives : (first :: terms).map MarkerTerm.alternatives =
        ((first :: terms).map fun term => term.alternatives.headD []).map fun es => [es] := by
      rw [List.map_map]
      exact List.map_congr_left hconjuncts
    intro run hrun hholds term hterm
    rw [halternatives, runs_of_singletons (by simp), List.mem_singleton] at hrun
    rw [MarkerTerm.selects, hconjuncts term hterm, evalAlternatives, List.any_cons, Bool.or_eq_true]
    refine Or.inl (List.all_eq_true.mpr fun e he => ?_)
    rw [hrun, List.all_eq_true] at hholds
    exact hholds e (List.mem_flatten.mpr ⟨_, List.mem_map_of_mem hterm, he⟩)

/-- So does a single term.
Source: `src/runner.py` `build_pytest_args`
Kind: L -/
lemma runsEntail_of_joinsPlainly (h : JoinsPlainly terms) : RunsEntail terms marks := by
  rcases h with hlength | hconjuncts
  · rcases terms with _ | ⟨term, _ | ⟨next, rest⟩⟩
    · exact List.forall_mem_nil _
    · intro run hrun hholds
      exact List.forall_mem_singleton.mpr (List.any_eq_true.mpr ⟨run, hrun, hholds⟩)
    · simp at hlength
  · exact runsEntail_of_conjuncts terms marks hconjuncts

/-! ## Terms that have nothing to do with each other -/

variable {terms} {marks}

/-- The markers that a term names.
Source: `src/runner.py` `RunRequest.markers`
Kind: D -/
def MarkerTerm.names (term : MarkerTerm alnum) : List PyStr :=
  term.alternatives.flatMap fun conjuncts => conjuncts.flatMap Expr.names

/-- Conjuncts that hold of some markers hold of all that agree on the names of the term.
Source: none: infrastructure
Kind: L -/
lemma MarkerTerm.all_congr {term : MarkerTerm alnum} {marks' : PyStr → Bool}
    (h : ∀ name ∈ term.names, marks name = marks' name) {conjuncts : List (Expr PyStr)}
    (hconjuncts : conjuncts ∈ term.alternatives) {e : Expr PyStr} (he : e ∈ conjuncts) :
    e.eval marks = e.eval marks' := by
  apply Expr.eval_congr
  intro name hname
  exact h name (List.mem_flatMap.mpr ⟨conjuncts, hconjuncts, List.mem_flatMap.mpr ⟨e, he, hname⟩⟩)

/-- What a term selects depends on the markers it names only.
Source: pytest `-m`
Kind: L -/
lemma MarkerTerm.selects_congr {term : MarkerTerm alnum} {marks' : PyStr → Bool}
    (h : ∀ name ∈ term.names, marks name = marks' name) : term.selects marks = term.selects marks' := by
  unfold MarkerTerm.selects evalAlternatives
  rw [Bool.eq_iff_iff, List.any_eq_true, List.any_eq_true]
  have hall : ∀ conjuncts ∈ term.alternatives, (conjuncts.all fun e => e.eval marks) =
      conjuncts.all fun e => e.eval marks' := by
    intro conjuncts hconjuncts
    rw [Bool.eq_iff_iff, List.all_eq_true, List.all_eq_true]
    exact forall₂_congr fun e he => by rw [MarkerTerm.all_congr h hconjuncts he]
  exact exists_congr fun conjuncts => and_congr_right fun hmem => by rw [hall conjuncts hmem]

lemma MarkerTerm.alternatives_ne_nil (term : MarkerTerm alnum) : term.alternatives ≠ [] := by
  obtain ⟨ts, -, hparse⟩ := Option.bind_eq_some_iff.mp term.compiles
  exact (parse_eq_some_iff.mp hparse).ne_nil

/-- The terms have no name in common.
Source: none: specification
Kind: D -/
def Separate (terms : List (MarkerTerm alnum)) : Prop :=
  terms.Pairwise fun term other => ∀ name ∈ term.names, name ∉ other.names

/-- The terms name different markers, no alternative of a term contradicts itself, and no term holds of every
item.
Source: none: specification
Kind: D -/
structure Independent (terms : List (MarkerTerm alnum)) : Prop where
  separate : Separate terms
  satisfiable : ∀ term ∈ terms, ∀ conjuncts ∈ term.alternatives,
    ∃ marks : PyStr → Bool, (conjuncts.all fun e => e.eval marks) = true
  falsifiable : ∀ term ∈ terms, ∃ marks : PyStr → Bool, term.selects marks = false

/-- One alternative of each of some terms can hold of an item that another term excludes.
Source: none: infrastructure
Kind: L -/
lemma Independent.exists_marks (h : Independent terms)
    {chosen : List (MarkerTerm alnum × List (Expr PyStr))} {excluding : MarkerTerm alnum}
    (hchosen : ∀ pair ∈ chosen, pair.1 ∈ terms ∧ pair.2 ∈ pair.1.alternatives) (hexcluding : excluding ∈ terms)
    (hseparate : Separate (excluding :: chosen.map Prod.fst)) :
    ∃ marks : PyStr → Bool, (∀ pair ∈ chosen, ∀ e ∈ pair.2, e.eval marks = true) ∧
      excluding.selects marks = false := by
  obtain ⟨without, hwithout⟩ := h.falsifiable excluding hexcluding
  have hholding : ∀ pair : MarkerTerm alnum × List (Expr PyStr), ∃ marks : PyStr → Bool,
      pair ∈ chosen → (pair.2.all fun e => e.eval marks) = true := by
    intro pair
    by_cases hpair : pair ∈ chosen
    · obtain ⟨marks, hmarks⟩ := h.satisfiable pair.1 (hchosen pair hpair).1 pair.2 (hchosen pair hpair).2
      exact ⟨marks, fun _ => hmarks⟩
    · exact ⟨without, fun hmem => absurd hmem hpair⟩
  choose holding hholding using hholding
  obtain ⟨hfirst, hrest⟩ := List.pairwise_cons.mp hseparate
  let parts := (excluding.names, without) :: chosen.map fun pair => (pair.1.names, holding pair)
  have hparts : parts.Pairwise fun p q => ∀ name ∈ p.1, name ∉ q.1 := by
    refine List.pairwise_cons.mpr ⟨?_, ?_⟩
    · exact List.forall_mem_map.mpr fun pair hpair => hfirst pair.1 (List.mem_map_of_mem hpair)
    · rw [List.pairwise_map] at hrest ⊢
      exact hrest
  obtain ⟨marks, hmarks⟩ := exists_holds hparts
  obtain ⟨hoff, hon⟩ := List.forall_mem_cons.mp hmarks
  refine ⟨marks, ?_, ?_⟩
  · intro pair hpair e he
    have hagree := hon _ (List.mem_map_of_mem hpair)
    rw [MarkerTerm.all_congr hagree (hchosen pair hpair).2 he]
    exact List.all_eq_true.mp (hholding pair hpair) e he
  · rw [MarkerTerm.selects_congr hoff, hwithout]

/-- A run made of one alternative of each of the chosen terms, none of which is the term left out.
Source: none: specification
Kind: D -/
structure LeavesOut (terms : List (MarkerTerm alnum)) (run : List (Expr PyStr))
    (chosen : List (MarkerTerm alnum × List (Expr PyStr))) (out : MarkerTerm alnum) : Prop where
  run_mem : run ∈ runs (terms.map MarkerTerm.alternatives)
  chosen_mem : ∀ pair ∈ chosen, pair.1 ∈ terms ∧ pair.2 ∈ pair.1.alternatives
  out_mem : out ∈ terms
  separate : Separate (out :: chosen.map Prod.fst)
  made : ∀ e ∈ run, ∃ pair ∈ chosen, e ∈ pair.2

lemma Separate.symm {terms terms' : List (MarkerTerm alnum)} (h : Separate terms) (hperm : terms.Perm terms') :
    Separate terms' :=
  hperm.pairwise h fun hname name hright hleft => hname name hleft hright

/-- The run of the first alternative of a term leaves out the next term.
Source: `src/runner.py` `build_pytest_args`
Kind: L -/
lemma exists_leavesOut_next {front back : List (MarkerTerm alnum)} {term next : MarkerTerm alnum}
    (hseparate : Separate (front ++ term :: next :: back)) {first second : List (Expr PyStr)}
    {more : List (List (Expr PyStr))} (halternatives : term.alternatives = first :: second :: more) :
    ∃ run chosen, LeavesOut (front ++ term :: next :: back) run chosen next := by
  have hfront : ∀ as ∈ front.map MarkerTerm.alternatives, as ≠ [] :=
    List.forall_mem_map.mpr fun other _ => other.alternatives_ne_nil
  obtain ⟨run, hrun, hparts⟩ := exists_run_before hfront first second more
    ((next :: back).map MarkerTerm.alternatives)
  let last (other : MarkerTerm alnum) : MarkerTerm alnum × List (Expr PyStr) :=
    (other, other.alternatives.getLastD [])
  refine ⟨run, front.map last ++ [(term, first)], ?_, ?_, by simp, ?_, ?_⟩
  · rw [List.map_append, List.map_cons, halternatives]
    exact hrun
  · refine List.forall_mem_append.mpr ⟨?_, List.forall_mem_singleton.mpr ⟨by simp, ?_⟩⟩
    · refine List.forall_mem_map.mpr fun other hother => ⟨List.mem_append_left _ hother, ?_⟩
      show other.alternatives.getLastD [] ∈ other.alternatives
      rw [List.getLastD_eq_getLast?, List.getLast?_eq_some_getLast other.alternatives_ne_nil]
      exact List.getLast_mem _
    · rw [halternatives]
      exact List.mem_cons_self
  · have hterms : (front.map last ++ [(term, first)]).map Prod.fst = front ++ [term] := by
      simp [last, Function.comp_def]
    rw [hterms]
    have hpart : Separate (front ++ [term] ++ [next]) := by
      refine hseparate.sublist ?_
      simp
    exact hpart.symm List.perm_append_comm
  · intro e he
    rcases hparts e he with ⟨as, has, hmem⟩ | hmem
    · obtain ⟨other, hother, rfl⟩ := List.mem_map.mp has
      exact ⟨last other, List.mem_append_left _ (List.mem_map_of_mem hother), hmem⟩
    · exact ⟨(term, first), List.mem_append_right _ List.mem_cons_self, hmem⟩

/-- The run of the second alternative of the last term leaves out the term in front of it.
Source: `src/runner.py` `build_pytest_args`
Kind: L -/
lemma exists_leavesOut_previous {front : List (MarkerTerm alnum)} {previous term : MarkerTerm alnum}
    (hseparate : Separate (front ++ [previous] ++ [term])) {first second : List (Expr PyStr)}
    {more : List (List (Expr PyStr))} (halternatives : term.alternatives = first :: second :: more) :
    ∃ run chosen, LeavesOut (front ++ [previous] ++ [term]) run chosen previous := by
  have hfront : ∀ as ∈ (front ++ [previous]).map MarkerTerm.alternatives, as ≠ [] :=
    List.forall_mem_map.mpr fun other _ => other.alternatives_ne_nil
  have hsecond : second ∈ term.alternatives.tail := by
    rw [halternatives]
    exact List.mem_cons_self
  refine ⟨second, [(term, second)], ?_, ?_, by simp, ?_, ?_⟩
  · rw [List.map_append, List.map_singleton]
    exact List.mem_of_mem_tail (mem_runs_of_mem_tail hfront hsecond)
  · exact List.forall_mem_singleton.mpr ⟨by simp, List.mem_of_mem_tail hsecond⟩
  · refine hseparate.sublist ?_
    simp
  · exact fun e he => ⟨(term, second), List.mem_cons_self, he⟩

/-- **Independent terms compose by conjunction only if they join plainly**: an `or` at the top of a term makes
a run that says nothing about the term behind it, or in front of it.
Source: `src/runner.py` `build_pytest_args`
Kind: P -/
lemma Independent.joinsPlainly (h : Independent terms) (hall : ∀ marks, RunsEntail terms marks) :
    JoinsPlainly terms := by
  by_contra hnot
  unfold JoinsPlainly at hnot
  push Not at hnot
  obtain ⟨hlength, term, hterm, hor⟩ := hnot
  obtain ⟨first, second, more, halternatives⟩ : ∃ first second more,
      term.alternatives = first :: second :: more := by
    rcases hlist : term.alternatives with _ | ⟨first, _ | ⟨second, more⟩⟩
    · exact absurd hlist term.alternatives_ne_nil
    · exact absurd hlist (hor first)
    · exact ⟨first, second, more, rfl⟩
  obtain ⟨run, chosen, out, hout⟩ : ∃ run chosen out, LeavesOut terms run chosen out := by
    obtain ⟨front, back, rfl⟩ := List.append_of_mem hterm
    rcases back with _ | ⟨next, back⟩
    · rcases List.eq_nil_or_concat' front with rfl | ⟨front, previous, rfl⟩
      · simp at hlength
      · obtain ⟨run, chosen, hout⟩ := exists_leavesOut_previous h.separate halternatives
        exact ⟨run, chosen, previous, hout⟩
    · obtain ⟨run, chosen, hout⟩ := exists_leavesOut_next h.separate halternatives
      exact ⟨run, chosen, next, hout⟩
  obtain ⟨marks, hholds, hexcluded⟩ := h.exists_marks hout.chosen_mem hout.out_mem hout.separate
  have hrun : (run.all fun e => e.eval marks) = true := by
    refine List.all_eq_true.mpr fun e he => ?_
    obtain ⟨pair, hpair, hmem⟩ := hout.made e he
    exact hholds pair hpair e hmem
  have hselected := hall marks run hout.run_mem hrun out hout.out_mem
  rw [hexcluded] at hselected
  cases hselected

/-! ## When joined terms compose by conjunction -/

/-- **Joined terms compose by conjunction if no `or` at the top of a term has another term beside it**, and of
independent terms only then.
Source: `src/runner.py` `build_pytest_args`
Kind: P -/
theorem marker_terms_conjoin (request : RunRequest) (terms : List (MarkerTerm alnum)) :
    (JoinsPlainly terms → ∀ marks, Conjoins request terms marks) ∧
      (Independent terms → ((∀ marks, Conjoins request terms marks) ↔ JoinsPlainly terms)) := by
  have hplain : JoinsPlainly terms → ∀ marks, Conjoins request terms marks := fun h marks =>
    (conjoins_iff_runsEntail request terms marks).mpr (runsEntail_of_joinsPlainly terms marks h)
  refine ⟨hplain, fun hindependent => ⟨fun hall => ?_, hplain⟩⟩
  exact hindependent.joinsPlainly fun marks => (conjoins_iff_runsEntail request terms marks).mp (hall marks)

/-- An item that the operator excluded with a second term is selected by the first alternative of the
first.
Source: `src/runner.py` `build_pytest_args`
Kind: L -/
theorem excluded_item_selected :
    ∃ (terms : List (MarkerTerm fun _ => false)) (marks : PyStr → Bool) (request : RunRequest),
      terms.map MarkerTerm.text = [text "vuln or tcp", text "not vuln"] ∧
        markerExpression (withTerms request terms) = text "vuln or tcp and not vuln" ∧
        selected (fun _ => false) marks (withTerms request terms) = some true ∧
        (terms.map fun term => term.selects marks) = [true, false] ∧ ¬ Conjoins request terms marks := by
  refine ⟨[⟨text "vuln or tcp", [[.ident (text "vuln")], [.ident (text "tcp")]], by decide +kernel⟩,
    ⟨text "not vuln", [[.not (.any [[.ident (text "vuln")]])]], by decide +kernel⟩],
    fun name => name == text "vuln", { config := ⟨text "eth0", text "192.0.2.1", text "linux", none, none,
      none, .ofDecimal false 2 0, .client, none, []⟩ }, rfl, by decide +kernel, by decide +kernel,
    by decide +kernel, ?_⟩
  unfold Conjoins
  decide +kernel

end

end NetstackSuite.Runner
