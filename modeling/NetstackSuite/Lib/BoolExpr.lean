import Mathlib.Data.List.Basic
import Mathlib.Tactic.Common

/-!
# Boolean expressions over identifiers: grammar, parser, and what joining texts does

Expressions of identifiers, `not`, `and`, `or` and parentheses; `not` binds more tightly than `and`, and
`and` more tightly than `or`.

* `Reads` is the grammar. An expression is read as its **alternatives**, the lists of conjuncts that its
  top-level `or`s separate.
* `parse_eq_some_iff`: the recursive-descent parser decides the grammar, so a text has one reading.
* `reads_join`: texts joined by `and` are read as their alternatives in a row, with the last of one text
  and the first of the next run together (`runs`). Their conjunction is read so only as far as each of
  these runs entails all of the texts (`eval_runs_iff`); it always entails them (`eval_runs`).
* A text with several alternatives has a run that says nothing about the text after it (`exists_run_before`)
  and one that says nothing about the texts in front of it (`mem_runs_of_mem_tail`).
-/

namespace NetstackSuite.Lib.BoolExpr

/-! ## Syntax -/

/-- A token.
Source: none: infrastructure
Kind: D -/
inductive Token (ι : Type) where
  | lparen
  | rparen
  | not
  | and
  | or
  | ident (name : ι)
  deriving DecidableEq

/-- An expression.
Source: none: infrastructure
Kind: D -/
inductive Expr (ι : Type) where
  | const (value : Bool)
  | ident (name : ι)
  | not (e : Expr ι)
  | and (e f : Expr ι)
  | or (e f : Expr ι)
  deriving DecidableEq

variable {ι : Type}

namespace Expr

/-- The value of an expression where the identifiers that hold are given.
Source: none: infrastructure
Kind: D -/
def eval (holds : ι → Bool) : Expr ι → Bool
  | const value => value
  | ident name => holds name
  | not e => !e.eval holds
  | and e f => e.eval holds && f.eval holds
  | or e f => e.eval holds || f.eval holds

/-- The conjunction of expressions.
Source: none: infrastructure
Kind: D -/
def all (es : List (Expr ι)) : Expr ι := es.foldr and (const true)

/-- The disjunction of alternatives, each the list of its conjuncts.
Source: none: infrastructure
Kind: D -/
def any (alts : List (List (Expr ι))) : Expr ι := alts.foldr (fun es e => or (all es) e) (const false)

/-- The identifiers of an expression.
Source: none: infrastructure
Kind: D -/
def names : Expr ι → List ι
  | const _ => []
  | ident name => [name]
  | not e => e.names
  | and e f => e.names ++ f.names
  | or e f => e.names ++ f.names

/-- The value of an expression depends on its identifiers only.
Source: none: infrastructure
Kind: L -/
lemma eval_congr {holds holds' : ι → Bool} {e : Expr ι} (h : ∀ name ∈ e.names, holds name = holds' name) :
    e.eval holds = e.eval holds' := by
  induction e with
  | const _ => rfl
  | ident name => exact h name List.mem_cons_self
  | not e ih => rw [eval, eval, ih h]
  | and e f ihe ihf =>
      obtain ⟨he, hf⟩ := List.forall_mem_append.mp h
      rw [eval, eval, ihe he, ihf hf]
  | or e f ihe ihf =>
      obtain ⟨he, hf⟩ := List.forall_mem_append.mp h
      rw [eval, eval, ihe he, ihf hf]

end Expr

/-- What holds of separate identifiers can be chosen separately.
Source: none: infrastructure
Kind: L -/
lemma exists_holds [DecidableEq ι] {parts : List (List ι × (ι → Bool))}
    (h : parts.Pairwise fun p q => ∀ name ∈ p.1, name ∉ q.1) :
    ∃ holds : ι → Bool, ∀ part ∈ parts, ∀ name ∈ part.1, holds name = part.2 name := by
  induction parts with
  | nil => exact ⟨fun _ => false, List.forall_mem_nil _⟩
  | cons part parts ih =>
      obtain ⟨hfirst, hrest⟩ := List.pairwise_cons.mp h
      obtain ⟨holds, hholds⟩ := ih hrest
      refine ⟨fun name => if name ∈ part.1 then part.2 name else holds name,
        List.forall_mem_cons.mpr ⟨fun name hname => if_pos hname, ?_⟩⟩
      intro other hother name hname
      have hnot : name ∉ part.1 := fun hmem => hfirst other hother name hmem hname
      exact (if_neg hnot).trans (hholds other hother name hname)

/-! ## Alternatives in a row -/

variable {α : Type}

/-- Two lists of alternatives in a row: the last of the one runs together with the first of the other.
Source: none: infrastructure
Kind: D -/
def chain : List (List α) → List (List α) → List (List α)
  | [], bs => bs
  | [a], [] => [a]
  | [a], b :: bs => (a ++ b) :: bs
  | a :: a' :: as, bs => a :: chain (a' :: as) bs

lemma chain_append_left (as : List (List α)) {bs : List (List α)} (hbs : bs ≠ []) (cs : List (List α)) :
    chain (as ++ bs) cs = as ++ chain bs cs := by
  obtain ⟨b, bs, rfl⟩ := List.exists_cons_of_ne_nil hbs
  induction as with
  | nil => rfl
  | cons a as ih =>
      rw [List.cons_append, List.cons_append, ← ih]
      rcases as with _ | ⟨a', as⟩
      · rfl
      · rfl

lemma chain_append_right {as bs : List (List α)} (has : as ≠ []) (hbs : bs ≠ []) (cs : List (List α)) :
    chain as (bs ++ cs) = chain as bs ++ cs := by
  obtain ⟨b, bs, rfl⟩ := List.exists_cons_of_ne_nil hbs
  induction as with
  | nil => exact absurd rfl has
  | cons a as ih =>
      rcases as with _ | ⟨a', as⟩
      · rfl
      · rw [chain, chain, ih (List.cons_ne_nil a' as), List.cons_append]

lemma chain_ne_nil {as : List (List α)} (has : as ≠ []) (bs : List (List α)) : chain as bs ≠ [] := by
  rcases as with _ | ⟨a, _ | ⟨a', as⟩⟩
  · exact absurd rfl has
  · rcases bs with _ | ⟨b, bs⟩
    · exact List.cons_ne_nil _ _
    · exact List.cons_ne_nil _ _
  · exact List.cons_ne_nil _ _

lemma chain_assoc (as : List (List α)) {bs : List (List α)} (hbs : bs ≠ []) (cs : List (List α)) :
    chain (chain as bs) cs = chain as (chain bs cs) := by
  induction as with
  | nil => rfl
  | cons a as ih =>
      rcases as with _ | ⟨a', as⟩
      · rcases bs with _ | ⟨b, _ | ⟨b', bs⟩⟩
        · exact absurd rfl hbs
        · rcases cs with _ | ⟨c, cs⟩
          · rfl
          · simp only [chain, List.append_assoc]
        · rfl
      · obtain ⟨x, xs, hchain⟩ := List.exists_cons_of_ne_nil (chain_ne_nil (List.cons_ne_nil a' as) bs)
        rw [chain, chain, ← ih, hchain, chain]

/-- Lists of alternatives in a row.
Source: none: infrastructure
Kind: D -/
def runs : List (List (List α)) → List (List α)
  | [] => []
  | [as] => as
  | as :: bs :: rest => chain as (runs (bs :: rest))

/-- An alternative stays as it is in a row, or the last one in front of it runs together with it.
Source: none: infrastructure
Kind: L -/
lemma mem_chain_of_mem {as : List (List α)} (has : as ≠ []) {bs : List (List α)} {b : List α} (hb : b ∈ bs) :
    b ∈ chain as bs ∨ as.getLastD [] ++ b ∈ chain as bs := by
  induction as with
  | nil => exact absurd rfl has
  | cons a as ih =>
      rcases as with _ | ⟨a', as⟩
      · rcases bs with _ | ⟨first, bs⟩
        · cases hb
        · rcases List.mem_cons.mp hb with rfl | hmem
          · exact Or.inr List.mem_cons_self
          · exact Or.inl (List.mem_cons_of_mem _ hmem)
      · rw [chain]
        rcases ih (List.cons_ne_nil a' as) with hmem | hmem
        · exact Or.inl (List.mem_cons_of_mem a hmem)
        · exact Or.inr (List.mem_cons_of_mem a hmem)

/-- Only the first alternative can have something in front of it.
Source: none: infrastructure
Kind: L -/
lemma mem_tail_chain {as : List (List α)} (has : as ≠ []) {bs : List (List α)} {b : List α}
    (hb : b ∈ bs.tail) : b ∈ (chain as bs).tail := by
  induction as with
  | nil => exact absurd rfl has
  | cons a as ih =>
      rcases as with _ | ⟨a', as⟩
      · rcases bs with _ | ⟨first, bs⟩
        · cases hb
        · exact hb
      · exact List.mem_of_mem_tail (ih (List.cons_ne_nil a' as))

lemma runs_cons (as : List (List α)) {rest : List (List (List α))} (hrest : rest ≠ []) :
    runs (as :: rest) = chain as (runs rest) := by
  obtain ⟨bs, rest, rfl⟩ := List.exists_cons_of_ne_nil hrest
  rfl

/-- The first of several alternatives runs together with what is in front of it, and with nothing behind it.
Source: none: infrastructure
Kind: L -/
lemma exists_run_before {front : List (List (List α))} (hfront : ∀ as ∈ front, as ≠ []) (a a' : List α)
    (more : List (List α)) (back : List (List (List α))) :
    ∃ run ∈ runs (front ++ (a :: a' :: more) :: back),
      ∀ x ∈ run, (∃ as ∈ front, x ∈ as.getLastD []) ∨ x ∈ a := by
  induction front with
  | nil =>
      refine ⟨a, ?_, fun x hx => Or.inr hx⟩
      rcases back with _ | ⟨bs, back⟩
      · exact List.mem_cons_self
      · exact List.mem_cons_self
  | cons as front ih =>
      obtain ⟨has, hfront⟩ := List.forall_mem_cons.mp hfront
      obtain ⟨run, hrun, hparts⟩ := ih hfront
      have hparts' : ∀ x ∈ run, (∃ as' ∈ as :: front, x ∈ as'.getLastD []) ∨ x ∈ a := by
        intro x hx
        rcases hparts x hx with ⟨as', has', hmem⟩ | hmem
        · exact Or.inl ⟨as', List.mem_cons_of_mem as has', hmem⟩
        · exact Or.inr hmem
      rw [List.cons_append, runs_cons as (by simp)]
      rcases mem_chain_of_mem has hrun with hmem | hmem
      · exact ⟨run, hmem, hparts'⟩
      · refine ⟨_, hmem, ?_⟩
        intro x hx
        rcases List.mem_append.mp hx with hlast | hrest
        · exact Or.inl ⟨as, List.mem_cons_self, hlast⟩
        · exact hparts' x hrest

/-- All but the first of the last alternatives are runs of their own.
Source: none: infrastructure
Kind: L -/
lemma mem_runs_of_mem_tail {front : List (List (List α))} (hfront : ∀ as ∈ front, as ≠ [])
    {last : List (List α)} {run : List α} (h : run ∈ last.tail) : run ∈ (runs (front ++ [last])).tail := by
  induction front with
  | nil => exact h
  | cons as front ih =>
      obtain ⟨has, hfront⟩ := List.forall_mem_cons.mp hfront
      rw [List.cons_append, runs_cons as (by simp)]
      exact mem_tail_chain has (ih hfront)

/-! ## The grammar -/

/-- A kind of expression: what `not` applies to, what `and` joins, what `or` joins.
Source: none: infrastructure
Kind: D -/
inductive Level where
  | factor
  | conjuncts
  | alternatives
  deriving DecidableEq

/-- The tokens are an expression of that kind, with these alternatives.
Source: none: specification
Kind: D -/
inductive Reads : Level → List (Token ι) → List (List (Expr ι)) → Prop
  | ident (name : ι) : Reads .factor [.ident name] [[.ident name]]
  | not {ts : List (Token ι)} {alts : List (List (Expr ι))} (h : Reads .factor ts alts) :
      Reads .factor (.not :: ts) [[.not (.any alts)]]
  | paren {ts : List (Token ι)} {alts : List (List (Expr ι))} (h : Reads .alternatives ts alts) :
      Reads .factor (.lparen :: (ts ++ [.rparen])) [[.any alts]]
  | conjunct {ts : List (Token ι)} {alts : List (List (Expr ι))} (h : Reads .factor ts alts) :
      Reads .conjuncts ts alts
  | and {ts us : List (Token ι)} {alts more : List (List (Expr ι))} (h : Reads .factor ts alts)
      (h' : Reads .conjuncts us more) : Reads .conjuncts (ts ++ .and :: us) (chain alts more)
  | alternative {ts : List (Token ι)} {alts : List (List (Expr ι))} (h : Reads .conjuncts ts alts) :
      Reads .alternatives ts alts
  | or {ts us : List (Token ι)} {alts more : List (List (Expr ι))} (h : Reads .conjuncts ts alts)
      (h' : Reads .alternatives us more) : Reads .alternatives (ts ++ .or :: us) (alts ++ more)

lemma Reads.ne_nil {level : Level} {ts : List (Token ι)} {alts : List (List (Expr ι))}
    (h : Reads level ts alts) : alts ≠ [] := by
  induction h with
  | ident _ => exact List.cons_ne_nil _ _
  | not _ _ => exact List.cons_ne_nil _ _
  | paren _ _ => exact List.cons_ne_nil _ _
  | conjunct _ ih => exact ih
  | and _ _ ih _ => exact chain_ne_nil ih _
  | alternative _ ih => exact ih
  | or _ _ ih _ => exact List.append_ne_nil_of_left_ne_nil ih _

/-! ## The parser -/

/-- Recursive descent: the expression of that kind at the front, and the tokens after it.
Source: none: infrastructure
Kind: D -/
def read : Nat → Level → List (Token ι) → Option (List (List (Expr ι)) × List (Token ι))
  | 0, _, _ => none
  | fuel + 1, .factor, ts =>
    match ts with
    | .ident name :: rest => some ([[.ident name]], rest)
    | .not :: rest => (read fuel .factor rest).map fun (alts, rest) => ([[.not (.any alts)]], rest)
    | .lparen :: rest =>
      (read fuel .alternatives rest).bind fun (alts, rest) =>
        match rest with
        | .rparen :: rest => some ([[.any alts]], rest)
        | _ => none
    | _ => none
  | fuel + 1, .conjuncts, ts =>
    (read fuel .factor ts).bind fun (alts, rest) =>
      match rest with
      | .and :: rest => (read fuel .conjuncts rest).map fun (more, rest) => (chain alts more, rest)
      | rest => some (alts, rest)
  | fuel + 1, .alternatives, ts =>
    (read fuel .conjuncts ts).bind fun (alts, rest) =>
      match rest with
      | .or :: rest => (read fuel .alternatives rest).map fun (more, rest) => (alts ++ more, rest)
      | rest => some (alts, rest)

/-- The alternatives of a whole text.
Source: none: infrastructure
Kind: D -/
def parse (ts : List (Token ι)) : Option (List (List (Expr ι))) :=
  (read (3 * ts.length + 2) .alternatives ts).bind fun (alts, rest) =>
    if rest.isEmpty then some alts else none

/-! ## The parser decides the grammar -/

/-- What may follow an expression of a kind for it to end there.
Source: none: infrastructure
Kind: D -/
def Follows : Level → List (Token ι) → Prop
  | .factor, _ => True
  | .conjuncts, rest => rest.head? ≠ some .and
  | .alternatives, rest => rest.head? ≠ some .and ∧ rest.head? ≠ some .or

/-- How many steps a kind is above the tokens.
Source: none: infrastructure
Kind: D -/
def Level.rank : Level → Nat
  | .factor => 0
  | .conjuncts => 1
  | .alternatives => 2

/-- A list of conjuncts ends where no `and` follows.
Source: none: infrastructure
Kind: L -/
lemma read_conjuncts_of_follows {fuel : Nat} {ts rest : List (Token ι)} {alts : List (List (Expr ι))}
    (h : read fuel .factor ts = some (alts, rest)) (hrest : Follows .conjuncts rest) :
    read (fuel + 1) .conjuncts ts = some (alts, rest) := by
  rw [read, h, Option.bind_some]
  rcases rest with _ | ⟨_ | _ | _ | _ | _ | _, rest⟩
  case cons.and => exact absurd rfl hrest
  all_goals rfl

/-- A list of alternatives ends where no `or` follows.
Source: none: infrastructure
Kind: L -/
lemma read_alternatives_of_follows {fuel : Nat} {ts rest : List (Token ι)} {alts : List (List (Expr ι))}
    (h : read fuel .conjuncts ts = some (alts, rest)) (hrest : Follows .alternatives rest) :
    read (fuel + 1) .alternatives ts = some (alts, rest) := by
  rw [read, h, Option.bind_some]
  rcases rest with _ | ⟨_ | _ | _ | _ | _ | _, rest⟩
  case cons.or => exact absurd rfl hrest.2
  all_goals rfl

/-- **An expression is read from any text that starts with it**, up to what may not follow it.
Source: none: infrastructure
Kind: P -/
theorem read_of_reads {level : Level} {ts : List (Token ι)} {alts : List (List (Expr ι))}
    (h : Reads level ts alts) {fuel : Nat} (hfuel : 3 * ts.length + level.rank ≤ fuel)
    {rest : List (Token ι)} (hrest : Follows level rest) :
    read fuel level (ts ++ rest) = some (alts, rest) := by
  induction h generalizing fuel rest with
  | ident name =>
      obtain ⟨fuel, rfl⟩ := Nat.exists_eq_add_of_le' (show 1 ≤ fuel from by simp at hfuel; omega)
      rfl
  | @not ts alts _ ih =>
      rw [List.length_cons, Level.rank] at hfuel
      obtain ⟨fuel, rfl⟩ := Nat.exists_eq_add_of_le' (show 1 ≤ fuel by omega)
      rw [List.cons_append, read]
      simp only
      rw [ih (by rw [Level.rank]; omega) trivial]
      rfl
  | @paren ts alts _ ih =>
      rw [List.length_cons, List.length_append, List.length_singleton, Level.rank] at hfuel
      obtain ⟨fuel, rfl⟩ := Nat.exists_eq_add_of_le' (show 1 ≤ fuel by omega)
      have hclose : Follows .alternatives (.rparen :: rest) := by
        constructor
        · exact fun h => by cases h
        · exact fun h => by cases h
      rw [List.cons_append, List.append_assoc, read]
      simp only
      rw [List.singleton_append, ih (by rw [Level.rank]; omega) hclose]
      rfl
  | conjunct _ ih =>
      rw [Level.rank] at hfuel
      obtain ⟨fuel, rfl⟩ := Nat.exists_eq_add_of_le' (show 1 ≤ fuel by omega)
      exact read_conjuncts_of_follows (ih (by rw [Level.rank]; omega) trivial) hrest
  | @and ts us alts more _ _ ih ih' =>
      rw [List.length_append, List.length_cons, Level.rank] at hfuel
      obtain ⟨fuel, rfl⟩ := Nat.exists_eq_add_of_le' (show 1 ≤ fuel by omega)
      rw [List.append_assoc, List.cons_append, read, ih (by rw [Level.rank]; omega) trivial,
        Option.bind_some]
      simp only
      rw [ih' (by rw [Level.rank]; omega) hrest]
      rfl
  | alternative _ ih =>
      rw [Level.rank] at hfuel
      obtain ⟨fuel, rfl⟩ := Nat.exists_eq_add_of_le' (show 1 ≤ fuel by omega)
      exact read_alternatives_of_follows (ih (by rw [Level.rank]; omega) hrest.1) hrest
  | @or ts us alts more _ _ ih ih' =>
      rw [List.length_append, List.length_cons, Level.rank] at hfuel
      obtain ⟨fuel, rfl⟩ := Nat.exists_eq_add_of_le' (show 1 ≤ fuel by omega)
      have hor : Follows .conjuncts (.or :: (us ++ rest)) := fun h => by cases h
      rw [List.append_assoc, List.cons_append, read, ih (by rw [Level.rank]; omega) hor,
        Option.bind_some]
      simp only
      rw [ih' (by rw [Level.rank]; omega) hrest]
      rfl

/-- **What is read is an expression of the grammar.**
Source: none: infrastructure
Kind: P -/
theorem reads_of_read {fuel : Nat} {level : Level} {s rest : List (Token ι)}
    {alts : List (List (Expr ι))} (h : read fuel level s = some (alts, rest)) :
    ∃ ts, s = ts ++ rest ∧ Reads level ts alts := by
  induction fuel generalizing level s rest alts with
  | zero => cases h
  | succ fuel ih =>
      cases level with
      | factor =>
          rcases s with _ | ⟨_ | _ | _ | _ | _ | name, s⟩
          · cases h
          · rw [read] at h
            obtain ⟨⟨inner, after⟩, hinner, hclose⟩ := Option.bind_eq_some_iff.mp h
            obtain ⟨ts, rfl, hreads⟩ := ih hinner
            rcases after with _ | ⟨_ | _ | _ | _ | _ | _, after⟩
            case cons.rparen =>
              obtain ⟨rfl, rfl⟩ := Prod.mk.inj (Option.some.inj hclose)
              refine ⟨.lparen :: (ts ++ [.rparen]), ?_, .paren hreads⟩
              rw [List.cons_append, List.append_assoc, List.singleton_append]
            all_goals cases hclose
          · cases h
          · rw [read] at h
            obtain ⟨⟨inner, after⟩, hinner, hpair⟩ := Option.map_eq_some_iff.mp h
            obtain ⟨rfl, rfl⟩ := Prod.mk.inj hpair
            obtain ⟨ts, rfl, hreads⟩ := ih hinner
            exact ⟨.not :: ts, rfl, .not hreads⟩
          · cases h
          · cases h
          · obtain ⟨rfl, rfl⟩ := Prod.mk.inj (Option.some.inj h)
            exact ⟨[.ident name], rfl, .ident name⟩
      | conjuncts =>
          rw [read] at h
          obtain ⟨⟨first, after⟩, hfirst, hmore⟩ := Option.bind_eq_some_iff.mp h
          obtain ⟨ts, rfl, hreads⟩ := ih hfirst
          rcases after with _ | ⟨_ | _ | _ | _ | _ | _, after⟩
          case cons.and =>
            obtain ⟨⟨more, after'⟩, hrest, hpair⟩ := Option.map_eq_some_iff.mp hmore
            obtain ⟨rfl, rfl⟩ := Prod.mk.inj hpair
            obtain ⟨us, rfl, hreads'⟩ := ih hrest
            refine ⟨ts ++ .and :: us, ?_, .and hreads hreads'⟩
            rw [List.append_assoc, List.cons_append]
          all_goals
            obtain ⟨rfl, rfl⟩ := Prod.mk.inj (Option.some.inj hmore)
            exact ⟨ts, rfl, .conjunct hreads⟩
      | alternatives =>
          rw [read] at h
          obtain ⟨⟨first, after⟩, hfirst, hmore⟩ := Option.bind_eq_some_iff.mp h
          obtain ⟨ts, rfl, hreads⟩ := ih hfirst
          rcases after with _ | ⟨_ | _ | _ | _ | _ | _, after⟩
          case cons.or =>
            obtain ⟨⟨more, after'⟩, hrest, hpair⟩ := Option.map_eq_some_iff.mp hmore
            obtain ⟨rfl, rfl⟩ := Prod.mk.inj hpair
            obtain ⟨us, rfl, hreads'⟩ := ih hrest
            refine ⟨ts ++ .or :: us, ?_, .or hreads hreads'⟩
            rw [List.append_assoc, List.cons_append]
          all_goals
            obtain ⟨rfl, rfl⟩ := Prod.mk.inj (Option.some.inj hmore)
            exact ⟨ts, rfl, .alternative hreads⟩

/-- **The parser decides the grammar.**
Source: none: infrastructure
Kind: P -/
theorem parse_eq_some_iff {ts : List (Token ι)} {alts : List (List (Expr ι))} :
    parse ts = some alts ↔ Reads .alternatives ts alts := by
  unfold parse
  constructor
  · intro h
    obtain ⟨⟨alts', rest⟩, hread, hwhole⟩ := Option.bind_eq_some_iff.mp h
    obtain ⟨us, rfl, hreads⟩ := reads_of_read hread
    rcases rest with _ | ⟨t, rest⟩
    · obtain rfl := Option.some.inj hwhole
      rwa [List.append_nil]
    · cases hwhole
  · intro h
    have hnil : Follows .alternatives ([] : List (Token ι)) := by
      constructor
      · exact fun h => by cases h
      · exact fun h => by cases h
    have hread := read_of_reads h (Nat.le_refl (3 * ts.length + 2)) hnil
    rw [List.append_nil] at hread
    rw [hread]
    rfl

/-! ## Joined texts -/

lemma reads_conjuncts_and {ts us : List (Token ι)} {alts more : List (List (Expr ι))}
    (h : Reads .conjuncts ts alts) (h' : Reads .conjuncts us more) :
    Reads .conjuncts (ts ++ .and :: us) (chain alts more) := by
  generalize hlevel : Level.conjuncts = level at h
  induction h with
  | conjunct h => exact .and h h'
  | and h hmore _ ih =>
      rw [List.append_assoc, List.cons_append, chain_assoc _ hmore.ne_nil]
      exact .and h (ih hlevel)
  | ident _ => cases hlevel
  | not _ _ => cases hlevel
  | paren _ _ => cases hlevel
  | alternative _ _ => cases hlevel
  | or _ _ _ _ => cases hlevel

lemma reads_conjuncts_and_alternatives {ts us : List (Token ι)} {alts more : List (List (Expr ι))}
    (h : Reads .conjuncts ts alts) (h' : Reads .alternatives us more) :
    Reads .alternatives (ts ++ .and :: us) (chain alts more) := by
  cases h' with
  | alternative h' => exact .alternative (reads_conjuncts_and h h')
  | or h' hmore =>
      rw [← List.cons_append, ← List.append_assoc, chain_append_right h.ne_nil h'.ne_nil]
      exact .or (reads_conjuncts_and h h') hmore

/-- **Two texts joined by `and` are read as their alternatives in a row.**
Source: none: infrastructure
Kind: P -/
lemma reads_and {ts us : List (Token ι)} {alts more : List (List (Expr ι))}
    (h : Reads .alternatives ts alts) (h' : Reads .alternatives us more) :
    Reads .alternatives (ts ++ .and :: us) (chain alts more) := by
  generalize hlevel : Level.alternatives = level at h
  induction h with
  | alternative h => exact reads_conjuncts_and_alternatives h h'
  | or h hmore _ ih =>
      rw [List.append_assoc, List.cons_append, chain_append_left _ hmore.ne_nil]
      exact .or h (ih hlevel)
  | ident _ => cases hlevel
  | not _ _ => cases hlevel
  | paren _ _ => cases hlevel
  | conjunct _ _ => cases hlevel
  | and _ _ _ _ => cases hlevel

/-- So are any number of texts.
Source: none: infrastructure
Kind: P -/
theorem reads_join (texts : List (List (Token ι) × List (List (Expr ι)))) (hne : texts ≠ [])
    (h : ∀ t ∈ texts, Reads .alternatives t.1 t.2) :
    Reads .alternatives ([.and].intercalate (texts.map Prod.fst)) (runs (texts.map Prod.snd)) := by
  induction texts with
  | nil => exact absurd rfl hne
  | cons t texts ih =>
      rw [List.forall_mem_cons] at h
      rcases texts with _ | ⟨t', texts⟩
      · simpa [runs] using h.1
      · have hrest := reads_and h.1 (ih (List.cons_ne_nil t' texts) h.2)
        rw [List.append_cons] at hrest
        rw [List.map_cons, List.map_cons, List.map_cons, List.map_cons, List.intercalate_cons_cons, runs]
        exact hrest

/-! ## What a row of alternatives says -/

section Eval

variable (holds : α → Bool)

/-- One of the alternatives holds.
Source: none: infrastructure
Kind: D -/
def evalAlternatives (alts : List (List α)) : Bool := alts.any fun es => es.all holds

/-- What two texts say, their row says.
Source: none: infrastructure
Kind: L -/
lemma eval_chain {as bs : List (List α)} (has : evalAlternatives holds as = true)
    (hbs : evalAlternatives holds bs = true) : evalAlternatives holds (chain as bs) = true := by
  unfold evalAlternatives at *
  induction as with
  | nil => exact hbs
  | cons a as ih =>
      rw [List.any_cons, Bool.or_eq_true] at has
      rcases as with _ | ⟨a', as⟩
      · rcases has with ha | hnone
        · rcases bs with _ | ⟨b, bs⟩
          · cases hbs
          · rw [List.any_cons, Bool.or_eq_true] at hbs
            rw [chain, List.any_cons, Bool.or_eq_true, List.all_append, ha, Bool.true_and]
            exact hbs
        · cases hnone
      · rw [chain, List.any_cons, Bool.or_eq_true]
        rcases has with ha | hmore
        · exact Or.inl ha
        · exact Or.inr (ih hmore)

/-- **What all texts say, their row says.**
Source: none: infrastructure
Kind: P -/
theorem eval_runs {texts : List (List (List α))} (hne : texts ≠ [])
    (h : ∀ alts ∈ texts, evalAlternatives holds alts = true) :
    evalAlternatives holds (runs texts) = true := by
  induction texts with
  | nil => exact absurd rfl hne
  | cons alts texts ih =>
      rw [List.forall_mem_cons] at h
      rcases texts with _ | ⟨alts', texts⟩
      · exact h.1
      · exact eval_chain holds h.1 (ih (List.cons_ne_nil alts' texts) h.2)

/-- **The row of some texts says what they all say exactly if each of its runs that holds makes all of
them hold.**
Source: none: infrastructure
Kind: P -/
theorem eval_runs_iff {texts : List (List (List α))} (hne : texts ≠ []) :
    evalAlternatives holds (runs texts) = texts.all (evalAlternatives holds) ↔
      ∀ run ∈ runs texts, run.all holds = true → ∀ alts ∈ texts, evalAlternatives holds alts = true := by
  constructor
  · intro h run hrun hholds
    have hrow : evalAlternatives holds (runs texts) = true := List.any_eq_true.mpr ⟨run, hrun, hholds⟩
    rw [h, List.all_eq_true] at hrow
    exact hrow
  · intro h
    rw [Bool.eq_iff_iff, List.all_eq_true]
    constructor
    · intro hrow
      obtain ⟨run, hrun, hholds⟩ := List.any_eq_true.mp hrow
      exact h run hrun hholds
    · exact eval_runs holds hne

/-- Texts without a top-level `or` say together what their row says.
Source: none: infrastructure
Kind: L -/
lemma runs_of_singletons {texts : List (List α)} (hne : texts ≠ []) :
    runs (texts.map fun es => [es]) = [texts.flatten] := by
  induction texts with
  | nil => exact absurd rfl hne
  | cons es texts ih =>
      rcases texts with _ | ⟨es', texts⟩
      · simp [runs]
      · have hrest := ih (List.cons_ne_nil es' texts)
        rw [List.map_cons] at hrest
        rw [List.map_cons, List.map_cons, runs, hrest]
        rfl

end Eval

end NetstackSuite.Lib.BoolExpr
