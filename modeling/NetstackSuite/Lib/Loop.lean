import Mathlib.Tactic.Common

/-!
# Loops that a step can leave by raising

`run step as s` is `for a in as: step(a)` over a state `s`, where a step may raise; what the step did
to the state before it raised is kept, as in any language with mutable state. The rules are the
ones a program proof needs:

* `run_append` — a loop over a concatenation is two loops in sequence (`andThen`);
* `run_invariant` — what a step preserves, the loop preserves;
* `run_simulates` — two loops whose steps stay related and raise alike stay related and raise alike;
* `run_sideBySide` — two loops on separate states can take turns in any way;
* `run_of_absorbed` — a loop over items the state already accounts for does nothing;
* `run_taken_invariant` — what a step preserves of a state and the items gone through, the loop preserves.
-/

namespace NetstackSuite.Lib

variable {α σ τ ε : Type}

/-- The state a piece of code leaves, and what it raised, if anything.
Source: none: infrastructure
Kind: D -/
abbrev Outcome (σ ε : Type) := σ × Option ε

/-- Sequencing: the second part runs only if the first did not raise.
Source: none: infrastructure
Kind: D -/
def andThen (r : Outcome σ ε) (k : σ → Outcome σ ε) : Outcome σ ε :=
  match r with
  | (s, none) => k s
  | (s, some e) => (s, some e)

@[simp] lemma andThen_none (s : σ) (k : σ → Outcome σ ε) : andThen (s, none) k = k s := rfl

@[simp] lemma andThen_some (s : σ) (e : ε) (k : σ → Outcome σ ε) :
    andThen (s, some e) k = (s, some e) := rfl

/-- Sequencing is associative.
Source: none: infrastructure
Kind: L -/
lemma andThen_assoc (r : Outcome σ ε) (k l : σ → Outcome σ ε) :
    andThen (andThen r k) l = andThen r fun s => andThen (k s) l := by
  obtain ⟨s, _ | e⟩ := r <;> rfl

/-- **Invariant rule** of a sequence: what both parts keep, the sequence keeps.
Source: none: infrastructure
Kind: L -/
lemma andThen_invariant (P : σ → Prop) {r : Outcome σ ε} {k : σ → Outcome σ ε} (hr : P r.1)
    (hk : ∀ s, P s → P (k s).1) : P (andThen r k).1 := by
  obtain ⟨s, _ | e⟩ := r
  · exact hk s hr
  · exact hr

/-- A sequence goes through exactly if both parts do.
Source: none: infrastructure
Kind: L -/
lemma andThen_snd_eq_none {r : Outcome σ ε} {k : σ → Outcome σ ε} :
    (andThen r k).2 = none ↔ r.2 = none ∧ (k r.1).2 = none := by
  obtain ⟨s, _ | e⟩ := r
  · exact (and_iff_right rfl).symm
  · simp

/-- A sequence raises what its first part raises or what its second part does behind it.
Source: none: infrastructure
Kind: L -/
lemma andThen_snd_eq_some {r : Outcome σ ε} {k : σ → Outcome σ ε} {e : ε} :
    (andThen r k).2 = some e ↔ r.2 = some e ∨ r.2 = none ∧ (k r.1).2 = some e := by
  obtain ⟨s, _ | e'⟩ := r <;> simp

/-- The loop: steps in order, until one raises.
Source: none: infrastructure
Kind: D -/
def run (step : σ → α → Outcome σ ε) : List α → σ → Outcome σ ε
  | [], s => (s, none)
  | a :: as, s => andThen (step s a) (run step as)

@[simp] lemma run_nil (step : σ → α → Outcome σ ε) (s : σ) : run step [] s = (s, none) := rfl

lemma run_cons (step : σ → α → Outcome σ ε) (a : α) (as : List α) (s : σ) :
    run step (a :: as) s = andThen (step s a) (run step as) := rfl

/-- **A loop over a concatenation is two loops in sequence.**
Source: none: infrastructure
Kind: P -/
theorem run_append (step : σ → α → Outcome σ ε) (as bs : List α) (s : σ) :
    run step (as ++ bs) s = andThen (run step as s) (run step bs) := by
  induction as generalizing s with
  | nil => rfl
  | cons a as ih =>
      rw [List.cons_append, run_cons, run_cons, andThen_assoc]
      congr 1
      funext s'
      exact ih s'

/-- **Invariant rule**: what every step preserves, the loop preserves.
Source: none: infrastructure
Kind: P -/
theorem run_invariant (P : σ → Prop) {step : σ → α → Outcome σ ε} (as : List α) {s : σ}
    (hs : P s) (hstep : ∀ s a, a ∈ as → P s → P (step s a).1) : P (run step as s).1 := by
  induction as generalizing s with
  | nil => exact hs
  | cons a as ih =>
      have ha := hstep s a List.mem_cons_self hs
      have ih' := fun t (ht : P t) => ih ht fun s b hb => hstep s b (List.mem_cons_of_mem _ hb)
      rw [run_cons]
      rcases hr : step s a with ⟨t, _ | e⟩
      · rw [hr] at ha
        exact ih' t ha
      · rw [hr] at ha
        exact ha

/-- **Simulation rule**: if related states step to related states and raise alike, the loops end in
related states and raise alike.
Source: none: infrastructure
Kind: P -/
theorem run_simulates (Rel : σ → τ → Prop) (step : σ → α → Outcome σ ε)
    (step' : τ → α → Outcome τ ε) (as : List α) {s : σ} {t : τ} (hst : Rel s t)
    (hstep : ∀ s t a, a ∈ as → Rel s t →
      Rel (step s a).1 (step' t a).1 ∧ (step s a).2 = (step' t a).2) :
    Rel (run step as s).1 (run step' as t).1 ∧ (run step as s).2 = (run step' as t).2 := by
  induction as generalizing s t with
  | nil => exact ⟨hst, rfl⟩
  | cons a as ih =>
      have ha := hstep s t a List.mem_cons_self hst
      have ih' := fun s' t' (h : Rel s' t') => ih h fun s t b hb =>
        hstep s t b (List.mem_cons_of_mem _ hb)
      rw [run_cons, run_cons]
      rcases hs : step s a with ⟨s', r⟩
      rcases ht : step' t a with ⟨t', r'⟩
      rw [hs, ht] at ha
      obtain ⟨hrel, hr : r = r'⟩ := ha
      subst hr
      cases r with
      | none => exact ih' s' t' hrel
      | some e => exact ⟨hrel, rfl⟩

/-- Two loops that take turns, each on its own state.
Source: none: infrastructure
Kind: D -/
def sideBySide {β : Type} (f : σ → α → Outcome σ ε) (g : τ → β → Outcome τ ε) (s : σ × τ) :
    α ⊕ β → Outcome (σ × τ) ε
  | .inl a => (((f s.1 a).1, s.2), (f s.1 a).2)
  | .inr b => ((s.1, (g s.2 b).1), (g s.2 b).2)

/-- **Loops on separate states do not disturb each other**: however they take turns, if neither
raises on its own, each ends where it would alone.
Source: none: infrastructure
Kind: P -/
theorem run_sideBySide {β : Type} {f : σ → α → Outcome σ ε} {g : τ → β → Outcome τ ε}
    (turns : List (α ⊕ β)) {s s' : σ} {t t' : τ}
    (hf : run f (turns.filterMap Sum.getLeft?) s = (s', none))
    (hg : run g (turns.filterMap Sum.getRight?) t = (t', none)) :
    run (sideBySide f g) turns (s, t) = ((s', t'), none) := by
  induction turns generalizing s t with
  | nil =>
      cases hf
      cases hg
      rfl
  | cons turn turns ih =>
      cases turn with
      | inl a =>
          simp only [List.filterMap_cons, Sum.getLeft?_inl, Sum.getRight?_inl, run_cons] at hf hg
          rcases hfa : f s a with ⟨u, _ | e⟩
          · rw [hfa, andThen_none] at hf
            rw [run_cons, sideBySide, hfa, andThen_none]
            exact ih hf hg
          · rw [hfa, andThen_some] at hf
            cases hf
      | inr b =>
          simp only [List.filterMap_cons, Sum.getLeft?_inr, Sum.getRight?_inr, run_cons] at hf hg
          rcases hgb : g t b with ⟨u, _ | e⟩
          · rw [hgb, andThen_none] at hg
            rw [run_cons, sideBySide, hgb, andThen_none]
            exact ih hf hg
          · rw [hgb, andThen_some] at hg
            cases hg

/-- A loop over items each of which the state absorbs does nothing.
Source: none: infrastructure
Kind: L -/
lemma run_of_absorbed {step : σ → α → Outcome σ ε} {as : List α} {s : σ}
    (h : ∀ a ∈ as, step s a = (s, none)) : run step as s = (s, none) := by
  induction as with
  | nil => rfl
  | cons a as ih =>
      rw [run_cons, h a List.mem_cons_self, andThen_none]
      exact ih fun b hb => h b (List.mem_cons_of_mem _ hb)

/-! ## The items a loop takes -/

/-- The items a loop takes: all of them, or those up to the one whose step raises, with that one.
Source: none: infrastructure
Kind: D -/
def taken (step : σ → α → Outcome σ ε) : List α → σ → List α
  | [], _ => []
  | a :: as, s =>
      match step s a with
      | (s, none) => a :: taken step as s
      | (_, some _) => [a]

/-- Source: none: infrastructure. Kind: L -/
lemma taken_isPrefix (step : σ → α → Outcome σ ε) (as : List α) (s : σ) : taken step as s <+: as := by
  induction as generalizing s with
  | nil => exact List.prefix_rfl
  | cons a as ih =>
      rw [taken]
      rcases step s a with ⟨t, _ | e⟩
      · exact List.cons_prefix_cons.mpr ⟨rfl, ih t⟩
      · exact List.cons_prefix_cons.mpr ⟨rfl, List.nil_prefix⟩

/-- **Invariant rule with history**: what every step preserves of the state and the items gone through,
the loop preserves, also if it raises.
Source: none: infrastructure
Kind: P -/
theorem run_taken_invariant (P : List α → σ → Prop) {step : σ → α → Outcome σ ε} (as : List α)
    {gone : List α} {s : σ} (hs : P gone s)
    (hstep : ∀ gone s a, P gone s → P (gone ++ [a]) (step s a).1) :
    P (gone ++ taken step as s) (run step as s).1 := by
  induction as generalizing gone s with
  | nil =>
      rw [taken, List.append_nil]
      exact hs
  | cons a as ih =>
      have ha := hstep gone s a hs
      rw [taken, run_cons]
      rcases hr : step s a with ⟨t, _ | e⟩
      · rw [hr] at ha
        have htail := ih ha
        rwa [List.append_assoc, List.singleton_append] at htail
      · rw [hr] at ha
        exact ha

/-- Loops whose steps stay related and raise alike take the same items.
Source: none: infrastructure
Kind: L -/
lemma taken_simulates (Rel : σ → τ → Prop) (step : σ → α → Outcome σ ε)
    (step' : τ → α → Outcome τ ε) (as : List α) {s : σ} {t : τ} (hst : Rel s t)
    (hstep : ∀ s t a, Rel s t → Rel (step s a).1 (step' t a).1 ∧ (step s a).2 = (step' t a).2) :
    taken step as s = taken step' as t := by
  induction as generalizing s t with
  | nil => rfl
  | cons a as ih =>
      obtain ⟨hrel, hraised⟩ := hstep s t a hst
      rw [taken, taken]
      rcases hs : step s a with ⟨s', r⟩
      rcases ht : step' t a with ⟨t', r'⟩
      rw [hs, ht] at hrel hraised
      obtain rfl : r = r' := hraised
      cases r with
      | none => exact congrArg (a :: ·) (ih hrel)
      | some e => rfl

end NetstackSuite.Lib
