import Mathlib.Tactic.Common

/-!
# Runs of a guarded step function

`step s a` is the state after action `a`, or `none` where `a` is not enabled. `Reaches` collects the
states of all runs whose every step meets a condition on the state before it and the action;
`Reaches.invariant` is the rule by which safety is proved, and `execute` replays a concrete run.
`Inevitable` is what every maximal run comes to; `Inevitable.of_measure` is the rule by which it is proved.
`history_split` is for conditions on the history of a run that say of each entry what came before it.
-/

namespace NetstackSuite.Lib

variable {σ α : Type} {step : σ → α → Option σ}

/-- The states of the runs from `s₀` whose steps are all allowed.
Source: none: infrastructure
Kind: D -/
inductive Reaches (step : σ → α → Option σ) (allowed : σ → α → Prop) (s₀ : σ) : σ → Prop where
  | start : Reaches step allowed s₀ s₀
  | step {s t : σ} {a : α} (reached : Reaches step allowed s₀ s) (ok : allowed s a)
      (next : step s a = some t) : Reaches step allowed s₀ t

/-- **Invariant rule**: what holds at the start and is kept by every allowed step holds in every state
reached.
Source: none: infrastructure
Kind: P -/
theorem Reaches.invariant {allowed : σ → α → Prop} {s₀ s : σ} (P : σ → Prop)
    (h : Reaches step allowed s₀ s) (hstart : P s₀)
    (hstep : ∀ s a t, P s → allowed s a → step s a = some t → P t) : P s := by
  induction h with
  | start => exact hstart
  | step _ ok next ih => exact hstep _ _ _ ih ok next

/-- A concrete run, if each of its actions passes the check and is enabled.
Source: none: infrastructure
Kind: D -/
def execute (step : σ → α → Option σ) (check : σ → α → Bool) : σ → List α → Option σ
  | s, [] => some s
  | s, a :: as =>
      if check s a then
        match step s a with
        | some t => execute step check t as
        | none => none
      else none

/-- A concrete run whose actions pass a check that implies the condition reaches its end.
Source: none: infrastructure
Kind: L -/
lemma reaches_of_execute {allowed : σ → α → Prop} {check : σ → α → Bool} {s₀ s t : σ} {as : List α}
    (hcheck : ∀ s a, check s a = true → allowed s a) (hs : Reaches step allowed s₀ s)
    (h : execute step check s as = some t) : Reaches step allowed s₀ t := by
  induction as generalizing s with
  | nil =>
      cases h
      exact hs
  | cons a as ih =>
      rw [execute] at h
      split at h
      · next hok =>
        rcases hstep : step s a with _ | u <;> rw [hstep] at h
        · cases h
        · exact ih (.step hs (hcheck s a hok) hstep) h
      · cases h

/-! ## What every maximal run comes to -/

/-- Every run from the state that goes on for as long as it can comes to a state with the property.
Source: none: infrastructure
Kind: D -/
inductive Inevitable (step : σ → α → Option σ) (P : σ → Prop) : σ → Prop where
  | now {s : σ} (holds : P s) : Inevitable step P s
  | later {s : σ} (enabled : ∃ a t, step s a = some t)
      (next : ∀ a t, step s a = some t → Inevitable step P t) : Inevitable step P s

variable {P : σ → Prop}

/-- **Progress rule**: if every step decreases a measure, and a step is enabled wherever the property does
not hold yet, then every maximal run comes to it.
Source: none: infrastructure
Kind: P -/
theorem Inevitable.of_measure {Inv : σ → Prop} (measure : σ → Nat)
    (hkeep : ∀ s a t, Inv s → step s a = some t → Inv t ∧ measure t < measure s)
    (hprogress : ∀ s, Inv s → ¬ P s → ∃ a t, step s a = some t) {s : σ} (hs : Inv s) :
    Inevitable step P s := by
  induction hn : measure s using Nat.strongRecOn generalizing s with
  | ind n ih =>
      by_cases hp : P s
      · exact .now hp
      · apply Inevitable.later (hprogress s hs hp)
        intro a t hstep
        obtain ⟨ht, hless⟩ := hkeep s a t hs hstep
        exact ih (measure t) (hn ▸ hless) ht rfl

/-- What is inevitable at the start, and stays once it holds, is inevitable in every state reached.
Source: none: infrastructure
Kind: L -/
lemma Inevitable.of_reaches {allowed : σ → α → Prop} {s₀ s : σ} (h : Inevitable step P s₀)
    (hstable : ∀ s a t, P s → step s a = some t → P t) (hreached : Reaches step allowed s₀ s) :
    Inevitable step P s := by
  induction hreached with
  | start => exact h
  | step _ _ hnext ih =>
      cases ih with
      | now holds => exact .now (hstable _ _ _ holds hnext)
      | later _ next => exact next _ _ hnext

/-- Where nothing is enabled, what is inevitable holds.
Source: none: infrastructure
Kind: L -/
lemma Inevitable.of_stuck {s : σ} (h : Inevitable step P s) (hstuck : ∀ a, step s a = none) : P s := by
  cases h with
  | now holds => exact holds
  | later enabled _ =>
      obtain ⟨a, t, hstep⟩ := enabled
      rw [hstuck a] at hstep
      cases hstep

/-! ## Histories -/

/-- An entry of a history that has grown by one is the new one, or was there before.
Source: none: infrastructure
Kind: L -/
lemma history_split {β : Type} {history before behind : List β} {last entry : β}
    (h : history ++ [last] = before ++ entry :: behind) :
    (history = before ∧ last = entry) ∨ ∃ behind', history = before ++ entry :: behind' := by
  rcases behind.eq_nil_or_concat with rfl | ⟨behind', last', rfl⟩
  · obtain ⟨hbefore, hlast⟩ := List.append_inj' h rfl
    exact Or.inl ⟨hbefore, (List.cons.inj hlast).1⟩
  · rw [List.concat_eq_append, ← List.cons_append, ← List.append_assoc] at h
    exact Or.inr ⟨behind', (List.append_inj' h rfl).1⟩

/-- A condition on what came before each occurrence of an entry, of a history that has grown by one.
Source: none: infrastructure
Kind: L -/
lemma forall_history_concat {β : Type} {P : List β → Prop} {history : List β} {last entry : β} :
    (∀ before behind, history ++ [last] = before ++ entry :: behind → P before) ↔
      (∀ before behind, history = before ++ entry :: behind → P before) ∧ (last = entry → P history) := by
  constructor
  · intro h
    constructor
    · intro before behind hsplit
      apply h before (behind ++ [last])
      rw [hsplit, List.append_assoc, List.cons_append]
    · rintro rfl
      exact h history [] rfl
  · rintro ⟨hbefore, hlast⟩ before behind hsplit
    rcases history_split hsplit with ⟨rfl, rfl⟩ | ⟨behind', rfl⟩
    · exact hlast rfl
    · exact hbefore before behind' rfl

end NetstackSuite.Lib
