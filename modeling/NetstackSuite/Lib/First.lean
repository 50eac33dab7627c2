import Mathlib.Tactic.Common

/-!
# Searches that stop at the first hit

`List.find?` and `List.anyM` look at a list in order and stop as soon as an element decides. The
rules here say what the answer means without mentioning the search:

* `find?_satisfies_iff` — the first hit has a further property exactly if every hit without it comes
  after one with it;
* `anyM_eq_iff` — a search with a test that may raise ends with the first answer that is not "no",
  and everything before that answer was a plain "no".
-/

namespace NetstackSuite.Lib

variable {α ε : Type}

/-- **The first hit satisfies `q` exactly if no hit violating `q` comes before one satisfying it.**
Source: none: infrastructure
Kind: P -/
theorem find?_satisfies_iff (p : α → Bool) (q : α → Prop) (xs : List α) :
    (∀ x, xs.find? p = some x → q x) ↔
      ∀ before x after, xs = before ++ x :: after → p x = true → ¬ q x →
        ∃ y ∈ before, p y = true ∧ q y := by
  constructor
  · intro first before x after hxs hpx hqx
    rcases hfound : before.find? p with _ | y
    · have hx : xs.find? p = some x := by
        rw [hxs, List.find?_append, hfound, List.find?_cons_of_pos hpx, Option.none_or]
      exact absurd (first x hx) hqx
    · have hy : xs.find? p = some y := by
        rw [hxs, List.find?_append, hfound, Option.some_or]
      exact ⟨y, List.mem_of_find?_eq_some hfound, List.find?_some hfound, first y hy⟩
  · intro stray x hfound
    obtain ⟨hpx, before, after, hxs, hbefore⟩ := List.find?_eq_some_iff_append.mp hfound
    by_contra hqx
    obtain ⟨y, hy, hpy, -⟩ := stray before x after hxs hpx hqx
    have hnot := hbefore y hy
    rw [hpy] at hnot
    exact absurd hnot (by simp)

/-- One step of a search whose test may raise.
Source: none: infrastructure
Kind: L -/
lemma anyM_cons (p : α → Except ε Bool) (x : α) (xs : List α) :
    (x :: xs).anyM p = match p x with
      | .ok false => xs.anyM p
      | answer => answer := by
  rcases hx : p x with e | (_ | _) <;> simp [List.anyM, hx, bind, Except.bind, pure, Except.pure]

/-- **A search with a test that may raise.** It ends with an answer other than a plain "no" exactly
if some element gives that answer and everything before it says "no".
Source: none: infrastructure
Kind: P -/
theorem anyM_eq_iff (p : α → Except ε Bool) (xs : List α) {answer : Except ε Bool}
    (hanswer : answer ≠ .ok false) :
    xs.anyM p = answer ↔
      ∃ before x after, xs = before ++ x :: after ∧ (∀ y ∈ before, p y = .ok false) ∧
        p x = answer := by
  induction xs with
  | nil =>
      constructor
      · intro h
        exact absurd h.symm hanswer
      · rintro ⟨before, x, after, hnil, -⟩
        simp at hnil
  | cons x xs ih =>
      rw [anyM_cons]
      by_cases hx : p x = .ok false
      · simp only [hx]
        rw [ih]
        constructor
        · rintro ⟨before, y, after, rfl, hbefore, hy⟩
          refine ⟨x :: before, y, after, rfl, ?_, hy⟩
          exact List.forall_mem_cons.mpr ⟨hx, hbefore⟩
        · rintro ⟨before, y, after, hxs, hbefore, hy⟩
          rcases before with _ | ⟨z, before⟩
          · obtain ⟨rfl, rfl⟩ := List.cons.inj hxs
            exact absurd (hy.symm.trans hx) hanswer
          · obtain ⟨rfl, rfl⟩ := List.cons.inj hxs
            exact ⟨before, y, after, rfl, fun w hw => hbefore w (List.mem_cons_of_mem _ hw), hy⟩
      · have hstop : (match p x with | .ok false => xs.anyM p | answer => answer) = p x := by
          split
          · contradiction
          · rfl
        rw [hstop]
        constructor
        · intro h
          exact ⟨[], x, xs, rfl, by simp, h⟩
        · rintro ⟨before, y, after, hxs, hbefore, hy⟩
          rcases before with _ | ⟨z, before⟩
          · obtain ⟨rfl, rfl⟩ := List.cons.inj hxs
            exact hy
          · obtain ⟨rfl, rfl⟩ := List.cons.inj hxs
            exact absurd (hbefore x (by simp)) hx

end NetstackSuite.Lib
