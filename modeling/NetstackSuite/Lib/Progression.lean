import Mathlib.Tactic.Common

/-!
# Arithmetic progressions in a modular space

`term M a d i` is the `i`-th term of the progression from `a` by `d`, modulo `M`. The plain difference of two
terms in a row is `d`, or `d - M` where the progression passes `M`.

`difference_constant_iff`: the differences of the first terms are all the same exactly if the progression
passes `M` at none of the steps between them, or at each.
-/

namespace NetstackSuite.Lib

variable {M a d : Nat}

/-- Source: none: infrastructure. Kind: D -/
def term (M a d i : Nat) : Nat := (a + i * d) % M

/-- The plain difference of two terms in a row.
Source: none: infrastructure
Kind: D -/
def difference (M a d i : Nat) : Int := term M a d (i + 1) - term M a d i

lemma term_zero (ha : a < M) : term M a d 0 = a := by
  rw [term, Nat.zero_mul, Nat.add_zero, Nat.mod_eq_of_lt ha]

/-- One step of the progression.
Source: none: infrastructure
Kind: L -/
lemma term_succ (hd : d < M) (i : Nat) :
    term M a d i + d < M ∧ term M a d (i + 1) = term M a d i + d ∨
      M ≤ term M a d i + d ∧ term M a d (i + 1) + M = term M a d i + d := by
  have hlt : term M a d i < M := Nat.mod_lt _ (by omega)
  have hnext : term M a d (i + 1) = (term M a d i + d) % M := by
    rw [term, term, Nat.mod_add_mod, Nat.succ_mul, Nat.add_assoc]
  rcases Nat.lt_or_ge (term M a d i + d) M with hup | hpast
  · rw [hnext, Nat.mod_eq_of_lt hup]
    exact Or.inl ⟨hup, rfl⟩
  · rw [hnext, Nat.mod_eq_sub_mod hpast, Nat.mod_eq_of_lt (by omega)]
    exact Or.inr ⟨hpast, by omega⟩

/-- Source: none: infrastructure. Kind: L -/
lemma difference_cases (hd : d < M) (i : Nat) :
    difference M a d i = d ∨ difference M a d i = (d : Int) - M := by
  unfold difference
  rcases term_succ (a := a) hd i with ⟨-, hnext⟩ | ⟨-, hnext⟩
  · left
    omega
  · right
    omega

/-- **The progression passes `M` at none of the first steps.**
Source: none: infrastructure
Kind: P -/
theorem difference_eq_iff (ha : a < M) (hd : d < M) (k : Nat) :
    (∀ i < k, difference M a d i = d) ↔ a + k * d < M := by
  have hterm : ∀ k, (∀ i < k, difference M a d i = d) → term M a d k = a + k * d := by
    intro k h
    induction k with
    | zero => rw [term_zero ha, Nat.zero_mul, Nat.add_zero]
    | succ k ih =>
        have hk := h k (Nat.lt_succ_self k)
        have hbefore := ih fun i hi => h i (Nat.lt_succ_of_lt hi)
        unfold difference at hk
        rw [Nat.succ_mul]
        omega
  constructor
  · intro h
    rw [← hterm k h]
    exact Nat.mod_lt _ (by omega)
  · intro h i hi
    have hnext : a + (i + 1) * d < M := Nat.lt_of_le_of_lt (Nat.add_le_add_left (Nat.mul_le_mul_right d hi) a) h
    have hhere : a + i * d < M := Nat.lt_of_le_of_lt (by rw [Nat.succ_mul]; omega) hnext
    unfold difference term
    rw [Nat.mod_eq_of_lt hnext, Nat.mod_eq_of_lt hhere, Nat.succ_mul]
    omega

/-- **It passes `M` at each of them.**
Source: none: infrastructure
Kind: P -/
theorem difference_eq_sub_iff (ha : a < M) (hd : d < M) (k : Nat) :
    (∀ i < k, difference M a d i = (d : Int) - M) ↔ k * (M - d) ≤ a := by
  have hterm : ∀ k, (∀ i < k, difference M a d i = (d : Int) - M) → term M a d k + k * (M - d) = a := by
    intro k h
    induction k with
    | zero => rw [term_zero ha, Nat.zero_mul, Nat.add_zero]
    | succ k ih =>
        have hk := h k (Nat.lt_succ_self k)
        have hbefore := ih fun i hi => h i (Nat.lt_succ_of_lt hi)
        unfold difference at hk
        rw [Nat.succ_mul]
        omega
  constructor
  · intro h
    have := hterm k h
    omega
  · intro h i hi
    -- `i` steps down lead to a number from which there is room for one more
    have hroom : (i + 1) * (M - d) ≤ a := Nat.le_trans (Nat.mul_le_mul_right (M - d) hi) h
    rw [Nat.succ_mul] at hroom
    have hhere : term M a d i = a - i * (M - d) := by
      have hsum : a + i * d = a - i * (M - d) + i * M := by
        have hsplit : i * M = i * (M - d) + i * d := by
          rw [← Nat.mul_add, Nat.sub_add_cancel (Nat.le_of_lt hd)]
        omega
      rw [term, hsum, Nat.add_mul_mod_self_right, Nat.mod_eq_of_lt (by omega)]
    unfold difference
    rcases term_succ (a := a) hd i with ⟨hup, -⟩ | ⟨-, hnext⟩
    · omega
    · omega

/-- **When all differences are the same.**
Source: none: infrastructure
Kind: P -/
theorem difference_constant_iff (ha : a < M) (hd : d < M) {k : Nat} (hk : 0 < k) :
    (∀ i < k, ∀ j < k, difference M a d i = difference M a d j) ↔
      a + k * d < M ∨ k * (M - d) ≤ a := by
  rw [← difference_eq_iff ha hd k, ← difference_eq_sub_iff ha hd k]
  constructor
  · intro h
    rcases difference_cases (a := a) hd 0 with hup | hdown
    · exact Or.inl fun i hi => (h i hi 0 hk).trans hup
    · exact Or.inr fun i hi => (h i hi 0 hk).trans hdown
  · rintro (h | h) i hi j hj
    · rw [h i hi, h j hj]
    · rw [h i hi, h j hj]

end NetstackSuite.Lib
