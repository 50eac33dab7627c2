import Mathlib.Tactic.Common

/-!
# Prefix masks on bit vectors

A prefix mask of length `p` keeps the `p` most significant bits of a word. Two words agree under the
mask exactly if their first `p` bits agree (`and_prefixMask_eq_iff`), which is what makes masked
comparison a test of membership in a block of addresses.
-/

namespace NetstackSuite.Lib

variable {w : Nat}

/-- The mask of the `p` most significant bits: all ones, less all ones shifted right by `p`.
Source: none: infrastructure
Kind: D -/
def prefixMask (w p : Nat) : BitVec w := BitVec.allOnes w ^^^ (BitVec.allOnes w >>> p)

/-- Bit `i` of a prefix mask is set exactly if it is one of the first `p` from the top.
Source: none: infrastructure
Kind: L -/
lemma getLsbD_prefixMask {p i : Nat} (hi : i < w) :
    (prefixMask w p).getLsbD i = decide (w ≤ p + i) := by
  unfold prefixMask
  rw [BitVec.getLsbD_xor, BitVec.getLsbD_ushiftRight, BitVec.getLsbD_allOnes,
    BitVec.getLsbD_allOnes, decide_eq_true hi, Bool.true_xor]
  by_cases h : p + i < w
  · rw [decide_eq_true h, decide_eq_false (by omega), Bool.not_true]
  · rw [decide_eq_false h, decide_eq_true (by omega), Bool.not_false]

/-- **Masked words are equal exactly if their first `p` bits are.**
Source: none: infrastructure
Kind: P -/
theorem and_prefixMask_eq_iff {x y : BitVec w} {p : Nat} :
    x &&& prefixMask w p = y &&& prefixMask w p ↔ ∀ i < p, x.getMsbD i = y.getMsbD i := by
  constructor
  · intro h i hi
    by_cases hw : i < w
    · have hbit := congrArg (fun v : BitVec w => v.getLsbD (w - 1 - i)) h
      simp only [BitVec.getLsbD_and] at hbit
      rw [getLsbD_prefixMask (by omega), decide_eq_true (by omega), Bool.and_true,
        Bool.and_true] at hbit
      rw [BitVec.getMsbD_eq_getLsbD, BitVec.getMsbD_eq_getLsbD, hbit]
    · rw [BitVec.getMsbD_of_ge _ _ (by omega), BitVec.getMsbD_of_ge _ _ (by omega)]
  · intro h
    apply BitVec.eq_of_getLsbD_eq
    intro i hi
    rw [BitVec.getLsbD_and, BitVec.getLsbD_and, getLsbD_prefixMask hi]
    by_cases hp : w ≤ p + i
    · have hbit := h (w - 1 - i) (by omega)
      rw [BitVec.getMsbD_eq_getLsbD, BitVec.getMsbD_eq_getLsbD,
        show w - 1 - (w - 1 - i) = i by omega, decide_eq_true (show w - 1 - i < w by omega),
        Bool.true_and, Bool.true_and] at hbit
      rw [hbit]
    · rw [decide_eq_false hp, Bool.and_false, Bool.and_false]

/-- A masked word is a fixed point of the mask.
Source: none: infrastructure
Kind: L -/
lemma and_prefixMask_idem (x : BitVec w) (p : Nat) :
    x &&& prefixMask w p &&& prefixMask w p = x &&& prefixMask w p := by
  rw [BitVec.and_assoc, BitVec.and_self]

end NetstackSuite.Lib
