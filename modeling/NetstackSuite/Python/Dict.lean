import Mathlib.Data.List.Basic
import Mathlib.Tactic.Common

/-!
# Python dictionaries as insertion-ordered association lists

`Dict.set` is `d[k] = v`: an existing key keeps its place and gets the new value, a new key goes to
the end. `Dict.get` is `d.get(k)`. The two laws every user needs are `get_set_self` and
`get_set_of_ne`; the order of the entries is what iteration sees (`keys`).
-/

namespace NetstackSuite.Python

/-- A Python `dict`, in insertion order.
Source: Python `dict`
Kind: D -/
abbrev Dict (κ ν : Type) := List (κ × ν)

namespace Dict

variable {κ ν : Type} [DecidableEq κ]

/-- `d.get(k)`.
Source: Python `dict.get`
Kind: D -/
def get : Dict κ ν → κ → Option ν
  | [], _ => none
  | (k', v) :: d, k => if k' = k then some v else get d k

/-- `d[k] = v`.
Source: Python `dict.__setitem__`
Kind: D -/
def set : Dict κ ν → κ → ν → Dict κ ν
  | [], k, v => [(k, v)]
  | (k', v') :: d, k, v => if k' = k then (k', v) :: d else (k', v') :: set d k v

/-- The keys in iteration order.
Source: Python `dict.__iter__`
Kind: D -/
def keys (d : Dict κ ν) : List κ := d.map Prod.fst

@[simp] lemma get_nil (k : κ) : get ([] : Dict κ ν) k = none := rfl

/-- Reading back the key just written.
Source: Python `dict`
Kind: L -/
@[simp] lemma get_set_self (d : Dict κ ν) (k : κ) (v : ν) : (set d k v).get k = some v := by
  induction d with
  | nil => simp [set, get]
  | cons p d ih =>
      obtain ⟨k', v'⟩ := p
      by_cases h : k' = k
      · simp [set, get, h]
      · simp [set, get, h, ih]

/-- Writing one key leaves every other key alone.
Source: Python `dict`
Kind: L -/
lemma get_set_of_ne (d : Dict κ ν) {k k₀ : κ} (v : ν) (h : k₀ ≠ k) :
    (set d k v).get k₀ = d.get k₀ := by
  induction d with
  | nil => simp [set, get, Ne.symm h]
  | cons p d ih =>
      obtain ⟨k', v'⟩ := p
      by_cases hk : k' = k
      · subst hk
        simp [set, get, Ne.symm h]
      · simp only [set, hk, if_false, get, ih]

/-- Writing, read as one equation.
Source: Python `dict`
Kind: L -/
lemma get_set (d : Dict κ ν) (k k₀ : κ) (v : ν) :
    (set d k v).get k₀ = if k₀ = k then some v else d.get k₀ := by
  split
  · next h => rw [h, get_set_self]
  · next h => exact get_set_of_ne d v h

end Dict

end NetstackSuite.Python
