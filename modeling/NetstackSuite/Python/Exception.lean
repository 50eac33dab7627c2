import Mathlib.Tactic.Common

/-!
# Python exceptions

The exception classes that decide control flow in the code above this layer: an `except` clause
asks which class an exception has, so that is all that is kept of it.
-/

namespace NetstackSuite.Python

/-- The class of a raised exception. `other` is any class no handler of the modelled code names.
Source: Python built-in exceptions
Kind: D -/
inductive PyExc where
  | jsonDecodeError
  | valueError
  | typeError
  | keyError
  | attributeError
  | overflowError
  | recursionError
  | timeoutExpired
  | keyboardInterrupt
  | generatorExit
  | other (cls : String)
  deriving DecidableEq, Repr

namespace PyExc

/-- `JSONDecodeError` is a subclass of `ValueError`.
Source: Python `json.JSONDecodeError`
Kind: D -/
def isValueError : PyExc → Bool
  | .jsonDecodeError | .valueError => true
  | _ => false

/-- What an interrupted generator sees: Ctrl+C, or its consumer closing it.
Source: Python `KeyboardInterrupt`, `GeneratorExit`
Kind: D -/
def isInterrupt : PyExc → Bool
  | .keyboardInterrupt | .generatorExit => true
  | _ => false

end PyExc

/-- Any of the subclasses of `OSError`, `gaierror` among them.
Source: Python `OSError`
Kind: D -/
def osError : PyExc := .other "OSError"

/-- A sequence of two computations succeeds exactly if both do.
Source: none: infrastructure
Kind: L -/
lemma bind_eq_ok {ε α β : Type} {x : Except ε α} {f : α → Except ε β} {b : β} :
    x >>= f = .ok b ↔ ∃ a, x = .ok a ∧ f a = .ok b := by
  rcases x with e | a
  · simp [bind, Except.bind]
  · simp [bind, Except.bind]

/-- A mapped computation succeeds exactly if the computation does.
Source: none: infrastructure
Kind: L -/
lemma map_eq_ok {ε α β : Type} {x : Except ε α} {f : α → β} {b : β} :
    x.map f = .ok b ↔ ∃ a, x = .ok a ∧ f a = b := by
  rcases x with e | a
  · simp [Except.map]
  · simp [Except.map]

/-- A sequence of two computations raises what its first or its second part raises.
Source: none: infrastructure
Kind: L -/
lemma bind_eq_error {ε α β : Type} {x : Except ε α} {f : α → Except ε β} {e : ε} :
    x >>= f = .error e ↔ x = .error e ∨ ∃ a, x = .ok a ∧ f a = .error e := by
  rcases x with e' | a
  · simp [bind, Except.bind]
  · simp [bind, Except.bind]

/-- A mapped computation raises what the computation does.
Source: none: infrastructure
Kind: L -/
lemma map_eq_error {ε α β : Type} {x : Except ε α} {f : α → β} {e : ε} :
    x.map f = .error e ↔ x = .error e := by
  rcases x with e' | a
  · simp [Except.map]
  · simp [Except.map]

end NetstackSuite.Python
