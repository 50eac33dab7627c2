import Mathlib.Data.List.Induction
import Mathlib.Tactic.Common

/-!
# A log with a counter beside it

Creating the log empties it, and the counter goes on. `Exact` says that the counter is the number of entries.
Every operation but creation keeps the log exact or not as it is, and creation makes it inexact for good unless
nothing has been counted (`exact_apply_iff`).
-/

namespace NetstackSuite.Lib

variable {α : Type}

/-- A log on disk, whether it is open for writing, and the number of entries written to it.
Source: none: infrastructure
Kind: D -/
structure CountedLog (α : Type) where
  isOpen : Bool := false
  content : List α := []
  count : Nat := 0
  deriving DecidableEq, Repr

/-- Source: none: infrastructure. Kind: D -/
inductive LogOp (α : Type) where
  | create
  | append (entry : α)
  | close
  deriving DecidableEq, Repr

namespace CountedLog

/-- An operation; a closed log takes no entries.
Source: none: infrastructure
Kind: D -/
def apply (log : CountedLog α) : LogOp α → CountedLog α
  | .create => { log with isOpen := true, content := [] }
  | .append entry =>
      if log.isOpen then { log with content := log.content ++ [entry], count := log.count + 1 } else log
  | .close => { log with isOpen := false }

/-- Source: none: infrastructure. Kind: D -/
def run (log : CountedLog α) (ops : List (LogOp α)) : CountedLog α := ops.foldl apply log

/-- The counter is the number of entries.
Source: none: infrastructure
Kind: D -/
def Exact (log : CountedLog α) : Prop := log.content.length = log.count

/-- There are no more entries than were counted.
Source: none: infrastructure
Kind: D -/
def Bounded (log : CountedLog α) : Prop := log.content.length ≤ log.count

lemma bounded_init : Bounded ({} : CountedLog α) := Nat.le_refl 0

lemma Bounded.apply {log : CountedLog α} (h : log.Bounded) (op : LogOp α) : (log.apply op).Bounded := by
  unfold Bounded at h ⊢
  cases op with
  | create => exact Nat.zero_le _
  | append entry =>
      rw [CountedLog.apply]
      split
      · rw [List.length_append]
        exact Nat.add_le_add_right h 1
      · exact h
  | close => exact h

/-- **Step rule**: a log is exact after an operation exactly if it was, and is not created over entries that have
been counted.
Source: none: infrastructure
Kind: P -/
theorem exact_apply_iff {log : CountedLog α} (h : log.Bounded) (op : LogOp α) :
    (log.apply op).Exact ↔ log.Exact ∧ (op = .create → log.count = 0) := by
  unfold Bounded at h
  unfold Exact
  cases op with
  | create =>
      have hcreated : (log.apply .create).content.length = 0 := rfl
      have hcount : (log.apply .create).count = log.count := rfl
      rw [hcreated, hcount, imp_iff_right rfl]
      omega
  | append entry =>
      rw [and_iff_left (by simp), apply]
      split
      · simp only [List.length_append, List.length_singleton]
        omega
      · rfl
  | close => rw [and_iff_left (by simp), apply]

lemma run_concat (log : CountedLog α) (ops : List (LogOp α)) (op : LogOp α) :
    log.run (ops ++ [op]) = (log.run ops).apply op := by
  rw [run, List.foldl_append, List.foldl_cons, List.foldl_nil, run]

lemma Bounded.run {log : CountedLog α} (h : log.Bounded) (ops : List (LogOp α)) : (log.run ops).Bounded := by
  induction ops using List.reverseRecOn with
  | nil => exact h
  | append_singleton ops op ih =>
      rw [run_concat]
      exact ih.apply op

end CountedLog

end NetstackSuite.Lib
