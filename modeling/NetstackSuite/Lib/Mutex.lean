import Mathlib.Data.List.Basic
import Mathlib.Algebra.BigOperators.Group.List.Basic
import Mathlib.Algebra.Order.Ring.Nat
import Mathlib.Logic.Relation

/-!
# Threads that share data under one lock

A `Program` says what a thread does at each point of its code: `move` are its steps outside the lock,
which touch nothing shared; `body` are the instructions it runs while it holds the lock, on the shared
data and its own registers; `after` is where it goes on. In a `Pool` the threads interleave, one
instruction at a time, with any number of threads and any scheduling.

`Pool.atomic_of_reaches` is the rule by which such a pool is verified: whatever state it reaches, the
state with the running section completed is reached by the threads of `Atomic`, whose sections are
single steps.
-/

namespace NetstackSuite.Lib

/-- What the threads run: `ε` is what all of them may read and the outside sets, `π` a thread's place
with its data, `α` the outcomes of a step, `σ` the data under the lock, `ι` the instructions on it,
`ρ` the registers.
Source: none: infrastructure
Kind: D -/
structure Program (ε π α σ ι ρ : Type) where
  start : π → Bool
  move : ε → π → α → Option (π × List π)
  body : π → Option (List ι)
  registers : ρ
  exec : ι → σ × ρ → σ × ρ
  after : π → ρ → π

/-- Where a thread is with respect to the lock.
Source: none: infrastructure
Kind: D -/
inductive Phase (ι ρ : Type)
  | outside
  | inside (todo : List ι) (reg : ρ)

/-- A thread.
Source: none: infrastructure
Kind: D -/
structure Thread (π ι ρ : Type) where
  pc : π
  phase : Phase ι ρ

/-- The threads, the lock with its owner, and the data.
Source: none: infrastructure
Kind: D -/
structure Pool (ε π σ ι ρ : Type) where
  env : ε
  shared : σ
  lock : Option ℕ
  threads : List (Thread π ι ρ)

/-- The same, if nobody can be seen inside the lock.
Source: none: infrastructure
Kind: D -/
structure Atomic (ε π σ : Type) where
  env : ε
  shared : σ
  threads : List π

namespace Program

variable {ε π α σ ι ρ : Type} (P : Program ε π α σ ι ρ)

/-- Run instructions to their end.
Source: none: infrastructure
Kind: D -/
def run (todo : List ι) (m : σ × ρ) : σ × ρ := todo.foldl (fun m ins => P.exec ins m) m

/-- A thread outside the lock.
Source: none: infrastructure
Kind: D -/
def idle (ι ρ : Type) {π : Type} (pc : π) : Thread π ι ρ := ⟨pc, .outside⟩

/-- One step of one thread, or of the outside. Only the owner of the lock is inside.
Source: none: infrastructure
Kind: D -/
inductive Step : Pool ε π σ ι ρ → Pool ε π σ ι ρ → Prop
  | setEnv {s : Pool ε π σ ι ρ} (env : ε) : Step s { s with env := env }
  | start {s : Pool ε π σ ι ρ} {pc : π} (hstart : P.start pc = true) :
      Step s { s with threads := s.threads ++ [⟨pc, .outside⟩] }
  | move {s : Pool ε π σ ι ρ} {i : ℕ} {pc pc' : π} {spawned : List π} {a : α}
      (hthread : s.threads[i]? = some ⟨pc, .outside⟩)
      (hmove : P.move s.env pc a = some (pc', spawned)) :
      Step s { s with threads := s.threads.set i ⟨pc', .outside⟩ ++ spawned.map (idle ι ρ) }
  | acquire {s : Pool ε π σ ι ρ} {i : ℕ} {pc : π} {todo : List ι}
      (hthread : s.threads[i]? = some ⟨pc, .outside⟩) (hfree : s.lock = none)
      (hbody : P.body pc = some todo) :
      Step s { s with
        lock := some i
        threads := s.threads.set i ⟨pc, .inside todo P.registers⟩ }
  | exec {s : Pool ε π σ ι ρ} {i : ℕ} {pc : π} {ins : ι} {todo : List ι} {reg : ρ}
      (hthread : s.threads[i]? = some ⟨pc, .inside (ins :: todo) reg⟩) :
      Step s { s with
        shared := (P.exec ins (s.shared, reg)).1
        threads := s.threads.set i ⟨pc, .inside todo (P.exec ins (s.shared, reg)).2⟩ }
  | release {s : Pool ε π σ ι ρ} {i : ℕ} {pc : π} {reg : ρ}
      (hthread : s.threads[i]? = some ⟨pc, .inside [] reg⟩) :
      Step s { s with
        lock := none
        threads := s.threads.set i ⟨P.after pc reg, .outside⟩ }

/-- One step, if a section is one step.
Source: none: infrastructure
Kind: D -/
inductive AtomicStep : Atomic ε π σ → Atomic ε π σ → Prop
  | setEnv {a : Atomic ε π σ} (env : ε) : AtomicStep a { a with env := env }
  | start {a : Atomic ε π σ} {pc : π} (hstart : P.start pc = true) :
      AtomicStep a { a with threads := a.threads ++ [pc] }
  | move {a : Atomic ε π σ} {i : ℕ} {pc pc' : π} {spawned : List π} {e : α}
      (hthread : a.threads[i]? = some pc) (hmove : P.move a.env pc e = some (pc', spawned)) :
      AtomicStep a { a with threads := a.threads.set i pc' ++ spawned }
  | critical {a : Atomic ε π σ} {i : ℕ} {pc : π} {body : List ι}
      (hthread : a.threads[i]? = some pc) (hbody : P.body pc = some body) :
      AtomicStep a { a with
        shared := (P.run body (a.shared, P.registers)).1
        threads := a.threads.set i (P.after pc (P.run body (a.shared, P.registers)).2) }

/-- A pool and what it looks like with the section that is running completed. The rest of that section
leads to where the whole of it led from the data `before` it.
Source: none: infrastructure
Kind: D -/
inductive Completes : Pool ε π σ ι ρ → Atomic ε π σ → Prop
  | free {env : ε} {shared : σ} {pcs : List π} :
      Completes ⟨env, shared, none, pcs.map (idle ι ρ)⟩ ⟨env, shared, pcs⟩
  | held {env : ε} {shared before : σ} {pcs : List π} {i : ℕ} {pc : π} {body todo : List ι} {reg : ρ}
      (hi : i < pcs.length) (hbody : P.body pc = some body)
      (hrun : P.run todo (shared, reg) = P.run body (before, P.registers)) :
      Completes ⟨env, shared, some i, (pcs.map (idle ι ρ)).set i ⟨pc, .inside todo reg⟩⟩
        ⟨env, (P.run todo (shared, reg)).1, pcs.set i (P.after pc (P.run todo (shared, reg)).2)⟩

/-! ## One step -/

variable {P}

/-- Threads that are all outside, read back.
Source: none: infrastructure
Kind: L -/
lemma getElem?_map_idle {pcs : List π} {i : ℕ} {th : Thread π ι ρ}
    (h : (pcs.map (idle ι ρ))[i]? = some th) : ∃ pc, pcs[i]? = some pc ∧ th = ⟨pc, .outside⟩ := by
  rw [List.getElem?_map, Option.map_eq_some_iff] at h
  obtain ⟨pc, hpc, rfl⟩ := h
  exact ⟨pc, hpc, rfl⟩

/-- Threads of which one is inside, read back at an outside one.
Source: none: infrastructure
Kind: L -/
lemma getElem?_set_idle_outside {pcs : List π} {i j : ℕ} {pc pc' : π} {todo : List ι} {reg : ρ}
    (hi : i < pcs.length)
    (h : ((pcs.map (idle ι ρ)).set i ⟨pc, .inside todo reg⟩)[j]? = some ⟨pc', .outside⟩) :
    i ≠ j ∧ pcs[j]? = some pc' := by
  rw [List.getElem?_set] at h
  split at h
  · simp [hi] at h
  · next hne =>
      obtain ⟨pc'', hpc, heq⟩ := getElem?_map_idle h
      cases heq
      exact ⟨hne, hpc⟩

/-- Threads of which one is inside, read back at one that is inside: it is that one.
Source: none: infrastructure
Kind: L -/
lemma getElem?_set_idle_inside {pcs : List π} {i j : ℕ} {pc pc' : π} {todo todo' : List ι}
    {reg reg' : ρ} (hi : i < pcs.length)
    (h : ((pcs.map (idle ι ρ)).set i ⟨pc, .inside todo reg⟩)[j]? = some ⟨pc', .inside todo' reg'⟩) :
    i = j ∧ pc = pc' ∧ todo = todo' ∧ reg = reg' := by
  rw [List.getElem?_set] at h
  split at h
  · next heq => simp_all
  · obtain ⟨pc'', -, heq⟩ := getElem?_map_idle h
    simp at heq

/-- **What one step does to the completed state**: nothing, or one step of the atomic threads.
Source: none: infrastructure
Kind: P -/
theorem Completes.step {s t : Pool ε π σ ι ρ} {a : Atomic ε π σ} (h : P.Completes s a)
    (hstep : P.Step s t) : ∃ b, P.Completes t b ∧ (b = a ∨ P.AtomicStep a b) := by
  cases h with
  | @free env shared pcs =>
      cases hstep with
      | setEnv env' => exact ⟨_, .free, Or.inr (.setEnv env')⟩
      | @start pc hstart =>
          refine ⟨⟨env, shared, pcs ++ [pc]⟩, ?_, Or.inr (.start hstart)⟩
          have hthreads : pcs.map (idle ι ρ) ++ [⟨pc, .outside⟩] = (pcs ++ [pc]).map (idle ι ρ) := by
            rw [List.map_append]
            rfl
          rw [hthreads]
          exact .free
      | @move i pc pc' spawned e hthread hmove =>
          obtain ⟨pc₀, hpc, heq⟩ := getElem?_map_idle hthread
          cases heq
          refine ⟨⟨env, shared, pcs.set i pc' ++ spawned⟩, ?_, Or.inr (.move hpc hmove)⟩
          have hthreads : (pcs.map (idle ι ρ)).set i ⟨pc', .outside⟩ ++ spawned.map (idle ι ρ) =
              (pcs.set i pc' ++ spawned).map (idle ι ρ) := by
            rw [List.map_append, List.map_set]
            rfl
          rw [hthreads]
          exact .free
      | @acquire i pc todo hthread _ hbody =>
          obtain ⟨pc₀, hpc, heq⟩ := getElem?_map_idle hthread
          cases heq
          have hi : i < pcs.length := (List.getElem?_eq_some_iff.mp hpc).1
          exact ⟨_, .held hi hbody rfl, Or.inr (.critical hpc hbody)⟩
      | @exec i pc ins todo reg hthread =>
          obtain ⟨_, _, heq⟩ := getElem?_map_idle hthread
          cases heq
      | @release i pc reg hthread =>
          obtain ⟨_, _, heq⟩ := getElem?_map_idle hthread
          cases heq
  | @held env shared before pcs i pc body todo reg hi hbody hrun =>
      cases hstep with
      | setEnv env' => exact ⟨_, .held hi hbody hrun, Or.inr (.setEnv env')⟩
      | @start pc' hstart =>
          refine ⟨_, ?_, Or.inr (.start hstart)⟩
          have hthreads : (pcs.map (idle ι ρ)).set i ⟨pc, .inside todo reg⟩ ++ [⟨pc', .outside⟩] =
              ((pcs ++ [pc']).map (idle ι ρ)).set i ⟨pc, .inside todo reg⟩ := by
            rw [List.map_append, List.set_append_left _ _ (by simpa using hi)]
            rfl
          rw [hthreads, ← List.set_append_left _ _ hi]
          exact .held (by simpa using Nat.lt_succ_of_lt hi) hbody hrun
      | @move j pc₁ pc' spawned e hthread hmove =>
          obtain ⟨hne, hpc⟩ := getElem?_set_idle_outside hi hthread
          have hset : (pcs.set i (P.after pc (P.run todo (shared, reg)).2))[j]? = some pc₁ := by
            rw [List.getElem?_set_ne hne]
            exact hpc
          refine ⟨_, ?_, Or.inr (.move hset hmove)⟩
          have hthreads :
              ((pcs.map (idle ι ρ)).set i ⟨pc, .inside todo reg⟩).set j ⟨pc', .outside⟩ ++
                spawned.map (idle ι ρ) =
              ((pcs.set j pc' ++ spawned).map (idle ι ρ)).set i ⟨pc, .inside todo reg⟩ := by
            rw [List.set_comm _ _ hne, List.map_append, List.map_set,
              List.set_append_left _ _ (by simpa using hi)]
            rfl
          have hpcs (after : π) : (pcs.set i after).set j pc' ++ spawned =
              (pcs.set j pc' ++ spawned).set i after := by
            rw [List.set_comm _ _ hne, List.set_append_left _ _ (by simpa using hi)]
          rw [hthreads, hpcs]
          exact .held (by simp only [List.length_append, List.length_set]; omega) hbody hrun
      | acquire _ hfree _ => cases hfree
      | @exec j pc' ins todo' reg' hthread =>
          obtain ⟨rfl, rfl, rfl, rfl⟩ := getElem?_set_idle_inside hi hthread
          refine ⟨_, ?_, Or.inl rfl⟩
          rw [List.set_set]
          exact .held hi hbody hrun
      | @release j pc' reg' hthread =>
          obtain ⟨rfl, rfl, rfl, rfl⟩ := getElem?_set_idle_inside hi hthread
          refine ⟨_, ?_, Or.inl rfl⟩
          have hthreads : (pcs.map (idle ι ρ)).set i ⟨P.after pc reg, .outside⟩ =
              (pcs.set i (P.after pc reg)).map (idle ι ρ) := by
            rw [List.map_set]
            rfl
          rw [List.set_set, hthreads]
          exact .free

/-! ## Reading a completed state -/

/-- A thread outside the lock is where the atomic threads have it.
Source: none: infrastructure
Kind: L -/
lemma Completes.outside {s : Pool ε π σ ι ρ} {a : Atomic ε π σ} (h : P.Completes s a) {j : ℕ} {pc : π}
    (hthread : s.threads[j]? = some ⟨pc, .outside⟩) : a.threads[j]? = some pc := by
  cases h with
  | free =>
      obtain ⟨_, hpc, heq⟩ := getElem?_map_idle hthread
      cases heq
      exact hpc
  | held hi _ _ =>
      obtain ⟨hne, hpc⟩ := getElem?_set_idle_outside hi hthread
      rw [List.getElem?_set_ne hne]
      exact hpc

/-- The atomic threads have the thread inside the lock behind its section, and all others where they
are; the data are those the section leads to from some data `before` it.
Source: none: infrastructure
Kind: L -/
lemma Completes.inside {s : Pool ε π σ ι ρ} {a : Atomic ε π σ} (h : P.Completes s a) {j : ℕ} {pc : π}
    {todo : List ι} {reg : ρ} (hthread : s.threads[j]? = some ⟨pc, .inside todo reg⟩) :
    ∃ body before, P.body pc = some body ∧
      P.run todo (s.shared, reg) = P.run body (before, P.registers) ∧
      a.shared = (P.run todo (s.shared, reg)).1 ∧
      a.threads = (s.threads.map Thread.pc).set j (P.after pc (P.run todo (s.shared, reg)).2) := by
  cases h with
  | free =>
      obtain ⟨_, _, heq⟩ := getElem?_map_idle hthread
      cases heq
  | @held _ shared before pcs i pc' body _ _ hi hbody hrun =>
      obtain ⟨rfl, rfl, rfl, rfl⟩ := getElem?_set_idle_inside hi hthread
      refine ⟨body, before, hbody, hrun, rfl, ?_⟩
      have hpcs : (pcs.map (idle ι ρ)).map Thread.pc = pcs := by
        rw [List.map_map]
        exact List.map_id pcs
      rw [List.map_set, hpcs, List.set_set]

/-! ## Runs -/

/-- **Sections may be taken as single steps**: what a pool reaches from threads that are all outside
is, with the running section completed, reached by the atomic threads.
Source: none: infrastructure
Kind: P -/
theorem atomic_of_reaches {env : ε} {shared : σ} {pcs : List π} {s : Pool ε π σ ι ρ}
    (h : Relation.ReflTransGen P.Step ⟨env, shared, none, pcs.map (idle ι ρ)⟩ s) :
    ∃ a, P.Completes s a ∧ Relation.ReflTransGen P.AtomicStep ⟨env, shared, pcs⟩ a := by
  induction h with
  | refl => exact ⟨_, .free, .refl⟩
  | tail _ hstep ih =>
      obtain ⟨a, hcompletes, hreach⟩ := ih
      obtain ⟨b, hb, rfl | hatomic⟩ := hcompletes.step hstep
      · exact ⟨b, hb, hreach⟩
      · exact ⟨b, hb, hreach.tail hatomic⟩

/-- **Invariant rule** of the atomic threads.
Source: none: infrastructure
Kind: P -/
theorem invariant_of_atomicReaches {a b : Atomic ε π σ} (I : Atomic ε π σ → Prop)
    (h : Relation.ReflTransGen P.AtomicStep a b) (hstart : I a)
    (hstep : ∀ a b, I a → P.AtomicStep a b → I b) : I b := by
  induction h with
  | refl => exact hstart
  | tail _ hnext ih => exact hstep _ _ ih hnext

end Program

/-! ## Sums over the threads -/

/-- How a sum changes when one thread moves.
Source: none: infrastructure
Kind: L -/
lemma sum_map_set_add {π : Type} (f : π → ℕ) {pcs : List π} {i : ℕ} {pc : π} (pc' : π)
    (h : pcs[i]? = some pc) : ((pcs.set i pc').map f).sum + f pc = (pcs.map f).sum + f pc' := by
  induction pcs generalizing i with
  | nil => cases h
  | cons p pcs ih =>
      cases i with
      | zero =>
          cases h
          simp only [List.set_cons_zero, List.map_cons, List.sum_cons]
          omega
      | succ i =>
          have := ih (i := i) (by simpa using h)
          simp only [List.set_cons_succ, List.map_cons, List.sum_cons]
          omega

end NetstackSuite.Lib
