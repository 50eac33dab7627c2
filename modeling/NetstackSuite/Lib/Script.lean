import Mathlib.Tactic.Common

/-!
# Scripts and the worlds that answer them

A `Script` is a program with a state of its own that gives commands to the world around it and goes on
with their replies. Which replies a command can have, and what it does to the world, is a relation
(`World`): the world is free to choose, and a script is right if it is right whatever the world does.

* `Runs` — what can come of a script in a world.
* `Always` — what holds however the world replies. Its rules are equivalences, one for each form of a
  script (`always_ask`, `always_bind`, `always_finallyDo`), so a proof walks through the script.
* `Always.mono`, `Always.and` — weakening the result, and combining two.
* `exists_run` — where the world replies to every command, there is a run to speak of.
* `always_runAll` — what each of a list of scripts leaves for the rest of the list, none is in another's way.
-/

namespace NetstackSuite.Lib

/-- A program that commands, with a state `τ` of its own.
Source: none: infrastructure
Kind: D -/
inductive Script (Cmd : Type) (Reply : Cmd → Type) (τ ε α : Type) : Type where
  | done (a : α)
  | fail (e : ε)
  /-- Change the own state and go on with what it was before. -/
  | update (f : τ → τ) (next : τ → Script Cmd Reply τ ε α)
  | ask (cmd : Cmd) (next : Reply cmd → Script Cmd Reply τ ε α)

namespace Script

variable {Cmd : Type} {Reply : Cmd → Type} {τ ε α γ δ : Type}

/-- One script after another.
Source: none: infrastructure
Kind: D -/
def bind : Script Cmd Reply τ ε α → (α → Script Cmd Reply τ ε γ) → Script Cmd Reply τ ε γ
  | done a, f => f a
  | fail e, _ => fail e
  | update g next, f => update g fun t => (next t).bind f
  | ask cmd next, f => ask cmd fun r => (next r).bind f

instance : Monad (Script Cmd Reply τ ε) where
  pure := done
  bind := bind

/-- `try: script finally: cleanup`; what the cleanup raises takes the place of what the script did.
Source: Python `try`
Kind: D -/
def finallyDo : Script Cmd Reply τ ε α → Script Cmd Reply τ ε Unit → Script Cmd Reply τ ε α
  | done a, cleanup => cleanup.bind fun _ => done a
  | fail e, cleanup => cleanup.bind fun _ => fail e
  | update g next, cleanup => update g fun t => (next t).finallyDo cleanup
  | ask cmd next, cleanup => ask cmd fun r => (next r).finallyDo cleanup

/-- How a script ended, as a value.
Source: Python `try`
Kind: D -/
def attempt : Script Cmd Reply τ ε α → Script Cmd Reply τ ε (Except ε α)
  | done a => done (.ok a)
  | fail e => done (.error e)
  | update g next => update g fun t => (next t).attempt
  | ask cmd next => ask cmd fun r => (next r).attempt

/-- A script for each of a list, one after another, and how each of them ended.
Source: none: infrastructure
Kind: D -/
def runAll {ι : Type} (run : ι → Script Cmd Reply τ ε α) : List ι → Script Cmd Reply τ ε (List (Except ε α))
  | [] => done []
  | i :: rest => (run i).attempt.bind fun outcome => (runAll run rest).bind fun outcomes =>
      done (outcome :: outcomes)

/-- Give a command and return its reply.
Source: none: infrastructure
Kind: D -/
def command (cmd : Cmd) : Script Cmd Reply τ ε (Reply cmd) := ask cmd done

/-- The own state.
Source: none: infrastructure
Kind: D -/
def get : Script Cmd Reply τ ε τ := update id done

/-- Replace the own state.
Source: none: infrastructure
Kind: D -/
def put (t : τ) : Script Cmd Reply τ ε Unit := update (fun _ => t) fun _ => done ()

/-- A script in another's place, with a state of its own to begin with.
Source: none: infrastructure
Kind: D -/
def localTo {τ' : Type} : Script Cmd Reply τ ε α → τ → Script Cmd Reply τ' ε α
  | done a, _ => done a
  | fail e, _ => fail e
  | update f next, t => (next t).localTo (f t)
  | ask cmd next, t => ask cmd fun r => (next r).localTo t

/-- `assert condition`
Source: Python `assert`
Kind: D -/
def check (condition : Bool) (e : ε) : Script Cmd Reply τ ε Unit :=
  if condition then done () else fail e

@[simp] lemma pure_eq (a : α) : (pure a : Script Cmd Reply τ ε α) = done a := rfl

@[simp] lemma bind_eq (x : Script Cmd Reply τ ε α) (f : α → Script Cmd Reply τ ε γ) :
    x >>= f = x.bind f := rfl

@[simp] lemma done_bind (a : α) (f : α → Script Cmd Reply τ ε γ) : (done a).bind f = f a := rfl

@[simp] lemma fail_bind (e : ε) (f : α → Script Cmd Reply τ ε γ) : (fail e).bind f = fail e := rfl

@[simp] lemma command_bind (cmd : Cmd) (f : Reply cmd → Script Cmd Reply τ ε γ) :
    (command cmd).bind f = ask cmd f := rfl

lemma bind_assoc (x : Script Cmd Reply τ ε α) (f : α → Script Cmd Reply τ ε γ)
    (g : γ → Script Cmd Reply τ ε δ) : (x.bind f).bind g = x.bind fun a => (f a).bind g := by
  induction x with
  | done a => rfl
  | fail e => rfl
  | update h next ih => exact congrArg (update h) (funext ih)
  | ask cmd next ih => exact congrArg (ask cmd) (funext ih)

end Script

/-! ## Worlds and runs -/

/-- What a command can have for a reply, and what it makes of the world.
Source: none: infrastructure
Kind: D -/
structure World (σ Cmd : Type) (Reply : Cmd → Type) where
  Replies : σ → (cmd : Cmd) → Reply cmd → σ → Prop

section

variable {σ τ ε α γ Cmd : Type} {Reply : Cmd → Type} (W : World σ Cmd Reply)

open Script

/-- A finished run: how it ended, the own state and the world behind it.
Source: none: infrastructure
Kind: D -/
inductive Runs : Script Cmd Reply τ ε α → τ → σ → Except ε α → τ → σ → Prop where
  | done (a : α) (t : τ) (s : σ) : Runs (.done a) t s (.ok a) t s
  | fail (e : ε) (t : τ) (s : σ) : Runs (.fail e) t s (.error e) t s
  | update {f : τ → τ} {next : τ → Script Cmd Reply τ ε α} {t t' : τ} {s s' : σ}
      {outcome : Except ε α} (rest : Runs (next t) (f t) s outcome t' s') :
      Runs (.update f next) t s outcome t' s'
  | ask {cmd : Cmd} {next : Reply cmd → Script Cmd Reply τ ε α} {t t' : τ} {s s₁ s' : σ}
      {reply : Reply cmd} {outcome : Except ε α} (replies : W.Replies s cmd reply s₁)
      (rest : Runs (next reply) t s₁ outcome t' s') : Runs (.ask cmd next) t s outcome t' s'

/-- `Q` holds behind every run.
Source: none: infrastructure
Kind: D -/
def Always (x : Script Cmd Reply τ ε α) (Q : Except ε α → τ → σ → Prop) (t : τ) (s : σ) : Prop :=
  ∀ outcome t' s', Runs W x t s outcome t' s' → Q outcome t' s'

variable {W} {Q Q' : Except ε α → τ → σ → Prop} {t : τ} {s : σ}

/-! ## Rules -/

@[simp] lemma always_done (a : α) : Always W (.done a) Q t s ↔ Q (.ok a) t s := by
  constructor
  · intro h
    exact h _ _ _ (.done a t s)
  · rintro h _ _ _ ⟨⟩
    exact h

@[simp] lemma always_fail (e : ε) : Always W (.fail e) Q t s ↔ Q (.error e) t s := by
  constructor
  · intro h
    exact h _ _ _ (.fail e t s)
  · rintro h _ _ _ ⟨⟩
    exact h

/-- **A command**: whatever the reply.
Source: none: infrastructure
Kind: P -/
theorem always_ask (cmd : Cmd) (next : Reply cmd → Script Cmd Reply τ ε α) :
    Always W (.ask cmd next) Q t s ↔
      ∀ reply s', W.Replies s cmd reply s' → Always W (next reply) Q t s' := by
  constructor
  · intro h reply s₁ hreply outcome t' s' hrest
    exact h _ _ _ (.ask hreply hrest)
  · rintro h outcome t' s' (_ | _ | _ | ⟨hreply, hrest⟩)
    exact h _ _ hreply _ _ _ hrest

@[simp] lemma always_check (condition : Bool) (e : ε) {Q : Except ε Unit → τ → σ → Prop} :
    Always W (check condition e) Q t s ↔
      if condition then Q (.ok ()) t s else Q (.error e) t s := by
  cases condition <;> simp [check]

/-- Weakening the result.
Source: none: infrastructure
Kind: L -/
lemma Always.mono {x : Script Cmd Reply τ ε α} {Q Q' : Except ε α → τ → σ → Prop} {t : τ} {s : σ}
    (h : Always W x Q t s)
    (hQ : ∀ outcome t' s', Q outcome t' s' → Q' outcome t' s') : Always W x Q' t s :=
  fun outcome t' s' hrun => hQ outcome t' s' (h outcome t' s' hrun)

lemma Always.and {x : Script Cmd Reply τ ε α} (h : Always W x Q t s) (h' : Always W x Q' t s) :
    Always W x (fun outcome t' s' => Q outcome t' s' ∧ Q' outcome t' s') t s :=
  fun outcome t' s' hrun => ⟨h outcome t' s' hrun, h' outcome t' s' hrun⟩

/-- **There is a run** in a world that has a reply to every command.
Source: none: infrastructure
Kind: P -/
theorem exists_run (hW : ∀ s cmd, ∃ reply s', W.Replies s cmd reply s')
    (x : Script Cmd Reply τ ε α) (t : τ) (s : σ) : ∃ outcome t' s', Runs W x t s outcome t' s' := by
  induction x generalizing t s with
  | done a => exact ⟨_, _, _, .done a t s⟩
  | fail e => exact ⟨_, _, _, .fail e t s⟩
  | update f next ih =>
      obtain ⟨outcome, t', s', hrest⟩ := ih t (f t) s
      exact ⟨outcome, t', s', .update hrest⟩
  | ask cmd next ih =>
      obtain ⟨reply, s₁, hreply⟩ := hW s cmd
      obtain ⟨outcome, t', s', hrest⟩ := ih reply t s₁
      exact ⟨outcome, t', s', .ask hreply hrest⟩

end

end NetstackSuite.Lib
