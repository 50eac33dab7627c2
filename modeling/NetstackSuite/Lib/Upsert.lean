import Mathlib.Data.List.Induction
import Mathlib.Order.Bounds.Basic
import Mathlib.Order.WithBot
import NetstackSuite.Lib.Loop

/-!
# Keyed collections that keep the worst

`upsert xs a` keeps one item for each key: an item with a new key is appended; an item whose rank
exceeds that of the item already there is merged into it, in place; any other item is dropped. The
merge may raise half-way, but it always leaves an item of the same key and the new rank.

What a user needs to know of a collection is its keys, in order (`keys_collect`), and the rank each
key has reached (`rankOf_collect`): the order in which the items came decides only the former, and items
that a collection already accounts for leave it alone (`upsert_of_absorbed`), which is what makes replays
harmless.
-/

namespace NetstackSuite.Lib

variable {α κ ρ ε : Type} [DecidableEq κ] [LinearOrder ρ]

/-- Items with a key, a rank, and a way to merge a worse item into a kept one.
Source: none: infrastructure
Kind: D -/
structure Ranked (α κ ρ ε : Type) where
  /-- What identifies an item. -/
  key : α → κ
  /-- How bad an item is. -/
  rank : α → ρ
  /-- The kept item after a worse one was merged into it, and what the merge raised, if anything. -/
  merge : α → α → Outcome α ε
  /-- The kept item keeps its key, -/
  key_merge : ∀ x a, key (merge x a).1 = key x
  /-- and takes the worse rank. -/
  rank_merge : ∀ x a, rank (merge x a).1 = rank a

namespace Ranked

variable (M : Ranked α κ ρ ε)

/-- Add one item: the collection, the item that changed (if one did and nothing was raised), and
what was raised.
Source: none: infrastructure
Kind: D -/
def upsert : List α → α → Outcome (List α × Option α) ε
  | [], a => (([a], some a), none)
  | x :: xs, a =>
      if M.key x = M.key a then
        if M.rank x < M.rank a then
          match M.merge x a with
          | (y, none) => ((y :: xs, some y), none)
          | (y, some e) => ((y :: xs, none), some e)
        else ((x :: xs, none), none)
      else
        let r := upsert xs a
        ((x :: r.1.1, r.1.2), r.2)

/-- The collection after items were added one by one.
Source: none: infrastructure
Kind: D -/
def collect (xs as : List α) : List α := as.foldl (fun xs a => (M.upsert xs a).1.1) xs

/-- The rank a key has reached, `⊥` for a key that does not occur.
Source: none: infrastructure
Kind: D -/
def rankOf (xs : List α) (k : κ) : WithBot ρ :=
  match xs.find? fun x => M.key x = k with
  | some x => M.rank x
  | none => ⊥

/-- The collection accounts for an item: it has the key at that rank or a worse one.
Source: none: infrastructure
Kind: D -/
def Absorbs (xs : List α) (a : α) : Prop := (M.rank a : WithBot ρ) ≤ M.rankOf xs (M.key a)

@[simp] lemma collect_nil (xs : List α) : M.collect xs [] = xs := rfl

@[simp] lemma collect_cons (xs : List α) (a : α) (as : List α) :
    M.collect xs (a :: as) = M.collect (M.upsert xs a).1.1 as := rfl

lemma collect_append (xs as bs : List α) :
    M.collect xs (as ++ bs) = M.collect (M.collect xs as) bs := List.foldl_append

omit [LinearOrder ρ] in
@[simp] lemma rankOf_nil (k : κ) : M.rankOf [] k = ⊥ := rfl

omit [LinearOrder ρ] in
lemma rankOf_cons_self (x : α) (xs : List α) : M.rankOf (x :: xs) (M.key x) = M.rank x := by
  simp [rankOf]

omit [LinearOrder ρ] in
lemma rankOf_cons_of_ne {x : α} {k : κ} (xs : List α) (h : M.key x ≠ k) :
    M.rankOf (x :: xs) k = M.rankOf xs k := by
  simp [rankOf, h]

/-! ## By position -/

omit [LinearOrder ρ] in
/-- The place of a key: where an item with it stands.
Source: none: infrastructure
Kind: D -/
def place (xs : List α) (k : κ) : Option Nat := (xs.map M.key).findIdx? fun k' => k' = k

/-- An item with a new key is appended.
Source: none: infrastructure
Kind: L -/
lemma upsert_of_place_none {xs : List α} {a : α} (h : M.place xs (M.key a) = none) :
    M.upsert xs a = ((xs ++ [a], some a), none) := by
  induction xs with
  | nil => rfl
  | cons x xs ih =>
      simp only [place, List.map_cons, List.findIdx?_cons, decide_eq_true_eq] at h
      split at h
      · cases h
      · next hk => simp [upsert, hk, ih (Option.map_eq_none_iff.mp h)]

/-- An item with a known key meets the item at its place.
Source: none: infrastructure
Kind: L -/
lemma upsert_of_place_some {xs : List α} {a : α} {i : Nat} (h : M.place xs (M.key a) = some i) :
    ∃ x, xs[i]? = some x ∧ M.key x = M.key a ∧
      M.upsert xs a =
        if M.rank x < M.rank a then
          ((xs.set i (M.merge x a).1,
            if (M.merge x a).2 = none then some (M.merge x a).1 else none), (M.merge x a).2)
        else ((xs, none), none) := by
  induction xs generalizing i with
  | nil => cases h
  | cons x xs ih =>
      simp only [place, List.map_cons, List.findIdx?_cons, decide_eq_true_eq] at h
      split at h
      · next hk =>
        cases h
        refine ⟨x, rfl, hk, ?_⟩
        simp only [upsert, hk, if_true]
        split
        · rcases M.merge x a with ⟨y, _ | e⟩ <;> rfl
        · rfl
      · next hk =>
        obtain ⟨j, hj, rfl⟩ := Option.map_eq_some_iff.mp h
        obtain ⟨y, hy, hyk, hup⟩ := ih hj
        refine ⟨y, hy, hyk, ?_⟩
        simp only [upsert, hk, if_false, hup]
        split <;> rfl

/-! ## Keys -/

/-- Adding an item adds its key at the end, unless it is there.
Source: none: infrastructure
Kind: L -/
lemma keys_upsert (xs : List α) (a : α) :
    (M.upsert xs a).1.1.map M.key =
      if M.key a ∈ xs.map M.key then xs.map M.key else xs.map M.key ++ [M.key a] := by
  induction xs with
  | nil => simp [upsert]
  | cons x xs ih =>
      by_cases hk : M.key x = M.key a
      · have hmerge := M.key_merge x a
        simp only [upsert, hk, if_true]
        split
        · rcases hm : M.merge x a with ⟨y, _ | e⟩
          · simp [hm] at hmerge
            simp [hmerge, hk]
          · simp [hm] at hmerge
            simp [hmerge, hk]
        · simp [hk]
      · simp only [upsert, hk, if_false, List.map_cons, ih, List.mem_cons, Ne.symm hk, false_or]
        split <;> simp

/-- Adding an item keeps the keys distinct.
Source: none: infrastructure
Kind: L -/
lemma nodup_keys_upsert {xs : List α} (h : (xs.map M.key).Nodup) (a : α) :
    ((M.upsert xs a).1.1.map M.key).Nodup := by
  rw [keys_upsert]
  split
  · exact h
  · next hk => exact List.nodup_append.mpr ⟨h, by simp, by simpa [List.mem_map] using hk⟩

/-- **The keys of a collection**: one for each key that occurred, in the order of first occurrence.
Source: none: infrastructure
Kind: P -/
theorem keys_collect (as : List α) :
    (M.collect [] as).map M.key = (as.map M.key).eraseDups := by
  induction as using List.reverseRecOn with
  | nil => rfl
  | append_singleton as a ih =>
      rw [collect_append, collect_cons, collect_nil, keys_upsert, ih, List.map_append,
        List.eraseDups_append, List.map_singleton]
      by_cases h : M.key a ∈ as.map M.key
      · have : [M.key a].removeAll (as.map M.key) = [] := by simpa [List.removeAll] using h
        rw [if_pos (List.mem_eraseDups.mpr h), this, List.eraseDups_nil, List.append_nil]
      · have : [M.key a].removeAll (as.map M.key) = [M.key a] := by
          simpa [List.removeAll] using h
        rw [if_neg (mt List.mem_eraseDups.mp h), this]
        rfl

lemma nodup_keys_collect (xs : List α) (h : (xs.map M.key).Nodup) (as : List α) :
    ((M.collect xs as).map M.key).Nodup := by
  induction as generalizing xs with
  | nil => exact h
  | cons a as ih => exact ih _ (M.nodup_keys_upsert h a)

/-! ## What merges keep -/

/-- If an item with a new key has a property, and merging into the item of a known key keeps the
property and does not raise, then adding the item does not raise, and all items keep the property.
Source: none: infrastructure
Kind: P -/
theorem upsert_preserves (P : α → Prop) {xs : List α} {a : α} (hxs : ∀ x ∈ xs, P x)
    (ha : (∀ x ∈ xs, M.key x ≠ M.key a) → P a)
    (hmerge : ∀ x ∈ xs, M.key x = M.key a → M.rank x < M.rank a →
      (M.merge x a).2 = none ∧ P (M.merge x a).1) :
    (M.upsert xs a).2 = none ∧ ∀ x ∈ (M.upsert xs a).1.1, P x := by
  induction xs with
  | nil => exact ⟨rfl, by simpa [upsert] using ha (by simp)⟩
  | cons x xs ih =>
      have htail := fun y hy => hxs y (List.mem_cons_of_mem _ hy)
      simp only [upsert]
      split
      · next hk =>
        split
        · next hlt =>
          have hx := hmerge x List.mem_cons_self hk hlt
          rcases hm : M.merge x a with ⟨y, _ | e⟩ <;> rw [hm] at hx
          · exact ⟨rfl, List.forall_mem_cons.mpr ⟨hx.2, htail⟩⟩
          · cases hx.1
        · exact ⟨rfl, hxs⟩
      · next hk =>
        obtain ⟨ih₁, ih₂⟩ := ih htail (fun h => ha (List.forall_mem_cons.mpr ⟨hk, h⟩))
          fun y hy => hmerge y (List.mem_cons_of_mem _ hy)
        exact ⟨ih₁, List.forall_mem_cons.mpr ⟨hxs x List.mem_cons_self, ih₂⟩⟩

/-! ## By the item of the key -/

omit [LinearOrder ρ] in
/-- In a collection with distinct keys an item is the one of its key.
Source: none: infrastructure
Kind: L -/
lemma find_key_of_mem {xs : List α} (h : (xs.map M.key).Nodup) {x : α} (hx : x ∈ xs) :
    xs.find? (fun y => M.key y = M.key x) = some x := by
  induction xs with
  | nil => cases hx
  | cons y xs ih =>
      rw [List.map_cons, List.nodup_cons] at h
      rcases List.mem_cons.mp hx with rfl | hx
      · simp
      · have hne : M.key y ≠ M.key x := fun he => h.1 (he ▸ List.mem_map_of_mem hx)
        rw [List.find?_cons_of_neg (by simpa using hne), ih h.2 hx]

/-- What a collection accounts for, by the item of the key.
Source: none: infrastructure
Kind: L -/
lemma absorbs_iff {xs : List α} {a : α} :
    M.Absorbs xs a ↔
      ∃ x, xs.find? (fun x => M.key x = M.key a) = some x ∧ M.rank a ≤ M.rank x := by
  unfold Absorbs rankOf
  cases xs.find? fun x => M.key x = M.key a with
  | none => simp
  | some x => simp

/-! ## Ranks -/

/-- Adding an item raises the rank of its key to at least its own, and no other rank.
Source: none: infrastructure
Kind: P -/
lemma rankOf_upsert (xs : List α) (a : α) (k : κ) :
    M.rankOf (M.upsert xs a).1.1 k =
      if M.key a = k then M.rankOf xs k ⊔ M.rank a else M.rankOf xs k := by
  induction xs with
  | nil => by_cases h : M.key a = k <;> simp [upsert, rankOf, h]
  | cons x xs ih =>
      by_cases hk : M.key x = M.key a
      · have hkey := M.key_merge x a
        have hrank := M.rank_merge x a
        by_cases hlt : M.rank x < M.rank a
        · -- the kept item takes the new rank
          have hup : (M.upsert (x :: xs) a).1.1 = (M.merge x a).1 :: xs := by
            simp only [upsert, hk, if_true, hlt]
            rcases M.merge x a with ⟨y, _ | e⟩ <;> rfl
          rw [hup]
          by_cases h : M.key a = k
          · subst h
            have hx := M.rankOf_cons_self x xs
            have hy := M.rankOf_cons_self (M.merge x a).1 xs
            rw [hkey, hk] at hy
            rw [hk] at hx
            rw [if_pos rfl, hx, hy, hrank, sup_eq_right.mpr (WithBot.coe_le_coe.mpr hlt.le)]
          · rw [if_neg h, M.rankOf_cons_of_ne xs (by rwa [hkey, hk]),
              M.rankOf_cons_of_ne xs (by rwa [hk])]
        · have hup : (M.upsert (x :: xs) a).1.1 = x :: xs := by simp [upsert, hk, hlt]
          rw [hup]
          by_cases h : M.key a = k
          · subst h
            have hx := M.rankOf_cons_self x xs
            rw [hk] at hx
            rw [if_pos rfl, hx, sup_eq_left.mpr (WithBot.coe_le_coe.mpr (not_lt.mp hlt))]
          · rw [if_neg h]
      · have hup : (M.upsert (x :: xs) a).1.1 = x :: (M.upsert xs a).1.1 := by simp [upsert, hk]
        rw [hup]
        by_cases hx : M.key x = k
        · subst hx
          rw [M.rankOf_cons_self, M.rankOf_cons_self, if_neg (Ne.symm hk)]
        · rw [M.rankOf_cons_of_ne _ hx, M.rankOf_cons_of_ne _ hx, ih]

omit [LinearOrder ρ] in
/-- An item present in a collection with distinct keys has the rank of its key.
Source: none: infrastructure
Kind: L -/
lemma rankOf_of_mem {xs : List α} (h : (xs.map M.key).Nodup) {x : α} (hx : x ∈ xs) :
    M.rankOf xs (M.key x) = M.rank x := by
  rw [rankOf, M.find_key_of_mem h hx]

/-- Ranks only grow.
Source: none: infrastructure
Kind: L -/
lemma rankOf_le_collect (xs as : List α) (k : κ) : M.rankOf xs k ≤ M.rankOf (M.collect xs as) k := by
  induction as generalizing xs with
  | nil => exact le_rfl
  | cons a as ih =>
      refine le_trans ?_ (ih (M.upsert xs a).1.1)
      rw [rankOf_upsert]
      split
      · exact le_sup_left
      · exact le_rfl

/-- **The rank of a key is the worst rank it came with.**
Source: none: infrastructure
Kind: P -/
theorem rankOf_collect (as : List α) (k : κ) :
    (∀ a ∈ as, M.key a = k → (M.rank a : WithBot ρ) ≤ M.rankOf (M.collect [] as) k) ∧
      (M.rankOf (M.collect [] as) k = ⊥ ∨
        ∃ a ∈ as, M.key a = k ∧ M.rankOf (M.collect [] as) k = M.rank a) := by
  induction as using List.reverseRecOn with
  | nil => simp
  | append_singleton as a ih =>
      obtain ⟨hup, hatt⟩ := ih
      rw [collect_append, collect_cons, collect_nil, rankOf_upsert]
      by_cases hk : M.key a = k
      · rw [if_pos hk]
        refine ⟨?_, .inr ?_⟩
        · intro b hb hbk
          rcases List.mem_append.mp hb with hb | hb
          · exact (hup b hb hbk).trans le_sup_left
          · rw [List.mem_singleton.mp hb]
            exact le_sup_right
        · rcases le_total (M.rankOf (M.collect [] as) k) (M.rank a) with hle | hle
          · exact ⟨a, by simp, hk, sup_eq_right.mpr hle⟩
          · rw [sup_eq_left.mpr hle]
            rcases hatt with hbot | ⟨b, hb, hbk, hbr⟩
            · rw [hbot] at hle
              exact absurd (le_bot_iff.mp hle) (WithBot.coe_ne_bot)
            · exact ⟨b, by simp [hb], hbk, hbr⟩
      · rw [if_neg hk]
        refine ⟨?_, ?_⟩
        · intro b hb hbk
          rcases List.mem_append.mp hb with hb | hb
          · exact hup b hb hbk
          · exact absurd (List.mem_singleton.mp hb ▸ hbk) hk
        · rcases hatt with hbot | ⟨b, hb, hbk, hbr⟩
          · exact .inl hbot
          · exact .inr ⟨b, by simp [hb], hbk, hbr⟩

/-- An item of a collection has the greatest of the ranks its key came with.
Source: none: infrastructure
Kind: P -/
theorem isGreatest_rank {as : List α} {x : α} (hx : x ∈ M.collect [] as) :
    IsGreatest {r | ∃ a ∈ as, M.key a = M.key x ∧ M.rank a = r} (M.rank x) := by
  obtain ⟨hup, hatt⟩ := M.rankOf_collect as (M.key x)
  have hrank := M.rankOf_of_mem (M.nodup_keys_collect [] (by simp) as) hx
  rw [hrank] at hup hatt
  refine ⟨?_, ?_⟩
  · rcases hatt with hbot | ⟨a, ha, hk, hr⟩
    · exact absurd hbot WithBot.coe_ne_bot
    · exact ⟨a, ha, hk, (WithBot.coe_inj.mp hr).symm⟩
  · rintro _ ⟨a, ha, hk, rfl⟩
    exact WithBot.coe_le_coe.mp (hup a ha hk)

/-! ## Replays -/

/-- **An item that is accounted for changes nothing.**
Source: none: infrastructure
Kind: P -/
theorem upsert_of_absorbed {xs : List α} {a : α} (h : M.Absorbs xs a) :
    M.upsert xs a = ((xs, none), none) := by
  induction xs with
  | nil => exact absurd (le_bot_iff.mp h) WithBot.coe_ne_bot
  | cons x xs ih =>
      rw [Absorbs] at h
      by_cases hk : M.key x = M.key a
      · rw [← hk, M.rankOf_cons_self, WithBot.coe_le_coe] at h
        simp [upsert, hk, not_lt.mpr h]
      · rw [M.rankOf_cons_of_ne xs hk] at h
        simp [upsert, hk, ih h]

/-- An item just added is accounted for.
Source: none: infrastructure
Kind: L -/
lemma absorbs_upsert_self (xs : List α) (a : α) : M.Absorbs (M.upsert xs a).1.1 a := by
  rw [Absorbs, rankOf_upsert, if_pos rfl]
  exact le_sup_right

/-- Every item of a collection is accounted for by it.
Source: none: infrastructure
Kind: L -/
lemma absorbs_collect {xs as : List α} {a : α} (ha : a ∈ as) : M.Absorbs (M.collect xs as) a := by
  induction as generalizing xs with
  | nil => cases ha
  | cons b as ih =>
      rcases List.mem_cons.mp ha with rfl | ha
      · exact le_trans (M.absorbs_upsert_self xs a) (M.rankOf_le_collect _ as _)
      · exact ih ha

end Ranked

end NetstackSuite.Lib
