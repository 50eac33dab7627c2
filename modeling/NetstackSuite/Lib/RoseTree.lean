import Mathlib.Data.List.Induction
import Mathlib.Data.List.Lex

/-!
# Trees with ordered children, addressed by position

A position is the list of child indices that leads to a node. A forest is a list of trees, and a
position in a forest starts with the index of a tree. The lexicographic order on positions is
pre-order, and a position is a prefix of another exactly if its node is an ancestor of the other's or
the same node.

Two operations carry this module:

* `climb f ts p` applies `f` to the proper ancestors of a node, innermost first. After a change at
  the node this is one descent that changes the node and applies `f` on the way back
  (`climb_modify`), which is the form an induction on the position can use (`get?_settle_append`,
  `get?_settle_of_incomparable`, `everywhere_settle`).
* `tops P ts` collects the nodes whose label satisfies `P` and none of whose ancestors' labels does:
  in pre-order (`pairwise_lt_tops`), exactly these nodes (`mem_tops_iff`), and no node is under
  another (`not_prefix_of_mem_tops`).
-/

namespace NetstackSuite.Lib

/-- A tree whose nodes have a label and an ordered list of children.
Source: none: infrastructure
Kind: D -/
inductive Rose (α : Type) where
  | node (label : α) (children : List (Rose α))

namespace Rose

variable {α β : Type}

/-- Source: none: infrastructure. Kind: D -/
def label : Rose α → α
  | node a _ => a

/-- Source: none: infrastructure. Kind: D -/
def children : Rose α → List (Rose α)
  | node _ cs => cs

@[simp] lemma label_node (a : α) (cs : List (Rose α)) : (node a cs).label = a := rfl

@[simp] lemma children_node (a : α) (cs : List (Rose α)) : (node a cs).children = cs := rfl

mutual

/-- Induction over a tree: a property of all children passes to the node.
Source: none: infrastructure
Kind: L -/
theorem induct {motive : Rose α → Prop}
    (node : ∀ a cs, (∀ c ∈ cs, motive c) → motive (node a cs)) : ∀ t, motive t
  | .node a cs => node a cs (inductChildren node cs)

/-- Source: none: infrastructure. Kind: L -/
theorem inductChildren {motive : Rose α → Prop}
    (node : ∀ a cs, (∀ c ∈ cs, motive c) → motive (.node a cs)) :
    ∀ cs : List (Rose α), ∀ c ∈ cs, motive c
  | [], _, h => absurd h List.not_mem_nil
  | d :: cs, c, h => by
      rcases List.mem_cons.mp h with hc | hc
      · rw [hc]
        exact induct node d
      · exact inductChildren node cs c hc

end

mutual

/-- The tree with every label replaced.
Source: none: infrastructure
Kind: D -/
def map (f : α → β) : Rose α → Rose β
  | node a cs => node (f a) (mapChildren f cs)

/-- The forest with every label replaced.
Source: none: infrastructure
Kind: D -/
def mapChildren (f : α → β) : List (Rose α) → List (Rose β)
  | [] => []
  | c :: cs => map f c :: mapChildren f cs

end

@[simp] lemma mapChildren_eq (f : α → β) (cs : List (Rose α)) : mapChildren f cs = cs.map (map f) := by
  induction cs with
  | nil => rfl
  | cons c cs ih => rw [mapChildren, ih, List.map_cons]

@[simp] lemma map_node (f : α → β) (a : α) (cs : List (Rose α)) :
    map f (node a cs) = node (f a) (cs.map (map f)) := by
  rw [map, mapChildren_eq]

@[simp] lemma label_map (f : α → β) (t : Rose α) : (map f t).label = f t.label := by
  cases t
  rw [map_node, label_node, label_node]

@[simp] lemma children_map (f : α → β) (t : Rose α) : (map f t).children = t.children.map (map f) := by
  cases t
  rw [map_node, children_node, children_node]

/-- Replacing labels twice is replacing them once.
Source: none: infrastructure
Kind: L -/
lemma map_map {γ : Type} (g : β → γ) (f : α → β) (t : Rose α) : map g (map f t) = map (g ∘ f) t := by
  induction t using induct with
  | node a cs ih =>
      rw [map_node, map_node, map_node, List.map_map]
      congr 1
      exact List.map_congr_left ih

/-- Source: none: infrastructure. Kind: L -/
lemma map_id (t : Rose α) : map id t = t := by
  induction t using induct with
  | node a cs ih =>
      rw [map_node, List.map_congr_left ih, List.map_id', id]

/-! ## Positions -/

/-- The subtree at a position of a tree.
Source: none: infrastructure
Kind: D -/
def get? : Rose α → List ℕ → Option (Rose α)
  | t, [] => some t
  | t, i :: p => t.children[i]?.bind fun c => c.get? p

/-- The subtree at a position of a forest.
Source: none: infrastructure
Kind: D -/
def nodeAt (ts : List (Rose α)) : List ℕ → Option (Rose α)
  | [] => none
  | i :: p => ts[i]?.bind fun t => t.get? p

@[simp] lemma get?_nil (t : Rose α) : t.get? [] = some t := by
  cases t
  rfl

@[simp] lemma get?_cons (t : Rose α) (i : ℕ) (p : List ℕ) :
    t.get? (i :: p) = t.children[i]?.bind fun c => c.get? p := by
  cases t
  rfl

@[simp] lemma nodeAt_nil (ts : List (Rose α)) : nodeAt ts [] = none := rfl

@[simp] lemma nodeAt_cons (ts : List (Rose α)) (i : ℕ) (p : List ℕ) :
    nodeAt ts (i :: p) = ts[i]?.bind fun t => t.get? p := rfl

/-- Going down along `p ++ q` is going down along `p` and from there along `q`.
Source: none: infrastructure
Kind: L -/
lemma get?_append (t : Rose α) (p q : List ℕ) :
    t.get? (p ++ q) = (t.get? p).bind fun s => s.get? q := by
  induction p generalizing t with
  | nil => rw [List.nil_append, get?_nil, Option.bind_some]
  | cons i p ih =>
      rw [List.cons_append, get?_cons, get?_cons, Option.bind_assoc]
      congr 1
      funext c
      exact ih c

/-- Below a node of a forest.
Source: none: infrastructure
Kind: L -/
lemma nodeAt_append {ts : List (Rose α)} {p : List ℕ} {s : Rose α} (hp : nodeAt ts p = some s)
    (q : List ℕ) : nodeAt ts (p ++ q) = s.get? q := by
  rcases p with _ | ⟨i, p⟩
  · cases hp
  · obtain ⟨t, ht, hp⟩ := Option.bind_eq_some_iff.mp hp
    rw [List.cons_append, nodeAt_cons, ht, Option.bind_some, get?_append, hp, Option.bind_some]

/-- Positions are those of the tree with other labels.
Source: none: infrastructure
Kind: L -/
lemma get?_map (f : α → β) (t : Rose α) (p : List ℕ) :
    (map f t).get? p = (t.get? p).map (map f) := by
  induction p generalizing t with
  | nil => rw [get?_nil, get?_nil, Option.map_some]
  | cons i p ih =>
      rw [get?_cons, get?_cons, children_map, List.getElem?_map]
      rcases t.children[i]? with _ | c
      · rfl
      · exact ih c

/-- Source: none: infrastructure. Kind: L -/
lemma nodeAt_map (f : α → β) (ts : List (Rose α)) (p : List ℕ) :
    nodeAt (ts.map (map f)) p = (nodeAt ts p).map (map f) := by
  rcases p with _ | ⟨i, p⟩
  · rfl
  · rw [nodeAt_cons, nodeAt_cons, List.getElem?_map]
    rcases ts[i]? with _ | t
    · rfl
    · exact get?_map f t p

/-! ## Changing a node and what is above it -/

/-- The tree with its child number `i` changed.
Source: none: infrastructure
Kind: D -/
def modifyChild (i : ℕ) (g : Rose α → Rose α) : Rose α → Rose α
  | node a cs => node a (cs.modify i g)

@[simp] lemma children_modifyChild (i : ℕ) (g : Rose α → Rose α) (t : Rose α) :
    (t.modifyChild i g).children = t.children.modify i g := by
  cases t
  rfl

/-- The tree with the subtree at a position changed.
Source: none: infrastructure
Kind: D -/
def modify (g : Rose α → Rose α) : List ℕ → Rose α → Rose α
  | [] => g
  | i :: p => modifyChild i (modify g p)

/-- The forest with the subtree at a position changed.
Source: none: infrastructure
Kind: D -/
def modifyAt (g : Rose α → Rose α) (p : List ℕ) (ts : List (Rose α)) : List (Rose α) :=
  match p with
  | [] => ts
  | i :: p => ts.modify i (modify g p)

/-- `f` applied to the proper ancestors of a node, innermost first. The position is given from the
node upwards.
Source: none: infrastructure
Kind: D -/
def climb (f : Rose α → Rose α) : List ℕ → List (Rose α) → List (Rose α)
  | [], ts => ts
  | _ :: up, ts => climb f up (modifyAt f up.reverse ts)

/-- The tree with the subtree at a position changed by `g` and every tree above it by `f`, on the way
back.
Source: none: infrastructure
Kind: D -/
def settle (g f : Rose α → Rose α) : List ℕ → Rose α → Rose α
  | [], t => g t
  | i :: p, t => f (t.modifyChild i (settle g f p))

/-- Changing a subtree twice is changing it once.
Source: none: infrastructure
Kind: L -/
lemma modifyAt_modifyAt (g f : Rose α → Rose α) (p : List ℕ) (ts : List (Rose α)) :
    modifyAt f p (modifyAt g p ts) = modifyAt (f ∘ g) p ts := by
  have below : ∀ (p : List ℕ) (t : Rose α), modify f p (modify g p t) = modify (f ∘ g) p t := by
    intro p
    induction p with
    | nil => exact fun t => rfl
    | cons i p ih =>
        rintro ⟨a, cs⟩
        simp only [modify, modifyChild]
        rw [List.modify_modify_eq]
        congr 2
        funext c
        exact ih c
  rcases p with _ | ⟨i, p⟩
  · rfl
  · simp only [modifyAt]
    rw [List.modify_modify_eq]
    congr 1
    funext t
    exact below p t

/-- The changed subtree is where the change was.
Source: none: infrastructure
Kind: L -/
lemma nodeAt_modifyAt (g : Rose α → Rose α) (p : List ℕ) (ts : List (Rose α)) :
    nodeAt (modifyAt g p ts) p = (nodeAt ts p).map g := by
  have below : ∀ (p : List ℕ) (t : Rose α), (modify g p t).get? p = (t.get? p).map g := by
    intro p
    induction p with
    | nil =>
        intro t
        rw [modify, get?_nil, get?_nil, Option.map_some]
    | cons i p ih =>
        intro t
        rw [modify, get?_cons, get?_cons, children_modifyChild, List.getElem?_modify_eq]
        rcases t.children[i]? with _ | c
        · rfl
        · exact ih c
  rcases p with _ | ⟨i, p⟩
  · rfl
  · rw [modifyAt, nodeAt_cons, nodeAt_cons, List.getElem?_modify_eq]
    rcases ts[i]? with _ | t
    · rfl
    · exact below p t

/-- Changing a subtree and then a tree above it is one change of the tree above.
Source: none: infrastructure
Kind: L -/
lemma modifyAt_modifyAt_concat (g f : Rose α → Rose α) (i : ℕ) (p : List ℕ) (j : ℕ)
    (ts : List (Rose α)) :
    modifyAt f (i :: p) (modifyAt g (i :: p ++ [j]) ts) =
      modifyAt (f ∘ modifyChild j g) (i :: p) ts := by
  have below : ∀ p t, modify f p (modify g (p ++ [j]) t) = modify (f ∘ modifyChild j g) p t := by
    intro p
    induction p with
    | nil => exact fun t => rfl
    | cons k p ih =>
        rintro ⟨a, cs⟩
        simp only [List.cons_append, modify, modifyChild]
        rw [List.modify_modify_eq]
        congr 2
        funext c
        exact ih c
  simp only [List.cons_append, modifyAt]
  rw [List.modify_modify_eq]
  congr 1
  funext t
  exact below p t

/-- Source: none: infrastructure. Kind: L -/
lemma settle_concat (g f : Rose α → Rose α) (p : List ℕ) (j : ℕ) :
    settle g f (p ++ [j]) = settle (f ∘ modifyChild j g) f p := by
  induction p with
  | nil =>
      funext t
      rfl
  | cons i p ih =>
      funext t
      rw [List.cons_append, settle, settle, ih]

/-- **A change at a node followed by a climb is one descent**: the change at the node, and `f` on the
way back.
Source: none: infrastructure
Kind: P -/
theorem climb_modify (g f : Rose α → Rose α) (i : ℕ) (p : List ℕ) (ts : List (Rose α)) :
    climb f (i :: p).reverse (modifyAt g (i :: p) ts) = ts.modify i (settle g f p) := by
  induction p using List.reverseRecOn generalizing g with
  | nil => rfl
  | append_singleton p j ih =>
      have hback : (j :: (i :: p).reverse).tail.reverse = i :: p := by
        rw [List.tail_cons, List.reverse_reverse]
      have hstep : climb f (i :: (p ++ [j])).reverse (modifyAt g (i :: (p ++ [j])) ts) =
          climb f (i :: p).reverse (modifyAt f (i :: p) (modifyAt g (i :: p ++ [j]) ts)) := by
        rw [← List.cons_append, List.reverse_append, List.reverse_singleton, List.singleton_append,
          climb, List.reverse_reverse]
      rw [hstep, modifyAt_modifyAt_concat, ih, settle_concat]

section Settle

variable {g f : Rose α → Rose α}

/-- At the node and below it, the change is `g`.
Source: none: infrastructure
Kind: L -/
lemma get?_settle_append (hf : ∀ t, (f t).children = t.children) (p q : List ℕ) (t : Rose α) :
    (settle g f p t).get? (p ++ q) = (t.get? p).bind fun s => (g s).get? q := by
  induction p generalizing t with
  | nil => rw [settle, List.nil_append, get?_nil, Option.bind_some]
  | cons i p ih =>
      rw [settle, List.cons_append, get?_cons, get?_cons, hf, children_modifyChild,
        List.getElem?_modify_eq]
      rcases t.children[i]? with _ | c
      · rfl
      · exact ih c

/-- A node neither above nor below keeps its subtree.
Source: none: infrastructure
Kind: L -/
lemma get?_settle_of_incomparable (hf : ∀ t, (f t).children = t.children) {p q : List ℕ}
    (hpq : ¬ p <+: q) (hqp : ¬ q <+: p) (t : Rose α) : (settle g f p t).get? q = t.get? q := by
  induction p generalizing q t with
  | nil => exact absurd (List.nil_prefix) hpq
  | cons i p ih =>
      rcases q with _ | ⟨j, q⟩
      · exact absurd (List.nil_prefix) hqp
      · rw [settle, get?_cons, get?_cons, hf, children_modifyChild]
        by_cases hij : i = j
        · rw [hij, List.getElem?_modify_eq]
          rcases t.children[j]? with _ | c
          · rfl
          · apply ih
            · exact fun h => hpq (List.cons_prefix_cons.mpr ⟨hij, h⟩)
            · exact fun h => hqp (List.cons_prefix_cons.mpr ⟨hij.symm, h⟩)
        · rw [List.getElem?_modify_ne _ _ hij]

/-- Source: none: infrastructure. Kind: L -/
lemma nodeAt_settle_append (hf : ∀ t, (f t).children = t.children) (i : ℕ) (p q : List ℕ)
    (ts : List (Rose α)) :
    nodeAt (ts.modify i (settle g f p)) (i :: p ++ q) =
      (nodeAt ts (i :: p)).bind fun s => (g s).get? q := by
  rw [List.cons_append, nodeAt_cons, nodeAt_cons, List.getElem?_modify_eq]
  rcases ts[i]? with _ | t
  · rfl
  · exact get?_settle_append hf p q t

/-- Source: none: infrastructure. Kind: L -/
lemma nodeAt_settle_of_incomparable (hf : ∀ t, (f t).children = t.children) {i : ℕ} {p q : List ℕ}
    (hpq : ¬ i :: p <+: q) (hqp : ¬ q <+: i :: p) (ts : List (Rose α)) :
    nodeAt (ts.modify i (settle g f p)) q = nodeAt ts q := by
  rcases q with _ | ⟨j, q⟩
  · rfl
  · rw [nodeAt_cons, nodeAt_cons]
    by_cases hij : i = j
    · rw [hij, List.getElem?_modify_eq]
      rcases ts[j]? with _ | t
      · rfl
      · apply get?_settle_of_incomparable hf
        · exact fun h => hpq (List.cons_prefix_cons.mpr ⟨hij, h⟩)
        · exact fun h => hqp (List.cons_prefix_cons.mpr ⟨hij.symm, h⟩)
    · rw [List.getElem?_modify_ne _ _ hij]

/-- A change that `h` does not see.
Source: none: infrastructure
Kind: L -/
lemma map_modify_of_eq {γ δ : Type} {h : γ → δ} {k : γ → γ} (hk : ∀ x, h (k x) = h x) (i : ℕ)
    (xs : List γ) : (xs.modify i k).map h = xs.map h := by
  induction xs generalizing i with
  | nil => rw [List.modify_nil]
  | cons x xs ih =>
      rcases i with _ | i
      · rw [List.modify_zero_cons, List.map_cons, List.map_cons, hk]
      · rw [List.modify_succ_cons, List.map_cons, List.map_cons, ih]

/-- What neither change touches is the same afterwards.
Source: none: infrastructure
Kind: L -/
lemma map_settle {h : α → β} (hg : ∀ t, map h (g t) = map h t) (hf : ∀ t, map h (f t) = map h t)
    (p : List ℕ) (t : Rose α) : map h (settle g f p t) = map h t := by
  induction p generalizing t with
  | nil => exact hg t
  | cons i p ih =>
      rcases t with ⟨a, cs⟩
      rw [settle, hf, modifyChild, map_node, map_node]
      congr 1
      exact map_modify_of_eq ih i cs

end Settle

/-! ## Properties of every subtree -/

/-- `P` holds of every subtree.
Source: none: infrastructure
Kind: D -/
def Everywhere (P : Rose α → Prop) (t : Rose α) : Prop := ∀ p s, t.get? p = some s → P s

/-- `P` holds of every subtree of every tree.
Source: none: infrastructure
Kind: D -/
def Throughout (P : Rose α → Prop) (ts : List (Rose α)) : Prop := ∀ p s, nodeAt ts p = some s → P s

/-- Source: none: infrastructure. Kind: L -/
lemma throughout_iff (P : Rose α → Prop) (ts : List (Rose α)) :
    Throughout P ts ↔ ∀ t ∈ ts, Everywhere P t := by
  constructor
  · intro h t ht p s hs
    obtain ⟨i, hi⟩ := List.getElem?_of_mem ht
    apply h (i :: p) s
    rw [nodeAt_cons, hi, Option.bind_some, hs]
  · rintro h (_ | ⟨i, p⟩) s hs
    · cases hs
    · obtain ⟨t, ht, hp⟩ := Option.bind_eq_some_iff.mp hs
      exact h t (List.mem_of_getElem? ht) p s hp

/-- What holds throughout a forest holds everywhere below each of its nodes.
Source: none: infrastructure
Kind: L -/
lemma Throughout.everywhere {P : Rose α → Prop} {ts : List (Rose α)} (h : Throughout P ts)
    {p : List ℕ} {s : Rose α} (hp : nodeAt ts p = some s) : Everywhere P s := by
  intro q r hr
  apply h (p ++ q) r
  rw [nodeAt_append hp, hr]

/-- A property holds everywhere exactly if it holds here and everywhere in the children.
Source: none: infrastructure
Kind: L -/
lemma everywhere_iff (P : Rose α → Prop) (t : Rose α) :
    Everywhere P t ↔ P t ∧ ∀ c ∈ t.children, Everywhere P c := by
  constructor
  · intro h
    refine ⟨h [] t (get?_nil t), ?_⟩
    intro c hc p s hs
    obtain ⟨i, hi⟩ := List.getElem?_of_mem hc
    apply h (i :: p) s
    rw [get?_cons, hi, Option.bind_some, hs]
  · rintro ⟨here, below⟩ (_ | ⟨i, p⟩) s hs
    · rw [get?_nil, Option.some.injEq] at hs
      rwa [← hs]
    · rw [get?_cons] at hs
      obtain ⟨c, hc, hp⟩ := Option.bind_eq_some_iff.mp hs
      exact below c (List.mem_of_getElem? hc) p s hp

/-- A changed list keeps a property of its elements that the change establishes.
Source: none: infrastructure
Kind: L -/
lemma forall_mem_modify {γ : Type} {P : γ → Prop} {h : γ → γ} (hP : ∀ x, P x → P (h x)) {xs : List γ}
    (hxs : ∀ x ∈ xs, P x) (i : ℕ) : ∀ x ∈ xs.modify i h, P x := by
  intro x hx
  obtain ⟨j, hj⟩ := List.getElem?_of_mem hx
  rw [List.getElem?_modify] at hj
  obtain ⟨y, hy, hyx⟩ := Option.map_eq_some_iff.mp hj
  have hPy : P y := hxs y (List.mem_of_getElem? hy)
  split at hyx
  · rw [← hyx]
    exact hP y hPy
  · rwa [← hyx]

/-- A property that `g` establishes everywhere and `f` at the root holds everywhere after the change.
Source: none: infrastructure
Kind: L -/
lemma everywhere_settle {P : Rose α → Prop} {g f : Rose α → Rose α} (hg : ∀ t, Everywhere P (g t))
    (hf : ∀ t, (f t).children = t.children) (hP : ∀ t, P (f t)) {t : Rose α} (ht : Everywhere P t)
    (p : List ℕ) : Everywhere P (settle g f p t) := by
  induction p generalizing t with
  | nil => exact hg t
  | cons i p ih =>
      rw [settle, everywhere_iff]
      refine ⟨hP _, ?_⟩
      rw [hf, children_modifyChild]
      exact forall_mem_modify (fun c hc => ih hc) ((everywhere_iff P t).mp ht).2 i

/-! ## The topmost nodes with a property -/

section Tops

variable (P : α → Bool)

mutual

/-- The nodes of a tree whose label satisfies `P` and none of whose ancestors' labels does, with their
positions, in pre-order.
Source: none: infrastructure
Kind: D -/
def topsOf : Rose α → List (List ℕ × Rose α)
  | node a cs => if P a then [([], node a cs)] else topsFrom 0 cs

/-- The same of the trees of a forest, the first of which has index `k`.
Source: none: infrastructure
Kind: D -/
def topsFrom (k : ℕ) : List (Rose α) → List (List ℕ × Rose α)
  | [] => []
  | c :: cs => (topsOf c).map (fun n => (k :: n.1, n.2)) ++ topsFrom (k + 1) cs

end

/-- The topmost nodes of a forest whose label satisfies `P`.
Source: none: infrastructure
Kind: D -/
def tops (ts : List (Rose α)) : List (List ℕ × Rose α) := topsFrom P 0 ts

variable {P}

lemma topsOf_of_pos {t : Rose α} (h : P t.label = true) : topsOf P t = [([], t)] := by
  rcases t with ⟨a, cs⟩
  rw [topsOf, if_pos (show P a = true from h)]

lemma topsOf_of_neg {t : Rose α} (h : ¬ P t.label = true) : topsOf P t = tops P t.children := by
  rcases t with ⟨a, cs⟩
  rw [topsOf, if_neg (show ¬ P a = true from h), children_node, tops]

/-- A topmost node of a forest is one of its trees.
Source: none: infrastructure
Kind: L -/
lemma mem_topsFrom {k : ℕ} {ts : List (Rose α)} {n : List ℕ × Rose α} :
    n ∈ topsFrom P k ts ↔ ∃ j t m, ts[j]? = some t ∧ m ∈ topsOf P t ∧ n = ((k + j) :: m.1, m.2) := by
  induction ts generalizing k with
  | nil => simp [topsFrom]
  | cons t ts ih =>
      rw [topsFrom, List.mem_append, List.mem_map, ih]
      constructor
      · rintro (⟨m, hm, rfl⟩ | ⟨j, u, m, hu, hm, rfl⟩)
        · exact ⟨0, t, m, rfl, hm, rfl⟩
        · exact ⟨j + 1, u, m, hu, hm, by rw [Nat.add_right_comm, Nat.add_assoc]⟩
      · rintro ⟨_ | j, u, m, hu, hm, rfl⟩
        · exact Or.inl ⟨m, (Option.some.inj hu) ▸ hm, rfl⟩
        · exact Or.inr ⟨j, u, m, hu, hm, by rw [Nat.add_right_comm, Nat.add_assoc]⟩

lemma mem_tops {ts : List (Rose α)} {n : List ℕ × Rose α} :
    n ∈ tops P ts ↔ ∃ j t m, ts[j]? = some t ∧ m ∈ topsOf P t ∧ n = (j :: m.1, m.2) := by
  rw [tops, mem_topsFrom]
  simp only [Nat.zero_add]

lemma cons_mem_tops {ts : List (Rose α)} {i : ℕ} {p : List ℕ} {s : Rose α} :
    (i :: p, s) ∈ tops P ts ↔ ∃ t, ts[i]? = some t ∧ (p, s) ∈ topsOf P t := by
  rw [mem_tops]
  constructor
  · rintro ⟨j, t, m, ht, hm, heq⟩
    obtain ⟨hpos, hs⟩ := Prod.mk.inj heq
    obtain ⟨hi, hp⟩ := List.cons.inj hpos
    refine ⟨t, hi ▸ ht, ?_⟩
    rwa [hp, hs]
  · rintro ⟨t, ht, hm⟩
    exact ⟨i, t, (p, s), ht, hm, rfl⟩

/-- What lies properly above a position of a tree of the forest.
Source: none: infrastructure
Kind: L -/
lemma forall_above_cons_iff {Q : Rose α → Prop} {ts : List (Rose α)} {i : ℕ} {t : Rose α}
    (ht : ts[i]? = some t) (p : List ℕ) :
    (∀ q r, q <+: i :: p → q ≠ i :: p → nodeAt ts q = some r → Q r) ↔
      ∀ q r, q <+: p → q ≠ p → t.get? q = some r → Q r := by
  constructor
  · intro above q r hq hne hr
    apply above (i :: q) r (List.cons_prefix_cons.mpr ⟨rfl, hq⟩)
    · exact fun h => hne (List.cons.inj h).2
    · rw [nodeAt_cons, ht]
      exact hr
  · rintro above (_ | ⟨k, q⟩) r hq hne hr
    · cases hr
    · obtain ⟨hk, hq'⟩ := List.cons_prefix_cons.mp hq
      rw [nodeAt_cons, hk, ht] at hr
      exact above q r hq' (fun h => hne (by rw [hk, h])) hr

/-- What lies properly above a position below the root: the root, and what lies above it in the
children.
Source: none: infrastructure
Kind: L -/
lemma forall_above_get?_cons_iff {Q : Rose α → Prop} (t : Rose α) (i : ℕ) (p : List ℕ) :
    (∀ q r, q <+: i :: p → q ≠ i :: p → t.get? q = some r → Q r) ↔
      Q t ∧ ∀ q r, q <+: i :: p → q ≠ i :: p → nodeAt t.children q = some r → Q r := by
  constructor
  · intro above
    refine ⟨above [] t List.nil_prefix (List.cons_ne_nil i p).symm (get?_nil t), ?_⟩
    rintro (_ | ⟨k, q⟩) r hq hne hr
    · cases hr
    · exact above (k :: q) r hq hne ((get?_cons t k q).trans hr)
  · rintro ⟨here, above⟩ (_ | ⟨k, q⟩) r hq hne hr
    · rw [get?_nil] at hr
      rwa [← Option.some.inj hr]
    · exact above (k :: q) r hq hne ((get?_cons t k q).symm.trans hr)

/-- A node is topmost in a tree if its label satisfies `P` and no proper ancestor's does.
Source: none: infrastructure
Kind: L -/
lemma mem_topsOf_iff {t : Rose α} {p : List ℕ} {s : Rose α} :
    (p, s) ∈ topsOf P t ↔ t.get? p = some s ∧ P s.label = true ∧
      ∀ q r, q <+: p → q ≠ p → t.get? q = some r → ¬ P r.label = true := by
  induction p generalizing t with
  | nil =>
      rw [get?_nil]
      by_cases here : P t.label = true
      · rw [topsOf_of_pos here, List.mem_singleton]
        constructor
        · intro h
          obtain rfl : s = t := congrArg Prod.snd h
          exact ⟨rfl, here, fun q r hq hne _ => absurd (List.prefix_nil.mp hq) hne⟩
        · rintro ⟨hs, -⟩
          rw [Option.some.inj hs]
      · rw [topsOf_of_neg here, mem_tops]
        constructor
        · rintro ⟨j, c, m, -, -, hm⟩
          cases congrArg Prod.fst hm
        · rintro ⟨hs, hP, -⟩
          rw [← Option.some.inj hs] at hP
          exact absurd hP here
  | cons i p ih =>
      rw [forall_above_get?_cons_iff (Q := fun r => ¬ P r.label = true)]
      by_cases here : P t.label = true
      · rw [topsOf_of_pos here, List.mem_singleton]
        constructor
        · intro h
          cases congrArg Prod.fst h
        · rintro ⟨-, -, hnot, -⟩
          exact absurd here hnot
      · rw [topsOf_of_neg here, cons_mem_tops, get?_cons]
        constructor
        · rintro ⟨c, hc, hm⟩
          obtain ⟨hs, hP, above⟩ := ih.mp hm
          rw [hc]
          exact ⟨hs, hP, here, (forall_above_cons_iff hc p).mpr above⟩
        · rintro ⟨hs, hP, -, above⟩
          obtain ⟨c, hc, hs⟩ := Option.bind_eq_some_iff.mp hs
          exact ⟨c, hc, ih.mpr ⟨hs, hP, (forall_above_cons_iff hc p).mp above⟩⟩

/-- **The topmost nodes are exactly the nodes whose label satisfies `P` and none of whose proper
ancestors' labels does.**
Source: none: infrastructure
Kind: P -/
theorem mem_tops_iff {ts : List (Rose α)} {p : List ℕ} {s : Rose α} :
    (p, s) ∈ tops P ts ↔ nodeAt ts p = some s ∧ P s.label = true ∧
      ∀ q r, q <+: p → q ≠ p → nodeAt ts q = some r → ¬ P r.label = true := by
  rcases p with _ | ⟨i, p⟩
  · rw [mem_tops]
    constructor
    · rintro ⟨j, t, m, -, -, hm⟩
      cases congrArg Prod.fst hm
    · rintro ⟨hs, -⟩
      cases hs
  · rw [cons_mem_tops, nodeAt_cons]
    constructor
    · rintro ⟨t, ht, hm⟩
      obtain ⟨hs, hP, above⟩ := mem_topsOf_iff.mp hm
      rw [ht]
      exact ⟨hs, hP, (forall_above_cons_iff ht p).mpr above⟩
    · rintro ⟨hs, hP, above⟩
      obtain ⟨t, ht, hs⟩ := Option.bind_eq_some_iff.mp hs
      exact ⟨t, ht, mem_topsOf_iff.mpr ⟨hs, hP, (forall_above_cons_iff ht p).mp above⟩⟩

/-- **No topmost node is under another.**
Source: none: infrastructure
Kind: P -/
theorem not_prefix_of_mem_tops {ts : List (Rose α)} {m n : List ℕ × Rose α} (hm : m ∈ tops P ts)
    (hn : n ∈ tops P ts) (hne : m ≠ n) : ¬ m.1 <+: n.1 := by
  intro hprefix
  obtain ⟨hms, hmP, -⟩ := mem_tops_iff.mp hm
  obtain ⟨hns, -, above⟩ := mem_tops_iff.mp hn
  by_cases hpos : m.1 = n.1
  · rw [hpos, hns] at hms
    exact hne (Prod.ext hpos (Option.some.inj hms).symm)
  · exact above m.1 m.2 hprefix hpos hms hmP

mutual

/-- Source: none: infrastructure. Kind: L -/
theorem pairwise_topsOf : ∀ t : Rose α, (topsOf P t).Pairwise fun m n => m.1 < n.1
  | node a cs => by
      by_cases here : P a = true
      · rw [topsOf, if_pos here]
        exact List.pairwise_singleton _ _
      · rw [topsOf, if_neg here]
        exact pairwise_topsFrom 0 cs

/-- Source: none: infrastructure. Kind: L -/
theorem pairwise_topsFrom : ∀ (k : ℕ) (ts : List (Rose α)),
    (topsFrom P k ts).Pairwise fun m n => m.1 < n.1
  | _, [] => List.Pairwise.nil
  | k, t :: ts => by
      rw [topsFrom, List.pairwise_append]
      refine ⟨?_, pairwise_topsFrom (k + 1) ts, ?_⟩
      · rw [List.pairwise_map]
        exact (pairwise_topsOf t).imp fun h => List.cons_lt_cons_iff.mpr (Or.inr ⟨rfl, h⟩)
      · rintro m hm n hn
        obtain ⟨m', -, rfl⟩ := List.mem_map.mp hm
        obtain ⟨j, u, n', -, -, rfl⟩ := mem_topsFrom.mp hn
        exact List.cons_lt_cons_iff.mpr (Or.inl (by omega))

end

/-- **The topmost nodes come in pre-order, each once.**
Source: none: infrastructure
Kind: P -/
theorem pairwise_lt_tops (ts : List (Rose α)) : (tops P ts).Pairwise fun m n => m.1 < n.1 :=
  pairwise_topsFrom 0 ts

/-- Under a node whose label satisfies `P` there is nothing that a topmost node is not above.
Source: none: infrastructure
Kind: L -/
lemma exists_topsOf_prefix {t : Rose α} {q : List ℕ} {s : Rose α} (hs : t.get? q = some s)
    (hP : P s.label = true) : ∃ n ∈ topsOf P t, n.1 <+: q := by
  induction q generalizing t with
  | nil =>
      rw [get?_nil, Option.some.injEq] at hs
      rw [← hs] at hP
      rw [topsOf_of_pos hP]
      exact ⟨([], t), List.mem_singleton_self _, List.nil_prefix⟩
  | cons i q ih =>
      by_cases here : P t.label = true
      · rw [topsOf_of_pos here]
        exact ⟨([], t), List.mem_singleton_self _, List.nil_prefix⟩
      · rw [get?_cons] at hs
        obtain ⟨c, hc, hs⟩ := Option.bind_eq_some_iff.mp hs
        obtain ⟨n, hn, hq⟩ := ih hs
        rw [topsOf_of_neg here]
        exact ⟨(i :: n.1, n.2), mem_tops.mpr ⟨i, c, n, hc, hn, rfl⟩,
          List.cons_prefix_cons.mpr ⟨rfl, hq⟩⟩

/-- **A position is at or below a topmost node exactly if it is at or below a node whose label
satisfies `P`.**
Source: none: infrastructure
Kind: P -/
theorem exists_tops_prefix_iff {ts : List (Rose α)} {p : List ℕ} :
    (∃ n ∈ tops P ts, n.1 <+: p) ↔ ∃ q s, q <+: p ∧ nodeAt ts q = some s ∧ P s.label = true := by
  constructor
  · rintro ⟨n, hn, hp⟩
    obtain ⟨hs, hP, -⟩ := mem_tops_iff.mp hn
    exact ⟨n.1, n.2, hp, hs, hP⟩
  · rintro ⟨_ | ⟨i, q⟩, s, hp, hs, hP⟩
    · cases hs
    · obtain ⟨t, ht, hs⟩ := Option.bind_eq_some_iff.mp hs
      obtain ⟨n, hn, hq⟩ := exists_topsOf_prefix hs hP
      exact ⟨(i :: n.1, n.2), mem_tops.mpr ⟨i, t, n, ht, hn, rfl⟩,
        (List.cons_prefix_cons.mpr ⟨rfl, hq⟩).trans hp⟩

end Tops

end Rose

end NetstackSuite.Lib
