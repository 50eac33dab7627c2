import NetstackSuite.Lib.RoseTree
import NetstackSuite.Python.Text

/-!
# The tree of checkboxes

`src/gui/test_tree_widget.py`: modules, directories, files and test functions, each with a checkbox.
Checking a node checks everything under it, and a node above shows a partial mark when only some of
its children are checked. `checked_targets` reads the selection off as the targets of the topmost
checked nodes.

An item is known by its position, the list of child indices from the top level. `selection_tree` is
the result: whatever the tree and whatever was clicked, every node shows what its children show, and
the targets cover exactly the leaves whose last click, on the leaf itself or above it, was a check.

Left out: labels, tool tips and the catalogue entry of a test, which the details panel reads.
-/

namespace NetstackSuite.Gui

open NetstackSuite.Lib NetstackSuite.Python

/-! ## Items -/

/-- The state of a checkbox.
Source: `src/gui/test_tree_widget.py` `_CHECKED`, `_UNCHECKED`, `_PARTIAL`
Kind: D -/
inductive CheckState where
  | checked
  | unchecked
  | partiallyChecked
  deriving DecidableEq, Repr

/-- What a tree item carries: its pytest target and its checkbox.
Source: `src/gui/test_tree_widget.py` `TestTreeWidget._make_item`
Kind: D -/
structure Item where
  target : PyStr
  checkState : CheckState
  deriving DecidableEq

/-- An item with its children.
Source: Qt `QTreeWidgetItem`
Kind: D -/
abbrev TreeItem := Rose Item

/-- The top-level items.
Source: `src/gui/test_tree_widget.py` `TestTreeWidget`
Kind: D -/
abbrev TestTree := List TreeItem

/-- `item.checkState(0)`.
Source: Qt `QTreeWidgetItem`
Kind: D -/
def checkState (item : TreeItem) : CheckState := item.label.checkState

/-- Source: none: infrastructure. Kind: D -/
def Item.withCheckState (state : CheckState) (item : Item) : Item := { item with checkState := state }

/-- `item.setCheckState(0, state)`.
Source: Qt `QTreeWidgetItem`
Kind: D -/
def setCheckState (state : CheckState) (item : TreeItem) : TreeItem :=
  .node (item.label.withCheckState state) item.children

/-- A new item is unchecked.
Source: `src/gui/test_tree_widget.py` `TestTreeWidget._make_item`
Kind: D -/
def makeItem (target : PyStr) : Item := { target := target, checkState := .unchecked }

/-- The widget over a hierarchy of targets.
Source: `src/gui/test_tree_widget.py` `TestTreeWidget._populate`
Kind: D -/
def populate (shape : List (Rose PyStr)) : TestTree := shape.map (Rose.map makeItem)

/-! ## The cascade -/

/-- Sets the state of everything under an item.
Source: `src/gui/test_tree_widget.py` `TestTreeWidget._set_descendants`
Kind: D -/
def setDescendants (state : CheckState) (item : TreeItem) : TreeItem :=
  .node item.label (item.children.map (Rose.map (Item.withCheckState state)))

/-- Sets the state of a parent from the states of its children.
Source: `src/gui/test_tree_widget.py` `TestTreeWidget._refresh_ancestors`, the loop's body
Kind: D -/
def refresh (parent : TreeItem) : TreeItem :=
  let states := parent.children.map checkState
  if states.all (· = .checked) then setCheckState .checked parent
  else if states.all (· = .unchecked) then setCheckState .unchecked parent
  else setCheckState .partiallyChecked parent

/-- Refreshes the parent of an item, its parent, and so on up to the top level.
Source: `src/gui/test_tree_widget.py` `TestTreeWidget._refresh_ancestors`
Kind: D -/
def refreshAncestors (item : List ℕ) (tree : TestTree) : TestTree :=
  Rose.climb refresh item.reverse tree

/-- The handler of a changed item. The changes it makes itself raise no signal.
Source: `src/gui/test_tree_widget.py` `TestTreeWidget._on_item_changed`
Kind: D -/
def onItemChanged (item : List ℕ) (column : ℕ) (tree : TestTree) : TestTree :=
  if column ≠ 0 then tree
  else
    match Rose.nodeAt tree item with
    | none => tree
    | some node =>
        let state := checkState node
        let tree :=
          if state ≠ .partiallyChecked then Rose.modifyAt (setDescendants state) item tree else tree
        refreshAncestors item tree

/-- A click: the item's state is set, and a change is signalled.
Source: Qt `QTreeWidgetItem.setCheckState`, `itemChanged`
Kind: D -/
def toggle (item : List ℕ) (state : CheckState) (tree : TestTree) : TestTree :=
  match Rose.nodeAt tree item with
  | none => tree
  | some node =>
      if checkState node = state then tree
      else onItemChanged item 0 (Rose.modifyAt (setCheckState state) item tree)

/-! ## The selection -/

mutual

/-- The targets under an item: its own if it is checked and its parent is not.
Source: `src/gui/test_tree_widget.py` `TestTreeWidget.checked_targets`, `walk`
Kind: D -/
def walk (parent : Option CheckState) : TreeItem → List PyStr
  | .node item children =>
      let parentFullyChecked := parent = some .checked
      if item.checkState = .checked ∧ ¬ parentFullyChecked then [item.target]
      else walkChildren (some item.checkState) children

/-- The targets under the children of an item.
Source: `src/gui/test_tree_widget.py` `TestTreeWidget.checked_targets`, `walk`
Kind: D -/
def walkChildren (parent : Option CheckState) : List TreeItem → List PyStr
  | [] => []
  | item :: rest => walk parent item ++ walkChildren parent rest

end

/-- The targets of the selection. Top-level items have no parent.
Source: `src/gui/test_tree_widget.py` `TestTreeWidget.checked_targets`
Kind: D -/
def checkedTargets (tree : TestTree) : List PyStr := walkChildren none tree

/-- The topmost checked items, with their positions.
Source: none: specification
Kind: D -/
def coveringItems (tree : TestTree) : List (List ℕ × TreeItem) :=
  Rose.tops (fun item => item.checkState = .checked) tree

mutual

/-- Source: `src/gui/test_tree_widget.py` `TestTreeWidget.checked_targets`. Kind: L -/
theorem walk_eq : ∀ (parent : Option CheckState) (item : TreeItem), parent ≠ some .checked →
    walk parent item =
      (Rose.topsOf (fun item => item.checkState = .checked) item).map fun n => n.2.label.target
  | parent, .node item children, hparent => by
      rw [walk, Rose.topsOf]
      by_cases hchecked : item.checkState = .checked
      · rw [if_pos ⟨hchecked, hparent⟩, if_pos (decide_eq_true hchecked)]
        rfl
      · have hnot : ¬ decide (item.checkState = .checked) = true := by simpa using hchecked
        rw [if_neg fun h => hchecked h.1, if_neg hnot]
        exact walkChildren_eq _ 0 children fun h => hchecked (Option.some.inj h)

/-- Source: `src/gui/test_tree_widget.py` `TestTreeWidget.checked_targets`. Kind: L -/
theorem walkChildren_eq : ∀ (parent : Option CheckState) (k : ℕ) (items : List TreeItem),
    parent ≠ some .checked → walkChildren parent items =
      (Rose.topsFrom (fun item => item.checkState = .checked) k items).map fun n => n.2.label.target
  | _, _, [], _ => rfl
  | parent, k, item :: rest, hparent => by
      rw [walkChildren, Rose.topsFrom, List.map_append, List.map_map, walk_eq parent item hparent,
        walkChildren_eq parent (k + 1) rest hparent]
      rfl

end

/-- The targets listed are those of the topmost checked items.
Source: `src/gui/test_tree_widget.py` `TestTreeWidget.checked_targets`
Kind: L -/
lemma checkedTargets_eq (tree : TestTree) :
    checkedTargets tree = (coveringItems tree).map fun n => n.2.label.target :=
  walkChildren_eq none 0 tree (by simp)

/-- The topmost checked items are the checked items without a checked ancestor.
Source: `src/gui/test_tree_widget.py` `TestTreeWidget.checked_targets`
Kind: L -/
lemma mem_coveringItems {tree : TestTree} {p : List ℕ} {item : TreeItem} :
    (p, item) ∈ coveringItems tree ↔ Rose.nodeAt tree p = some item ∧ checkState item = .checked ∧
      ∀ q above, q <+: p → q ≠ p → Rose.nodeAt tree q = some above →
        checkState above ≠ .checked := by
  unfold coveringItems
  rw [Rose.mem_tops_iff]
  simp only [decide_eq_true_eq, checkState, ne_eq]

/-! ## What a node shows -/

/-- The states of an item and of its children fit: all checked, all unchecked, or partial.
Source: none: specification
Kind: D -/
def RolledUp (item : TreeItem) : Prop :=
  item.children ≠ [] →
    (checkState item = .checked ↔ ∀ c ∈ item.children, checkState c = .checked) ∧
    (checkState item = .unchecked ↔ ∀ c ∈ item.children, checkState c = .unchecked) ∧
    (checkState item = .partiallyChecked ↔
      ¬ (∀ c ∈ item.children, checkState c = .checked) ∧
        ¬ ∀ c ∈ item.children, checkState c = .unchecked)

@[simp] lemma checkState_setCheckState (state : CheckState) (item : TreeItem) :
    checkState (setCheckState state item) = state := rfl

@[simp] lemma children_setCheckState (state : CheckState) (item : TreeItem) :
    (setCheckState state item).children = item.children := rfl

@[simp] lemma checkState_map (state : CheckState) (item : TreeItem) :
    checkState (Rose.map (Item.withCheckState state) item) = state := by
  rw [checkState, Rose.label_map]
  rfl

@[simp] lemma target_withCheckState (state : CheckState) (item : Item) :
    (item.withCheckState state).target = item.target := rfl

/-- Setting the state of an item and then of everything under it is setting it throughout.
Source: `src/gui/test_tree_widget.py` `TestTreeWidget._on_item_changed`
Kind: L -/
lemma setDescendants_setCheckState (state : CheckState) (item : TreeItem) :
    setDescendants state (setCheckState state item) =
      Rose.map (Item.withCheckState state) item := by
  rcases item with ⟨item, children⟩
  rw [Rose.map_node]
  rfl

lemma children_refresh (item : TreeItem) : (refresh item).children = item.children := by
  unfold refresh
  dsimp only
  split
  · rfl
  · split <;> rfl

lemma target_refresh (item : TreeItem) :
    Rose.map Item.target (refresh item) = Rose.map Item.target item := by
  have hset : ∀ state, Rose.map Item.target (setCheckState state item) = Rose.map Item.target item := by
    intro state
    rcases item with ⟨item, children⟩
    rw [Rose.map_node]
    exact Rose.map_node _ _ _
  unfold refresh
  dsimp only
  split
  · exact hset _
  · split <;> exact hset _

/-- An item fits its children if they all show the same mark.
Source: none: infrastructure
Kind: L -/
lemma rolledUp_of_uniform {item : TreeItem} {state : CheckState} (hstate : state ≠ .partiallyChecked)
    (hitem : checkState item = state) (hchildren : ∀ c ∈ item.children, checkState c = state) :
    RolledUp item := by
  intro hne
  obtain ⟨c, hc⟩ := List.exists_mem_of_ne_nil _ hne
  have hother : ∀ other, (∀ d ∈ item.children, checkState d = other) ↔ state = other := by
    intro other
    constructor
    · intro h
      rw [← hchildren c hc]
      exact h c hc
    · rintro rfl
      exact hchildren
  rw [hitem, hother, hother]
  refine ⟨Iff.rfl, Iff.rfl, ?_⟩
  cases state
  · simp
  · simp
  · exact absurd rfl hstate

/-- A refreshed item fits its children.
Source: `src/gui/test_tree_widget.py` `TestTreeWidget._refresh_ancestors`
Kind: L -/
lemma rolledUp_refresh (item : TreeItem) : RolledUp (refresh item) := by
  have hall : ∀ state, ((item.children.map checkState).all (· = state)) = true ↔
      ∀ d ∈ item.children, checkState d = state := by
    intro state
    simp
  unfold refresh
  dsimp only
  by_cases hchecked : ∀ d ∈ item.children, checkState d = .checked
  · rw [if_pos ((hall _).mpr hchecked)]
    exact rolledUp_of_uniform (show CheckState.checked ≠ .partiallyChecked by decide) rfl hchecked
  · rw [if_neg fun h => hchecked ((hall _).mp h)]
    by_cases hunchecked : ∀ d ∈ item.children, checkState d = .unchecked
    · rw [if_pos ((hall _).mpr hunchecked)]
      exact rolledUp_of_uniform (show CheckState.unchecked ≠ .partiallyChecked by decide) rfl hunchecked
    · rw [if_neg fun h => hunchecked ((hall _).mp h)]
      intro _
      refine ⟨?_, ?_, ?_⟩
      · exact iff_of_false (by simp) hchecked
      · exact iff_of_false (by simp) hunchecked
      · exact iff_of_true rfl ⟨hchecked, hunchecked⟩

/-- A tree in which all labels show one mark fits throughout.
Source: none: infrastructure
Kind: L -/
lemma everywhere_rolledUp_map {α : Type} {f : α → Item} {state : CheckState}
    (hstate : state ≠ .partiallyChecked) (hf : ∀ a, (f a).checkState = state) (t : Rose α) :
    Rose.Everywhere RolledUp (Rose.map f t) := by
  intro p item hitem
  rw [Rose.get?_map] at hitem
  obtain ⟨s, -, rfl⟩ := Option.map_eq_some_iff.mp hitem
  apply rolledUp_of_uniform hstate
  · rw [checkState, Rose.label_map, hf]
  · intro c hc
    rw [Rose.children_map] at hc
    obtain ⟨d, -, rfl⟩ := List.mem_map.mp hc
    rw [checkState, Rose.label_map, hf]

/-- Under a checked item everything is checked, and under an unchecked one nothing.
Source: `src/gui/test_tree_widget.py` `TestTreeWidget._on_item_changed`
Kind: L -/
lemma checkState_below {item : TreeItem} {state : CheckState} (hstate : state ≠ .partiallyChecked)
    (hrolled : Rose.Everywhere RolledUp item) (hitem : checkState item = state) {p : List ℕ}
    {below : TreeItem} (hp : item.get? p = some below) : checkState below = state := by
  induction p generalizing item with
  | nil =>
      rw [Rose.get?_nil] at hp
      rwa [← Option.some.inj hp]
  | cons i p ih =>
      obtain ⟨here, children⟩ := (Rose.everywhere_iff RolledUp item).mp hrolled
      rw [Rose.get?_cons] at hp
      obtain ⟨c, hc, hp⟩ := Option.bind_eq_some_iff.mp hp
      have hmem : c ∈ item.children := List.mem_of_getElem? hc
      obtain ⟨hchecked, hunchecked, -⟩ := here (List.ne_nil_of_mem hmem)
      have hchild : checkState c = state := by
        cases state with
        | checked => exact hchecked.mp hitem c hmem
        | unchecked => exact hunchecked.mp hitem c hmem
        | partiallyChecked => exact absurd rfl hstate
      exact ih (children c hmem) hchild hp

/-! ## A click -/

/-- A click that changes an item sets it and everything under it, and refreshes the items above on the
way back.
Source: `src/gui/test_tree_widget.py` `TestTreeWidget._on_item_changed`
Kind: L -/
lemma toggle_eq_settle {tree : TestTree} {i : ℕ} {p : List ℕ} {state : CheckState} {item : TreeItem}
    (hitem : Rose.nodeAt tree (i :: p) = some item) (hchange : checkState item ≠ state)
    (hstate : state ≠ .partiallyChecked) :
    toggle (i :: p) state tree =
      tree.modify i (Rose.settle (Rose.map (Item.withCheckState state)) refresh p) := by
  have hset : Rose.nodeAt (Rose.modifyAt (setCheckState state) (i :: p) tree) (i :: p) =
      some (setCheckState state item) := by
    rw [Rose.nodeAt_modifyAt, hitem, Option.map_some]
  have hcascade : setDescendants state ∘ setCheckState state =
      Rose.map (Item.withCheckState state) := by
    funext t
    exact setDescendants_setCheckState state t
  unfold toggle onItemChanged
  rw [hitem]
  dsimp only
  rw [if_neg hchange, if_neg (not_not.mpr rfl), hset]
  dsimp only
  rw [checkState_setCheckState, if_pos hstate, Rose.modifyAt_modifyAt, hcascade]
  exact Rose.climb_modify _ _ i p tree

/-- A click on an item of a hierarchy of targets: it sets the item to checked or to unchecked.
Source: none: specification
Kind: D -/
structure Toggle (shape : List (Rose PyStr)) where
  item : List ℕ
  state : CheckState
  exists_item : (Rose.nodeAt shape item).isSome
  not_partial : state ≠ .partiallyChecked

/-- The widget after some clicks.
Source: none: specification
Kind: D -/
def afterToggles (shape : List (Rose PyStr)) (toggles : List (Toggle shape)) : TestTree :=
  toggles.foldl (fun tree t => toggle t.item t.state tree) (populate shape)

/-- What the most recent click on an item or above it set.
Source: none: specification
Kind: D -/
def mostRecent {shape : List (Rose PyStr)} (toggles : List (Toggle shape)) (item : List ℕ) :
    Option CheckState :=
  ((toggles.filter fun t => t.item <+: item).getLast?).map Toggle.state

variable {shape : List (Rose PyStr)}

/-- The most recent click is the last one, if it is at the item or above.
Source: none: infrastructure
Kind: L -/
lemma mostRecent_concat (toggles : List (Toggle shape)) (t : Toggle shape) (item : List ℕ) :
    mostRecent (toggles ++ [t]) item =
      if t.item <+: item then some t.state else mostRecent toggles item := by
  unfold mostRecent
  rw [List.filter_append, List.filter_singleton]
  by_cases h : t.item <+: item
  · rw [if_pos h, decide_eq_true h, cond_true, List.getLast?_concat, Option.map_some]
  · rw [if_neg h, decide_eq_false h, cond_false, List.append_nil]

/-! ## Any number of clicks -/

/-- What holds after any clicks: the tree is still the tree of its targets, every item fits its
children, and a leaf shows what was last set at it or above it.
Source: none: specification
Kind: D -/
structure Selected (toggles : List (Toggle shape)) (tree : TestTree) : Prop where
  shape_eq : tree.map (Rose.map Item.target) = shape
  rolledUp : Rose.Throughout RolledUp tree
  leaves : ∀ p leaf, Rose.nodeAt tree p = some leaf → leaf.children = [] →
    checkState leaf = (mostRecent toggles p).getD .unchecked

/-- The new widget, on which nothing was clicked.
Source: `src/gui/test_tree_widget.py` `TestTreeWidget._populate`
Kind: L -/
lemma selected_populate (shape : List (Rose PyStr)) :
    Selected ([] : List (Toggle shape)) (populate shape) := by
  refine ⟨?_, ?_, ?_⟩
  · unfold populate
    rw [List.map_map]
    have hid : ∀ t : Rose PyStr, (Rose.map Item.target ∘ Rose.map makeItem) t = t := by
      intro t
      exact (Rose.map_map Item.target makeItem t).trans (Rose.map_id t)
    exact (List.map_congr_left fun t _ => hid t).trans (List.map_id' shape)
  · refine (Rose.throughout_iff _ _).mpr ?_
    intro t ht
    obtain ⟨s, -, rfl⟩ := List.mem_map.mp ht
    exact everywhere_rolledUp_map (show CheckState.unchecked ≠ .partiallyChecked by decide) (fun _ => rfl) s
  · intro p leaf hp _
    unfold populate at hp
    rw [Rose.nodeAt_map] at hp
    obtain ⟨s, -, rfl⟩ := Option.map_eq_some_iff.mp hp
    rw [checkState, Rose.label_map]
    rfl

/-- The items of a tree are at the positions of its targets.
Source: none: infrastructure
Kind: L -/
lemma exists_item_of_shape {tree : TestTree} (hshape : tree.map (Rose.map Item.target) = shape)
    {p : List ℕ} (hp : (Rose.nodeAt shape p).isSome) : ∃ item, Rose.nodeAt tree p = some item := by
  rw [← hshape, Rose.nodeAt_map, Option.isSome_map] at hp
  exact Option.isSome_iff_exists.mp hp

/-- A click on an item that already shows the state changes nothing, and nothing has to change.
Source: Qt `QTreeWidgetItem.setCheckState`
Kind: L -/
lemma selected_toggle_same {toggles : List (Toggle shape)} {tree : TestTree}
    (h : Selected toggles tree) (t : Toggle shape) {item : TreeItem}
    (hitem : Rose.nodeAt tree t.item = some item) (hsame : checkState item = t.state) :
    Selected (toggles ++ [t]) tree := by
  refine ⟨h.shape_eq, h.rolledUp, ?_⟩
  intro p leaf hp hleaf
  rw [mostRecent_concat]
  by_cases habove : t.item <+: p
  · rw [if_pos habove, Option.getD_some]
    obtain ⟨q, rfl⟩ := habove
    rw [Rose.nodeAt_append hitem] at hp
    exact checkState_below t.not_partial (h.rolledUp.everywhere hitem) hsame hp
  · rw [if_neg habove]
    exact h.leaves p leaf hp hleaf

/-- A click that changes an item.
Source: `src/gui/test_tree_widget.py` `TestTreeWidget._on_item_changed`
Kind: L -/
lemma selected_settle {toggles : List (Toggle shape)} {tree : TestTree} (h : Selected toggles tree)
    (t : Toggle shape) {i : ℕ} {p : List ℕ} (hpos : t.item = i :: p) :
    Selected (toggles ++ [t])
      (tree.modify i (Rose.settle (Rose.map (Item.withCheckState t.state)) refresh p)) := by
  have hshape : (tree.modify i (Rose.settle (Rose.map (Item.withCheckState t.state)) refresh p)).map
      (Rose.map Item.target) = shape := by
    refine Eq.trans ?_ h.shape_eq
    apply Rose.map_modify_of_eq
    apply Rose.map_settle
    · exact fun item => Rose.map_map _ _ item
    · exact target_refresh
  refine ⟨hshape, ?_, ?_⟩
  · rw [Rose.throughout_iff]
    apply Rose.forall_mem_modify
    · intro item hrolled
      apply Rose.everywhere_settle _ children_refresh rolledUp_refresh hrolled
      exact everywhere_rolledUp_map t.not_partial fun _ => rfl
    · exact (Rose.throughout_iff _ _).mp h.rolledUp
  · intro q leaf hq hleaf
    rw [mostRecent_concat]
    by_cases habove : t.item <+: q
    · rw [if_pos habove, Option.getD_some]
      obtain ⟨r, rfl⟩ := habove
      rw [hpos, Rose.nodeAt_settle_append children_refresh] at hq
      obtain ⟨item, -, hbelow⟩ := Option.bind_eq_some_iff.mp hq
      rw [Rose.get?_map] at hbelow
      obtain ⟨s, -, rfl⟩ := Option.map_eq_some_iff.mp hbelow
      exact checkState_map t.state s
    · rw [if_neg habove]
      -- a leaf has nothing below it, so it is not above the clicked item
      have hnot : ¬ q <+: i :: p := by
        rintro ⟨r, hr⟩
        rcases r with _ | ⟨j, r⟩
        · apply habove
          have hsame : t.item = q := by rw [hpos, ← hr, List.append_nil]
          exact hsame ▸ List.prefix_rfl
        · obtain ⟨item, hitem⟩ := exists_item_of_shape hshape t.exists_item
          rw [hpos, ← hr, Rose.nodeAt_append hq, Rose.get?_cons, hleaf] at hitem
          cases hitem
      rw [Rose.nodeAt_settle_of_incomparable children_refresh (hpos ▸ habove) hnot] at hq
      exact h.leaves q leaf hq hleaf

/-- A click keeps what holds after the clicks before it.
Source: `src/gui/test_tree_widget.py` `TestTreeWidget._on_item_changed`
Kind: L -/
lemma selected_toggle {toggles : List (Toggle shape)} {tree : TestTree} (h : Selected toggles tree)
    (t : Toggle shape) : Selected (toggles ++ [t]) (toggle t.item t.state tree) := by
  obtain ⟨item, hitem⟩ := exists_item_of_shape h.shape_eq t.exists_item
  by_cases hsame : checkState item = t.state
  · have hnothing : toggle t.item t.state tree = tree := by
      unfold toggle
      rw [hitem]
      exact if_pos hsame
    rw [hnothing]
    exact selected_toggle_same h t hitem hsame
  · obtain ⟨i, p, hpos⟩ : ∃ i p, t.item = i :: p := by
      apply List.exists_cons_of_ne_nil
      intro hnil
      rw [hnil, Rose.nodeAt_nil] at hitem
      cases hitem
    have hdescent : toggle t.item t.state tree =
        tree.modify i (Rose.settle (Rose.map (Item.withCheckState t.state)) refresh p) := by
      rw [hpos] at hitem ⊢
      exact toggle_eq_settle hitem hsame t.not_partial
    rw [hdescent]
    exact selected_settle h t hpos

/-- **After any clicks, the tree shows them.**
Source: `src/gui/test_tree_widget.py` `TestTreeWidget._on_item_changed`
Kind: P -/
theorem selected_afterToggles (toggles : List (Toggle shape)) :
    Selected toggles (afterToggles shape toggles) := by
  induction toggles using List.reverseRecOn with
  | nil => exact selected_populate shape
  | append_singleton toggles t ih =>
      unfold afterToggles
      rw [List.foldl_concat]
      exact selected_toggle ih t

/-- A leaf is at or below a topmost checked item exactly if it is checked itself.
Source: `src/gui/test_tree_widget.py` `TestTreeWidget.checked_targets`
Kind: L -/
lemma covered_iff {tree : TestTree} (hrolled : Rose.Throughout RolledUp tree) {p : List ℕ}
    {leaf : TreeItem} (hp : Rose.nodeAt tree p = some leaf) :
    (∃ n ∈ coveringItems tree, n.1 <+: p) ↔ checkState leaf = .checked := by
  unfold coveringItems
  rw [Rose.exists_tops_prefix_iff]
  constructor
  · rintro ⟨q, item, ⟨r, rfl⟩, hq, hchecked⟩
    rw [Rose.nodeAt_append hq] at hp
    exact checkState_below (by decide) (hrolled.everywhere hq) (of_decide_eq_true hchecked) hp
  · intro hchecked
    exact ⟨p, leaf, List.prefix_rfl, hp, decide_eq_true hchecked⟩

/-- **The selection is what was clicked.** Over any hierarchy of targets and after any clicks:

* the tree is still the tree of its targets, and every item with children is checked, unchecked or
  partial as they are;
* the targets listed are those of the checked items without a checked ancestor, in pre-order and each
  once, and none of these items is under another;
* the leaves at or below these items are those for which the most recent click, on the leaf or above
  it, was a check.

Source: `src/gui/test_tree_widget.py` `TestTreeWidget._on_item_changed`, `checked_targets`
Kind: P -/
theorem selection_tree (shape : List (Rose PyStr)) (toggles : List (Toggle shape)) :
    let tree := afterToggles shape toggles
    tree.map (Rose.map Item.target) = shape ∧
    (∀ p item, Rose.nodeAt tree p = some item → RolledUp item) ∧
    checkedTargets tree = (coveringItems tree).map (fun n => n.2.label.target) ∧
    (coveringItems tree).Pairwise (fun m n => m.1 < n.1) ∧
    (∀ p item, (p, item) ∈ coveringItems tree ↔
      Rose.nodeAt tree p = some item ∧ checkState item = .checked ∧
        ∀ q above, q <+: p → q ≠ p → Rose.nodeAt tree q = some above →
          checkState above ≠ .checked) ∧
    (∀ m ∈ coveringItems tree, ∀ n ∈ coveringItems tree, m ≠ n → ¬ m.1 <+: n.1) ∧
    (∀ p leaf, Rose.nodeAt tree p = some leaf → leaf.children = [] →
      ((∃ n ∈ coveringItems tree, n.1 <+: p) ↔ mostRecent toggles p = some .checked)) := by
  intro tree
  have h : Selected toggles tree := selected_afterToggles toggles
  refine ⟨h.shape_eq, h.rolledUp, checkedTargets_eq tree, Rose.pairwise_lt_tops tree, ?_, ?_, ?_⟩
  · exact fun p item => mem_coveringItems
  · exact fun m hm n hn hne => Rose.not_prefix_of_mem_tops hm hn hne
  · intro p leaf hp hleaf
    rw [covered_iff h.rolledUp hp, h.leaves p leaf hp hleaf]
    rcases mostRecent toggles p with _ | state
    · simp
    · simp

/-- A module whose second file was unchecked again is run without that file. -/
example :
    checkedTargets (toggle [0, 1] .unchecked (toggle [0] .checked (populate
      [.node (text "ip") [.node (text "a") [.node (text "a1") []], .node (text "b") []]]))) =
    [text "a"] := by
  decide +kernel

end NetstackSuite.Gui
